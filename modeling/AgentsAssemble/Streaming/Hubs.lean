import AgentsAssemble.Foundation.Transition
import AgentsAssemble.Streaming.Agreement

/-!
# A room and its subscribers

One log with its publication, and any number of browsers that subscribe, lose their connections
and subscribe again, in any interleaving with commits, with a publication that fails and is tried
again, and with restarts of the process.
-/

namespace AgentsAssemble.Streaming

open Foundation Paging

/-- A browser and its connection: what the server sent over it, and how many of these frames the
browser has processed. -/
structure Line where
  session : Session
  resumeFromSeq : Nat
  frames : List ServerFrame
  taken : Nat
  client : Client

/-- A browser that has not connected. -/
def Line.new : Line :=
  { session := ⟨.closed, 0⟩, resumeFromSeq := 0, frames := [], taken := 0, client := .new }

/-- The server ends the connection; the browser may still process what was sent. -/
def Line.close (l : Line) : Line :=
  { l with session := l.session.close }

/-- The browser ends the connection. -/
def Line.disconnect (l : Line) : Line :=
  { l with session := l.session.close, taken := l.frames.length }

inductive LineStep (p : Publication) : Line → Line → Prop
  | connect {l : Line} : LineStep p l
      { session := ⟨.requested l.client.resumeFromSeq, 0⟩
        resumeFromSeq := l.client.resumeFromSeq
        frames := []
        taken := 0
        client := l.client.connect }
  | serve {l : Line} {out : Session × List ServerFrame} (h : Serves p l.session out) :
      LineStep p l { l with session := out.1, frames := l.frames ++ out.2 }
  | take {l : Line} {frame : ServerFrame} {client : Client} (valid : Bool)
      (hframe : l.frames[l.taken]? = some frame)
      (h : l.client.processFrame valid frame = (client, false)) :
      LineStep p l { l with taken := l.taken + 1, client }
  /-- The browser throws, and closes the connection. -/
  | fail {l : Line} {frame : ServerFrame} {client : Client} (valid : Bool)
      (hframe : l.frames[l.taken]? = some frame)
      (h : l.client.processFrame valid frame = (client, true)) :
      LineStep p l { l.disconnect with client }
  | disconnect {l : Line} : LineStep p l l.disconnect

structure Hub (ι : Type) where
  publication : Publication
  lines : ι → Line

variable {ι : Type} [DecidableEq ι]

/-- The label is the browser that takes part in the step, if there is one. -/
inductive Step : Option ι → Hub ι → Hub ι → Prop
  | publish {hub : Hub ι} {p : Publication} (h : Publishes hub.publication p) :
      Step none hub { hub with publication := p }
  | restart {hub : Hub ι} : Step none hub
      { publication := hub.publication.restart, lines := fun i => (hub.lines i).close }
  | line {hub : Hub ι} (i : ι) {l : Line} (h : LineStep hub.publication (hub.lines i) l) :
      Step (some i) hub { hub with lines := Function.update hub.lines i l }

/-- A new room, before anyone has connected. -/
def Initial (hub : Hub ι) : Prop :=
  hub.publication.publishedSeq = 0 ∧ hub.publication.sent = [] ∧
    hub.publication.owner = .idle ∧ hub.lines = fun _ => .new

/-! ## One connection -/

/-- The session keeps its place in the log, the browser agrees with what it was sent, and shows
one run of events. -/
structure Line.Sound (p : Publication) (l : Line) : Prop where
  session : l.session.Sound p
  sends : l.session.Sends l.resumeFromSeq l.frames
  taken : l.taken ≤ l.frames.length
  agrees : Agrees l.resumeFromSeq l.session (l.frames.drop l.taken) l.client
  numbers : ∀ frame ∈ l.frames ++ l.session.pending, frame.highest ≤ p.log.events.length
  shows : l.client.Shows
  cursor : l.client.lastSeq ≤ p.log.events.length
  resumes : l.client.freshSnapshotRequested = false

/-- The frames of a session speak of numbers of the log. -/
theorem Advances.numbers {p : Publication} {s : Session} {out : Session × List ServerFrame}
    (hstep : Advances p.log.events.length s out) (hs : s.Sound p) (hout : out.1.Sound p)
    (h : ∀ frame ∈ s.pending, frame.highest ≤ p.log.events.length) :
    ∀ frame ∈ out.2 ++ out.1.pending, frame.highest ≤ p.log.events.length := by
  have hone : ∀ {frame : ServerFrame}, frame.highest ≤ p.log.events.length →
      ∀ same ∈ [frame], same.highest ≤ p.log.events.length := by
    intro frame hframe same hsame
    rw [List.mem_singleton.mp hsame]
    exact hframe
  cases hstep with
  | idle => exact h
  | close => exact fun _ hmem => absurd hmem List.not_mem_nil
  | register => exact h
  | unfit => exact hone (Nat.zero_le _)
  | prepare => exact h
  | refuse => exact hone (Nat.zero_le _)
  | @loadCatchUp _ _ highWater snapshot _ requests _ =>
      obtain ⟨hcatchUp, hreceives⟩ := hout
      intro frame hframe
      have hmem : frame = .subscribed snapshot.lastSeq highWater ∨
          frame = .providerCatalogUpdated ∨ frame = .providerRequestSnapshot false ∨
            frame = .providerRequestSnapshot true ∨ frame = .snapshot snapshot := by
        have hframe : frame ∈ Session.greeting snapshot highWater requests := hframe
        simp only [Session.greeting, List.mem_append, List.mem_cons, List.not_mem_nil, or_false,
          List.mem_replicate] at hframe
        tauto
      rcases hmem with rfl | rfl | rfl | rfl | rfl
      · exact hcatchUp.within
      · exact Nat.zero_le _
      · exact Nat.zero_le _
      · exact Nat.zero_le _
      · exact hreceives.within
  | greet => exact h
  | catchUp => exact hone hout.2.within
  | established => exact h
  | pass => exact h
  | deliver => exact hone (Receives.within hout)
  | deliverLast _ hwithin => exact hone hwithin
  | lag => exact hone (Nat.zero_le _)
  | answer catalog =>
      cases catalog with
      | true => exact hone (Nat.zero_le _)
      | false => exact hone (Nat.zero_le _)

section Lines

variable {p q : Publication} {l m : Line}

/-- An ended connection has nothing more to send, whatever is published. -/
theorem Line.Sound.close (h : l.Sound p) (hgrows : p.log.events.length ≤ q.log.events.length) :
    l.close.Sound q where
  session := trivial
  sends := h.sends.stream
  taken := h.taken
  agrees := h.agrees.close
  numbers frame hframe := by
    have hframe : frame ∈ l.frames ++ [] := hframe
    rw [List.append_nil] at hframe
    exact (h.numbers frame (List.mem_append_left _ hframe)).trans hgrows
  shows := h.shows
  cursor := h.cursor.trans hgrows
  resumes := h.resumes

theorem Line.Sound.disconnect (h : l.Sound p) {client : Client} (hshows : client.Shows)
    (hcursor : client.lastSeq ≤ p.log.events.length)
    (hresumes : client.freshSnapshotRequested = false) :
    ({ l.disconnect with client } : Line).Sound p where
  session := trivial
  sends := h.sends.stream
  taken := le_refl _
  agrees := by
    show Tolerates _ (l.frames.drop l.frames.length ++ []) client
    rw [List.drop_length]
    trivial
  numbers := (h.close (le_refl _)).numbers
  shows := hshows
  cursor := hcursor
  resumes := hresumes

/-- A browser that may refuse a frame is left as it was. -/
theorem Line.Sound.refusal (h : l.Sound p) {frame : ServerFrame} {client : Client}
    (hframe : l.frames[l.taken]? = some frame)
    (hprocess : l.client.processFrame true frame = (client, true)) :
    client = l.client ∧ Refusal l.client frame := by
  obtain ⟨hlt, rfl⟩ := List.getElem?_eq_some_iff.mp hframe
  have hagrees := h.agrees
  rw [Agrees, List.drop_eq_getElem_cons hlt, List.cons_append, Tolerates, hprocess] at hagrees
  exact hagrees

theorem Line.Sound.accept (h : l.Sound p) {frame : ServerFrame} {client : Client}
    (hframe : l.frames[l.taken]? = some frame)
    (hprocess : l.client.processFrame true frame = (client, false)) :
    Agrees l.resumeFromSeq l.session (l.frames.drop (l.taken + 1)) client := by
  obtain ⟨hlt, rfl⟩ := List.getElem?_eq_some_iff.mp hframe
  have hagrees := h.agrees
  rw [Agrees, List.drop_eq_getElem_cons hlt, List.cons_append, Tolerates, hprocess] at hagrees
  exact hagrees

/-- Every step of a connection keeps it sound. -/
theorem Line.Sound.step (hp : p.Sound) (h : l.Sound p) (hstep : LineStep p l m) : m.Sound p := by
  cases hstep with
  | connect =>
      have hresume : l.client.resumeFromSeq = l.client.lastSeq := by
        rw [Client.resumeFromSeq, h.resumes]
        rfl
      exact
        { session := hresume ▸ h.cursor
          sends := ⟨rfl, .nil⟩
          taken := le_refl _
          agrees := ⟨rfl, hresume.symm⟩
          numbers := fun _ hmem => absurd hmem List.not_mem_nil
          shows := h.shows
          cursor := h.cursor
          resumes := h.resumes }
  | @serve out hserves =>
      obtain ⟨hadvances, hsession⟩ := hserves.advances hp h.session
      have hpending : ∀ frame ∈ l.session.pending, frame.highest ≤ p.log.events.length :=
        fun frame hframe => h.numbers frame (List.mem_append_right _ hframe)
      have hnumbers := hadvances.numbers h.session hsession hpending
      refine
        { session := hsession
          sends := hadvances.sends h.sends
          taken := ?_
          agrees := ?_
          numbers := fun frame hframe => ?_
          shows := h.shows
          cursor := h.cursor
          resumes := h.resumes }
      · show l.taken ≤ (l.frames ++ out.2).length
        rw [List.length_append]
        exact h.taken.trans (Nat.le_add_right _ _)
      · show Agrees _ _ ((l.frames ++ out.2).drop l.taken) _
        rw [List.drop_append_of_le_length h.taken]
        exact hadvances.agrees h.sends h.agrees
      · have hframe : frame ∈ l.frames ++ out.2 ++ out.1.pending := hframe
        rw [List.append_assoc] at hframe
        rcases List.mem_append.mp hframe with hframe | hframe
        · exact h.numbers frame (List.mem_append_left _ hframe)
        · exact hnumbers frame hframe
  | @take frame client valid hframe hprocess =>
      obtain ⟨hlt, hget⟩ := List.getElem?_eq_some_iff.mp hframe
      have hvalid : valid = true := by
        by_contra hinvalid
        rw [Bool.not_eq_true] at hinvalid
        rw [hinvalid, Client.processFrame_invalid] at hprocess
        cases hprocess
      subst hvalid
      have hnumber : frame.highest ≤ p.log.events.length :=
        h.numbers frame (List.mem_append_left _ (hget ▸ List.getElem_mem hlt))
      have hclient : client = (l.client.processFrame true frame).1 := by rw [hprocess]
      have haccepted : (l.client.processFrame true frame).2 = false := by rw [hprocess]
      exact
        { session := h.session
          sends := h.sends
          taken := hlt
          agrees := h.accept hframe hprocess
          numbers := h.numbers
          shows := hclient ▸ h.shows.processFrame
          cursor := hclient ▸ Client.processFrame_within hnumber h.cursor
          resumes := hclient ▸ Client.processFrame_resumes haccepted h.resumes }
  | @fail frame client valid hframe hprocess =>
      have hsame : client = l.client := by
        cases valid with
        | true => exact (h.refusal hframe hprocess).1
        | false =>
            rw [Client.processFrame_invalid] at hprocess
            exact (Prod.mk.inj hprocess).1.symm
      subst hsame
      exact h.disconnect h.shows h.cursor h.resumes
  | disconnect => exact h.disconnect h.shows h.cursor h.resumes

/-- What is published leaves a connection sound. -/
theorem Line.Sound.publish (hp : p.Sound) (h : l.Sound p) (hstep : Publishes p q) : l.Sound q where
  session := h.session.publish hp hstep
  sends := h.sends
  taken := h.taken
  agrees := h.agrees
  numbers frame hframe := (h.numbers frame hframe).trans hstep.grows
  shows := h.shows
  cursor := h.cursor.trans hstep.grows
  resumes := h.resumes

end Lines

/-! ## Every interleaving -/

structure Hub.Sound (hub : Hub ι) : Prop where
  publication : hub.publication.Sound
  lines : ∀ i, (hub.lines i).Sound hub.publication

section Runs

variable {hub hub' : Hub ι}

omit [DecidableEq ι] in
theorem Initial.sound (h : Initial hub) : hub.Sound := by
  obtain ⟨hpublished, hsent, howner, hlines⟩ := h
  refine ⟨⟨?_, ?_, ?_, ?_⟩, fun i => ?_⟩
  · rw [hpublished]
    exact Nat.zero_le _
  · rw [hsent]
    exact fun _ hmem => absurd hmem List.not_mem_nil
  · rw [howner]
    rfl
  · rw [howner, hpublished]
    exact Nat.zero_le _
  · rw [hlines]
    exact
      { session := trivial
        sends := ⟨_, .nil⟩
        taken := le_refl _
        agrees := trivial
        numbers := fun _ hmem => absurd hmem List.not_mem_nil
        shows := ⟨0, 0, rfl, rfl⟩
        cursor := Nat.zero_le _
        resumes := rfl }

theorem Hub.Sound.step (h : hub.Sound) {label : Option ι} (hstep : Step label hub hub') :
    hub'.Sound := by
  cases hstep with
  | publish hpublishes =>
      exact ⟨h.publication.step hpublishes, fun i => (h.lines i).publish h.publication hpublishes⟩
  | restart => exact ⟨h.publication.restart, fun i => (h.lines i).close (le_refl _)⟩
  | line i hline =>
      refine ⟨h.publication, fun j => ?_⟩
      by_cases hj : j = i
      · subst hj
        show (Function.update hub.lines j _ j).Sound _
        rw [Function.update_self]
        exact (h.lines j).step h.publication hline
      · show (Function.update hub.lines i _ j).Sound _
        rw [Function.update_of_ne hj]
        exact h.lines j

theorem sound_of_reachable (h : Reachable Initial Step hub) : hub.Sound :=
  Reachable.invariant (I := Hub.Sound) (fun _ => Initial.sound)
    (fun _ _ _ h hstep => h.step hstep) h

end Runs

/-! ## A sample run

A browser subscribes to a room with one event while the owner publishes that event. -/

namespace HubSample

def shown : RoomEvent :=
  { roomId := "lobby", seq := 1, members := [member "seq" (.natural 1)] }

def log : RoomLog where
  roomId := "lobby"
  rows := [⟨1, shown⟩]
  numbered := rfl
  bounded := by decide
  stored := by simp [shown]

def metadata : SnapshotMetadata :=
  { room := .object [member "room_id" (text "lobby")]
    roomSettings := .object []
    participants := .array []
    agentSessions := .array []
    capabilities := .object [] }

def everything : Projection := ⟨id, fun _ => rfl⟩

def snapshotData : RoomSnapshotData :=
  { events := [shown]
    oldestSeq := 1
    lastSeq := 1
    hasMoreBefore := false
    resumeGap := false
    snapshotMode := .initial }

def snapshot : RoomSnapshot :=
  prepareSnapshot metadata snapshotData

def publication (publishedSeq : Nat) (sent : List RoomEvent) (owner : Owner) : Publication :=
  { log, publishedSeq, sent, owner }

def hub (p : Publication) (l : Line) : Hub Unit :=
  { publication := p, lines := fun _ => l }

def frames : List ServerFrame :=
  [.subscribed 1 1, .providerCatalogUpdated, .providerRequestSnapshot true, .snapshot snapshot]

/-- A connection of the browser before it has processed a frame. -/
def line (stage : Stage) (next : Nat) (frames : List ServerFrame) : Line :=
  { session := ⟨stage, next⟩, resumeFromSeq := 0, frames, taken := 0, client := .new }

/-- The browser at the end. -/
def current : Line :=
  { session := ⟨.live 1, 1⟩
    resumeFromSeq := 0
    frames
    taken := 4
    client :=
      { lastSeq := 1
        freshSnapshotRequested := false
        receipt := some (1, 1)
        initialCatalog := true
        requestsComplete := true
        snapshotAccepted := true
        connectionEstablished := true
        timeline := [1] } }

section Steps

variable {p q : Publication} {l m : Line}

theorem publish (h : Reachable Initial Step (hub p l)) (hstep : Publishes p q) :
    Reachable Initial Step (hub q l) :=
  h.step (Step.publish hstep)

theorem connection (h : Reachable Initial Step (hub p l)) (hstep : LineStep p l m) :
    Reachable Initial Step (hub p m) := by
  have hnext := h.step (Step.line () hstep)
  have hsame : Function.update (hub p l).lines () m = fun _ => m := by
    funext i
    exact Function.update_self ..
  rwa [hsame] at hnext

theorem serve (h : Reachable Initial Step (hub p l)) {out : Session × List ServerFrame}
    (hstep : Serves p l.session out) :
    Reachable Initial Step (hub p { l with session := out.1, frames := l.frames ++ out.2 }) :=
  connection h (.serve hstep)

theorem take (h : Reachable Initial Step (hub p l)) {frame : ServerFrame} {client : Client}
    (hframe : l.frames[l.taken]? = some frame)
    (hprocess : l.client.processFrame true frame = (client, false)) :
    Reachable Initial Step (hub p { l with taken := l.taken + 1, client }) :=
  connection h (.take true hframe hprocess)

end Steps

theorem prepare_eq : Session.prepare (publication 0 [] .idle) metadata everything
    ⟨.registered 0, 0⟩ = (⟨.prepared 0 snapshot, 0⟩, []) := by
  have hfit : fitSnapshotFrame snapshot = some snapshot := by
    rw [fitSnapshotFrame, if_pos (by decide +kernel)]
  have hread : snapshotInner log ((0 : Nat) : Int) snapshotLimit = .ok snapshotData := rfl
  have hsent : prepareSnapshot metadata (project everything snapshotData) = snapshot := rfl
  unfold Session.prepare publication
  dsimp only
  rw [hread]
  dsimp only
  rw [hsent, hfit]

/-- The receiver is registered before the event is published, and the snapshot has the event. -/
theorem prepared : Reachable Initial Step
    (hub (publication 0 [] .idle) (line (.prepared 0 snapshot) 0 [])) := by
  have hstart : Reachable Initial Step (hub (publication 0 [] .idle) .new) :=
    ⟨_, [], ⟨rfl, rfl, rfl, rfl⟩, .nil _⟩
  have hrequested : Reachable Initial Step
      (hub (publication 0 [] .idle) (line (.requested 0) 0 [])) := connection hstart .connect
  have hregistered : Reachable Initial Step
      (hub (publication 0 [] .idle) (line (.registered 0) 0 [])) := serve hrequested .subscribe
  have hprepared := serve hregistered (.prepare metadata everything)
  have hsession : (line (.registered 0) 0 []).session = ⟨.registered 0, 0⟩ := rfl
  rw [hsession, prepare_eq] at hprepared
  exact hprepared

/-- The event is published, and the session passes over it. -/
theorem live : Reachable Initial Step
    (hub (publication 1 [shown] (.draining [])) (line (.live 1) 1 frames)) := by
  have hloaded : Reachable Initial Step
      (hub (publication 0 [] (.draining [shown])) (line (.prepared 0 snapshot) 0 [])) :=
    publish prepared .drain
  have hsent : Reachable Initial Step
      (hub (publication 0 [shown] (.acknowledging shown [])) (line (.prepared 0 snapshot) 0 [])) :=
    publish hloaded .drain
  have hpublished : Reachable Initial Step
      (hub (publication 1 [shown] (.draining [])) (line (.prepared 0 snapshot) 0 [])) :=
    publish hsent .drain
  have hcaughtUp : Reachable Initial Step (hub (publication 1 [shown] (.draining []))
      (line (.establishing frames [] 1 1) 0 [])) := serve hpublished (.loadCatchUp 0)
  have hgreeted := serve (serve (serve (serve hcaughtUp (.sendNext everything))
    (.sendNext everything)) (.sendNext everything)) (.sendNext everything)
  have hlive : Reachable Initial Step (hub (publication 1 [shown] (.draining []))
      (line (.live 1) 0 frames)) := serve hgreeted (.sendNext everything)
  exact serve hlive (.receive everything false true)

theorem current_reachable : Reachable Initial Step
    (hub (publication 1 [shown] (.draining [])) current) :=
  take (take (take (take live rfl rfl) rfl rfl) rfl rfl) rfl rfl

/-- The receiver lags after the browser is ready, and the session ends the subscription. -/
def lagged : Line :=
  { current with session := ⟨.closed, 1⟩, frames := frames ++ [.resyncRequired 1] }

theorem lagged_reachable : Reachable Initial Step
    (hub (publication 1 [shown] (.draining [])) lagged) :=
  serve current_reachable (.lag true)

end HubSample

section Runs

variable {hub : Hub ι}

/-- In every interleaving of commits, publications that fail and are tried again, restarts, lags
and catch-ups, each connection carries its events without a gap, and no live receiver ever finds
one. -/
theorem frames_are_gapless (h : Reachable Initial Step hub) (i : ι) :
    Gapless (hub.lines i).resumeFromSeq (hub.lines i).frames ∧
      ∀ deliveredSeq next, (hub.lines i).session = ⟨.live deliveredSeq, next⟩ →
        ∀ event, hub.publication.sent[next]? = some event → event.seq ≤ deliveredSeq + 1 := by
  have hsound := sound_of_reachable h
  have hline := hsound.lines i
  obtain ⟨progress, hstream⟩ := hline.sends.stream
  refine ⟨hstream.reads.gapless, fun deliveredSeq next hlive event hnext => ?_⟩
  have hsession := hline.session
  rw [hlive] at hsession
  obtain ⟨hplace, hfollows, -⟩ := hsession
  obtain ⟨hlt, rfl⟩ := List.getElem?_eq_some_iff.mp hnext
  change Cursors.Follows deliveredSeq (undelivered hub.publication next) _ at hfollows
  rw [undelivered, List.drop_eq_getElem_cons hlt] at hfollows
  exact hfollows.next_le

open HubSample in
theorem sample_frames_gapless :
    Gapless 0 frames ∧ ∀ deliveredSeq next, current.session = ⟨.live deliveredSeq, next⟩ →
      ∀ event, [shown][next]? = some event → event.seq ≤ deliveredSeq + 1 :=
  frames_are_gapless current_reachable ()

/-- When the owner has published the log, and a live connection has delivered and its browser
processed what was sent, the browser is ready and shows the log up to its newest event. -/
theorem browser_is_current (h : Reachable Initial Step hub) (i : ι) {deliveredSeq : Nat}
    (hlive : (hub.lines i).session = ⟨.live deliveredSeq, hub.publication.sent.length⟩)
    (hpublished : hub.publication.publishedSeq = hub.publication.log.events.length)
    (htaken : (hub.lines i).taken = (hub.lines i).frames.length) :
    (hub.lines i).client.connectionEstablished = true ∧
      (hub.lines i).client.lastSeq = hub.publication.log.events.length ∧
      ∃ first ≤ hub.publication.log.events.length, (hub.lines i).client.timeline =
        List.range' (first + 1) (hub.publication.log.events.length - first) := by
  have hsound := sound_of_reachable h
  have hline := hsound.lines i
  have hsession := hline.session
  have hagrees := hline.agrees
  rw [hlive] at hsession
  rw [hlive, htaken, List.drop_length] at hagrees
  have hready : (hub.lines i).client.Ready deliveredSeq := hagrees
  obtain ⟨-, hfollows, hwithin⟩ := hsession
  change Cursors.Follows deliveredSeq (undelivered hub.publication _) _ at hfollows
  rw [undelivered, List.drop_length] at hfollows
  have hoffered := hfollows.offered_le
  have hpublishedLe := hub.publication.publishedSeq_le_offered
  have hcursor : (hub.lines i).client.lastSeq = hub.publication.log.events.length := by
    rw [hready.cursor]
    exact le_antisymm hwithin (hpublished ▸ hpublishedLe.trans hoffered)
  obtain ⟨first, count, htimeline, hlast⟩ := hline.shows
  refine ⟨hready.connectionEstablished, hcursor, first, by omega, ?_⟩
  rw [htimeline]
  congr 1
  omega

open HubSample in
theorem sample_browser_current : current.client.connectionEstablished = true ∧
    current.client.lastSeq = 1 ∧
      ∃ first ≤ 1, current.client.timeline = List.range' (first + 1) (1 - first) :=
  browser_is_current current_reachable () rfl rfl rfl

/-- A browser never resumes ahead of the log, and refuses no frame whose other members are valid,
but one that ends the subscription, a snapshot that lost all of its events, or one that speaks of a
number it cannot represent. -/
theorem browser_refuses_only (h : Reachable Initial Step hub) (i : ι) :
    (hub.lines i).client.resumeFromSeq ≤ hub.publication.log.events.length ∧
      ∀ frame client, (hub.lines i).frames[(hub.lines i).taken]? = some frame →
        (hub.lines i).client.processFrame true frame = (client, true) →
          client = (hub.lines i).client ∧ Refusal (hub.lines i).client frame := by
  have hline := (sound_of_reachable h).lines i
  refine ⟨?_, fun frame client hframe hprocess => hline.refusal hframe hprocess⟩
  rw [Client.resumeFromSeq, hline.resumes]
  exact hline.cursor

open HubSample in
theorem sample_browser_agrees : current.client.resumeFromSeq ≤ 1 ∧
    Refusal current.client (.resyncRequired 1) :=
  have h := browser_refuses_only lagged_reachable ()
  ⟨h.1, (h.2 (.resyncRequired 1) current.client rfl rfl).2⟩

end Runs

end AgentsAssemble.Streaming
