import AgentsAssemble.Streaming.Readers
import AgentsAssemble.Streaming.Streams

/-!
# The browser accepts what the server sends

The browser checks again what the server has checked, by rules of its own.  What it may refuse is
a snapshot that lost all of its events, a number that it cannot represent, and what it is told to
start over from.
-/

namespace AgentsAssemble.Streaming

open Foundation Paging

/-! ## What the browser refuses -/

/-- Why a browser may refuse a frame whose other members are valid. -/
inductive Refusal (c : Client) : ServerFrame → Prop
  | refused : Refusal c .subscriptionNack
  | resync {latestSeq : Nat} (h : c.connectionEstablished = true) :
      Refusal c (.resyncRequired latestSeq)
  /-- The snapshot was halved until no event was left. -/
  | lost {snapshot : RoomSnapshot} (hevents : snapshot.events = [])
      (holdest : 0 < snapshot.oldestSeq) : Refusal c (.snapshot snapshot)
  | inexact {frame : ServerFrame} (h : maxSafeInteger < frame.highest) : Refusal c frame

/-- The browser processes the frames up to one that it may refuse, or reaches the goal. -/
def Tolerates (goal : Client → Prop) : List ServerFrame → Client → Prop
  | [], c => goal c
  | frame :: frames, c =>
      match c.processFrame true frame with
      | (c', false) => Tolerates goal frames c'
      | (c', true) => c' = c ∧ Refusal c frame

section Tolerates

variable {goal goal' : Client → Prop} {frame : ServerFrame} {frames more : List ServerFrame}
  {c c' : Client}

theorem tolerates_cons (h : c.processFrame true frame = (c', false)) :
    Tolerates goal (frame :: frames) c ↔ Tolerates goal frames c' := by
  rw [Tolerates, h]

theorem tolerates_refused (h : c.processFrame true frame = (c, true)) (hrefusal : Refusal c frame) :
    Tolerates goal (frame :: frames) c := by
  rw [Tolerates, h]
  exact ⟨rfl, hrefusal⟩

theorem tolerates_append :
    Tolerates goal (frames ++ more) c ↔ Tolerates (Tolerates goal more) frames c := by
  induction frames generalizing c with
  | nil => rfl
  | cons frame frames ih =>
      rw [List.cons_append, Tolerates, Tolerates]
      obtain ⟨next, failed⟩ := c.processFrame true frame
      cases failed with
      | false => exact ih
      | true => rfl

theorem Tolerates.mono (h : Tolerates goal frames c) (himp : ∀ c, goal c → goal' c) :
    Tolerates goal' frames c := by
  induction frames generalizing c with
  | nil => exact himp c h
  | cons frame frames ih =>
      rw [Tolerates] at h ⊢
      cases hprocess : c.processFrame true frame with
      | mk next failed =>
          rw [hprocess] at h
          cases failed with
          | false => exact ih h
          | true => exact h

/-- Nothing is asked of a browser whose connection ended. -/
theorem Tolerates.trim (h : Tolerates goal (frames ++ more) c) :
    Tolerates (fun _ => True) frames c :=
  (tolerates_append.mp h).mono fun _ _ => trivial

end Tolerates

/-! ## What the browser accepts -/

/-- The browser has the snapshot, and the catch-up up to a number. -/
structure Client.Subscribed (c : Client) (highWater lastSeq : Nat) : Prop where
  receipt : c.receipt.map Prod.snd = some highWater
  initialCatalog : c.initialCatalog = true
  requestsComplete : c.requestsComplete = true
  snapshotAccepted : c.snapshotAccepted = true
  cursor : c.lastSeq = lastSeq
  connectionEstablished : c.connectionEstablished = decide (lastSeq = highWater)

section Accepting

variable {c : Client} {snapshot : RoomSnapshot} {resumeFromSeq highWater lastSeq : Nat}

theorem contiguous_range' (start count : Nat) : contiguous (List.range' start count) = true := by
  cases count with
  | zero => rfl
  | succ count =>
      rw [List.range'_succ, contiguous_iff, List.length_range']

/-- A number that cannot be represented is not accepted. -/
theorem acceptEventFrame_inexact {events : List RoomEvent} {latestSeq : Nat} {establishing : Bool}
    (h : maxSafeInteger < latestSeq) :
    c.acceptEventFrame events latestSeq highWater establishing = none :=
  if_pos (decide_eq_false (Nat.not_le.mpr h))

/-- A snapshot that the server prepared passes, unless all of its events were lost or its numbers
are too large. -/
theorem Continues.valid (h : Continues resumeFromSeq snapshot)
    (hkept : snapshot.events = [] → snapshot.oldestSeq = 0)
    (hexact : snapshot.lastSeq ≤ maxSafeInteger) :
    snapshotSequenceIsValid snapshot resumeFromSeq = true := by
  have hwithin := h.within
  have hlater : snapshot.snapshotMode ≠ .initial → resumeFromSeq ≠ 0 := fun hmode hzero =>
    hmode (h.initial.mpr hzero)
  have holdest : snapshot.oldestSeq ≤ snapshot.lastSeq := by
    by_cases hevents : snapshot.events = []
    · rw [hkept hevents]
      exact Nat.zero_le _
    · have hpos := List.length_pos_of_ne_nil hevents
      rw [h.oldest hevents]
      omega
  unfold snapshotSequenceIsValid
  dsimp only
  rw [if_neg h.browser, if_neg, h.numbered, if_neg, if_neg]
  · cases hcount : snapshot.events.length with
    | zero =>
        have hevents := List.length_eq_zero_iff.mp hcount
        obtain ⟨hgap, hlast⟩ := h.empty hevents (hkept hevents)
        simp only [List.range'_zero, List.head?_nil, List.getLast?_nil, decide_eq_true_eq]
        refine ⟨hkept hevents, ?_⟩
        cases hmode : snapshot.snapshotMode with
        | initial => exact Or.inl ⟨rfl, hlast.trans (h.initial.mp hmode)⟩
        | resume => exact Or.inr ⟨rfl, hlast⟩
        | gap => exact absurd hmode hgap
        | bridge => exact absurd hmode h.browser
    | succ count =>
        have hevents : snapshot.events ≠ [] := fun hnil => by
          rw [hnil] at hcount
          cases hcount
        have holdest := h.oldest hevents
        rw [List.getLast?_range', List.range'_succ]
        rw [if_neg (Nat.succ_ne_zero _)]
        simp only [List.head?_cons, decide_eq_true_eq]
        refine ⟨by omega, by omega, fun hresume => ?_⟩
        have hrun := h.resume hresume
        omega
  · rw [contiguous_range']
    exact Bool.noConfusion
  · rw [Bool.not_eq_true, List.any_eq_false]
    intro seq hseq
    rw [List.mem_range'_1] at hseq
    have hsafe : isSequence seq = true := decide_eq_true (by omega)
    have hpos : decide (0 < seq) = true := decide_eq_true (by omega)
    rw [hsafe, hpos]
    exact Bool.noConfusion
  · rintro (hgap | ⟨hinitial, hne⟩ | ⟨hmode, hzero⟩ | hsafe | hsafe | hforward)
    · exact hgap h.gap
    · exact hne (h.initial.mp hinitial)
    · exact hlater hmode hzero
    · exact absurd (decide_eq_true (holdest.trans hexact)) (Bool.eq_false_iff.mp hsafe)
    · exact absurd (decide_eq_true hexact) (Bool.eq_false_iff.mp hsafe)
    · exact absurd h.forward (Nat.not_le.mpr hforward)

/-- One event behind the cursor is accepted. -/
theorem acceptEventFrame_next {event : RoomEvent} {establishing : Bool}
    (hevent : event.seq = c.lastSeq + 1) (hexact : c.lastSeq + 1 ≤ maxSafeInteger)
    (hhigh : establishing = true → c.lastSeq + 1 ≤ highWater) :
    c.acceptEventFrame [event] (c.lastSeq + 1) highWater establishing =
      some { c with
        lastSeq := c.lastSeq + 1
        timeline := c.timeline ++ [c.lastSeq + 1] } := by
  have hsafe : isSequence (c.lastSeq + 1) = true := decide_eq_true hexact
  have haccept : acceptEvents highWater establishing [c.lastSeq + 1] c.lastSeq =
      some (c.lastSeq + 1, [c.lastSeq + 1]) := by
    rw [acceptEvents, if_neg, if_neg, if_neg, if_neg, if_neg]
    · rfl
    · rintro ⟨hestablishing, hlt⟩
      exact absurd (hhigh hestablishing) (Nat.not_le.mpr hlt)
    · exact fun hne => hne rfl
    · omega
    · omega
    · rintro (hinexact | hzero)
      · rw [hsafe] at hinexact
        cases hinexact
      · omega
  unfold Client.acceptEventFrame
  rw [List.map_singleton, hevent, haccept, if_neg (by rw [hsafe]; exact Bool.noConfusion)]
  dsimp only
  rw [if_neg]
  simp

theorem takeSnapshot_subscribed (hreceipt : c.receipt = some (snapshot.lastSeq, highWater))
    (hcatalog : c.initialCatalog = true) (hrequests : c.requestsComplete = true)
    (hestablished : c.connectionEstablished = false) :
    (c.takeSnapshot snapshot).Subscribed highWater snapshot.lastSeq := by
  rw [Client.takeSnapshot, Client.markReady]
  by_cases hready : snapshot.lastSeq = highWater
  · rw [if_pos ⟨rfl, by rw [hreceipt, hready]; rfl⟩]
    exact ⟨by rw [hreceipt]; rfl, hcatalog, hrequests, rfl, rfl, (decide_eq_true hready).symm⟩
  · rw [if_neg]
    · exact ⟨by rw [hreceipt]; rfl, hcatalog, hrequests, rfl, rfl,
        hestablished.trans (decide_eq_false hready).symm⟩
    · rintro ⟨-, hsame⟩
      rw [hreceipt] at hsame
      exact hready (Option.some.inj hsame).symm

/-- The snapshot is taken, unless it lost its events or speaks of too large a number. -/
theorem snapshot_tolerated {goal : Client → Prop}
    (hreceipt : c.receipt = some (snapshot.lastSeq, highWater))
    (hcatalog : c.initialCatalog = true) (hrequests : c.requestsComplete = true)
    (haccepted : c.snapshotAccepted = false) (hsnapshot : Continues c.lastSeq snapshot)
    (hgoal : goal (c.takeSnapshot snapshot)) : Tolerates goal [.snapshot snapshot] c := by
  have hprocess : c.processFrame true (.snapshot snapshot) =
      if snapshotSequenceIsValid snapshot c.lastSeq = true then (c.takeSnapshot snapshot, false)
      else (c, true) := by
    rw [Client.processFrame_snapshot hreceipt hcatalog hrequests haccepted]
    simp only [Client.processSnapshot, true_and]
  by_cases hvalid : snapshotSequenceIsValid snapshot c.lastSeq = true
  · rw [if_pos hvalid] at hprocess
    exact (tolerates_cons hprocess).mpr hgoal
  · rw [if_neg hvalid] at hprocess
    refine tolerates_refused hprocess ?_
    by_cases hexact : snapshot.lastSeq ≤ maxSafeInteger
    · by_cases hevents : snapshot.events = []
      · refine .lost hevents (Nat.pos_of_ne_zero fun hzero => hvalid ?_)
        exact hsnapshot.valid (fun _ => hzero) hexact
      · exact absurd (hsnapshot.valid (fun hnil => absurd hnil hevents) hexact) hvalid
    · exact .inexact (Nat.not_le.mp hexact)

theorem requests_tolerated {goal : Client → Prop} {receipt : Nat × Nat}
    {frames : List ServerFrame} (hreceipt : c.receipt = some receipt)
    (hcatalog : c.initialCatalog = true) (hrequests : c.requestsComplete = false) (count : Nat)
    (h : Tolerates goal frames { c with requestsComplete := true }) :
    Tolerates goal (List.replicate count (.providerRequestSnapshot false) ++
      .providerRequestSnapshot true :: frames) c := by
  induction count with
  | zero =>
      exact (tolerates_cons
        (Client.processFrame_request hreceipt true hcatalog hrequests)).mpr h
  | succ count ih =>
      rw [List.replicate_succ, List.cons_append,
        tolerates_cons (Client.processFrame_request hreceipt false hcatalog hrequests)]
      have hsame : { c with requestsComplete := false } = c := by
        rw [← hrequests]
      rwa [hsame]

/-- A new connection accepts the frames before the catch-up. -/
theorem greeting_tolerated (requests : Nat) (hc : c.connect = c)
    (hcursor : c.lastSeq = resumeFromSeq) (hsnapshot : Continues resumeFromSeq snapshot)
    (hhigh : snapshot.lastSeq ≤ highWater) :
    Tolerates (fun c => c.Subscribed highWater snapshot.lastSeq)
      (Session.greeting snapshot highWater requests) c := by
  subst hcursor
  have hreceipt : c.receipt = none := (congrArg Client.receipt hc).symm
  have hcatalog : c.initialCatalog = false := (congrArg Client.initialCatalog hc).symm
  have hrequests : c.requestsComplete = false := (congrArg Client.requestsComplete hc).symm
  have haccepted : c.snapshotAccepted = false := (congrArg Client.snapshotAccepted hc).symm
  have hestablished : c.connectionEstablished = false :=
    (congrArg Client.connectionEstablished hc).symm
  have hprocess : c.processFrame true (.subscribed snapshot.lastSeq highWater) =
      if isSequence snapshot.lastSeq = true ∧ isSequence highWater = true ∧
          snapshot.lastSeq ≤ highWater then
        ({ c with receipt := some (snapshot.lastSeq, highWater) }, false)
      else (c, true) := by
    rw [Client.processFrame_receipt hreceipt]
    rfl
  by_cases hexact : highWater ≤ maxSafeInteger
  · have hsafe : isSequence highWater = true := decide_eq_true hexact
    have hsafe' : isSequence snapshot.lastSeq = true := decide_eq_true (hhigh.trans hexact)
    rw [if_pos ⟨hsafe', hsafe, hhigh⟩] at hprocess
    have hsubscribed : (Client.takeSnapshot snapshot { c with
        receipt := some (snapshot.lastSeq, highWater)
        initialCatalog := true
        requestsComplete := true }).Subscribed highWater snapshot.lastSeq :=
      takeSnapshot_subscribed rfl rfl rfl hestablished
    rw [Session.greeting, List.append_assoc]
    have hnext : Client.processFrame true .providerCatalogUpdated
        { c with receipt := some (snapshot.lastSeq, highWater) } =
          ({ c with
            receipt := some (snapshot.lastSeq, highWater)
            initialCatalog := true }, false) := Client.processFrame_catalog rfl hcatalog
    refine (tolerates_cons hprocess).mpr ((tolerates_cons hnext).mpr ?_)
    apply requests_tolerated
    · rfl
    · rfl
    · exact hrequests
    · exact snapshot_tolerated rfl rfl rfl haccepted hsnapshot hsubscribed
  · refine tolerates_refused ?_ (.inexact (Nat.not_le.mp hexact))
    rw [hprocess, if_neg]
    rintro ⟨-, hsafe, -⟩
    exact hexact (of_decide_eq_true hsafe)

/-- The next event of the catch-up is accepted. -/
theorem catchUp_tolerated {shown : RoomEvent} (hc : c.Subscribed highWater lastSeq)
    (hshown : shown.seq = lastSeq + 1) (hhigh : lastSeq + 1 ≤ highWater) :
    Tolerates (fun c => c.Subscribed highWater (lastSeq + 1)) [.event [shown] (lastSeq + 1)] c := by
  obtain ⟨hreceipt, hcatalog, hrequests, haccepted, rfl, hestablished⟩ := hc
  obtain ⟨receipt, hsome, hsecond⟩ := Option.map_eq_some_iff.mp hreceipt
  subst hsecond
  have hlater : c.connectionEstablished = false :=
    hestablished.trans (decide_eq_false (by omega))
  have hprocess : c.processFrame true (.event [shown] (c.lastSeq + 1)) =
      c.processCatchUp receipt.2 (.event [shown] (c.lastSeq + 1)) :=
    Client.processFrame_catchUp hsome hcatalog hrequests haccepted hlater
  unfold Client.processCatchUp at hprocess
  dsimp only at hprocess
  by_cases hexact : c.lastSeq + 1 ≤ maxSafeInteger
  · rw [acceptEventFrame_next hshown hexact fun _ => hhigh] at hprocess
    refine (tolerates_cons hprocess).mpr ?_
    rw [Client.markReady]
    by_cases hready : c.lastSeq + 1 = receipt.2
    · rw [if_pos ⟨haccepted, by rw [hreceipt, hready]⟩]
      exact ⟨hreceipt, hcatalog, hrequests, haccepted, rfl, (decide_eq_true hready).symm⟩
    · rw [if_neg]
      · exact ⟨hreceipt, hcatalog, hrequests, haccepted, rfl,
          hlater.trans (decide_eq_false hready).symm⟩
      · rintro ⟨-, hsame⟩
        rw [hreceipt] at hsame
        exact hready (Option.some.inj hsame).symm
  · refine tolerates_refused ?_ (.inexact (Nat.not_le.mp hexact))
    rw [hprocess, acceptEventFrame_inexact (Nat.not_le.mp hexact)]

/-- A browser that is ready, at a number. -/
structure Client.Ready (c : Client) (lastSeq : Nat) : Prop where
  subscribed : ∃ highWater, c.receipt.map Prod.snd = some highWater
  initialCatalog : c.initialCatalog = true
  requestsComplete : c.requestsComplete = true
  snapshotAccepted : c.snapshotAccepted = true
  cursor : c.lastSeq = lastSeq
  connectionEstablished : c.connectionEstablished = true

/-- A browser that has caught up is ready. -/
theorem Client.Subscribed.ready (hc : c.Subscribed highWater highWater) : c.Ready highWater where
  subscribed := ⟨_, hc.receipt⟩
  initialCatalog := hc.initialCatalog
  requestsComplete := hc.requestsComplete
  snapshotAccepted := hc.snapshotAccepted
  cursor := hc.cursor
  connectionEstablished := hc.connectionEstablished.trans (decide_eq_true rfl)

theorem Client.Ready.process (hc : c.Ready lastSeq) (frame : ServerFrame) :
    c.processFrame true frame = c.processEstablished frame := by
  obtain ⟨⟨highWater, hreceipt⟩, hcatalog, hrequests, haccepted, -, hestablished⟩ := hc
  obtain ⟨receipt, hsome, -⟩ := Option.map_eq_some_iff.mp hreceipt
  exact Client.processFrame_established hsome hcatalog hrequests haccepted hestablished

/-- A live event is accepted. -/
theorem event_tolerated {shown : RoomEvent} (hc : c.Ready lastSeq)
    (hshown : shown.seq = lastSeq + 1) :
    Tolerates (fun c => c.Ready (lastSeq + 1)) [.event [shown] (lastSeq + 1)] c := by
  have hprocess := hc.process (.event [shown] (lastSeq + 1))
  unfold Client.processEstablished at hprocess
  dsimp only at hprocess
  obtain ⟨hreceipt, hcatalog, hrequests, haccepted, rfl, hestablished⟩ := hc
  by_cases hexact : c.lastSeq + 1 ≤ maxSafeInteger
  · rw [acceptEventFrame_next hshown hexact Bool.noConfusion] at hprocess
    refine (tolerates_cons hprocess).mpr ?_
    exact ⟨hreceipt, hcatalog, hrequests, haccepted, rfl, hestablished⟩
  · refine tolerates_refused ?_ (.inexact (Nat.not_le.mp hexact))
    rw [hprocess, acceptEventFrame_inexact (Nat.not_le.mp hexact)]

end Accepting

/-! ## What a session may rely on -/

/-- Where the browser will be when it has processed all that was sent. -/
def Session.Awaits (resumeFromSeq : Nat) (s : Session) (c : Client) : Prop :=
  match s.stage with
  | .requested _ => c.connect = c ∧ c.lastSeq = resumeFromSeq
  | .registered _ => c.connect = c ∧ c.lastSeq = resumeFromSeq
  | .prepared _ _ => c.connect = c ∧ c.lastSeq = resumeFromSeq
  | .establishing _ _ highWater deliveredSeq => c.Subscribed highWater deliveredSeq
  | .live deliveredSeq => c.Ready deliveredSeq
  | .closed => True

/-- The frames that the session has still to send before its catch-up. -/
def Session.pending (s : Session) : List ServerFrame :=
  match s.stage with
  | .establishing frames _ _ _ => frames
  | _ => []

/-- The browser processes what is on its way to it, and what is to be sent before the catch-up. -/
def Agrees (resumeFromSeq : Nat) (s : Session) (frames : List ServerFrame) (c : Client) : Prop :=
  Tolerates (s.Awaits resumeFromSeq) (frames ++ s.pending) c

section Agreement

variable {resumeFromSeq : Nat} {s : Session} {frames more : List ServerFrame} {c : Client}

/-- What is sent next is processed where what was sent before has been. -/
theorem Agrees.send {out : Session} (h : Agrees resumeFromSeq s frames c)
    (hpending : s.pending = []) (hnext : ∀ c, s.Awaits resumeFromSeq c →
      Tolerates (out.Awaits resumeFromSeq) (more ++ out.pending) c) :
    Agrees resumeFromSeq out (frames ++ more) c := by
  rw [Agrees, hpending, List.append_nil] at h
  rw [Agrees, List.append_assoc]
  exact tolerates_append.mpr (h.mono hnext)

/-- Nothing is asked of the browser when the session is over. -/
theorem Agrees.close (h : Agrees resumeFromSeq s frames c) :
    Agrees resumeFromSeq s.close frames c := by
  show Tolerates _ (frames ++ []) c
  rw [List.append_nil]
  exact Tolerates.trim h

/-- A new connection is told that there will be none. -/
theorem nack_tolerated (hc : c.connect = c) :
    Tolerates (fun _ => True) [.subscriptionNack] c := by
  have hreceipt : c.receipt = none := (congrArg Client.receipt hc).symm
  exact tolerates_refused (Client.processFrame_receipt hreceipt) .refused

/-- Every step of a session agrees with the browser. -/
theorem Advances.agrees {count : Nat} {out : Session × List ServerFrame}
    (hstep : Advances count s out) {sent : List ServerFrame} (hsends : s.Sends resumeFromSeq sent)
    (h : Agrees resumeFromSeq s frames c) :
    Agrees resumeFromSeq out.1 (frames ++ out.2) c := by
  cases hstep with
  | idle => rwa [List.append_nil]
  | close =>
      rw [List.append_nil]
      exact h.close
  | register => exact h.send rfl fun c hc => hc
  | unfit => exact h.send rfl fun c hc => nack_tolerated hc.1
  | prepare => exact h.send rfl fun c hc => hc
  | refuse => exact h.send rfl fun c hc => nack_tolerated hc.1
  | loadCatchUp requests hhigh =>
      exact h.send rfl fun c hc => greeting_tolerated requests hc.1 hc.2 hsends.2.1 hhigh
  | @greet _ _ _ frame pending _ =>
      have h : Tolerates _ (frames ++ frame :: pending) c := h
      show Tolerates _ (frames ++ [frame] ++ pending) c
      rwa [List.append_assoc, List.singleton_append]
  | catchUp hshown hwithin => exact h.send rfl fun c hc => catchUp_tolerated hc hshown hwithin
  | established => exact h.send rfl fun c hc => Client.Subscribed.ready hc
  | pass => exact h.send rfl fun c hc => hc
  | deliver hshown => exact h.send rfl fun c hc => event_tolerated hc hshown
  | deliverLast hshown =>
      exact h.send rfl fun c hc => (event_tolerated hc hshown).mono fun _ _ => trivial
  | lag latestSeq =>
      refine h.send rfl fun c hc => ?_
      have hc : c.Ready _ := hc
      exact tolerates_refused (hc.process _) (.resync hc.connectionEstablished)
  | answer catalog =>
      refine h.send rfl fun c hc => ?_
      have hready : c.Ready _ := hc
      cases catalog with
      | true => exact (tolerates_cons (hready.process _)).mpr hc
      | false => exact (tolerates_cons (hready.process _)).mpr hc

end Agreement

end AgentsAssemble.Streaming
