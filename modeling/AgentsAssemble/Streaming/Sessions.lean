import AgentsAssemble.Streaming.Snapshots

/-!
# The sessions of a room socket

The server's side of one connection.  It registers a live receiver, reads a snapshot, catches up
with what was committed since, and then sends what the receiver delivers.  What the receiver
delivers again is passed over; a gap, or a receiver that fell behind, ends the session.
-/

namespace AgentsAssemble.Streaming

open Foundation Paging

def snapshotLimit : Nat := 200

def maxSubscriptionCatchUpEvents : Nat := 256

/-- The frames of the socket.  Acknowledgements, pongs and the frames of the side chat are
`other`. -/
inductive ServerFrame
  | subscribed (snapshotCursor catchupHighWater : Nat)
  | providerCatalogUpdated
  | providerRequestSnapshot (last : Bool)
  | snapshot (snapshot : RoomSnapshot)
  | event (events : List RoomEvent) (latestSeq : Nat)
  | resyncRequired (latestSeq : Nat)
  | subscriptionNack
  | other

/-- Where the session of a connection is. -/
inductive Stage
  | requested (resumeFromSeq : Nat)
  /-- The live receiver is registered. -/
  | registered (resumeFromSeq : Nat)
  | prepared (resumeFromSeq : Nat) (snapshot : RoomSnapshot)
  /-- The frames before the catch-up, and the events of it that are still to be sent. -/
  | establishing (frames : List ServerFrame) (catchUp : List RoomEvent)
      (highWater deliveredSeq : Nat)
  | live (deliveredSeq : Nat)
  | closed

/-- A session; `next` is the place of its receiver in what is sent over the live channel. -/
structure Session where
  stage : Stage
  next : Nat

namespace Session

def close (s : Session) : Session :=
  { s with stage := .closed }

/-- The receiver is registered before the snapshot is read. -/
def subscribe (p : Publication) (s : Session) : Session × List ServerFrame :=
  match s.stage with
  | .requested resumeFromSeq => ({ stage := .registered resumeFromSeq, next := p.sent.length }, [])
  | _ => (s, [])

/-- `read_subscription_snapshot`, with the frame that fits. -/
def prepare (p : Publication) (metadata : SnapshotMetadata) (projection : Projection)
    (s : Session) : Session × List ServerFrame :=
  match s.stage with
  | .registered resumeFromSeq =>
      match snapshotInner p.log resumeFromSeq snapshotLimit with
      | .error (.invalidCursor durableLastSeq) => (s.close, [.resyncRequired durableLastSeq])
      | .ok data =>
          match fitSnapshotFrame (prepareSnapshot metadata (project projection data)) with
          | some snapshot => ({ s with stage := .prepared resumeFromSeq snapshot }, [])
          | none => (s.close, [.subscriptionNack])
  | _ => (s, [])

/-- The frames before the catch-up. -/
def greeting (snapshot : RoomSnapshot) (highWater requests : Nat) : List ServerFrame :=
  [.subscribed snapshot.lastSeq highWater, .providerCatalogUpdated] ++
    List.replicate requests (.providerRequestSnapshot false) ++
      [.providerRequestSnapshot true, .snapshot snapshot]

def loadCatchUp (p : Publication) (requests : Nat) (s : Session) : Session × List ServerFrame :=
  match s.stage with
  | .prepared _ snapshot =>
      match roomSubscriptionCatchUp p.log snapshot.lastSeq maxSubscriptionCatchUpEvents with
      | .error _ => (s.close, [.subscriptionNack])
      | .ok catchUp =>
          ({ s with
            stage := .establishing (greeting snapshot catchUp.highWater requests) catchUp.events
              catchUp.highWater snapshot.lastSeq }, [])
  | _ => (s, [])

/-- The next frame of `establish`. -/
def sendNext (projection : Projection) (s : Session) : Session × List ServerFrame :=
  match s.stage with
  | .establishing (frame :: frames) catchUp highWater deliveredSeq =>
      ({ s with stage := .establishing frames catchUp highWater deliveredSeq }, [frame])
  | .establishing [] (event :: catchUp) highWater deliveredSeq =>
      if event.seq ≠ deliveredSeq + 1 then (s.close, [])
      else
        ({ s with stage := .establishing [] catchUp highWater event.seq },
          [.event [projection.view event] event.seq])
  | .establishing [] [] highWater deliveredSeq =>
      if deliveredSeq ≠ highWater then (s.close, [])
      else ({ s with stage := .live deliveredSeq }, [])
  | _ => (s, [])

/-- The receiver delivers.  `terminal` tells that the event ends the room for its observer, and
`readable` that the latest number can be read for a resync. -/
def receive (p : Publication) (projection : Projection) (terminal readable : Bool) (s : Session) :
    Session × List ServerFrame :=
  match s.stage with
  | .live deliveredSeq =>
      match p.sent[s.next]? with
      | none => (s, [])
      | some event =>
          if event.seq ≤ deliveredSeq then ({ s with next := s.next + 1 }, [])
          else if event.seq ≠ deliveredSeq + 1 then
            (s.close, [.resyncRequired (if readable then p.log.lastSeq else deliveredSeq)])
          else
            let frame := .event [projection.view event] event.seq
            if terminal then (s.close, [frame])
            else ({ stage := .live event.seq, next := s.next + 1 }, [frame])
  | _ => (s, [])

/-- The receiver fell behind the channel. -/
def lag (p : Publication) (readable : Bool) (s : Session) : Session × List ServerFrame :=
  match s.stage with
  | .live _ => (s.close, [.resyncRequired (if readable then p.log.lastSeq else 0)])
  | _ => (s, [])

/-- A frame that is not of the room stream. -/
def answer (catalog : Bool) (s : Session) : Session × List ServerFrame :=
  match s.stage with
  | .live _ => (s, [if catalog then .providerCatalogUpdated else .other])
  | _ => (s, [])

end Session

/-- What the server does on one connection, and the frames that it sends. -/
inductive Serves (p : Publication) : Session → Session × List ServerFrame → Prop
  | subscribe {s : Session} : Serves p s (s.subscribe p)
  | prepare {s : Session} (metadata : SnapshotMetadata) (projection : Projection) :
      Serves p s (s.prepare p metadata projection)
  | loadCatchUp {s : Session} (requests : Nat) : Serves p s (s.loadCatchUp p requests)
  | sendNext {s : Session} (projection : Projection) : Serves p s (s.sendNext projection)
  | receive {s : Session} (projection : Projection) (terminal readable : Bool) :
      Serves p s (s.receive p projection terminal readable)
  | lag {s : Session} (readable : Bool) : Serves p s (s.lag p readable)
  | answer {s : Session} (catalog : Bool) : Serves p s (s.answer catalog)
  /-- The authorization ended, the connection broke or a deadline passed. -/
  | close {s : Session} : Serves p s (s.close, [])

/-! ## What a session has still to send -/

/-- The numbers that a receiver has not delivered. -/
def undelivered (p : Publication) (next : Nat) : List Nat :=
  (p.sent.drop next).map RoomEvent.seq

/-- A receiver follows what is published, from the number that its session has reached. -/
structure Receives (p : Publication) (next reached : Nat) : Prop where
  place : next ≤ p.sent.length
  follows : Cursors.Follows reached (undelivered p next) p.offered
  within : reached ≤ p.log.events.length

/-- The catch-up is what is between the number that was sent and the high water. -/
structure CatchesUp (log : RoomLog) (catchUp : List RoomEvent) (highWater deliveredSeq : Nat) :
    Prop where
  numbered : catchUp.map RoomEvent.seq = List.range' (deliveredSeq + 1) catchUp.length
  whole : deliveredSeq + catchUp.length = highWater
  within : highWater ≤ log.events.length

/-- A stage never promises what the log does not have, and nothing between the snapshot and the
live events can be missed. -/
def Session.Sound (p : Publication) (s : Session) : Prop :=
  match s.stage with
  | .requested resumeFromSeq => resumeFromSeq ≤ p.log.events.length
  | .registered resumeFromSeq =>
      resumeFromSeq ≤ p.log.events.length ∧ s.next ≤ p.sent.length
  | .prepared resumeFromSeq snapshot =>
      Continues resumeFromSeq snapshot ∧ Receives p s.next snapshot.lastSeq
  | .establishing _ catchUp highWater deliveredSeq =>
      CatchesUp p.log catchUp highWater deliveredSeq ∧ Receives p s.next deliveredSeq
  | .live deliveredSeq => Receives p s.next deliveredSeq
  | .closed => True

section Publishing

variable {p q : Publication} {s : Session}

/-- What is published meanwhile is still to be delivered. -/
theorem Receives.publish {next reached : Nat} (h : Receives p next reached) (hp : p.Sound)
    (hstep : Publishes p q) (hgrows : p.log.events.length ≤ q.log.events.length) :
    Receives q next reached := by
  obtain ⟨hplace, hfollows, hwithin⟩ := h
  rcases hp.offers hstep with ⟨hsent, hoffered⟩ | ⟨event, hsent, hseq, hoffered⟩
  · refine ⟨by rw [hsent]; exact hplace, ?_, hwithin.trans hgrows⟩
    rw [undelivered, hsent]
    exact hfollows.fallBack hoffered
  · refine ⟨by rw [hsent, List.length_append]; omega, ?_, hwithin.trans hgrows⟩
    rw [undelivered, hsent, List.drop_append_of_le_length hplace, List.map_append, hoffered,
      List.map_singleton, hseq]
    exact hfollows.offer

theorem Publishes.grows (h : Publishes p q) : p.log.events.length ≤ q.log.events.length := by
  have hload : p.load.log = p.log := by
    rcases p.load_eq with ⟨hload, -⟩ | hload <;> rw [hload]
  have hdrain : p.drain.log = p.log := by
    obtain ⟨log, publishedSeq, sent, owner⟩ := p
    cases owner with
    | idle => exact hload
    | draining pending =>
        cases pending with
        | nil => exact hload
        | cons event pending => rfl
    | acknowledging event pending =>
        unfold Publication.drain
        dsimp only
        cases acknowledgeRoomPublication publishedSeq event.seq <;> rfl
  cases h with
  | commit hgrows => exact hgrows.2
  | drain => rw [hdrain]
  | fail => exact le_refl _
  | unanswered =>
      show p.log.events.length ≤ p.drain.log.events.length
      rw [hdrain]

theorem Session.Sound.publish (h : s.Sound p) (hp : p.Sound) (hstep : Publishes p q) :
    s.Sound q := by
  have hgrows := hstep.grows
  have hsent : p.sent.length ≤ q.sent.length := by
    rcases hp.offers hstep with ⟨hsent, -⟩ | ⟨event, hsent, -⟩
    · rw [hsent]
    · rw [hsent, List.length_append]
      omega
  obtain ⟨stage, next⟩ := s
  cases stage with
  | requested resumeFromSeq => exact le_trans h hgrows
  | registered resumeFromSeq => exact ⟨h.1.trans hgrows, h.2.trans hsent⟩
  | prepared resumeFromSeq snapshot => exact ⟨h.1, h.2.publish hp hstep hgrows⟩
  | establishing frames catchUp highWater deliveredSeq =>
      exact ⟨⟨h.1.numbered, h.1.whole, h.1.within.trans hgrows⟩, h.2.publish hp hstep hgrows⟩
  | live deliveredSeq => exact Receives.publish h hp hstep hgrows
  | closed => trivial

end Publishing

/-! ## What a session does -/

/-- The steps of a session, without the conditions that never hold: each event that is sent is the
one after the last. -/
inductive Advances (count : Nat) : Session → Session × List ServerFrame → Prop
  | idle {s : Session} : Advances count s (s, [])
  | close {s : Session} : Advances count s (s.close, [])
  | register {resumeFromSeq next next' : Nat} :
      Advances count ⟨.requested resumeFromSeq, next⟩ (⟨.registered resumeFromSeq, next'⟩, [])
  | unfit {resumeFromSeq next : Nat} :
      Advances count ⟨.registered resumeFromSeq, next⟩ (⟨.closed, next⟩, [.subscriptionNack])
  | prepare {resumeFromSeq next : Nat} {snapshot : RoomSnapshot}
      (h : Continues resumeFromSeq snapshot) :
      Advances count ⟨.registered resumeFromSeq, next⟩
        (⟨.prepared resumeFromSeq snapshot, next⟩, [])
  | refuse {resumeFromSeq next : Nat} {snapshot : RoomSnapshot} :
      Advances count ⟨.prepared resumeFromSeq snapshot, next⟩ (⟨.closed, next⟩, [.subscriptionNack])
  | loadCatchUp {resumeFromSeq next highWater : Nat} {snapshot : RoomSnapshot}
      {catchUp : List RoomEvent} (requests : Nat) (h : snapshot.lastSeq ≤ highWater) :
      Advances count ⟨.prepared resumeFromSeq snapshot, next⟩
        (⟨.establishing (Session.greeting snapshot highWater requests) catchUp highWater
          snapshot.lastSeq, next⟩, [])
  | greet {next highWater deliveredSeq : Nat} {frame : ServerFrame} {frames : List ServerFrame}
      {catchUp : List RoomEvent} :
      Advances count ⟨.establishing (frame :: frames) catchUp highWater deliveredSeq, next⟩
        (⟨.establishing frames catchUp highWater deliveredSeq, next⟩, [frame])
  | catchUp {next highWater deliveredSeq : Nat} {event shown : RoomEvent}
      {catchUp : List RoomEvent} (h : shown.seq = deliveredSeq + 1)
      (hwithin : deliveredSeq + 1 ≤ highWater) :
      Advances count ⟨.establishing [] (event :: catchUp) highWater deliveredSeq, next⟩
        (⟨.establishing [] catchUp highWater (deliveredSeq + 1), next⟩,
          [.event [shown] (deliveredSeq + 1)])
  | established {next highWater : Nat} :
      Advances count ⟨.establishing [] [] highWater highWater, next⟩ (⟨.live highWater, next⟩, [])
  | pass {next next' deliveredSeq : Nat} :
      Advances count ⟨.live deliveredSeq, next⟩ (⟨.live deliveredSeq, next'⟩, [])
  | deliver {next next' deliveredSeq : Nat} {shown : RoomEvent}
      (h : shown.seq = deliveredSeq + 1) :
      Advances count ⟨.live deliveredSeq, next⟩
        (⟨.live (deliveredSeq + 1), next'⟩, [.event [shown] (deliveredSeq + 1)])
  | deliverLast {next deliveredSeq : Nat} {shown : RoomEvent} (h : shown.seq = deliveredSeq + 1)
      (hwithin : deliveredSeq + 1 ≤ count) :
      Advances count ⟨.live deliveredSeq, next⟩
        (⟨.closed, next⟩, [.event [shown] (deliveredSeq + 1)])
  | lag {next deliveredSeq : Nat} (latestSeq : Nat) :
      Advances count ⟨.live deliveredSeq, next⟩ (⟨.closed, next⟩, [.resyncRequired latestSeq])
  | answer {next deliveredSeq : Nat} (catalog : Bool) :
      Advances count ⟨.live deliveredSeq, next⟩
        (⟨.live deliveredSeq, next⟩, [if catalog then .providerCatalogUpdated else .other])

section Serving

variable {p : Publication} {s : Session} {resumeFromSeq next : Nat}

/-- The snapshot of a cursor within the log is prepared, unless it does not fit at all. -/
theorem prepare_registered (hp : p.Sound) (metadata : SnapshotMetadata) (projection : Projection)
    (h : Session.Sound p ⟨.registered resumeFromSeq, next⟩) :
    Advances p.log.events.length ⟨.registered resumeFromSeq, next⟩
        (Session.prepare p metadata projection ⟨.registered resumeFromSeq, next⟩) ∧
      (Session.prepare p metadata projection ⟨.registered resumeFromSeq, next⟩).1.Sound p := by
  obtain ⟨hresume, hplace⟩ := h
  obtain ⟨data, hdata⟩ : ∃ data, snapshotInner p.log resumeFromSeq snapshotLimit = .ok data :=
    snapshotInner_isOk hresume
  unfold Session.prepare
  dsimp only
  rw [hdata]
  dsimp only
  cases hfit : fitSnapshotFrame (prepareSnapshot metadata (project projection data)) with
  | none => exact ⟨.unfit, trivial⟩
  | some snapshot =>
      have hlimit : 1 ≤ snapshotLimit := by decide
      obtain ⟨hcontinues, hlast⟩ := continues_prepared metadata projection hlimit
        hresume hdata
      obtain ⟨hsnapshot, hsame⟩ := hcontinues.fit hfit
      have hcursor : snapshot.lastSeq = p.log.events.length := hsame.trans hlast
      refine ⟨.prepare hsnapshot, hsnapshot, hplace, ?_, hcursor.le⟩
      -- whatever was sent since the receiver was registered is in the snapshot
      rw [hcursor]
      refine Cursors.Follows.start (fun n hn => ?_) hp.offered_le
      obtain ⟨event, hevent, rfl⟩ := List.mem_map.mp hn
      exact hp.sent event (List.mem_of_mem_drop hevent)

/-- The catch-up goes on where the snapshot ends. -/
theorem loadCatchUp_prepared {snapshot : RoomSnapshot} (requests : Nat)
    (h : Session.Sound p ⟨.prepared resumeFromSeq snapshot, next⟩) :
    Advances p.log.events.length ⟨.prepared resumeFromSeq snapshot, next⟩
        (Session.loadCatchUp p requests ⟨.prepared resumeFromSeq snapshot, next⟩) ∧
      (Session.loadCatchUp p requests ⟨.prepared resumeFromSeq snapshot, next⟩).1.Sound p := by
  obtain ⟨-, hreceives⟩ := h
  have hwithin := hreceives.within
  have hlimit : 1 ≤ maxSubscriptionCatchUpEvents := by decide
  unfold Session.loadCatchUp
  dsimp only
  rw [roomSubscriptionCatchUp_eq hwithin hlimit]
  by_cases hmany : maxSubscriptionCatchUpEvents < p.log.events.length - snapshot.lastSeq
  · rw [if_pos hmany]
    exact ⟨.refuse, trivial⟩
  · rw [if_neg hmany]
    have hnumbered := seq_events_window p.log snapshot.lastSeq p.log.events.length
    rw [List.take_of_length_le (by rw [List.length_drop]; omega)] at hnumbered
    have hwhole : snapshot.lastSeq + (p.log.events.drop snapshot.lastSeq).length =
        p.log.events.length := by
      rw [List.length_drop]
      omega
    exact ⟨.loadCatchUp requests hwithin, ⟨hnumbered, hwhole, le_refl _⟩, hreceives⟩

/-- The next event of the catch-up is the next event, and the catch-up ends at its high water. -/
theorem sendNext_establishing {frames : List ServerFrame} {catchUp : List RoomEvent}
    {highWater deliveredSeq : Nat} (projection : Projection)
    (h : Session.Sound p ⟨.establishing frames catchUp highWater deliveredSeq, next⟩) :
    Advances p.log.events.length ⟨.establishing frames catchUp highWater deliveredSeq, next⟩
        (Session.sendNext projection ⟨.establishing frames catchUp highWater deliveredSeq, next⟩) ∧
      (Session.sendNext projection
        ⟨.establishing frames catchUp highWater deliveredSeq, next⟩).1.Sound p := by
  obtain ⟨⟨hnumbered, hwhole, hwithin⟩, hreceives⟩ := h
  cases frames with
  | cons frame frames => exact ⟨.greet, ⟨hnumbered, hwhole, hwithin⟩, hreceives⟩
  | nil =>
      cases catchUp with
      | nil =>
          have hdone : deliveredSeq = highWater := hwhole
          subst hdone
          simp only [Session.sendNext]
          rw [if_neg (fun hne => hne rfl)]
          exact ⟨.established, hreceives⟩
      | cons event catchUp =>
          rw [List.map_cons, List.length_cons, List.range'_succ] at hnumbered
          obtain ⟨hseq, hrest⟩ := List.cons.inj hnumbered
          rw [List.length_cons] at hwhole
          simp only [Session.sendNext, hseq]
          rw [if_neg (fun hne => hne rfl)]
          have hshown : (projection.view event).seq = deliveredSeq + 1 :=
            (projection.seq_view event).trans hseq
          exact ⟨.catchUp hshown (by omega), ⟨hrest, by omega, hwithin⟩, hreceives.place,
            hreceives.follows.advance (Nat.le_succ _), by omega⟩

/-- A live receiver delivers nothing, what was sent, or the next event. -/
theorem receive_live {deliveredSeq : Nat} (hp : p.Sound) (projection : Projection)
    (terminal readable : Bool) (h : Session.Sound p ⟨.live deliveredSeq, next⟩) :
    Advances p.log.events.length ⟨.live deliveredSeq, next⟩
        (Session.receive p projection terminal readable ⟨.live deliveredSeq, next⟩) ∧
      (Session.receive p projection terminal readable ⟨.live deliveredSeq, next⟩).1.Sound p := by
  cases hnext : p.sent[next]? with
  | none =>
      simp only [Session.receive, hnext]
      exact ⟨.idle, h⟩
  | some event =>
      obtain ⟨hplace, hfollows, hwithin⟩ := h
      obtain ⟨hlt, hevent⟩ := List.getElem?_eq_some_iff.mp hnext
      have hdrop : undelivered p next = event.seq :: undelivered p (next + 1) := by
        rw [undelivered, List.drop_eq_getElem_cons hlt, hevent]
        rfl
      change Cursors.Follows deliveredSeq (undelivered p next) p.offered at hfollows
      rw [hdrop] at hfollows
      have hread := hfollows.read
      simp only [Session.receive, hnext]
      by_cases hold : event.seq ≤ deliveredSeq
      · rw [max_eq_left hold] at hread
        rw [if_pos hold]
        exact ⟨.pass, hlt, hread, hwithin⟩
      · have hle := hfollows.next_le
        have hseq : event.seq = deliveredSeq + 1 := by omega
        have hshown : (projection.view event).seq = deliveredSeq + 1 :=
          (projection.seq_view event).trans hseq
        rw [if_neg hold, if_neg (fun hne => hne hseq), hseq]
        have hcommitted : event.seq ≤ p.log.events.length :=
          hp.sent event (hevent ▸ List.getElem_mem hlt)
        rw [hseq] at hcommitted
        cases terminal with
        | true => exact ⟨.deliverLast hshown hcommitted, trivial⟩
        | false =>
            rw [hseq, max_eq_right (Nat.le_succ _)] at hread
            exact ⟨.deliver hshown, hlt, hread, hcommitted⟩

/-- What the server does on a connection is a step of the session. -/
theorem Serves.advances (hp : p.Sound) (h : s.Sound p) {out : Session × List ServerFrame}
    (hserves : Serves p s out) : Advances p.log.events.length s out ∧ out.1.Sound p := by
  cases hserves with
  | close => exact ⟨.close, trivial⟩
  | subscribe =>
      obtain ⟨stage, next⟩ := s
      cases stage with
      | requested resumeFromSeq => exact ⟨.register, h, le_refl _⟩
      | _ => exact ⟨.idle, h⟩
  | prepare metadata projection =>
      obtain ⟨stage, next⟩ := s
      cases stage with
      | registered resumeFromSeq => exact prepare_registered hp metadata projection h
      | _ => exact ⟨.idle, h⟩
  | loadCatchUp requests =>
      obtain ⟨stage, next⟩ := s
      cases stage with
      | prepared resumeFromSeq snapshot => exact loadCatchUp_prepared requests h
      | _ => exact ⟨.idle, h⟩
  | sendNext projection =>
      obtain ⟨stage, next⟩ := s
      cases stage with
      | establishing frames catchUp highWater deliveredSeq =>
          exact sendNext_establishing projection h
      | _ => exact ⟨.idle, h⟩
  | receive projection terminal readable =>
      obtain ⟨stage, next⟩ := s
      cases stage with
      | live deliveredSeq => exact receive_live hp projection terminal readable h
      | _ => exact ⟨.idle, h⟩
  | lag readable =>
      obtain ⟨stage, next⟩ := s
      cases stage with
      | live deliveredSeq => exact ⟨.lag _, trivial⟩
      | _ => exact ⟨.idle, h⟩
  | answer catalog =>
      obtain ⟨stage, next⟩ := s
      cases stage with
      | live deliveredSeq => exact ⟨.answer catalog, h⟩
      | _ => exact ⟨.idle, h⟩

end Serving

end AgentsAssemble.Streaming
