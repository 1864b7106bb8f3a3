import AgentsAssemble.Paging.Windows
import AgentsAssemble.Foundation.Cursors

/-!
# Publishing the events of a room

The owner of a room reads the events after the publication cursor, offers each to the live
receivers and moves the cursor behind it.  Where a statement fails it starts over at the cursor,
and what it had offered but not acknowledged is offered again.
-/

namespace AgentsAssemble.Streaming

open Foundation Paging

/-! ## Reading the log -/

/-- The events of rows that count up without a gap; `gap` is the error of one. -/
def countUp {ε : Type} (gap : Nat → Nat → ε) (roomId : String) :
    List StoredEvent → Nat → Except ε (List RoomEvent)
  | [], _ => .ok []
  | row :: rows, expected =>
      if row.seq ≠ expected ∨ row.event.seq ≠ row.seq ∨ row.event.roomId ≠ roomId then
        .error (gap expected row.seq)
      else do
        let events ← countUp gap roomId rows (expected + 1)
        pure (row.event :: events)

def publicationBatchSize : Nat := 128

inductive PublicationError
  | stateInvalid
  deriving DecidableEq, Repr

/-- The next events after the publication cursor. -/
def pendingRoomPublications (log : RoomLog) (publishedSeq : Nat) :
    Except PublicationError (List RoomEvent) :=
  let rows := (log.rows.filter fun row => (publishedSeq : Int) < (row.seq : Int)).take
    publicationBatchSize
  countUp (fun _ _ => .stateInvalid) log.roomId rows (publishedSeq + 1)

/-- The cursor behind an event that was offered. -/
def acknowledgeRoomPublication (publishedSeq eventSeq : Nat) : Except PublicationError Nat :=
  if eventSeq = 0 then .error .stateInvalid
  else if publishedSeq = eventSeq - 1 then .ok eventSeq
  else .error .stateInvalid

/-! ## The owner of a room -/

/-- Where the owner is in `drain_room_publications`. -/
inductive Owner
  | idle
  | draining (pending : List RoomEvent)
  | acknowledging (event : RoomEvent) (pending : List RoomEvent)

/-- The durable log with its publication cursor, and what went over the live channel. -/
structure Publication where
  log : RoomLog
  publishedSeq : Nat
  sent : List RoomEvent
  owner : Owner

/-- Events are added and the documents of events are rewritten, but none is taken away. -/
def Grows (log log' : RoomLog) : Prop :=
  log'.roomId = log.roomId ∧ log.events.length ≤ log'.events.length

namespace Publication

/-- The owner reads the next batch. -/
def load (p : Publication) : Publication :=
  match pendingRoomPublications p.log p.publishedSeq with
  | .ok (event :: pending) => { p with owner := .draining (event :: pending) }
  | .ok [] => { p with owner := .idle }
  | .error _ => { p with owner := .idle }

/-- The next statement of the owner. -/
def drain (p : Publication) : Publication :=
  match p.owner with
  | .idle => p.load
  | .draining [] => p.load
  | .draining (event :: pending) =>
      { p with sent := p.sent ++ [event], owner := .acknowledging event pending }
  | .acknowledging event pending =>
      match acknowledgeRoomPublication p.publishedSeq event.seq with
      | .ok publishedSeq => { p with publishedSeq, owner := .draining pending }
      | .error _ => { p with owner := .idle }

/-- The process starts again: nothing was sent over its channels. -/
def restart (p : Publication) : Publication :=
  { p with sent := [], owner := .idle }

end Publication

/-- What happens to the log and its publication while the process lives. -/
inductive Publishes : Publication → Publication → Prop
  | commit {p : Publication} {log : RoomLog} (h : Grows p.log log) : Publishes p { p with log }
  | drain {p : Publication} : Publishes p p.drain
  /-- A statement fails; the owner is woken again. -/
  | fail {p : Publication} : Publishes p { p with owner := .idle }
  /-- A statement is done, but its answer is an error. -/
  | unanswered {p : Publication} {event : RoomEvent} {pending : List RoomEvent}
      (h : p.owner = .acknowledging event pending) : Publishes p { p.drain with owner := .idle }

/-! ## What the owner reads -/

section Reading

variable {ε : Type} {gap : Nat → Nat → ε} {roomId : String} {rows : List StoredEvent}
  {log : RoomLog}

theorem countUp_eq_ok {start : Nat}
    (h : rows.map StoredEvent.seq = List.range' (start + 1) rows.length)
    (hstored : ∀ row ∈ rows, row.event.seq = row.seq ∧ row.event.roomId = roomId) :
    countUp gap roomId rows (start + 1) = .ok (rows.map StoredEvent.event) := by
  induction rows generalizing start with
  | nil => rfl
  | cons row rows ih =>
      rw [List.map_cons, List.length_cons, List.range'_succ] at h
      obtain ⟨hseq, hrest⟩ := List.cons.inj h
      obtain ⟨heventSeq, hroom⟩ := hstored row List.mem_cons_self
      have hread : countUp gap roomId rows (start + 1 + 1) = .ok (rows.map StoredEvent.event) :=
        ih hrest fun row hrow => hstored row (List.mem_cons_of_mem _ hrow)
      rw [countUp, if_neg, hread]
      · rfl
      · rintro (hwrong | hwrong | hwrong)
        · exact hwrong hseq
        · exact hwrong heventSeq
        · exact hwrong hroom

/-- The rows of a window are numbered, and are those of the log. -/
theorem seq_rows_window (cursor count : Nat) :
    ((log.rows.drop cursor).take count).map StoredEvent.seq =
      List.range' (cursor + 1) ((log.rows.drop cursor).take count).length := by
  refine List.ext_getElem (by simp) fun i hi _ => ?_
  have hdrop : i < ((log.rows.drop cursor).take count).length := by simpa using hi
  have hi' : cursor + i < log.rows.length := by
    rw [List.length_take, List.length_drop] at hdrop
    omega
  rw [List.getElem_map, List.getElem_take, List.getElem_drop, seq_getElem log.numbered hi',
    List.getElem_range']
  omega

/-- A part of the log counts up. -/
theorem countUp_window (cursor count : Nat) :
    countUp gap log.roomId ((log.rows.drop cursor).take count) (cursor + 1) =
      .ok ((log.events.drop cursor).take count) := by
  rw [countUp_eq_ok (seq_rows_window cursor count) fun row hrow => log.stored row
    (List.mem_of_mem_drop (List.mem_of_mem_take hrow))]
  rw [RoomLog.events, List.map_take, List.map_drop]

theorem pendingRoomPublications_eq (publishedSeq : Nat) :
    pendingRoomPublications log publishedSeq =
      .ok ((log.events.drop publishedSeq).take publicationBatchSize) := by
  rw [pendingRoomPublications, filter_after log.numbered]
  exact countUp_window publishedSeq publicationBatchSize

/-- A part of the log, numbered. -/
theorem seq_events_window (log : RoomLog) (cursor count : Nat) :
    ((log.events.drop cursor).take count).map RoomEvent.seq =
      List.range' (cursor + 1) ((log.events.drop cursor).take count).length := by
  refine List.ext_getElem (by simp) fun i hi _ => ?_
  have hdrop : i < ((log.events.drop cursor).take count).length := by simpa using hi
  have hi' : cursor + i < log.events.length := by
    rw [List.length_take, List.length_drop] at hdrop
    omega
  rw [List.getElem_map, List.getElem_take, List.getElem_drop, RoomLog.seq_event hi',
    List.getElem_range']
  omega

end Reading

/-! ## The owner keeps its place -/

/-- What the owner has still to acknowledge. -/
def Owner.upcoming : Owner → List RoomEvent
  | .idle => []
  | .draining pending => pending
  | .acknowledging event pending => event :: pending

/-- How many events have been offered, in this process or one before it. -/
def Publication.offered (p : Publication) : Nat :=
  match p.owner with
  | .acknowledging _ _ => p.publishedSeq + 1
  | _ => p.publishedSeq

/-- Only events of the log are published, and the owner has those after the cursor. -/
structure Publication.Sound (p : Publication) : Prop where
  published : p.publishedSeq ≤ p.log.events.length
  sent : ∀ event ∈ p.sent, event.seq ≤ p.log.events.length
  numbered : p.owner.upcoming.map RoomEvent.seq =
    List.range' (p.publishedSeq + 1) p.owner.upcoming.length
  upcoming : p.publishedSeq + p.owner.upcoming.length ≤ p.log.events.length

namespace Publication

variable {p q : Publication}

theorem Sound.idle (h : p.Sound) : ({ p with owner := .idle } : Publication).Sound where
  published := h.published
  sent := h.sent
  numbered := rfl
  upcoming := h.published

theorem Sound.restart (h : p.Sound) : p.restart.Sound where
  published := h.published
  sent := fun _ hevent => absurd hevent List.not_mem_nil
  numbered := rfl
  upcoming := h.published

/-- Nothing that can be read is skipped by a read. -/
theorem load_eq (p : Publication) :
    p.load = { p with owner := .idle } ∧ p.log.events.length ≤ p.publishedSeq ∨
      p.load = { p with
        owner := .draining ((p.log.events.drop p.publishedSeq).take publicationBatchSize) } := by
  unfold load
  rw [pendingRoomPublications_eq]
  cases hpending : (p.log.events.drop p.publishedSeq).take publicationBatchSize with
  | nil =>
      left
      refine ⟨rfl, ?_⟩
      have hlength := congrArg List.length hpending
      rw [List.length_take, List.length_drop, List.length_nil, publicationBatchSize] at hlength
      omega
  | cons event pending => exact Or.inr rfl

theorem Sound.load (h : p.Sound) : p.load.Sound := by
  rcases load_eq p with ⟨hload, -⟩ | hload
  · rw [hload]
    exact h.idle
  · rw [hload]
    refine ⟨h.published, h.sent, seq_events_window _ _ _, ?_⟩
    show p.publishedSeq + (List.take _ _).length ≤ p.log.events.length
    rw [List.length_take, List.length_drop]
    have hpublished := h.published
    omega

/-- Every statement of the owner keeps its place. -/
theorem Sound.drain (h : p.Sound) : p.drain.Sound := by
  obtain ⟨log, publishedSeq, sent, owner⟩ := p
  cases owner with
  | idle => exact h.load
  | draining pending =>
      cases pending with
      | nil => exact h.load
      | cons event pending =>
          refine ⟨h.published, fun other hother => ?_, h.numbered, h.upcoming⟩
          rcases List.mem_append.mp hother with hother | hother
          · exact h.sent other hother
          · rw [List.mem_singleton.mp hother]
            have hfirst : event.seq = publishedSeq + 1 :=
              (List.cons.inj (h.numbered.trans List.range'_succ)).1
            have hcount : publishedSeq + (pending.length + 1) ≤ log.events.length := h.upcoming
            rw [hfirst]
            show publishedSeq + 1 ≤ log.events.length
            omega
  | acknowledging event pending =>
      have hnumbered : event.seq :: pending.map RoomEvent.seq =
          (publishedSeq + 1) :: List.range' (publishedSeq + 1 + 1) pending.length :=
        h.numbered.trans List.range'_succ
      obtain ⟨hfirst, hrest⟩ := List.cons.inj hnumbered
      have hcount : publishedSeq + (pending.length + 1) ≤ log.events.length := h.upcoming
      have hdone : Publication.drain ⟨log, publishedSeq, sent, .acknowledging event pending⟩ =
          ⟨log, publishedSeq + 1, sent, .draining pending⟩ := by
        simp [Publication.drain, acknowledgeRoomPublication, hfirst]
      rw [hdone]
      exact ⟨by show publishedSeq + 1 ≤ log.events.length; omega, h.sent, hrest,
        by show publishedSeq + 1 + pending.length ≤ log.events.length; omega⟩

theorem Sound.step (h : p.Sound) (hstep : Publishes p q) : q.Sound := by
  cases hstep with
  | commit hgrows =>
      exact ⟨h.published.trans hgrows.2, fun event hevent => (h.sent event hevent).trans hgrows.2,
        h.numbered, h.upcoming.trans hgrows.2⟩
  | drain => exact h.drain
  | fail => exact h.idle
  | unanswered howner => exact h.drain.idle

/-- What the owner does is seen by the receivers in one of two ways: it offers the event after
those that were offered, or it offers nothing. -/
theorem Sound.offers (h : p.Sound) (hstep : Publishes p q) :
    q.sent = p.sent ∧ q.offered ≤ p.offered ∨
      ∃ event, q.sent = p.sent ++ [event] ∧ event.seq = p.offered + 1 ∧
        q.offered = p.offered + 1 := by
  have hidle : ∀ {r : Publication}, ({ r with owner := .idle } : Publication).offered ≤
      r.offered := by
    intro r
    obtain ⟨log, publishedSeq, sent, owner⟩ := r
    cases owner <;> simp [offered]
  have hload : p.load.sent = p.sent ∧ p.load.offered = p.publishedSeq := by
    rcases load_eq p with ⟨hload, -⟩ | hload
    · rw [hload]
      exact ⟨rfl, rfl⟩
    · rw [hload]
      exact ⟨rfl, rfl⟩
  have hdrain : p.drain.sent = p.sent ∧ p.drain.offered ≤ p.offered ∨
      ∃ event, p.drain.sent = p.sent ++ [event] ∧ event.seq = p.offered + 1 ∧
        p.drain.offered = p.offered + 1 ∧ ∃ pending, p.owner = .draining pending := by
    obtain ⟨log, publishedSeq, sent, owner⟩ := p
    cases owner with
    | idle => exact Or.inl ⟨hload.1, hload.2.le⟩
    | draining pending =>
        cases pending with
        | nil => exact Or.inl ⟨hload.1, hload.2.le⟩
        | cons event pending =>
            exact Or.inr ⟨event, rfl, (List.cons.inj (h.numbered.trans List.range'_succ)).1, rfl,
              _, rfl⟩
    | acknowledging event pending =>
        have hfirst : event.seq = publishedSeq + 1 :=
          (List.cons.inj (h.numbered.trans List.range'_succ)).1
        refine Or.inl ?_
        simp [Publication.drain, acknowledgeRoomPublication, hfirst, offered]
  cases hstep with
  | commit => exact Or.inl ⟨rfl, le_refl _⟩
  | drain =>
      rcases hdrain with hsame | ⟨event, hsent, hseq, hoffered, -⟩
      · exact Or.inl hsame
      · exact Or.inr ⟨event, hsent, hseq, hoffered⟩
  | fail => exact Or.inl ⟨rfl, hidle⟩
  | unanswered howner =>
      rcases hdrain with ⟨hsent, hoffered⟩ | ⟨_, _, _, _, pending, hdraining⟩
      · exact Or.inl ⟨hsent, hidle.trans hoffered⟩
      · rw [howner] at hdraining
        cases hdraining

theorem Sound.offered_le (h : p.Sound) : p.offered ≤ p.log.events.length := by
  obtain ⟨log, publishedSeq, sent, owner⟩ := p
  cases owner with
  | idle => exact h.published
  | draining pending => exact h.published
  | acknowledging event pending =>
      have hcount : publishedSeq + (pending.length + 1) ≤ log.events.length := h.upcoming
      show publishedSeq + 1 ≤ log.events.length
      omega

theorem publishedSeq_le_offered (p : Publication) : p.publishedSeq ≤ p.offered := by
  obtain ⟨log, publishedSeq, sent, owner⟩ := p
  cases owner <;> simp [offered]

end Publication

end AgentsAssemble.Streaming
