import AgentsAssemble.Persistence.Rows

/-!
# The core of a room

The tables that turns, queues, interrupts and polls live in, seen apart from
the transactions that write them, and the shapes a session passes through
between the start and the end of a turn.
-/

namespace AgentsAssemble.Protocol

open Foundation Domain Persistence

structure RoomCore where
  sessions : Table String DurableAgentSession
  events : List RoomEvent
  executions : Table TurnKey ExecutionRow
  assignments : Table TurnKey ProviderTurnAssignmentEnvelope
  effects : Table TurnKey EffectRow
  voteStates : Table String VoteStateRow
  voteBallots : Table (String × String) Nat
  uuids : Nat

/-- The part of the durable state the protocol is about. -/
def coreOf (s : Store) : RoomCore :=
  { sessions := s.sessions
    events := s.events
    executions := s.executions
    assignments := s.assignments
    effects := s.effects
    voteStates := s.voteStates
    voteBallots := s.voteBallots
    uuids := s.uuids }

/-! ## Fresh events -/

theorem nextSeq_append_le {events added : List RoomEvent} :
    nextSeq events ≤ nextSeq (events ++ added) := by
  induction events with
  | nil => simp [nextSeq]
  | cons e events ih =>
      simp only [nextSeq, List.cons_append, List.map_cons, List.foldr_cons] at ih ⊢
      omega

section Fresh

variable [UuidSource]

/-- Events a transaction may append: fresh ids and growing sequences. -/
structure Fresh (events : List RoomEvent) (uuids : Nat) (added : List RoomEvent)
    (uuids' : Nat) : Prop where
  drawn : uuids ≤ uuids'
  ids : ∀ e ∈ added, ∃ k, uuids ≤ k ∧ k < uuids' ∧ e.id = UuidSource.newV4 k
  nodup : (added.map RoomEvent.id).Nodup
  later : ∀ e ∈ added, nextSeq events ≤ e.seq
  sorted : (added.map RoomEvent.seq).Pairwise (· < ·)

theorem Fresh.none {events : List RoomEvent} {uuids uuids' : Nat} (h : uuids ≤ uuids') :
    Fresh events uuids [] uuids' :=
  ⟨h, by simp, by simp, by simp, by simp⟩

theorem Fresh.single {events : List RoomEvent} {uuids uuids' k : Nat} {e : RoomEvent}
    (hle : uuids ≤ k) (hlt : k < uuids') (hid : e.id = UuidSource.newV4 k)
    (hseq : nextSeq events ≤ e.seq) : Fresh events uuids [e] uuids' := by
  refine ⟨by omega, ?_, by simp, ?_, by simp⟩
  · rintro x hx
    rw [List.mem_singleton.mp hx]
    exact ⟨k, hle, hlt, hid⟩
  · rintro x hx
    rw [List.mem_singleton.mp hx]
    exact hseq

theorem Fresh.append {events a b : List RoomEvent} {u v w : Nat} (ha : Fresh events u a v)
    (hb : Fresh (events ++ a) v b w) : Fresh events u (a ++ b) w := by
  have hu := ha.drawn
  have hv := hb.drawn
  refine ⟨by omega, ?_, ?_, ?_, ?_⟩
  · intro e he
    rcases List.mem_append.mp he with he | he
    · obtain ⟨k, h₁, h₂, h₃⟩ := ha.ids e he
      exact ⟨k, h₁, by omega, h₃⟩
    · obtain ⟨k, h₁, h₂, h₃⟩ := hb.ids e he
      exact ⟨k, by omega, h₂, h₃⟩
  · rw [List.map_append, List.nodup_append]
    refine ⟨ha.nodup, hb.nodup, ?_⟩
    intro x hx y hy hxy
    obtain ⟨d, hd, rfl⟩ := List.mem_map.mp hx
    obtain ⟨e, he, rfl⟩ := List.mem_map.mp hy
    obtain ⟨j, -, hj, hdj⟩ := ha.ids d hd
    obtain ⟨k, hk, -, hek⟩ := hb.ids e he
    have hjk : j = k := UuidSource.newV4_injective (hdj ▸ hek ▸ hxy)
    omega
  · intro e he
    rcases List.mem_append.mp he with he | he
    · exact ha.later e he
    · exact nextSeq_append_le.trans (hb.later e he)
  · rw [List.map_append, List.pairwise_append]
    refine ⟨ha.sorted, hb.sorted, ?_⟩
    intro x hx y hy
    obtain ⟨d, hd, rfl⟩ := List.mem_map.mp hx
    obtain ⟨e, he, rfl⟩ := List.mem_map.mp hy
    calc d.seq < nextSeq (events ++ a) := seq_lt_nextSeq (List.mem_append_right _ hd)
      _ ≤ e.seq := hb.later e he

/-- The log: distinct drawn ids and growing positive sequences. -/
structure LogWF (events : List RoomEvent) (uuids : Nat) : Prop where
  ids : ∀ e ∈ events, ∃ k, k < uuids ∧ e.id = UuidSource.newV4 k
  nodup : (events.map RoomEvent.id).Nodup
  sorted : (events.map RoomEvent.seq).Pairwise (· < ·)
  positive : ∀ e ∈ events, 0 < e.seq

theorem LogWF.append {events added : List RoomEvent} {u v : Nat} (h : LogWF events u)
    (hf : Fresh events u added v) : LogWF (events ++ added) v := by
  have hdrawn := hf.drawn
  refine ⟨?_, ?_, ?_, ?_⟩
  · intro e he
    rcases List.mem_append.mp he with he | he
    · obtain ⟨k, hk, hid⟩ := h.ids e he
      exact ⟨k, by omega, hid⟩
    · obtain ⟨k, -, hk, hid⟩ := hf.ids e he
      exact ⟨k, hk, hid⟩
  · rw [List.map_append, List.nodup_append]
    refine ⟨h.nodup, hf.nodup, ?_⟩
    intro x hx y hy hxy
    obtain ⟨d, hd, rfl⟩ := List.mem_map.mp hx
    obtain ⟨e, he, rfl⟩ := List.mem_map.mp hy
    obtain ⟨j, hj, hdj⟩ := h.ids d hd
    obtain ⟨k, hk, -, hek⟩ := hf.ids e he
    have hjk : j = k := UuidSource.newV4_injective (hdj ▸ hek ▸ hxy)
    omega
  · rw [List.map_append, List.pairwise_append]
    refine ⟨h.sorted, hf.sorted, ?_⟩
    intro x hx y hy
    obtain ⟨d, hd, rfl⟩ := List.mem_map.mp hx
    obtain ⟨e, he, rfl⟩ := List.mem_map.mp hy
    exact (seq_lt_nextSeq hd).trans_le (hf.later e he)
  · intro e he
    rcases List.mem_append.mp he with he | he
    · exact h.positive e he
    · have hlater := hf.later e he
      have hpos : 0 < nextSeq events := Nat.succ_pos _
      omega

theorem LogWF.eq_of_id {events : List RoomEvent} {u : Nat} (h : LogWF events u)
    {d e : RoomEvent} (hd : d ∈ events) (he : e ∈ events) (hid : d.id = e.id) : d = e :=
  List.inj_on_of_nodup_map h.nodup hd he hid

theorem LogWF.eq_of_seq {events : List RoomEvent} {u : Nat} (h : LogWF events u)
    {d e : RoomEvent} (hd : d ∈ events) (he : e ∈ events) (hseq : d.seq = e.seq) : d = e :=
  List.inj_on_of_nodup_map (h.sorted.imp Nat.ne_of_lt) hd he hseq

theorem LogWF.findEvent {events : List RoomEvent} {u : Nat} (h : LogWF events u)
    {e : RoomEvent} (he : e ∈ events) : findEvent events e.id = .ok (some e) :=
  findEvent_of_mem h.nodup he

theorem LogWF.id_ne_empty {events : List RoomEvent} {u : Nat} (h : LogWF events u)
    {e : RoomEvent} (he : e ∈ events) : e.id ≠ "" := by
  obtain ⟨k, -, hk⟩ := h.ids e he
  rw [hk]
  exact UuidSource.newV4_ne_empty k

end Fresh

/-- The end of one turn, as the log shows it. -/
def isFinishOf (sessionId turnId : String) (event : RoomEvent) : Bool :=
  event.eventType == "turn_finished" && event.extra.sessionId == some sessionId &&
    event.extra.turnId == some turnId

/-- An event that ends no turn and is no tombstone. -/
structure Quiet (event : RoomEvent) : Prop where
  unfinished : event.eventType ≠ "turn_finished"
  kept : event.isDeleted = false

theorem Quiet.not_finish {event : RoomEvent} (h : Quiet event) (sessionId turnId : String) :
    isFinishOf sessionId turnId event = false := by
  simp [isFinishOf, h.unfinished]

/-! ## Deleted inputs -/

/-- The log holds a tombstone under this id. -/
def deletedIn (events : List RoomEvent) (eventId : String) : Bool :=
  events.any fun event => event.id == eventId && event.isDeleted

/-- The inputs whose event was not deleted, in order. -/
def keptInputs (events : List RoomEvent) (inputs : List QueuedRoomInput) :
    List QueuedRoomInput :=
  inputs.filter fun input => !deletedIn events input.eventId

theorem deletedIn_append_quiet {events added : List RoomEvent} {eventId : String}
    (h : ∀ e ∈ added, e.isDeleted = false) :
    deletedIn (events ++ added) eventId = deletedIn events eventId := by
  have hnone : added.any (fun event => event.id == eventId && event.isDeleted) = false := by
    rw [List.any_eq_false]
    intro e he
    simp [h e he]
  rw [deletedIn, List.any_append, hnone, Bool.or_false, deletedIn]

theorem keptInputs_append_quiet {events added : List RoomEvent}
    (h : ∀ e ∈ added, e.isDeleted = false) (inputs : List QueuedRoomInput) :
    keptInputs (events ++ added) inputs = keptInputs events inputs := by
  simp only [keptInputs, deletedIn_append_quiet h]

/-! ## Sessions between turns -/

/-- `b` holds the queue, the turn and the cursor of `a`. -/
structure SameTurn (a b : DurableAgentSession) : Prop where
  sessionId : b.sessionId = a.sessionId
  participantId : b.participantId = a.participantId
  generation : b.turnGeneration = a.turnGeneration
  pending : b.pendingInputs = a.pendingInputs
  inflight : b.inflightInputs = a.inflightInputs
  turnId : b.activeTurnId = a.activeTurnId
  phase : b.turnPhase = a.turnPhase
  source : b.activeSourceEventId = a.activeSourceEventId
  upTo : b.inputUpToEventId = a.inputUpToEventId
  cursor : b.inputUpToSeq = a.inputUpToSeq
  syncId : b.lastProviderSyncEventId = a.lastProviderSyncEventId
  syncSeq : b.lastProviderSyncSeq = a.lastProviderSyncSeq

theorem SameTurn.refl (a : DurableAgentSession) : SameTurn a a :=
  ⟨rfl, rfl, rfl, rfl, rfl, rfl, rfl, rfl, rfl, rfl, rfl, rfl⟩

theorem SameTurn.owned {a b : DurableAgentSession} (h : SameTurn a b) :
    b.ownedInputs = a.ownedInputs := by
  rw [DurableAgentSession.ownedInputs, h.inflight, h.pending, DurableAgentSession.ownedInputs]

/-- `b` is `a` after its turn left it with the queue `pending`. -/
structure Ended (a b : DurableAgentSession) (pending : List QueuedRoomInput) : Prop where
  sessionId : b.sessionId = a.sessionId
  participantId : b.participantId = a.participantId
  generation : b.turnGeneration = a.turnGeneration
  pending : b.pendingInputs = pending
  clear : ClearTurn b
  settled : b.runtimeStatus ≠ .stopping

/-- The provider cursor did not move. -/
structure KeepsCursor (a b : DurableAgentSession) : Prop where
  syncId : b.lastProviderSyncEventId = a.lastProviderSyncEventId
  syncSeq : b.lastProviderSyncSeq = a.lastProviderSyncSeq

/-- The stop of this session was confirmed but not yet finalized. -/
def StopApplied (session : DurableAgentSession) : Prop :=
  session.lifecycleIntentAction = .stop ∧ session.lifecycleIntentStatus = .effectApplied

/-- What a session has to look like for its turn fields to be trusted. -/
structure TurnShape (session : DurableAgentSession) : Prop where
  tuple : ActiveTurn session ∨ ClearTurn session
  stopping : session.runtimeStatus = .stopping →
    session.lifecycleIntentAction = .stop ∧ session.lifecycleIntentStatus ≠ .prepared
  custody : ActiveTurn session → session.runtime.Complete

theorem TurnShape.active {session : DurableAgentSession} (h : TurnShape session)
    (hid : session.activeTurnId ≠ "") : ActiveTurn session :=
  h.tuple.resolve_right fun hc => hid hc.turnId

theorem TurnShape.clear {session : DurableAgentSession} (h : TurnShape session)
    (hid : session.activeTurnId = "") : ClearTurn session :=
  h.tuple.resolve_left fun ha => ha.turnId hid

/-- A change of the session that its turn survives. -/
structure KeepsTurn (a b : DurableAgentSession) : Prop where
  shape : TurnShape a → TurnShape b
  runtime : TurnShape a → a.activeTurnId ≠ "" → b.runtime = a.runtime
  applied : TurnShape a → a.activeTurnId ≠ "" → (StopApplied b ↔ StopApplied a)

/-- `b` is `a` with a prefix of its queue in flight as the next turn. -/
structure Assigned (a b : DurableAgentSession) (turnId : String) : Prop where
  sessionId : b.sessionId = a.sessionId
  participantId : b.participantId = a.participantId
  generation : b.turnGeneration = a.turnGeneration + 1
  queue : b.inflightInputs ++ b.pendingInputs = a.pendingInputs
  active : ActiveTurn b
  turnId : b.activeTurnId = turnId
  busy : b.runtimeStatus = .busy
  runtime : b.runtime = a.runtime
  intent : b.lifecycleIntentAction = a.lifecycleIntentAction
  cursor : KeepsCursor a b

end AgentsAssemble.Protocol
