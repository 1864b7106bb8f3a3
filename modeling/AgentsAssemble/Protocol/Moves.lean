import AgentsAssemble.Protocol.Core
import AgentsAssemble.Persistence.Effects
import AgentsAssemble.Persistence.Reconciliation

/-!
# Moves

The protocol as a state machine on the core of a room.  A move is one
elementary change with the guard it happens under; a permit says which of the
exceptional moves a transaction may make.  Every transaction of the store is a
path of moves, so what each move preserves, each transaction preserves.
-/

namespace AgentsAssemble.Protocol

open Foundation Domain Persistence

/-- What a transaction is allowed to do. -/
structure Permit where
  /-- Turns whose inflight inputs it may consume. -/
  consumes : TurnKey → Prop
  /-- Sessions whose inflight inputs it may put back. -/
  restores : String → Prop
  /-- Sessions whose pending inputs it may discard. -/
  cleans : String → Prop
  /-- Events it may delete. -/
  deletes : String → Prop
  /-- It may queue a message. -/
  routes : Prop
  /-- The instants it may run at. -/
  clock : Nat → Prop
  /-- It overwrites no session that holds a turn. -/
  careful : Prop
  /-- It moves effects and executions together. -/
  paired : Prop
  /-- It deletes no attachment evidence of an inflight input. -/
  evident : Prop

/-! ## Sessions -/

/-- Changes of one session that leave the execution of its turn alone. -/
inductive SessionChange (P : Permit) (c : RoomCore) (a : DurableAgentSession) :
    DurableAgentSession → Prop
  | touch (b : DurableAgentSession) : SameTurn a b → (P.careful → KeepsTurn a b) →
      SessionChange P c a b
  | applied (b : DurableAgentSession) (row : ExecutionRow) : SameTurn a b → StopApplied b →
      b.runtimeStatus = a.runtimeStatus → b.runtime = a.runtime →
      c.executions.lookup (a.sessionId, a.turnGeneration) = some row →
      row.phase = .interrupted → row.requeueFinalized = true → SessionChange P c a b
  | enqueue (event : RoomEvent) (kind : RoomInputDeliveryKind) : P.routes →
      event ∈ c.events → event.eventType = "message_final" → event.isDeleted = false →
      event.messageHasVisiblePayload = .ok true →
      event.actor.participantId ≠ a.participantId → a.lastProviderSyncSeq < event.seq →
      (∀ input ∈ a.ownedInputs, ∀ e ∈ c.events, e.id = input.eventId → e.seq < event.seq) →
      a.ownedInputs.length < maxQueuedEventIds →
      SessionChange P c a
        { a with pendingInputs := a.pendingInputs ++ [{ eventId := event.id
                                                        deliveryKind := kind }] }
  | drop (eventId : String) : P.deletes eventId →
      SessionChange P c a
        { a with pendingInputs := a.pendingInputs.filter fun input => input.eventId ≠ eventId }
  | retire : P.cleans a.sessionId → SessionChange P c a { a with pendingInputs := [] }
  | detach (b : DurableAgentSession) : P.restores a.sessionId →
      Ended a b (keptInputs c.events a.ownedInputs) → KeepsCursor a b →
      (P.careful → a.activeTurnId ≠ "" → StopApplied a) → SessionChange P c a b

/-- What becomes of the session of a turn that reaches its outcome. -/
inductive Settlement (P : Permit) (c : RoomCore) (a b : DurableAgentSession)
    (row : ExecutionRow) : Prop
  | consumed (source : RoomEvent) : P.consumes (a.sessionId, a.turnGeneration) →
      Ended a b a.pendingInputs → source ∈ c.events → source.id = a.inputUpToEventId →
      source.seq = a.inputUpToSeq → b.lastProviderSyncEventId = a.inputUpToEventId →
      b.lastProviderSyncSeq = a.inputUpToSeq → Settlement P c a b row
  | restored : P.restores a.sessionId → Ended a b (keptInputs c.events a.ownedInputs) →
      KeepsCursor a b → Settlement P c a b row
  | stopped : SameTurn a b → StopApplied b → b.runtimeStatus = a.runtimeStatus →
      b.runtime = a.runtime → row.phase = .interrupted → row.requeueFinalized = true →
      Settlement P c a b row

/-! ## Executions and effects -/

/-- The row keeps its identity and stays live; it never returns to `assigned`. -/
structure RowShift (row row' : ExecutionRow) : Prop where
  executionId : row'.executionId = row.executionId
  participantId : row'.participantId = row.participantId
  turnId : row'.turnId = row.turnId
  runtime : row'.runtime = row.runtime
  requeue : row'.requeueFinalized = row.requeueFinalized
  blocking : row.phase.isBlocking = true → row'.phase.isBlocking = true
  terminal : row.phase.isBlocking = false → row' = row
  assigned : row'.phase = .assigned → row' = row

theorem RowShift.refl (row : ExecutionRow) : RowShift row row :=
  ⟨rfl, rfl, rfl, rfl, rfl, id, fun _ => rfl, fun _ => rfl⟩

theorem RowShift.live {row row' : ExecutionRow} (h : RowShift row row')
    (hb : row'.phase.isBlocking = true) : row.phase.isBlocking = true := by
  by_contra hne
  rw [h.terminal (by simpa using hne)] at hb
  exact hne hb

/-- The phases of an effect before its interrupt is dispatched. -/
def isUndispatched : ProviderTurnEffectPhase → Bool
  | .prepared | .claimed => true
  | _ => false

/-- How one effect row may change short of being finalized. -/
inductive EffectShift (effects : Table TurnKey EffectRow) :
    Option EffectRow → Option EffectRow → Prop
  | kept (effect : Option EffectRow) : EffectShift effects effect effect
  | prepared (effect : EffectRow) : effect.phase = .prepared →
      (∀ k e, effects.lookup k = some e → e.effectId ≠ effect.effectId) →
      EffectShift effects none (some effect)
  | moved (effect effect' : EffectRow) : effect'.effectId = effect.effectId →
      effect'.cause = effect.cause → (effect'.phase = .finalized ↔ effect.phase = .finalized) →
      (isUndispatched effect'.phase = true → isUndispatched effect.phase = true) →
      EffectShift effects (some effect) (some effect')

/-- The statechart of one turn: execution and effect phases move together. -/
inductive TurnShift : ProviderTurnExecutionPhase → Option ProviderTurnEffectPhase →
    ProviderTurnExecutionPhase → Option ProviderTurnEffectPhase → Prop
  | lease (p : ProviderTurnExecutionPhase) (e : Option ProviderTurnEffectPhase) :
      TurnShift p e p e
  | start : TurnShift .assigned none .startDispatching none
  | run (e : Option ProviderTurnEffectPhase) : TurnShift .startDispatching e .running e
  | uncertain (p : ProviderTurnExecutionPhase) (e : Option ProviderTurnEffectPhase) :
      p.isStarted = true → TurnShift p e .recoveryRequired e
  | prepare (p : ProviderTurnExecutionPhase) : p.isBlocking = true →
      TurnShift p none (if p.isInterruptible then .interruptPending else p) (some .prepared)
  | resumePrepare (p : ProviderTurnExecutionPhase) (e : ProviderTurnEffectPhase) :
      p.isInterruptible = true → TurnShift p (some e) .interruptPending (some e)
  | claim (e : ProviderTurnEffectPhase) : isUndispatched e = true →
      TurnShift .interruptPending (some e) .interruptPending (some .claimed)
  | dispatch (p : ProviderTurnExecutionPhase) :
      TurnShift p (some .claimed) p (some .dispatching)
  | issue (e : ProviderTurnEffectPhase) :
      TurnShift .interruptPending (some e) .quiescing (some .issuedWaitingQuiescence)
  | ambiguous :
      TurnShift .interruptPending (some .dispatching) .interruptAmbiguous
        (some .interruptAmbiguous)
  | handoff (p : ProviderTurnExecutionPhase) (e : ProviderTurnEffectPhase) :
      TurnShift p (some e) .recoveryRequired (some .recoveryRequired)
  | wait (p : ProviderTurnExecutionPhase) (e : ProviderTurnEffectPhase) :
      TurnShift p (some e) .quiescing (some .issuedWaitingQuiescence)
  | death (p : ProviderTurnExecutionPhase) (e : Option EffectRow) : p.isDispatched = true →
      (∀ effect, e = some effect → effect.phase ≠ .finalized) →
      TurnShift p (e.map EffectRow.phase)
        (if e.any fun effect => effect.phase == .dispatching then .interruptAmbiguous
          else .recoveryRequired)
        (e.map fun effect => effect.quarantine.phase)

/-- The indexes a new execution has to respect. -/
structure Insertable (executions : Table TurnKey ExecutionRow) (key : TurnKey)
    (row : ExecutionRow) : Prop where
  absent : executions.lookup key = none
  turnId : ∀ gen stored, executions.lookup (key.1, gen) = some stored →
    stored.turnId ≠ row.turnId
  unblocked : ∀ gen stored, executions.lookup (key.1, gen) = some stored →
    stored.phase.isBlocking = false

/-- The envelope describes the inflight inputs of the session. -/
structure EnvelopeFor (c : RoomCore) (session : DurableAgentSession)
    (envelope : ProviderTurnAssignmentEnvelope) : Prop where
  kinds : ∀ input ∈ session.inflightInputs, input.deliveryKind = envelope.deliveryKind
  attachments : ∃ sources : List RoomEvent,
    sources.map RoomEvent.id = session.inflightInputs.map QueuedRoomInput.eventId ∧
      (∀ e ∈ sources, e ∈ c.events) ∧
      RoomEvent.messageAttachmentIdsFromEvents sources = .ok envelope.attachmentIds
  input : isProviderInput envelope.providerInput = true
  view : isRoomObservationView envelope.roomView = true
  capacity : envelope.roomAgentIds.length ≤ maxRoomObservationAgentIds
  distinct : envelope.roomAgentIds.Nodup
  known : ∀ id ∈ envelope.roomAgentIds, c.sessions.lookup id ≠ none

/-! ## Polls -/

section Polls

variable [CaseFold]

/-- The poll behind this state row is open at `now`. -/
structure OpenAt (events : List RoomEvent) (voteId : String) (row : VoteStateRow)
    (now : Nat) : Prop where
  manual : row.manualCloseSeq = none
  poll : ∃ poll definition, poll ∈ events ∧ poll.id = voteId ∧ poll.seq = row.pollSeq ∧
    pollDefinition poll = .ok definition ∧ ∀ deadline, definition.deadlineAt = some deadline →
      now < deadline

/-- One for the option the ballot is cast for. -/
def countsFor (ballot : Option Nat) (index : Nat) : Nat :=
  if ballot = some index then 1 else 0

/-- The tallies after one ballot changed from `old` to `new`. -/
structure Recounted (row row' : VoteStateRow) (old new : Option Nat) : Prop where
  pollSeq : row'.pollSeq = row.pollSeq
  manual : row'.manualCloseSeq = row.manualCloseSeq
  length : row'.tallies.length = row.tallies.length
  tallies : ∀ index, row'.tallies.getD index 0 + countsFor old index =
    row.tallies.getD index 0 + countsFor new index
  sum : row'.tallies.sum + (if old.isSome then 1 else 0) =
    row.tallies.sum + (if new.isSome then 1 else 0)
  total : row'.totalVotes + (if old.isSome then 1 else 0) =
    row.totalVotes + (if new.isSome then 1 else 0)
  bounded : row'.totalVotes ≤ maxVoteBallotsPerPoll
  choice : ∀ index, new = some index → index < row.tallies.length

/-- Changes of the ballot projection. -/
inductive VoteChange (P : Permit) (c : RoomCore) (states : Table String VoteStateRow)
    (ballots : Table (String × String) Nat) : Prop
  | create (poll : RoomEvent) (definition : VoteDefinition) : poll ∈ c.events →
      pollDefinition poll = .ok definition → c.voteStates.lookup poll.id = none →
      Table.Sets c.voteStates states poll.id (some
        { pollSeq := poll.seq
          tallies := List.replicate definition.options.length 0
          totalVotes := 0
          manualCloseSeq := none }) →
      ballots = c.voteBallots → VoteChange P c states ballots
  | recount (voteId participantId : String) (row row' : VoteStateRow) (old new : Option Nat)
      (now : Nat) : P.clock now → c.voteStates.lookup voteId = some row →
      OpenAt c.events voteId row now → c.voteBallots.lookup (voteId, participantId) = old →
      Recounted row row' old new → Table.Sets c.voteStates states voteId (some row') →
      ballots = (match new with
        | some index => c.voteBallots.insert (voteId, participantId) index
        | none => c.voteBallots.erase (voteId, participantId)) →
      VoteChange P c states ballots
  | close (voteId : String) (row : VoteStateRow) (event : RoomEvent) :
      c.voteStates.lookup voteId = some row → row.manualCloseSeq = none → event ∈ c.events →
      row.pollSeq < event.seq → event.eventType = "message_final" →
      event.messageKind = some "vote_close" → event.extra.voteId = some voteId →
      Table.Sets c.voteStates states voteId (some { row with manualCloseSeq := some event.seq }) →
      ballots = c.voteBallots → VoteChange P c states ballots
  | keep (voteId : String) (row : VoteStateRow) : c.voteStates.lookup voteId = some row →
      Table.Sets c.voteStates states voteId (some row) → ballots = c.voteBallots →
      VoteChange P c states ballots
  | erase (voteId : String) : P.deletes voteId →
      Table.Sets c.voteStates states voteId none →
      ballots = c.voteBallots.eraseWhere (fun key => key.1 == voteId) →
      VoteChange P c states ballots

end Polls

/-! ## The state machine -/

/-- The log with one event rewritten in its place. -/
def rewriteIn (events : List RoomEvent) (event : RoomEvent) : List RoomEvent :=
  events.map fun stored => if stored.seq = event.seq then event else stored

section Machine

variable [UuidSource] [CaseFold]

/-- A message is edited in place. -/
structure Edits (c : RoomCore) (event : RoomEvent) (content : String) (now : Nat) : Prop where
  stored : event ∈ c.events
  kind : event.messageKind = some "message"
  visible : ∀ attachments, event.messageAttachments = .ok attachments →
    (prepareUpdatedMessage event content now).messageHasVisiblePayload = .ok true

/-- A message becomes a tombstone after its references were removed. -/
structure Deletes (P : Permit) (c : RoomCore) (event : RoomEvent)
    (kind : MutableMessageKind) : Prop where
  stored : event ∈ c.events
  permitted : P.deletes event.id
  mutable : requireMutableMessage event = .ok kind
  projection : kind = .vote → c.voteStates.lookup event.id = none
  unqueued : ∀ sid a, c.sessions.lookup sid = some a →
    ∀ input ∈ a.pendingInputs, input.eventId ≠ event.id
  evidence : P.evident → ∀ sid a row, c.sessions.lookup sid = some a →
    c.executions.lookup (sid, a.turnGeneration) = some row → row.phase = .assigned →
    (∃ input ∈ a.inflightInputs, input.eventId = event.id) → event.messageAttachments = .ok []

/-- A new session that holds nothing. -/
structure Creates (c : RoomCore) (a : DurableAgentSession) : Prop where
  absent : c.sessions.lookup a.sessionId = none
  participantId : a.participantId = a.sessionId
  named : isRoomObservationAgentId a.sessionId = true
  queue : a.ownedInputs = []
  clear : ClearTurn a
  settled : a.runtimeStatus ≠ .stopping
  cursor : (a.lastProviderSyncEventId = "" ∧ a.lastProviderSyncSeq = 0) ∨
    ∃ e ∈ c.events, e.id = a.lastProviderSyncEventId ∧ e.seq = a.lastProviderSyncSeq

/-- A session takes a prefix of its queue as a new turn with a new execution. -/
structure Assigns (c : RoomCore) (a b : DurableAgentSession) (row : ExecutionRow)
    (envelope : ProviderTurnAssignmentEnvelope) : Prop where
  stored : c.sessions.lookup a.sessionId = some a
  inflight : a.inflightInputs = []
  turnId : a.activeTurnId = ""
  idle : a.runtimeStatus = .idle
  intent : a.lifecycleIntentAction = .none
  next : Assigned a b row.turnId
  participantId : row.participantId = a.participantId
  runtime : row.runtime = a.runtime
  custody : a.runtime.Complete
  phase : row.phase = .assigned
  nonce : row.startDispatchNonce = ""
  providerTurnId : row.providerTurnId = ""
  requeue : row.requeueFinalized = false
  bounded : b.turnGeneration ≤ maxI64
  insertable : Insertable c.executions (a.sessionId, b.turnGeneration) row
  describes : EnvelopeFor c b envelope

/-- A turn reaches its outcome, and the log says so once. -/
structure Settles (P : Permit) (c : RoomCore) (a b : DurableAgentSession)
    (row row' : ExecutionRow) (finished : RoomEvent) (uuids : Nat) : Prop where
  stored : c.sessions.lookup a.sessionId = some a
  active : ActiveTurn a
  storedRow : c.executions.lookup (a.sessionId, a.turnGeneration) = some row
  blocking : row.phase.isBlocking = true
  turn : row.turnId = a.activeTurnId
  turnId : row'.turnId = row.turnId
  executionId : row'.executionId = row.executionId
  participantId : row'.participantId = row.participantId
  runtime : row'.runtime = row.runtime
  terminal : row'.phase.isBlocking = false
  requeue : c.effects.lookup (a.sessionId, a.turnGeneration) ≠ none →
    row'.requeueFinalized = true
  eventType : finished.eventType = "turn_finished"
  kept : finished.isDeleted = false
  ofSession : finished.extra.sessionId = some a.sessionId
  ofTurn : finished.extra.turnId = some row.turnId
  fresh : Fresh c.events c.uuids [finished] uuids
  settlement : Settlement P c a b row'

/-- A live turn changes the phase of its execution, of its effect, or of both. -/
structure Shifts (P : Permit) (c : RoomCore) (key : TurnKey) (row row' : ExecutionRow)
    (effectKey : TurnKey) (effect effect' : Option EffectRow) : Prop where
  storedRow : c.executions.lookup key = some row
  storedEffect : c.effects.lookup effectKey = effect
  shift : RowShift row row'
  effectShift : EffectShift c.effects effect effect'
  prepared : effect = none → effect' ≠ none → effectKey = key ∧ row.phase.isBlocking = true
  paired : P.paired → effectKey = key ∧ TurnShift row.phase (effect.map EffectRow.phase)
    row'.phase (effect'.map EffectRow.phase)

inductive Move (P : Permit) (c : RoomCore) : RoomCore → Prop
  | log (added : List RoomEvent) (uuids : Nat) (fresh : Fresh c.events c.uuids added uuids)
      (quiet : ∀ e ∈ added, Quiet e) :
      Move P c { c with events := c.events ++ added, uuids }
  | edit (event : RoomEvent) (content : String) (now : Nat)
      (guard : Edits c event content now) :
      Move P c { c with events := rewriteIn c.events (prepareUpdatedMessage event content now) }
  | tombstone (event : RoomEvent) (kind : MutableMessageKind) (now : Nat)
      (guard : Deletes P c event kind) :
      Move P c { c with events := rewriteIn c.events (prepareDeletedMessage event kind now) }
  | session (a b : DurableAgentSession) (sessions : Table String DurableAgentSession)
      (stored : c.sessions.lookup a.sessionId = some a) (change : SessionChange P c a b)
      (sets : Table.Sets c.sessions sessions a.sessionId (some b)) :
      Move P c { c with sessions }
  | create (a : DurableAgentSession) (sessions : Table String DurableAgentSession)
      (guard : Creates c a) (sets : Table.Sets c.sessions sessions a.sessionId (some a)) :
      Move P c { c with sessions }
  | assign (a b : DurableAgentSession) (row : ExecutionRow)
      (envelope : ProviderTurnAssignmentEnvelope) (sessions : Table String DurableAgentSession)
      (executions : Table TurnKey ExecutionRow)
      (assignments : Table TurnKey ProviderTurnAssignmentEnvelope)
      (guard : Assigns c a b row envelope)
      (sets : Table.Sets c.sessions sessions a.sessionId (some b))
      (setsRow : Table.Sets c.executions executions (a.sessionId, b.turnGeneration) (some row))
      (setsEnvelope : Table.Sets c.assignments assignments (a.sessionId, b.turnGeneration)
        (some envelope)) :
      Move P c { c with sessions, executions, assignments }
  | settle (a b : DurableAgentSession) (row row' : ExecutionRow) (finished : RoomEvent)
      (uuids : Nat) (sessions : Table String DurableAgentSession)
      (executions : Table TurnKey ExecutionRow) (effects : Table TurnKey EffectRow)
      (guard : Settles P c a b row row' finished uuids)
      (sets : Table.Sets c.sessions sessions a.sessionId (some b))
      (setsRow : Table.Sets c.executions executions (a.sessionId, a.turnGeneration) (some row'))
      (setsEffect : Table.Sets c.effects effects (a.sessionId, a.turnGeneration)
        ((c.effects.lookup (a.sessionId, a.turnGeneration)).map finalizeEffect)) :
      Move P c
        { c with sessions, executions, effects, uuids, events := c.events ++ [finished] }
  | shift (key : TurnKey) (row row' : ExecutionRow) (effectKey : TurnKey)
      (effect effect' : Option EffectRow) (executions : Table TurnKey ExecutionRow)
      (effects : Table TurnKey EffectRow)
      (guard : Shifts P c key row row' effectKey effect effect')
      (setsRow : Table.Sets c.executions executions key (some row'))
      (setsEffect : Table.Sets c.effects effects effectKey effect') :
      Move P c { c with executions, effects }
  | vote (states : Table String VoteStateRow) (ballots : Table (String × String) Nat)
      (change : VoteChange P c states ballots) :
      Move P c { c with voteStates := states, voteBallots := ballots }

/-- Moves one after the other. -/
abbrev Path (P : Permit) : RoomCore → RoomCore → Prop :=
  Relation.ReflTransGen (Move P)

theorem Path.invariant {P : Permit} {I : RoomCore → Prop}
    (hmove : ∀ c c', I c → Move P c c' → I c') {c c' : RoomCore} (hc : I c)
    (h : Path P c c') : I c' := by
  induction h with
  | refl => exact hc
  | tail _ hlast ih => exact hmove _ _ ih hlast

end Machine

end AgentsAssemble.Protocol
