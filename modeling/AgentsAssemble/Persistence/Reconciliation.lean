import AgentsAssemble.Persistence.Completion
import AgentsAssemble.Persistence.Effects

/-!
# Ending interrupted turns

A turn that did not end by its provider's own report: a quiescent interrupt
that keeps the runtime, a confirmed stop, a runtime that is gone, and a turn
that never started.  Recovery loads its candidates under the same checks.
-/

namespace AgentsAssemble.Persistence

open Foundation Domain Tx

def interruptedCode : String := "interrupted"

def interruptedMessage : String := "The provider turn was interrupted by a room operator."

/-! ## Retained runtimes -/

/-- `active_turn_authority` with the error of an effect check. -/
def requireEffectAuthority (session : DurableAgentSession) : RoomTx Bool :=
  orReject (activeTurnAuthority session) invalidEffect

/-- The session still runs the turn the effect was prepared for. -/
def RunsInterruptedTurn (session : DurableAgentSession)
    (expected : ProviderTurnInterruptEffect) : Prop :=
  session.participantId = expected.participantId ∧ session.activeTurnId = expected.turnId ∧
    session.turnGeneration = expected.turnGeneration ∧ session.runtime = expected.runtime

instance (session : DurableAgentSession) (expected : ProviderTurnInterruptEffect) :
    Decidable (RunsInterruptedTurn session expected) :=
  inferInstanceAs (Decidable (_ ∧ _ ∧ _ ∧ _))

def finalizeEffect (row : EffectRow) : EffectRow :=
  { row with phase := .finalized, claimExpiresAt := none }

def terminalizeRetainedInterrupt (expected : ProviderTurnInterruptEffect) : RoomTx Unit := do
  let execution ← loadExecutionIn expected.sessionId expected.turnGeneration
  require (execution.phase = .quiescing ∧ execution.executionId = expected.executionId ∧
      execution.participantId = expected.participantId ∧
      execution.turnId = expected.turnId ∧ execution.runtime = expected.runtime ∧
      execution.requeueFinalized = false) staleEffect
  let effect ← loadEffectIn expected.sessionId expected.turnGeneration
  requireExactEffect expected effect
  require (effect.phase = .issuedWaitingQuiescence) staleEffect
  updateEffect effect.effectId
    (fun row => row.phase == .issuedWaitingQuiescence &&
      row.dispatchNonce == effect.dispatchNonce)
    finalizeEffect staleEffect
  updateExecution execution.key
    (fun row => row.executionId == execution.executionId && row.phase == .quiescing &&
      !row.requeueFinalized && row.runtime == execution.runtime)
    (fun row => { row with phase := .interrupted, requeueFinalized := true })
    staleEffect

/-- The restored session that keeps its runtime and stays attached. -/
def retainedSession (session : DurableAgentSession) (pending : List QueuedRoomInput)
    (cause : ProviderTurnInterruptCause) : DurableAgentSession :=
  { restoreQueue session pending with
    status := .attached
    runtimeStatus := .idle
    lastError := match cause with
      | .agentInterrupt => interruptedMessage
      | .participantMuted => ""
    lastErrorCode := match cause with
      | .agentInterrupt => interruptedCode
      | .participantMuted => ""
    recoveryRequired := false }

section Retained

variable [UuidSource]

/-- The error event an operator's interrupt adds before the turn finishes. -/
def interruptErrorEvents (session : DurableAgentSession) (turnId : String)
    (cause : ProviderTurnInterruptCause) (now : Nat) : RoomTx (List RoomEvent) :=
  match cause with
  | .agentInterrupt => do
      let error ← errorEvent session turnId interruptedCode interruptedMessage now
      pure [error]
  | .participantMuted => pure []

variable [TextServices]

/-- Ends one proved-quiescent interrupted turn and keeps its runtime. -/
def finalizeRetainedIn (expected : ProviderTurnInterruptEffect) (now : Nat) :
    RoomTx AgentTurnCommit := do
  let session ← loadSession expected.sessionId
  let active ← requireEffectAuthority session
  require (active = true ∧ RunsInterruptedTurn session expected) staleEffect
  terminalizeRetainedInterrupt expected
  let errors ← interruptErrorEvents session session.activeTurnId expected.cause now
  let finished ← turnFinishedEvent session session.activeTurnId "interrupted" none
    (some expected.cause.asStr) now
  let pending ← mergedTurnQueue session
  let retained := retainedSession session pending expected.cause
  saveSession retained
  let state ← sessionStateEvent retained now
  let scheduled ← match expected.cause with
    | .participantMuted => do
        let (room, settings) ← loadActiveRoom
        assignPendingIn room settings now
    | .agentInterrupt => pure { events := [], nextAssignments := [] }
  pure { scheduled with events := errors ++ [finished, state] ++ scheduled.events }

end Retained

/-! ## Confirmed stops -/

def invalidStopTurn : PersistenceError :=
  rejected "stored_provider_stop_turn_invalid"
    "Stored provider turn authority is invalid during confirmed stop."

def staleStopTurn : PersistenceError :=
  rejected "stale_provider_stop_turn"
    "Provider turn authority changed before confirmed stop committed."

/-- The effect was prepared for exactly this execution. -/
def EffectMatchesExecution (effect : ProviderTurnInterruptEffect)
    (execution : ProviderTurnExecution) : Prop :=
  effect.executionId = execution.executionId ∧ effect.participantId = execution.participantId ∧
    effect.turnId = execution.turnId ∧
    effect.startDispatchNonce = execution.startDispatchNonce ∧
    effect.runtime = execution.runtime

instance (effect : ProviderTurnInterruptEffect) (execution : ProviderTurnExecution) :
    Decidable (EffectMatchesExecution effect execution) :=
  inferInstanceAs (Decidable (_ ∧ _ ∧ _ ∧ _ ∧ _))

/-- Whether the turn already ended by this stop, or an error for a broken pair. -/
def exactStopTurnIsTerminal (session : DurableAgentSession)
    (execution : ProviderTurnExecution) (effect : Option ProviderTurnInterruptEffect) :
    Except PersistenceError Bool :=
  if execution.participantId ≠ session.participantId ∨
      execution.turnId ≠ session.activeTurnId ∨ execution.runtime ≠ session.runtime ∨
      effect.any fun effect => !decide (EffectMatchesExecution effect execution) then
    .error invalidStopTurn
  else if execution.phase = .interrupted ∧ execution.requeueFinalized = true then
    if effect.all fun effect => effect.phase == .finalized then .ok true
    else .error invalidStopTurn
  else if execution.phase.isBlocking = false ∨ execution.requeueFinalized = true ∨
      effect.any fun effect => effect.phase == .finalized then
    .error invalidStopTurn
  else
    .ok false

/-- Marks the exact execution terminal, and finalizes its effect if it has one. -/
def terminalizeWithEffect (execution : ProviderTurnExecution)
    (effect : Option ProviderTurnInterruptEffect) (phase : ProviderTurnExecutionPhase)
    (error : PersistenceError) : RoomTx Unit := do
  updateExecution execution.key
    (fun row => row.executionId == execution.executionId && row.phase == execution.phase &&
      !row.requeueFinalized && row.runtime == execution.runtime)
    (fun row => { row with phase, requeueFinalized := true })
    error
  match effect with
  | none => pure ()
  | some effect =>
      updateEffect effect.effectId
        (fun row => row.phase == effect.phase && row.dispatchNonce == effect.dispatchNonce)
        finalizeEffect error

section Stop

variable [UuidSource]

/-- Ends the active turn after its runtime was proved stopped. -/
def terminalizeConfirmedStopTurn (session : DurableAgentSession) (now : Nat) :
    RoomTx (Option RoomEvent) := do
  let active ← orReject (activeTurnAuthority session) invalidStopTurn
  if active = false then
    pure none
  else do
    let execution ← loadExecutionIn session.sessionId session.turnGeneration
    let effect ← loadOptionalEffectIn execution.sessionId execution.turnGeneration
    let terminal ← ofResult (exactStopTurnIsTerminal session execution effect)
    if terminal then
      pure none
    else do
      terminalizeWithEffect execution effect .interrupted staleStopTurn
      let finished ← turnFinishedEvent session execution.turnId "interrupted" none
        (some "operator_stop") now
      pure (some finished)

end Stop

/-! ## Reconciliation candidates -/

def invalidReconciliation : PersistenceError :=
  rejected "stored_turn_reconciliation_invalid"
    "Stored provider turn reconciliation authority is invalid."

def staleReconciliation : PersistenceError :=
  rejected "stale_turn_reconciliation_candidate"
    "Provider turn reconciliation authority changed before commit."

structure ProviderTurnReconciliationCandidate where
  session : DurableAgentSession
  execution : ProviderTurnExecution
  effect : Option ProviderTurnInterruptEffect
  deriving DecidableEq, Repr

def validateCandidate (session : DurableAgentSession) (execution : ProviderTurnExecution) :
    Except PersistenceError Unit :=
  if execution.phase.isBlocking = true ∧ activeTurnAuthority session = some true ∧
      session.sessionId = execution.sessionId ∧ execution.Matches session then
    .ok ()
  else
    .error invalidReconciliation

/-- The generations of a session's blocking executions, newest first. -/
def blockingGenerations (s : Store) (sessionId : String) : List Nat :=
  ((s.executions.rows.filter fun entry =>
    entry.1.1 == sessionId && entry.2.phase.isBlocking).map fun entry =>
      entry.1.2).insertionSort (· ≥ ·)

def blockingExecutionExists (s : Store) (sessionId : String) : Bool :=
  s.executions.rows.any fun entry => entry.1.1 == sessionId && entry.2.phase.isBlocking

def loadReconciliationCandidate (sessionId : String) (turnGeneration : Nat) :
    RoomTx ProviderTurnReconciliationCandidate := do
  let execution ← loadExecutionIn sessionId turnGeneration
  let session ← loadSession sessionId
  ofResult (validateCandidate session execution)
  let effect ← loadOptionalEffectIn sessionId turnGeneration
  pure { session, execution, effect }

/-- The one blocking turn that owns a session's current runtime authority. -/
def loadActiveCandidateIn (sessionId : String) :
    RoomTx (Option ProviderTurnReconciliationCandidate) := do
  let generations ← read fun s => (blockingGenerations s sessionId).take 2
  match generations with
  | [] => pure none
  | generation :: rest => do
      require (rest = []) invalidReconciliation
      some <$> loadReconciliationCandidate sessionId generation

/-! ## Recovering an assignment -/

def validateAssignmentEnvelope (events : List RoomEvent) (session : DurableAgentSession)
    (assignment : ProviderTurnAssignmentEnvelope) : Except PersistenceError Unit := do
  let inflight ← session.inflightInputs.mapM fun input => do
    let found ← findEvent events input.eventId
    match found with
    | some event => pure event
    | none => throw invalidReconciliation
  let expected ← match RoomEvent.messageAttachmentIdsFromEvents inflight with
    | .ok ids => pure ids
    | .error _ => throw invalidReconciliation
  if session.inputUpToSeq = 0 ∨ session.activeSourceEventId = "" ∨
      session.inputUpToEventId ≠ session.activeSourceEventId ∨
      session.inflightInputs = [] ∨
      session.inflightInputs.any (fun input =>
        input.deliveryKind != assignment.deliveryKind) = true ∨
      isProviderInput assignment.providerInput = false ∨
      isRoomObservationView assignment.roomView = false ∨
      assignment.attachmentIds ≠ expected ∨
      maxRoomObservationAgentIds < assignment.roomAgentIds.length ∨
      ¬ assignment.roomAgentIds.Nodup ∨
      assignment.roomAgentIds.any (fun id => !isRoomObservationAgentId id) = true then
    throw invalidReconciliation

def loadAssignmentIn (session : DurableAgentSession) (execution : ProviderTurnExecution) :
    RoomTx ProviderTurnAssignmentEnvelope := do
  let stored ← read fun s => (s.executions.lookup execution.key).bind fun row =>
    if row.executionId = execution.executionId ∧ row.phase = execution.phase then
      s.assignments.lookup execution.key
    else
      none
  let assignment ← orReject stored staleReconciliation
  let checked ← read fun s => validateAssignmentEnvelope s.events session assignment
  ofResult checked
  pure assignment

/-- Rehydrates a proved pre-dispatch assignment from its stored envelope. -/
def recoverAssignedProviderTurn (candidate : ProviderTurnReconciliationCandidate) :
    RoomTx AgentTurnAssignment := do
  let expected := candidate.execution
  require (expected.phase = .assigned ∧ candidate.effect = none ∧
      expected.startDispatchNonce = "" ∧ expected.providerTurnId = "" ∧
      expected.requeueFinalized = false) staleReconciliation
  let session ← loadSession expected.sessionId
  let execution ← loadExecutionIn expected.sessionId expected.turnGeneration
  ofResult (validateCandidate session execution)
  require (session = candidate.session ∧ execution = expected) staleReconciliation
  let effect ← loadOptionalEffectIn expected.sessionId expected.turnGeneration
  require (effect = none) staleReconciliation
  let participant ← loadParticipant expected.participantId
  require (participant.status = .joined ∧ participant.muted = false) staleReconciliation
  let assignment ← loadAssignmentIn session execution
  pure
    { session
      turnId := execution.turnId
      turnGeneration := execution.turnGeneration
      executionId := execution.executionId
      deliveryKind := assignment.deliveryKind
      providerInput := assignment.providerInput
      roomView := assignment.roomView
      attachmentIds := assignment.attachmentIds
      roomAgentIds := assignment.roomAgentIds
      tabletopTools := assignment.tabletopTools }

/-! ## Turns that never started -/

section Gone

variable [UuidSource] [TextServices]

/-- Ends an assigned or start-authorized turn after a retained no-I/O proof. -/
def finalizeProviderTurnNotStarted (candidate : ProviderTurnReconciliationCandidate)
    (now : Nat) : RoomTx AgentTurnCommit := do
  let expected := candidate.execution
  require (candidate.effect = none ∧
      (expected.phase = .assigned ∨ expected.phase = .startDispatching)) staleReconciliation
  let session ← loadSession expected.sessionId
  let execution ← loadExecutionIn expected.sessionId expected.turnGeneration
  ofResult (validateCandidate session execution)
  let effect ← loadOptionalEffectIn expected.sessionId expected.turnGeneration
  require (expected = execution ∧ effect = none) staleReconciliation
  finalizeProvenNoEffectTaskDeath session execution now

/-! ## Runtimes that are gone -/

inductive FloorProgression
  | assign
  | defer
  deriving DecidableEq, Repr

def invalidStoredAuthority : PersistenceError :=
  rejected "invalid_stored_runtime_authority"
    "Stored provider runtime authority is incomplete or inconsistent."

def externalRuntimeOwned : PersistenceError :=
  rejected "external_runtime_owned"
    "This provider runtime is owned by its external attendee."

def pendingReservations (s : Store) (sessionId : String) : List LifecycleReservationRow :=
  (s.reservations.rows.map Prod.snd).filter fun row =>
    row.sessionId == sessionId && row.isPending

/-- The runtime's absence completes a stop whose effect may already be in flight. -/
def stopEffectIsConfirmedByRuntimeGone (s : Store) (session : DurableAgentSession) :
    Except PersistenceError Bool :=
  if session.lifecycleIntentAction ≠ .stop ∨
      (session.lifecycleIntentStatus ≠ .effectInflight ∧
        session.lifecycleIntentStatus ≠ .unconfirmed ∧
        session.lifecycleIntentStatus ≠ .effectApplied) then
    .ok false
  else if (s.room.status = .closed ∧ ¬ s.cleanup.contains session.sessionId) ∨
      session.isExternal then
    .error invalidReconciliation
  else if session.hasServerCustody = false then
    .error externalRuntimeOwned
  else
    match pendingReservations s session.sessionId with
    | [reservation] =>
        if reservation.operationId ≠ session.lifecycleIntentId ∨
            reservation.action ≠ "agent.stop" then
          .error invalidReconciliation
        else
          .ok true
    | _ => .error invalidStoredAuthority

/-- The restored session after its runtime was proved absent. -/
def runtimeGoneSession (session : DurableAgentSession) (pending : List QueuedRoomInput)
    (cause : Option ProviderTurnInterruptCause) : DurableAgentSession :=
  { restoreQueue session pending with
    status := .detached
    runtimeStatus := .stopped
    enabled := false
    providerSessionActive := false
    providerSessionReused := false
    providerSessionId := ""
    runtime := .none
    scheduleRequested := false
    lastError := if cause = some .agentInterrupt then interruptedMessage
      else session.lastError
    lastErrorCode := if cause = some .agentInterrupt then interruptedCode
      else session.lastErrorCode
    recoveryRequired := false }

/-- The error event of a turn whose runtime is gone, except after a mute. -/
def runtimeGoneErrorEvents (session : DurableAgentSession) (turnId : String)
    (cause : Option ProviderTurnInterruptCause) (now : Nat) : RoomTx (List RoomEvent) :=
  match cause with
  | none => do
      let error ← errorEvent session turnId "provider_runtime_gone"
        "The provider runtime exited before its exact turn could be recovered." now
      pure [error]
  | some cause => interruptErrorEvents session turnId cause now

def finalizeRuntimeGoneSession (session : DurableAgentSession)
    (execution : ProviderTurnExecution) (cause : Option ProviderTurnInterruptCause)
    (floorProgression : FloorProgression) (now : Nat) : RoomTx AgentTurnCommit := do
  let errors ← runtimeGoneErrorEvents session execution.turnId cause now
  let finished ← turnFinishedEvent session execution.turnId
    (if cause.isSome then "interrupted" else "error") none
    (some ((cause.map ProviderTurnInterruptCause.asStr).getD "provider_runtime_gone")) now
  let pending ← mergedTurnQueue session
  let gone := runtimeGoneSession session pending cause
  saveSession gone
  let participant ← loadParticipant session.participantId
  saveParticipantExact participant.participantId participant.detachRuntime
  let state ← sessionStateEvent gone now
  let scheduled ←
    if floorProgression = .assign ∧ cause ≠ some .agentInterrupt then do
      let (room, settings) ← loadActiveRoom
      assignPendingIn room settings now
    else
      pure { events := [], nextAssignments := [] }
  pure { scheduled with events := errors ++ [finished, state] ++ scheduled.events }

/-- The candidate's effect is still the stored one, and it is not finalized. -/
def requireCandidateEffect (expected current : Option ProviderTurnInterruptEffect) :
    RoomTx Unit :=
  match expected, current with
  | some expected, some current => do
      requireExactEffect expected current
      require (current.phase ≠ .finalized) staleReconciliation
  | none, none => pure ()
  | _, _ => throw staleReconciliation

/-- Ends a blocking turn after positive proof that its exact runtime is gone. -/
def finalizeRuntimeGoneIn (candidate : ProviderTurnReconciliationCandidate)
    (floorProgression : FloorProgression) (now : Nat) : RoomTx AgentTurnCommit := do
  let expected := candidate.execution
  let session ← loadSession expected.sessionId
  let execution ← loadExecutionIn expected.sessionId expected.turnGeneration
  require (expected = execution) staleReconciliation
  ofResult (validateCandidate session execution)
  let effect ← loadOptionalEffectIn expected.sessionId expected.turnGeneration
  requireCandidateEffect candidate.effect effect
  let checked ← read fun s => stopEffectIsConfirmedByRuntimeGone s session
  let stopping ← ofResult checked
  if stopping then do
    let _ ← terminalizeConfirmedStopTurn session now
    saveSession { session with lifecycleIntentStatus := .effectApplied }
    pure { events := [], nextAssignments := [] }
  else do
    terminalizeWithEffect execution effect
      (if effect.isSome then .interrupted else .failed) staleReconciliation
    finalizeRuntimeGoneSession session execution
      (candidate.effect.map ProviderTurnInterruptEffect.cause) floorProgression now

end Gone

end AgentsAssemble.Persistence
