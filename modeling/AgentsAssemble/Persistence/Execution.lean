import AgentsAssemble.Persistence.Scheduler

/-!
# Provider turn executions

The execution row of a turn: start authorization, the running mark, the
quarantine of uncertain starts, the death of a provider task and the ordinary
terminal transition.
-/

namespace AgentsAssemble.Persistence

open Foundation Domain Tx

/-! ## Turn events -/

section Events

variable [UuidSource]

def turnFinishedEvent (session : DurableAgentSession) (turnId status : String)
    (providerTurnId reasonCode : Option String) (now : Nat) : RoomTx RoomEvent :=
  internalEvent session "turn_finished" false none
    { sessionId := some session.sessionId
      turnId := some turnId
      status := some status
      providerTurnId
      reasonCode } now

def errorEvent (session : DurableAgentSession) (turnId errorCode message : String)
    (now : Nat) : RoomTx RoomEvent :=
  internalEvent session "error" false (some message)
    { sessionId := some session.sessionId
      turnId := some turnId
      errorCode := some errorCode } now

end Events

/-! ## Restoring the queue -/

def invalidTurnQueue : PersistenceError :=
  rejected "stored_turn_authority_invalid"
    "Stored Agent Session turn authority is inconsistent or oversized."

/-- The queue without the inputs whose event was deleted. -/
def undeletedInputs (events : List RoomEvent) :
    List QueuedRoomInput → Except PersistenceError (List QueuedRoomInput)
  | [] => .ok []
  | input :: inputs => do
      let found ← findEvent events input.eventId
      match found with
      | none => throw invalidTurnQueue
      | some event => do
          let rest ← undeletedInputs events inputs
          pure (if event.isDeleted then rest else input :: rest)

/-- The inflight inputs put back in front of the pending ones. -/
def mergedTurnQueue (session : DurableAgentSession) : RoomTx (List QueuedRoomInput) := do
  let merged ← orReject (mergeRoomInputs session.ownedInputs) invalidTurnQueue
  let restored ← read fun s => undeletedInputs s.events merged
  ofResult restored

/-! ## Starting a turn -/

structure ProviderTurnStartAuthority where
  sessionId : String
  turnGeneration : Nat
  executionId : String
  turnId : String
  runtime : RuntimeIdentity
  startDispatchNonce : String
  deriving DecidableEq, Repr

def ProviderTurnExecution.startAuthority (execution : ProviderTurnExecution) :
    ProviderTurnStartAuthority :=
  { sessionId := execution.sessionId
    turnGeneration := execution.turnGeneration
    executionId := execution.executionId
    turnId := execution.turnId
    runtime := execution.runtime
    startDispatchNonce := execution.startDispatchNonce }

/-- `active_turn_authority` with the error of an execution check. -/
def requireExecutionAuthority (session : DurableAgentSession) : RoomTx Bool :=
  orReject (activeTurnAuthority session) invalidExecution

@[simp] theorem commits_requireExecutionAuthority {session : DurableAgentSession}
    {active : Bool} {s s' : Store} :
    Commits (requireExecutionAuthority session) s active s' ↔
      activeTurnAuthority session = some active ∧ s' = s :=
  commits_orReject

/-- Fails while an interrupt effect of the turn is not finalized. -/
def requireNoEffect (key : TurnKey) (error : PersistenceError) : RoomTx Unit := do
  let fenced ← read fun s => hasUnfinalizedEffect s key
  require (fenced = false) error

@[simp] theorem commits_requireNoEffect {key : TurnKey} {error : PersistenceError} {u : Unit}
    {s s' : Store} :
    Commits (requireNoEffect key error) s u s' ↔
      hasUnfinalizedEffect s key = false ∧ s' = s := by
  simp [requireNoEffect, commits_bind]

section Start

variable [UuidSource]

/-- Consumes the start authorization of an assigned turn before provider I/O. -/
def authorizeStartIn (sessionId : String) (turnGeneration : Nat) (turnId : String) :
    RoomTx ProviderTurnStartAuthority := do
  let session ← loadSession sessionId
  let participant ← loadParticipant session.participantId
  let active ← requireExecutionAuthority session
  require (participant.participantId = session.participantId ∧
      participant.status = .joined ∧ participant.muted = false ∧
      session.activeTurnId = turnId ∧ session.turnGeneration = turnGeneration ∧
      active = true) staleExecution
  let nonce ← drawUuid
  generationI64 turnGeneration invalidExecution
  requireNoEffect (sessionId, turnGeneration) staleExecution
  updateExecution (sessionId, turnGeneration)
    (fun row => row.turnId == turnId && row.participantId == session.participantId &&
      row.phase == .assigned && row.runtime == session.runtime)
    (fun row => { row with phase := .startDispatching, startDispatchNonce := nonce })
    staleExecution
  let execution ← loadExecutionIn sessionId turnGeneration
  pure execution.startAuthority

end Start

/-- The row is exactly the one this start authority was issued for. -/
def ExecutionRow.isStartedBy (row : ExecutionRow) (authority : ProviderTurnStartAuthority) :
    Bool :=
  row.executionId == authority.executionId && row.turnId == authority.turnId &&
    row.startDispatchNonce == authority.startDispatchNonce &&
    row.runtime == authority.runtime

def markRunningIn (authority : ProviderTurnStartAuthority) (providerTurnId : String) :
    RoomTx Unit := do
  require (isProviderTurnId providerTurnId = true) invalidExecution
  generationI64 authority.turnGeneration invalidExecution
  updateExecution (authority.sessionId, authority.turnGeneration)
    (fun row => row.isStartedBy authority && row.phase == .startDispatching)
    (fun row => { row with phase := .running, providerTurnId })
    staleExecution

/-- The turn crossed its start authorization and was not interrupted. -/
def ProviderTurnExecutionPhase.isStarted : ProviderTurnExecutionPhase → Bool
  | .startDispatching | .running => true
  | _ => false

section Quarantine

variable [UuidSource]

/-- Quarantines a turn whose external start result is uncertain. -/
def markProviderTurnRecoveryRequired (authority : ProviderTurnStartAuthority) (now : Nat) :
    RoomTx AgentTurnCommit := do
  let session ← loadSession authority.sessionId
  let execution ← loadExecutionIn authority.sessionId authority.turnGeneration
  let active ← requireExecutionAuthority session
  require (execution.isStartedBy authority = true ∧ execution.phase.isStarted = true ∧
      session.activeTurnId = authority.turnId ∧
      session.turnGeneration = authority.turnGeneration ∧
      session.runtime = authority.runtime ∧ active = true) staleExecution
  updateExecution execution.key
    (fun row => row.isStartedBy authority && row.phase.isStarted)
    (fun row => { row with phase := .recoveryRequired })
    staleExecution
  let quarantined :=
    { session with
      recoveryRequired := true
      lastErrorCode := "provider_turn_recovery_required"
      lastError := "The exact provider turn remains quarantined pending recovery." }
  saveSession quarantined
  let state ← sessionStateEvent quarantined now
  pure { events := [state], nextAssignments := [] }

/-! ## Task death -/

def taskFailedMessage : String :=
  "Provider turn ownership ended before provider I/O was authorized."

/-- The session after its turn ended and its inputs were put back. -/
def restoreQueue (session : DurableAgentSession) (pending : List QueuedRoomInput) :
    DurableAgentSession :=
  { session with
    pendingInputs := pending
    inflightInputs := []
    turnPhase := .none
    activeTurnId := "" }.clearActiveTurnFields

/-- A restored session that needs recovery before it takes another turn. -/
def failedSession (session : DurableAgentSession) (pending : List QueuedRoomInput)
    (code message : String) : DurableAgentSession :=
  { restoreQueue session pending with
    status := .error
    runtimeStatus := .error
    lastError := message
    lastErrorCode := code
    recoveryRequired := true }

variable [TextServices]

def finalizeProvenNoEffectTaskDeath (session : DurableAgentSession)
    (execution : ProviderTurnExecution) (now : Nat) : RoomTx AgentTurnCommit := do
  let (room, settings) ← loadActiveRoom
  requireNoEffect execution.key staleExecution
  updateExecution execution.key
    (fun row => row.executionId == execution.executionId && row.phase == execution.phase &&
      !row.requeueFinalized)
    (fun row => { row with phase := .failed, requeueFinalized := true })
    staleExecution
  let error ← errorEvent session execution.turnId "provider_turn_task_failed"
    taskFailedMessage now
  let finished ← turnFinishedEvent session execution.turnId "error" none
    (some "provider_turn_task_failed") now
  let pending ← mergedTurnQueue session
  let failed := failedSession session pending "provider_turn_task_failed" taskFailedMessage
  saveSession failed
  let state ← sessionStateEvent failed now
  let scheduled ← assignPendingIn room settings now
  pure { scheduled with events := [error, finished, state] ++ scheduled.events }

/-- An effect whose result the dying task took with it. -/
def EffectRow.quarantine (row : EffectRow) : EffectRow :=
  match row.phase with
  | .dispatching => { row with phase := .interruptAmbiguous }
  | .prepared | .claimed | .issuedWaitingQuiescence => { row with phase := .recoveryRequired }
  | .interruptAmbiguous | .recoveryRequired | .finalized => row

/-- Quarantines the effect of a turn, if it has one that is still moving. -/
def quarantineEffect (key : TurnKey) : RoomTx Unit :=
  write fun s =>
    match s.effects.lookup key with
    | none => s
    | some row => { s with effects := s.effects.insert key row.quarantine }

def quarantineDispatchedTaskDeath (session : DurableAgentSession)
    (execution : ProviderTurnExecution) (now : Nat) : RoomTx AgentTurnCommit := do
  let effects ← read Store.effects
  let dispatching := (effects.lookup execution.key).any fun row => row.phase == .dispatching
  updateExecution execution.key
    (fun row => row.executionId == execution.executionId && row.phase == execution.phase &&
      row.runtime == execution.runtime)
    (fun row => { row with
      phase := if dispatching then .interruptAmbiguous else .recoveryRequired })
    staleExecution
  quarantineEffect execution.key
  let quarantined := { session with recoveryRequired := true }
  saveSession quarantined
  let state ← sessionStateEvent quarantined now
  pure { events := [state], nextAssignments := [] }

/-- Dispatched turns whose task may still have provider I/O in flight. -/
def ProviderTurnExecutionPhase.isDispatched : ProviderTurnExecutionPhase → Bool
  | .startDispatching | .running | .interruptPending | .quiescing => true
  | _ => false

/-- The session and the execution describe one and the same turn. -/
def ProviderTurnExecution.Matches (execution : ProviderTurnExecution)
    (session : DurableAgentSession) : Prop :=
  execution.participantId = session.participantId ∧
    execution.turnId = session.activeTurnId ∧
    execution.turnGeneration = session.turnGeneration ∧
    execution.runtime = session.runtime

instance (execution : ProviderTurnExecution) (session : DurableAgentSession) :
    Decidable (execution.Matches session) :=
  inferInstanceAs (Decidable (_ ∧ _ ∧ _ ∧ _))

/-- Records the death of a live provider task; ambiguous I/O is never requeued. -/
def recordProviderTurnTaskDeath (sessionId : String) (turnGeneration : Nat)
    (executionId : String) (now : Nat) : RoomTx AgentTurnCommit := do
  let execution ← loadExecutionIn sessionId turnGeneration
  let session ← loadSession sessionId
  let active ← requireExecutionAuthority session
  require (execution.executionId = executionId ∧ execution.Matches session ∧ active = true)
    staleExecution
  if execution.phase = .assigned then
    finalizeProvenNoEffectTaskDeath session execution now
  else if execution.phase.isDispatched then
    quarantineDispatchedTaskDeath session execution now
  else
    throw staleExecution

end Quarantine

/-! ## Ordinary termination -/

structure ProviderTurnAuthority where
  sessionId : String
  turnId : String
  turnGeneration : Nat
  executionId : String
  startDispatchNonce : String
  runtime : RuntimeIdentity
  providerTurnId : String
  providerSessionId : Option String
  deriving DecidableEq, Repr

/-- How a provider reports the end of its turn. -/
inductive OrdinaryOutcome
  | completed
  | declined
  | failed
  deriving DecidableEq, Repr

def OrdinaryOutcome.phase : OrdinaryOutcome → ProviderTurnExecutionPhase
  | .completed => .completed
  | .declined => .declined
  | .failed => .failed

/-- The session still runs the turn this authority was issued for. -/
def RunsTurn (session : DurableAgentSession)
    (authority : ProviderTurnAuthority) : Prop :=
  session.sessionId = authority.sessionId ∧ session.activeTurnId = authority.turnId ∧
    session.turnGeneration = authority.turnGeneration ∧ session.status = .attached ∧
    session.enabled = true ∧ session.runtimeStatus = .busy ∧
    session.providerSessionActive = true ∧ session.lifecycleIntentIsEmpty = true ∧
    session.runtime = authority.runtime

instance (session : DurableAgentSession) (authority : ProviderTurnAuthority) :
    Decidable (RunsTurn session authority) :=
  inferInstanceAs (Decidable (_ ∧ _ ∧ _ ∧ _ ∧ _ ∧ _ ∧ _ ∧ _ ∧ _))

def terminalizeOrdinaryExecution (session : DurableAgentSession)
    (authority : ProviderTurnAuthority) (outcome : OrdinaryOutcome) : RoomTx Unit := do
  require (RunsTurn session authority) staleExecution
  let participant ← loadParticipant session.participantId
  require (participant.participantId = session.participantId ∧
      participant.status = .joined ∧ participant.participantType = "agent" ∧
      participant.muted = false) staleExecution
  generationI64 authority.turnGeneration invalidExecution
  requireNoEffect (authority.sessionId, authority.turnGeneration) staleExecution
  updateExecution (authority.sessionId, authority.turnGeneration)
    (fun row => row.executionId == authority.executionId && row.turnId == authority.turnId &&
      row.phase.isStarted && row.startDispatchNonce == authority.startDispatchNonce &&
      row.runtime == authority.runtime)
    (fun row => { row with
      phase := outcome.phase, providerTurnId := authority.providerTurnId })
    staleExecution

/-- What an ordinary termination checked, and the row it wrote. -/
structure Terminalizes (s : Store) (session : DurableAgentSession)
    (authority : ProviderTurnAuthority) (outcome : OrdinaryOutcome) (row : ExecutionRow)
    (s' : Store) : Prop where
  runs : RunsTurn session authority
  bounded : authority.turnGeneration ≤ maxI64
  unfenced : hasUnfinalizedEffect s (authority.sessionId, authority.turnGeneration) = false
  stored : s.executions.lookup (authority.sessionId, authority.turnGeneration) = some row
  executionId : row.executionId = authority.executionId
  turnId : row.turnId = authority.turnId
  started : row.phase.isStarted = true
  nonce : row.startDispatchNonce = authority.startDispatchNonce
  runtime : row.runtime = authority.runtime
  store : s' = { s with
    executions := s.executions.insert (authority.sessionId, authority.turnGeneration)
      { row with phase := outcome.phase, providerTurnId := authority.providerTurnId } }

theorem commits_terminalizeOrdinaryExecution {session : DurableAgentSession}
    {authority : ProviderTurnAuthority} {outcome : OrdinaryOutcome} {s s' : Store} {u : Unit}
    (h : Commits (terminalizeOrdinaryExecution session authority outcome) s u s') :
    ∃ row, Terminalizes s session authority outcome row s' := by
  simp only [terminalizeOrdinaryExecution, commits_bind, commits_require,
    commits_loadParticipant, commits_generationI64, commits_requireNoEffect,
    commits_updateExecution] at h
  obtain ⟨_, _, ⟨hruns, rfl⟩, participant, _, ⟨-, rfl⟩, _, _, ⟨-, rfl⟩, _, _, ⟨hbounded, rfl⟩,
    _, s, ⟨hunfenced, rfl⟩, row, hrow, hguard, hstore⟩ := h
  simp only [Bool.and_eq_true, beq_iff_eq] at hguard
  obtain ⟨⟨⟨⟨hid, hturn⟩, hstarted⟩, hnonce⟩, hruntime⟩ := hguard
  exact ⟨row, hruns, hbounded, hunfenced, hrow, hid, hturn, hstarted, hnonce, hruntime, hstore⟩

end AgentsAssemble.Persistence
