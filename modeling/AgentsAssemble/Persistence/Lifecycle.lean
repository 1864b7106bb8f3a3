import AgentsAssemble.Persistence.Reconciliation

/-!
# The lifecycle of an agent

Creation, launch and stop of the runtime behind a session.  Each command first
reserves its operation, then records an intent, authorizes the external effect
and commits what the supervisor observed.
-/

namespace AgentsAssemble.Persistence

open Foundation Domain Tx

def startAction : String := "agent.start"
def resumeAction : String := "agent.resume"
def readdAction : String := "agent.readd"
def stopAction : String := "agent.stop"

/-- A lifecycle command; a re-add carries whether it also starts the agent. -/
structure LifecycleRequest where
  principal : AuthenticatedPrincipal
  requestId : String
  action : String
  payloadHash : String
  agentId : String
  start : Bool
  deriving DecidableEq, Repr

/-- Whether the command asks for a running agent. -/
def LifecycleRequest.startRequested (request : LifecycleRequest) : Bool :=
  request.action != readdAction || request.start

def LifecycleRequest.key (request : LifecycleRequest) : String × String :=
  (request.principal.principalId, request.requestId)

def LifecycleRequest.operationId [OperationHash] (request : LifecycleRequest) : String :=
  lifecycleOperationId request.principal.principalId request.requestId request.action

def authorizeControl (principal : AuthenticatedPrincipal) : RoomTx Unit :=
  require (principal.clientKind ≠ .agentBridge ∧ principal.capabilities.agentControl = true)
    (rejected "permission_denied" "agent.control permission is required.")

/-- The launch actions `launch_payload` accepts. -/
def requireLaunchAction (request : LifecycleRequest) : RoomTx Unit :=
  require (request.action = startAction ∨ request.action = resumeAction ∨
      request.action = readdAction)
    (rejected "bad_request" "The Agent Session launch action is invalid.")

/-! ## Session events -/

section Events

variable [UuidSource]

/-- An event a principal publishes about a session. -/
def sessionEventOf (s : Store) (principal : AuthenticatedPrincipal)
    (session : DurableAgentSession) (eventType : String) (content : Option String)
    (extra : EventExtra) (now : Nat) : RoomEvent :=
  { id := UuidSource.newV4 s.uuids
    seq := nextSeq s.events
    createdAt := now
    eventType
    actor := ⟨principal.participantId, "human"⟩
    participantId := some session.participantId
    participantType := some "agent"
    actorId := some principal.participantId
    actorType := some "human"
    displayName := some session.displayName
    content
    extra }

def appendSessionEvent (principal : AuthenticatedPrincipal) (session : DurableAgentSession)
    (eventType : String) (content : Option String) (extra : EventExtra) (now : Nat) :
    RoomTx RoomEvent := do
  let event ← read fun s => sessionEventOf s principal session eventType content extra now
  let _ ← drawUuid
  insertEvent event
  pure event

@[simp] theorem commits_appendSessionEvent {principal : AuthenticatedPrincipal}
    {session : DurableAgentSession} {eventType : String} {content : Option String}
    {extra : EventExtra} {now : Nat} {e : RoomEvent} {s s' : Store} :
    Commits (appendSessionEvent principal session eventType content extra now) s e s' ↔
      e = sessionEventOf s principal session eventType content extra now ∧
        s' = s.publish e := by
  simp only [appendSessionEvent, commits_bind, commits_read, commits_drawUuid,
    commits_insertEvent, commits_pure, Store.publish]
  constructor
  · rintro ⟨e', s₁, ⟨rfl, rfl⟩, id, s₂, ⟨rfl, rfl⟩, _, s₃, ⟨-, rfl⟩, rfl, rfl⟩
    exact ⟨rfl, rfl⟩
  · rintro ⟨rfl, rfl⟩
    refine ⟨_, _, ⟨rfl, rfl⟩, _, _, ⟨rfl, rfl⟩, (), _, ⟨⟨?_, ?_⟩, rfl⟩, rfl, rfl⟩
    · simp [sessionEventOf, nextSeq]
    · intro stored hstored
      exact Nat.ne_of_lt (seq_lt_nextSeq hstored)

def appendStateEvent (principal : AuthenticatedPrincipal) (session : DurableAgentSession)
    (now : Nat) : RoomTx RoomEvent :=
  appendSessionEvent principal session "agent_session_state" none
    { sessionId := some session.sessionId
      runtimeStatus := some session.runtimeStatus } now

def appendErrorEvent (principal : AuthenticatedPrincipal) (session : DurableAgentSession)
    (errorCode message : String) (now : Nat) : RoomTx RoomEvent :=
  appendSessionEvent principal session "error" (some message)
    { errorCode := some errorCode } now

/-! ## Creation -/

/-- The latest message of the room, or the empty cursor. -/
def latestMessageCursor (events : List RoomEvent) : String × Nat :=
  match ((events.filter fun event => event.eventType == "message_final").insertionSort
    fun a b => b.seq ≤ a.seq).head? with
  | some event => (event.id, event.seq)
  | none => ("", 0)

/-- A new session, synchronized with the latest message. -/
def createdSession (draft : AgentSessionDraft) (cursor : String × Nat) :
    DurableAgentSession :=
  { draft.initialSession .server with
    lastSeenEventId := cursor.1
    lastSeenSeq := cursor.2
    lastProviderSyncEventId := cursor.1
    lastProviderSyncSeq := cursor.2
    bootstrapCutoffSeq := cursor.2 }

def createdParticipant (principal : AuthenticatedPrincipal) (draft : AgentSessionDraft) :
    Participant :=
  { participantId := draft.agentId
    displayName := draft.displayName
    participantType := "agent"
    status := .detached
    role := .agent
    ownerId := principal.participantId
    muted := false }

def maxAgentSessionsPerRoom : Nat := 64

/-- Inserts the records of an agent that does not exist yet. -/
def createAgentRecords (principal : AuthenticatedPrincipal) (draft : AgentSessionDraft)
    (now : Nat) : RoomTx AgentTurnCommit := do
  authorizeControl principal
  let _ ← loadActiveParticipant principal.participantId
  let absent ← read fun s =>
    s.sessions.lookup draft.agentId == none && s.participants.lookup draft.agentId == none
  require (absent = true)
    (rejected "session_exists" "An Agent Session with this identity already exists.")
  let count ← read fun s => s.sessions.keys.length
  require (count < maxAgentSessionsPerRoom)
    (rejected "agent_session_capacity" "This room has reached its Agent Session capacity.")
  let cursor ← read fun s => latestMessageCursor s.events
  let card ← read fun s => selectedPersonaCard s draft.personaCardId
  let _ ← ofResult card
  let session := createdSession draft cursor
  write fun s => { s with
    participants := s.participants.insert draft.agentId (createdParticipant principal draft)
    sessions := s.sessions.insert draft.agentId session }
  let event ← appendSessionEvent principal session "agent_session_created" none
    { sessionId := some session.sessionId } now
  pure { events := [event], nextAssignments := [] }

end Events

/-! ## Reservations -/

def invalidReservation : PersistenceError :=
  rejected "stale_lifecycle_reservation"
    "Provider lifecycle command reservation is missing or inconsistent."

def unresolvedLifecycle (message : String) : PersistenceError :=
  .commandUnresolved "runtime_effect_unconfirmed" message

def lifecycleUnresolved : PersistenceError :=
  unresolvedLifecycle "The original provider lifecycle effect remains unresolved. Wait for authoritative runtime observation before retrying it."

section Reservations

variable [OperationHash]

/-- The stored reservation belongs to exactly this command. -/
def LifecycleReservationRow.isFor (row : LifecycleReservationRow)
    (request : LifecycleRequest) : Bool :=
  row.action == request.action && row.payloadHash == request.payloadHash &&
    row.sessionId == request.agentId && row.operationId == request.operationId

/-- Reserves the command, or finds the reservation it already holds. -/
def claimLifecycleCommand (request : LifecycleRequest) : RoomTx Unit := do
  let reservations ← read Store.reservations
  let generation ← read Store.runtimeGeneration
  match reservations.lookup request.key with
  | some row => do
      require (row.supervisorGeneration ≠ "") invalidReservation
      require (row.isFor request = true) .commandConflict
      require (row.isPending = false ∨ row.supervisorGeneration = generation)
        (unresolvedLifecycle "The original provider effect belongs to a previous server runtime and awaits server-owned reconciliation.")
      require (row.isPending = true)
        (.storedCommandRejected row.failureCode row.failureMessage)
  | none => do
      let quiescing ← read Store.restartQuiescing
      require (quiescing = false) (.commandUnresolved "runtime_restarting"
        "The runtime is quiescing for restart. Retry the same request after readiness.")
      write fun s => { s with
        reservations := s.reservations.insert request.key
          { action := request.action
            payloadHash := request.payloadHash
            sessionId := request.agentId
            operationId := request.operationId
            supervisorGeneration := generation
            isPending := true } }

/-- The pending reservation of the command, required to exist. -/
def requirePendingReservation (request : LifecycleRequest) : RoomTx LifecycleReservationRow := do
  let reservations ← read Store.reservations
  orReject ((reservations.lookup request.key).filter fun row =>
    row.isFor request && row.isPending) invalidReservation

def finishLifecycleCommand (request : LifecycleRequest) : RoomTx Unit := do
  let _ ← requirePendingReservation request
  write fun s => { s with reservations := s.reservations.erase request.key }

def isReservationFailureCode (code : String) : Bool :=
  code != "" && decide (code.utf8ByteSize ≤ 128) &&
    code.toList.all fun c => c.isAlphanum || c == '_' || c == '-' || c == '.'

def rejectLifecycleCommand [TextServices] (request : LifecycleRequest) (code message : String) :
    RoomTx Unit := do
  require (isReservationFailureCode code = true ∧ message ≠ "" ∧
      message.toList.length ≤ 512 ∧ redactPersistedDiagnosticText message 512 = message)
    (.commandUnresolved "stored_command_rejection_invalid"
      "Stored terminal command rejection is invalid.")
  let row ← requirePendingReservation request
  write fun s => { s with
    reservations := s.reservations.insert request.key
      { row with isPending := false, failureCode := code, failureMessage := message } }

end Reservations

/-! ## Launching -/

structure AgentRuntimeStarted where
  runtime : RuntimeIdentity
  providerSessionId : String
  runtimeReused : Bool
  providerSessionReused : Bool
  providerSessionActive : Bool
  deriving DecidableEq, Repr

/-- A launch keeps these statuses as they are. -/
def AgentRuntimeStatus.isLive : AgentRuntimeStatus → Bool
  | .starting | .idle | .busy | .paused => true
  | _ => false

def prepareLaunchSession (session : DurableAgentSession) (operationId : String) :
    DurableAgentSession :=
  { session with
    status := .available
    enabled := true
    runtimeStatus := if AgentRuntimeStatus.isLive session.runtimeStatus
      then session.runtimeStatus else .starting
    lastError := ""
    lastErrorCode := ""
    recoveryRequired := false
    lifecycleIntentAction := .start
    lifecycleIntentId := operationId
    lifecycleIntentStatus := .prepared }

def operationInProgress : PersistenceError :=
  rejected "operation_in_progress"
    "Another provider lifecycle operation is still in progress."

/-- Whether this very start was already prepared. -/
def matchingStartIntent (session : DurableAgentSession) (operationId : String) :
    Except PersistenceError Bool :=
  if session.lifecycleIntentIsEmpty then
    .ok false
  else if session.lifecycleIntentAction ≠ .start ∨ session.lifecycleIntentId ≠ operationId then
    .error operationInProgress
  else
    match session.lifecycleIntentStatus with
    | .prepared => .ok true
    | .effectInflight | .unconfirmed => .error lifecycleUnresolved
    | _ => .error (rejected "invalid_state" "Stored provider start intent is invalid.")

def loadLaunchSession (sessionId : String) : RoomTx DurableAgentSession := do
  let cleanup ← read Store.cleanup
  require (cleanup.contains sessionId = false) (rejected "runtime_cleanup_pending"
    "Removed runtime custody must be resolved before this Agent Session can launch.")
  let session ← loadSession sessionId
  require (session.hasServerCustody = true) externalRuntimeOwned
  pure session

def requireValidTurnAuthority (session : DurableAgentSession) : RoomTx Unit :=
  require (activeTurnAuthority session ≠ none) invalidTurnQueue

def requireIntent (session : DurableAgentSession) (action : AgentLifecycleAction)
    (operationId : String) (status : AgentLifecycleIntentStatus) (code : String) :
    RoomTx Unit :=
  require (session.HasIntent action operationId status)
    (rejected code "Provider lifecycle confirmation does not match the active operation.")

/-- The participant row of an agent, under its own identity. -/
def loadAgentParticipant (participantId : String) : RoomTx Participant := do
  let participant ← loadParticipant participantId
  require (participant.participantId = participantId) (rejected "stored_agent_identity_invalid"
    "Stored participant identity differs from its row.")
  pure participant

/-- Only an agent with confirmed inactive custody can be added back. -/
def IsReaddable (session : DurableAgentSession) (participant : Participant) : Prop :=
  session.enabled = false ∧ session.recoveryRequired = false ∧
    session.providerSessionActive = false ∧
    (session.runtimeStatus = .stopped ∨ session.runtimeStatus = .error) ∧
    (participant.status = .detached ∨ participant.status = .kicked) ∧
    session.activeTurnId = "" ∧ session.runtime = .none ∧ session.inflightInputs = []

instance (session : DurableAgentSession) (participant : Participant) :
    Decidable (IsReaddable session participant) :=
  inferInstanceAs (Decidable (_ ∧ _ ∧ _ ∧ (_ ∨ _) ∧ (_ ∨ _) ∧ _ ∧ _ ∧ _))

def requireReaddable (session : DurableAgentSession) (participant : Participant) :
    RoomTx Unit := do
  require (session.hasServerCustody = true ∧ participant.participantType = "agent")
    (rejected "runtime_unavailable" "Only server-owned Agent Sessions can be added back.")
  require (IsReaddable session participant) (rejected "readd_invalid_state"
    "The Agent Session must have confirmed inactive custody before re-add.")

section Launch

variable [UuidSource] [OperationHash]

/-- Lists a re-added agent without starting it. -/
def commitReaddListing (principal : AuthenticatedPrincipal) (session : DurableAgentSession)
    (participant : Participant) (now : Nat) : RoomTx AgentTurnCommit := do
  let listed :=
    { session with
      status := .available
      runtimeStatus := .stopped
      lastError := ""
      lastErrorCode := "" }
  saveSession listed
  saveParticipantExact participant.participantId { participant with status := .detached }
  let event ← appendSessionEvent principal listed "agent_session_reactivated" none
    { sessionId := some listed.sessionId } now
  pure { events := [event], nextAssignments := [] }

/-- Records a start intent before the provider supervisor is called. -/
def prepareAgentLaunch (request : LifecycleRequest) (now : Nat) : RoomTx AgentTurnCommit := do
  authorizeControl request.principal
  requireLaunchAction request
  let _ ← loadActiveParticipant request.principal.participantId
  claimLifecycleCommand request
  let session ← loadLaunchSession request.agentId
  requireValidTurnAuthority session
  let participant ← loadAgentParticipant request.agentId
  require (participant.status ≠ .exported) (rejected "participant_exported"
    "This agent was exported from the room and cannot be started.")
  require (request.action = readdAction ∨ participant.status ≠ .kicked)
    (rejected "participant_kicked"
      "This agent was removed from the room and cannot be started.")
  require (session.runtimeProfileVersion = currentRuntimeProfileVersion)
    (rejected "runtime_profile_unsupported"
      "This Agent Session runtime profile is not supported by the current runtime.")
  let incomplete ← ofResult (matchingStartIntent session request.operationId)
  if request.action = readdAction ∧ incomplete = false then
    requireReaddable session participant
  if request.startRequested = false then do
    finishLifecycleCommand request
    commitReaddListing request.principal session participant now
  else do
    saveSession (if incomplete then session
      else prepareLaunchSession session request.operationId)
    pure { events := [], nextAssignments := [] }

/-- An identity column may be set once; afterwards it must stay the same. -/
def extendsIdentity (stored next : String) : Bool :=
  stored == "" || stored == next

def authorizedStartSession (session : DurableAgentSession) (runtime : RuntimeIdentity) :
    DurableAgentSession :=
  { session with
    runtime
    status := .available
    enabled := true
    runtimeStatus := if AgentRuntimeStatus.isLive session.runtimeStatus
      then session.runtimeStatus else .starting
    lastError := ""
    lastErrorCode := ""
    recoveryRequired := false
    lifecycleIntentStatus := .effectInflight }

def authorizeStartEffect (session : DurableAgentSession) (operationId : String)
    (runtime : RuntimeIdentity) : RoomTx DurableAgentSession := do
  requireIntent session .start operationId .prepared "stale_start_authorization"
  require (runtime.Complete ∧
      extendsIdentity session.runtime.handleId runtime.handleId = true ∧
      extendsIdentity session.runtime.ownerId runtime.ownerId = true ∧
      extendsIdentity session.runtime.leaseToken runtime.leaseToken = true)
    (rejected "runtime_owner_mismatch"
      "Provider start reservation does not match durable runtime authority.")
  pure (authorizedStartSession session runtime)

/-- The reservation this runtime may act on. -/
def requireOwnedReservation (request : LifecycleRequest) : RoomTx Unit := do
  let row ← requirePendingReservation request
  let generation ← read Store.runtimeGeneration
  require (row.supervisorGeneration = generation) (rejected "stale_lifecycle_reservation"
    "Provider lifecycle reservation is not owned by this runtime.")

/-- Persists the exact runtime identity before provider I/O. -/
def authorizeAgentStartEffect (request : LifecycleRequest) (runtime : RuntimeIdentity) :
    RoomTx Unit := do
  requireLaunchAction request
  let _ ← loadActiveParticipant request.principal.participantId
  requireOwnedReservation request
  let session ← loadLaunchSession request.agentId
  let authorized ← authorizeStartEffect session request.operationId runtime
  saveSession authorized

def validateRuntimeStarted (session : DurableAgentSession) (started : AgentRuntimeStarted) :
    RoomTx Unit := do
  require started.runtime.Complete (rejected "runtime_start_unconfirmed"
    "Provider start did not return an owned runtime handle.")
  require (session.runtime = started.runtime) (rejected "runtime_owner_mismatch"
    "Provider start confirmation does not match its durable pre-effect authority.")
  require (started.providerSessionActive = false ∨ started.providerSessionId ≠ "")
    (rejected "provider_session_unconfirmed"
      "Provider start reported an active session without its identity.")
  require (started.providerSessionReused = false ∨ started.providerSessionActive = true)
    (rejected "provider_session_unconfirmed"
      "An inactive provider session cannot be reported as reused.")
  require (started.providerSessionReused = false ∨ (session.providerSessionId ≠ "" ∧
      started.providerSessionId = session.providerSessionId))
    (rejected "provider_session_mismatch"
      "A reused provider session must preserve its durable identity.")

/-- A reused runtime keeps these statuses. -/
def AgentRuntimeStatus.isReusable : AgentRuntimeStatus → Bool
  | .idle | .busy | .paused => true
  | _ => false

def applyRuntimeStarted (session : DurableAgentSession) (started : AgentRuntimeStarted) :
    DurableAgentSession :=
  { session with
    status := .attached
    enabled := true
    runtimeStatus :=
      if started.runtimeReused && AgentRuntimeStatus.isReusable session.runtimeStatus
      then session.runtimeStatus else .idle
    providerSessionActive := started.providerSessionActive
    providerSessionReused := started.providerSessionReused
    lastError := ""
    lastErrorCode := ""
    recoveryRequired := false
    runtime := started.runtime
    providerSessionId := if started.providerSessionId = "" then session.providerSessionId
      else started.providerSessionId }.clearIntent

/-- The event that shows a participant joining with its runtime. -/
def joinedEvents (principal : AuthenticatedPrincipal) (session : DurableAgentSession)
    (participant : Participant) (now : Nat) : RoomTx (List RoomEvent) :=
  if participant.status = .joined then
    pure []
  else do
    let joined ← appendSessionEvent principal session "participant_joined" none {} now
    pure [joined]

/-- Commits the observed provider start. -/
def completeAgentLaunch (request : LifecycleRequest) (started : AgentRuntimeStarted)
    (now : Nat) : RoomTx AgentTurnCommit := do
  requireLaunchAction request
  let _ ← loadActiveParticipant request.principal.participantId
  let session ← loadLaunchSession request.agentId
  validateRuntimeStarted session started
  requireIntent session .start request.operationId .effectInflight "stale_start_confirmation"
  finishLifecycleCommand request
  let launched := applyRuntimeStarted session started
  saveSession launched
  let participant ← loadAgentParticipant request.agentId
  saveParticipantExact participant.participantId { participant with status := .joined }
  let joined ← joinedEvents request.principal launched participant now
  let attached ← appendSessionEvent request.principal launched "session_attached" none {} now
  let state ← appendStateEvent request.principal launched now
  pure { events := joined ++ [attached, state], nextAssignments := [] }

/-! ## Failed launches -/

variable [TextServices]

def publicLifecycleErrorLimit : Nat := 512

def redactedOr (message fallback : String) : String :=
  let redacted := redactPersistedDiagnosticText message publicLifecycleErrorLimit
  if redacted = "" then fallback else redacted

/-- The session after a definite launch rejection. -/
def launchFailedSession (session : DurableAgentSession) (errorCode message : String)
    (clearRuntimeIdentity : Bool) : DurableAgentSession :=
  let unavailable := clearRuntimeIdentity || session.runtime == .none
  { session with
    status := if unavailable then .unavailable else session.status
    enabled := if unavailable then false else session.enabled
    runtimeStatus := if unavailable then .error else session.runtimeStatus
    providerSessionActive := if unavailable then false else session.providerSessionActive
    lastError := redactedOr message "Provider launch failed."
    lastErrorCode := errorCode
    runtime := if clearRuntimeIdentity then .none else session.runtime }.clearIntent

def commitAgentLaunchFailure (request : LifecycleRequest)
    (errorCode message : String) (expectedStatus : AgentLifecycleIntentStatus)
    (clearRuntimeIdentity : Bool) (now : Nat) : RoomTx AgentTurnCommit := do
  let _ ← loadActiveParticipant request.principal.participantId
  let session ← loadSession request.agentId
  requireIntent session .start request.operationId expectedStatus "stale_start_confirmation"
  let failed := launchFailedSession session errorCode message clearRuntimeIdentity
  rejectLifecycleCommand request failed.lastErrorCode failed.lastError
  saveSession failed
  let error ← appendErrorEvent request.principal failed errorCode failed.lastError now
  let state ← appendStateEvent request.principal failed now
  pure { events := [error, state], nextAssignments := [] }

/-- Rejects a launch before its external effect was authorized. -/
def failAgentStartBeforeEffect (request : LifecycleRequest) (errorCode message : String)
    (now : Nat) : RoomTx AgentTurnCommit :=
  commitAgentLaunchFailure request errorCode message .prepared false now

/-- Rejects a launch whose external effect definitely failed. -/
def failAgentLaunch (request : LifecycleRequest) (errorCode message : String) (now : Nat) :
    RoomTx AgentTurnCommit :=
  commitAgentLaunchFailure request errorCode message .effectInflight true now

def startUnconfirmedSession (session : DurableAgentSession) (errorCode message : String) :
    DurableAgentSession :=
  { session with
    status := .unavailable
    enabled := false
    runtimeStatus := .disconnected
    providerSessionActive := false
    providerSessionReused := false
    lastError := redactedOr message "Provider launch could not be confirmed."
    lastErrorCode := errorCode
    recoveryRequired := true
    lifecycleIntentStatus := .unconfirmed }

omit [OperationHash] in
/-- Retains a start operation whose process may have been created. -/
def markAgentStartUnconfirmed (principal : AuthenticatedPrincipal)
    (agentId operationId runtimeHandleId runtimeOwnerId errorCode message : String)
    (now : Nat) : RoomTx AgentTurnCommit := do
  let _ ← loadActiveParticipant principal.participantId
  let session ← loadSession agentId
  requireIntent session .start operationId .effectInflight "stale_start_confirmation"
  require (runtimeHandleId ≠ "" ∧ runtimeOwnerId ≠ "" ∧
      runtimeHandleId = session.runtime.handleId ∧ runtimeOwnerId = session.runtime.ownerId)
    (rejected "runtime_owner_mismatch"
      "Unconfirmed provider start does not match its durable runtime authority.")
  let unconfirmed := startUnconfirmedSession session errorCode message
  saveSession unconfirmed
  let error ← appendErrorEvent principal unconfirmed errorCode unconfirmed.lastError now
  let state ← appendStateEvent principal unconfirmed now
  pure { events := [error, state], nextAssignments := [] }

/-! ## Stopping -/

omit [UuidSource] [OperationHash] [TextServices] in
/-- A start failure or a terminal turn already proved that the runtime exited. -/
def failedSessionHasConfirmedRuntimeExit (session : DurableAgentSession) : RoomTx Bool :=
  if session.runtimeStatus ≠ .error ∨ session.providerSessionActive = true ∨
      session.runtime ≠ .none then
    pure false
  else do
    let active ← orReject (activeTurnAuthority session) invalidStopTurn
    if active then
      pure false
    else if session.status = .unavailable ∧ session.enabled = false ∧
        session.recoveryRequired = false then
      pure true
    else if session.recoveryRequired = false ∨ session.turnGeneration = 0 then
      pure false
    else do
      let execution ← loadExecutionIn session.sessionId session.turnGeneration
      pure (execution.phase == .failed &&
        execution.participantId == session.participantId &&
        decide execution.runtime.Complete)

def agentStopRequiresCleanup (session : DurableAgentSession) : Bool :=
  session.runtimeStatus != .stopped || session.runtime != .none ||
    !session.lifecycleIntentIsEmpty

def runtimeHandleUnavailable : PersistenceError :=
  rejected "runtime_handle_unavailable"
    "Provider shutdown requires an exact handle owned by the current supervisor."

def withStopIntent (session : DurableAgentSession) (operationId : String) (exited : Bool) :
    DurableAgentSession :=
  { session with
    lifecycleIntentAction := .stop
    lifecycleIntentId := operationId
    lifecycleIntentStatus := if exited then .effectApplied else .prepared }

/-- The plan of a stop that was prepared before. -/
def resumeStopIntent (session : DurableAgentSession) (operationId : String) : RoomTx Unit := do
  require (session.lifecycleIntentAction = .stop ∧ session.lifecycleIntentId = operationId)
    operationInProgress
  match session.lifecycleIntentStatus with
  | .effectApplied => pure ()
  | .prepared => require session.runtime.Complete runtimeHandleUnavailable
  | .effectInflight | .unconfirmed => throw lifecycleUnresolved
  | .none => throw (rejected "invalid_state" "Stored provider stop intent is invalid.")

omit [TextServices] in
/-- Records a stop intent before the provider supervisor is called. -/
def prepareAgentStop (request : LifecycleRequest) (now : Nat) : RoomTx AgentTurnCommit := do
  authorizeControl request.principal
  require (request.action = stopAction)
    (rejected "bad_request" "The Agent Session stop action is invalid.")
  let _ ← loadActiveParticipant request.principal.participantId
  let session ← loadSession request.agentId
  requireValidTurnAuthority session
  claimLifecycleCommand request
  if agentStopRequiresCleanup session = false then do
    finishLifecycleCommand request
    let state ← appendStateEvent request.principal session now
    pure { events := [state], nextAssignments := [] }
  else do
    require (session.hasServerCustody = true) externalRuntimeOwned
    if session.lifecycleIntentIsEmpty = false then do
      resumeStopIntent session request.operationId
      pure { events := [], nextAssignments := [] }
    else do
      let exited ← failedSessionHasConfirmedRuntimeExit session
      saveSession (withStopIntent session request.operationId exited)
      require (exited = true ∨ session.runtime.Complete) runtimeHandleUnavailable
      pure { events := [], nextAssignments := [] }

/-- Rejects a prepared stop without claiming that the live runtime stopped. -/
def failAgentStopBeforeEffect (request : LifecycleRequest) (errorCode message : String)
    (now : Nat) : RoomTx AgentTurnCommit := do
  let session ← loadSession request.agentId
  requireIntent session .stop request.operationId .prepared "stale_stop_confirmation"
  let redacted := redactPersistedDiagnosticText message publicLifecycleErrorLimit
  rejectLifecycleCommand request errorCode redacted
  let kept := { session.clearIntent with lastError := redacted, lastErrorCode := errorCode }
  saveSession kept
  let error ← appendErrorEvent request.principal kept errorCode redacted now
  let state ← appendStateEvent request.principal kept now
  pure { events := [error, state], nextAssignments := [] }

omit [UuidSource] [TextServices] in
/-- Authorizes one exact stop effect before provider I/O. -/
def authorizeAgentStopEffect (request : LifecycleRequest) : RoomTx Unit := do
  let _ ← loadActiveParticipant request.principal.participantId
  requireOwnedReservation request
  let session ← loadSession request.agentId
  requireIntent session .stop request.operationId .prepared "stale_stop_authorization"
  require session.runtime.Complete runtimeHandleUnavailable
  saveSession { session with
    runtimeStatus := .stopping
    enabled := false
    lifecycleIntentStatus := .effectInflight }

omit [OperationHash] [TextServices] in
/-- Records a confirmed shutdown before the final state is written. -/
def recordAgentStopEffect (sessionId operationId : String) (now : Nat) : RoomTx Unit := do
  let session ← loadSession sessionId
  let expected := if session.lifecycleIntentStatus = .effectApplied
    then AgentLifecycleIntentStatus.effectApplied else .effectInflight
  requireIntent session .stop operationId expected "stale_stop_confirmation"
  let _ ← terminalizeConfirmedStopTurn session now
  saveSession { session with lifecycleIntentStatus := .effectApplied }

/-- The session whose stop stayed ambiguous; an active turn keeps its tuple. -/
def stopUnconfirmedSession (session : DurableAgentSession) (errorCode message : String) :
    DurableAgentSession :=
  { session with
    status := .unavailable
    enabled := false
    lastError := redactedOr message "Provider shutdown could not be confirmed."
    lastErrorCode := errorCode
    recoveryRequired := true
    lifecycleIntentStatus := .unconfirmed }

omit [OperationHash] in
/-- Makes an ambiguous stop visible without claiming success. -/
def markAgentStopUnconfirmed (principal : AuthenticatedPrincipal)
    (agentId operationId errorCode message : String) (now : Nat) :
    RoomTx AgentTurnCommit := do
  let _ ← loadActiveParticipant principal.participantId
  let session ← loadSession agentId
  requireIntent session .stop operationId .effectInflight "stale_stop_confirmation"
  let active ← orReject (activeTurnAuthority session) invalidTurnQueue
  let disconnected ←
    if active then
      pure session
    else do
      let pending ← mergedTurnQueue session
      pure { restoreQueue session pending with
        runtimeStatus := .disconnected
        providerSessionActive := false
        providerSessionReused := false }
  let unconfirmed := stopUnconfirmedSession disconnected errorCode message
  saveSession unconfirmed
  let participant ← loadAgentParticipant agentId
  saveParticipantExact participant.participantId participant.detachRuntime
  let error ← appendErrorEvent principal unconfirmed errorCode unconfirmed.lastError now
  let state ← appendStateEvent principal unconfirmed now
  pure { events := [error, state], nextAssignments := [] }

/-- The restored session after its stop was confirmed. -/
def detachedSession (session : DurableAgentSession) (pending : List QueuedRoomInput) :
    DurableAgentSession :=
  { restoreQueue session pending with
    status := .detached
    enabled := false
    runtimeStatus := .stopped
    providerSessionActive := false
    lastError := ""
    lastErrorCode := ""
    recoveryRequired := false
    runtime := .none }.clearIntent

omit [OperationHash] [TextServices] in
def detachConfirmedSession (principal : AuthenticatedPrincipal) (agentId : String)
    (session : DurableAgentSession) (now : Nat) : RoomTx (List RoomEvent) := do
  let pending ← mergedTurnQueue session
  let detached := detachedSession session pending
  saveSession detached
  let participant ← loadAgentParticipant agentId
  saveParticipantExact participant.participantId participant.detachRuntime
  let event ← appendSessionEvent principal detached "session_detached" none
    { reason := some "operator stop" } now
  let state ← appendStateEvent principal detached now
  pure [event, state]

/-- Finalizes a confirmed stop and moves the floor. -/
def finalizeAgentStop (request : LifecycleRequest) (now : Nat) : RoomTx AgentTurnCommit := do
  let _ ← loadActiveParticipant request.principal.participantId
  let (room, settings) ← loadActiveRoom
  let session ← loadSession request.agentId
  requireIntent session .stop request.operationId .effectApplied "stale_stop_confirmation"
  finishLifecycleCommand request
  let events ← detachConfirmedSession request.principal request.agentId session now
  let scheduled ← assignPendingIn room settings now
  pure { scheduled with events := events ++ scheduled.events }

end Launch

end AgentsAssemble.Persistence
