import AgentsAssemble.Persistence.Execution
import AgentsAssemble.Persistence.Votes

/-!
# Turn completion

The four ways a provider ends its own turn: a room message, a vote, an explicit
decline and a failure.  The first three consume the inflight inputs, the last
one puts them back.
-/

namespace AgentsAssemble.Persistence

open Foundation Domain Tx

def staleTurn : PersistenceError :=
  rejected "stale_provider_turn"
    "Provider turn completion does not match durable room authority."

def requireActiveTurn (session : DurableAgentSession) (turnId : String) : RoomTx Unit := do
  let active ← ofResult (turnAuthorityIsActive session)
  require (turnId ≠ "" ∧ turnId = session.activeTurnId ∧ active = true) staleTurn

@[simp] theorem commits_requireActiveTurn {session : DurableAgentSession} {turnId : String}
    {u : Unit} {s s' : Store} :
    Commits (requireActiveTurn session turnId) s u s' ↔
      activeTurnAuthority session = some true ∧ turnId ≠ "" ∧ turnId = session.activeTurnId ∧
        s' = s := by
  simp only [requireActiveTurn, commits_bind, commits_ofResult, commits_require]
  constructor
  · rintro ⟨active, _, ⟨hactive, rfl⟩, ⟨hne, hid, rfl⟩, rfl⟩
    rw [turnAuthorityIsActive] at hactive
    split at hactive
    · rename_i heq
      rw [heq, Except.ok.inj hactive]
      exact ⟨rfl, hne, hid, rfl⟩
    · cases hactive
  · rintro ⟨hactive, hne, hid, rfl⟩
    exact ⟨true, _, ⟨by rw [turnAuthorityIsActive, hactive], rfl⟩, ⟨hne, hid, rfl⟩, rfl⟩

/-- The inflight cursor names a stored event with exactly its sequence. -/
def inputCursorIsValid (events : List RoomEvent) (session : DurableAgentSession) :
    Except PersistenceError Bool := do
  let found ← findEvent events session.inputUpToEventId
  pure (0 < session.inputUpToSeq && found.any fun event => event.seq == session.inputUpToSeq)

def validateInputCursor (session : DurableAgentSession) : RoomTx Unit := do
  let checked ← read fun s => inputCursorIsValid s.events session
  let valid ← ofResult checked
  require (valid = true) (rejected "provider_sync_cursor_mismatch"
    "The active provider input cursor is outside canonical room history.")

def validateIdentifier (value code : String) : RoomTx Unit :=
  require (isProviderTurnId value = true) (rejected code "Provider turn identity is invalid.")

/-- A provider may only confirm the session id it already holds. -/
def applyProviderSessionTransition (session : DurableAgentSession)
    (providerSessionId : Option String) : Except PersistenceError DurableAgentSession :=
  match providerSessionId with
  | none => .ok session
  | some next =>
      if next = "" ∨ 200 < next.utf8ByteSize ∨ trim next ≠ next ∨
          next.toList.any isControl = true ∨ next ≠ session.providerSessionId then
        .error (rejected "provider_session_invalid"
          "The provider session transition is invalid.")
      else
        .ok { session with providerSessionId := next, providerSessionActive := true }

/-- The session after it consumed its inflight inputs. -/
def completeSessionState (session : DurableAgentSession) (inputEventId : String)
    (inputSeq : Nat) : DurableAgentSession :=
  { session with
    status := .attached
    runtimeStatus := .idle
    turnPhase := .none
    activeTurnId := ""
    lastSeenEventId := inputEventId
    lastSeenSeq := inputSeq
    lastProviderSyncEventId := inputEventId
    lastProviderSyncSeq := inputSeq
    turnCount := session.turnCount + 1
    lastError := ""
    lastErrorCode := ""
    recoveryRequired := false
    inflightInputs := [] }.clearActiveTurnFields

def invalidPublication (message : String) : PersistenceError :=
  rejected "room_portal_publication_invalid" message

def validatePublicationTarget (session : DurableAgentSession) (targetAgentId : String) :
    RoomTx Unit :=
  if targetAgentId = "" then
    pure ()
  else do
    require (targetAgentId ≠ session.sessionId ∧ targetAgentId.utf8ByteSize ≤ 128 ∧
        trim targetAgentId = targetAgentId ∧ targetAgentId.toList.any isControl = false)
      (invalidPublication "The RoomPortal handoff target is invalid.")
    let sessions ← read Store.sessions
    require (sessions.lookup targetAgentId ≠ none)
      (invalidPublication "The RoomPortal handoff target does not exist.")
    let target ← loadSession targetAgentId
    let participant ← loadParticipant target.participantId
    require (participant.status ≠ .kicked ∧ participant.muted = false)
      (invalidPublication "The RoomPortal handoff target cannot receive the ordered floor.")

/-- The acting principal of a provider that votes through the room portal. -/
def providerRoomPrincipal (session : DurableAgentSession) (participant : Participant) :
    Except PersistenceError AuthenticatedPrincipal :=
  if participant.status ≠ .joined ∨ participant.muted ∨
      participant.participantType ≠ "agent" ∨
      participant.participantId ≠ session.participantId then
    .error (rejected "stale_provider_turn"
      "Room tool authority no longer matches an active Agent Session participant.")
  else
    .ok
      { principalId := session.sessionId
        participantId := participant.participantId
        displayName := participant.displayName
        clientKind := .agentBridge
        isOperator := false
        capabilities :=
          { messageSend := false
            messageModify := false
            bridgePublish := true
            participantMute := false
            agentControl := false } }

def publicErrorCode (value : String) : String :=
  if ["provider_turn_cancelled", "provider_turn_timeout", "provider_model_mismatch",
      "provider_runtime_exited", "provider_runtime_restart_required",
      "room_observation_unconfirmed", "room_portal_publication_missing"].contains value then
    value
  else if ["provider_protocol_invalid", "provider_protocol_mismatch"].contains value then
    "provider_protocol_invalid"
  else
    "provider_turn_failed"

section Completion

variable [UuidSource] [TextServices]

/-- The room message of a completed turn. -/
def agentFinalEventOf (s : Store) (session : DurableAgentSession)
    (turnId providerTurnId sourceEventId content targetAgentId : String) (now : Nat) :
    RoomEvent :=
  internalEventOf s session "message_final" true (some content)
    { sessionId := some session.sessionId
      turnId := some turnId
      providerTurnId := some providerTurnId
      sourceEventId := some sourceEventId
      targetAgentId := some targetAgentId
      messageSource := some "room_portal" } now

def agentFinalEvent (session : DurableAgentSession)
    (turnId providerTurnId sourceEventId content targetAgentId : String) (now : Nat) :
    RoomTx RoomEvent := do
  require (session.inflightInputs ≠ []) (rejected "stored_turn_authority_invalid"
    "Active provider turn has no canonical input provenance.")
  internalEvent session "message_final" true (some content)
    { sessionId := some session.sessionId
      turnId := some turnId
      providerTurnId := some providerTurnId
      sourceEventId := some sourceEventId
      targetAgentId := some targetAgentId
      messageSource := some "room_portal" } now

/-! ## Finalization -/

inductive ProviderTurnDisposition
  | completed (routeFirstEvent : Bool)
  | declined (reasonCode : String)
  | rejected (errorCode message : String)
  deriving DecidableEq, Repr

structure ProviderTurnFinalization where
  room : Room
  settings : RoomSettings
  turnId : String
  providerTurnId : String
  disposition : ProviderTurnDisposition
  deriving DecidableEq, Repr

def ProviderTurnDisposition.status : ProviderTurnDisposition → String
  | .completed _ => "completed"
  | .declined _ => "declined"
  | .rejected _ _ => "error"

def ProviderTurnDisposition.reasonCode : ProviderTurnDisposition → Option String
  | .completed _ => none
  | .declined reasonCode => some reasonCode
  | .rejected errorCode _ => some errorCode

def ProviderTurnDisposition.routesFirstEvent : ProviderTurnDisposition → Bool
  | .completed routeFirstEvent => routeFirstEvent
  | _ => false

/-- The error event a rejected disposition adds to the published events. -/
def dispositionEvents (session : DurableAgentSession) (turnId : String)
    (disposition : ProviderTurnDisposition) (now : Nat) : RoomTx (List RoomEvent) :=
  match disposition with
  | .rejected errorCode message => do
      let error ← errorEvent session turnId errorCode message now
      pure [error]
  | _ => pure []

/-- Consumes the inflight inputs, routes the published event and moves the floor. -/
def ProviderTurnFinalization.apply (finalization : ProviderTurnFinalization)
    (session : DurableAgentSession) (published : List RoomEvent) (seed now : Nat) :
    RoomTx AgentTurnCommit := do
  let errors ← dispositionEvents session finalization.turnId finalization.disposition now
  let finished ← turnFinishedEvent session finalization.turnId
    finalization.disposition.status (some finalization.providerTurnId)
    finalization.disposition.reasonCode now
  let completed := completeSessionState session session.inputUpToEventId session.inputUpToSeq
  saveSession completed
  let state ← sessionStateEvent completed now
  let events := published ++ errors
  if finalization.disposition.routesFirstEvent then do
    let event ← orReject events.head? (Persistence.rejected "stored_turn_authority_invalid"
      "A routed provider completion has no canonical room event.")
    routeMessage finalization.settings event seed
  let commit ← assignPendingIn finalization.room finalization.settings now
  pure { commit with events := events ++ [finished, state] ++ commit.events }

/-! ## Completing, declining and failing -/

def completeMessage (sessionId : String) (authority : ProviderTurnAuthority)
    (content targetAgentId : String) (seed now : Nat) : RoomTx AgentTurnCommit := do
  validateIdentifier authority.providerTurnId "provider_turn_invalid"
  let content := cleanMessage content maxMessageCharacters
  require (hasVisibleText content = true) (rejected "provider_turn_output_missing"
    "The provider turn completed without a room-visible final message.")
  let (room, settings) ← loadActiveRoom
  let session ← loadSession sessionId
  requireActiveTurn session authority.turnId
  terminalizeOrdinaryExecution session authority .completed
  validateInputCursor session
  validatePublicationTarget session targetAgentId
  let session ← ofResult (applyProviderSessionTransition session authority.providerSessionId)
  let event ← agentFinalEvent session authority.turnId authority.providerTurnId
    session.activeSourceEventId content targetAgentId now
  ProviderTurnFinalization.apply
    { room, settings
      turnId := authority.turnId
      providerTurnId := authority.providerTurnId
      disposition := .completed true } session [event] seed now

def VoteCommand.bindsAttachments : VoteCommand → Bool
  | .create poll => poll.attachmentIds != []
  | _ => false

def VoteCommand.isCreate : VoteCommand → Bool
  | .create _ => true
  | _ => false

variable [CaseFold]

/-- What the vote of a turn came to: its event, or the terminal rejection. -/
def voteDisposition (command : VoteCommand) :
    Except PersistenceError RoomEvent → Except PersistenceError
      (OrdinaryOutcome × ProviderTurnDisposition × List RoomEvent)
  | .ok event => .ok (.completed, .completed (VoteCommand.isCreate command), [event])
  | .error error =>
      match error with
      | .commandRejected code message =>
          if isTerminalVoteRejection error then
            .ok (.failed, .rejected code message, [])
          else
            .error error
      | _ => .error error

def completeVote (sessionId : String) (authority : ProviderTurnAuthority)
    (command : VoteCommand) (seed now : Nat) : RoomTx AgentTurnCommit := do
  validateIdentifier authority.providerTurnId "provider_turn_invalid"
  require (VoteCommand.bindsAttachments command = false)
    (rejected "invalid_vote" "Agent Session votes cannot bind browser upload custody.")
  let (room, settings) ← loadActiveRoom
  let session ← loadSession sessionId
  requireActiveTurn session authority.turnId
  validateInputCursor session
  let session ← ofResult (applyProviderSessionTransition session authority.providerSessionId)
  let participant ← loadParticipant session.participantId
  let principal ← ofResult (providerRoomPrincipal session participant)
  let sequence ← nextSequence
  -- Every terminal rejection is raised before the vote's first write.
  let result ← attempt (applyVoteCommand principal participant command sequence now)
  let (outcome, disposition, published) ← ofResult (voteDisposition command result)
  terminalizeOrdinaryExecution session authority outcome
  ProviderTurnFinalization.apply
    { room, settings
      turnId := authority.turnId
      providerTurnId := authority.providerTurnId
      disposition } session published seed now

def isDeclineReason (reasonCode : String) : Bool :=
  ["nothing_useful_to_add", "not_addressed", "duplicate"].contains reasonCode

omit [CaseFold] in
def decline (sessionId : String) (authority : ProviderTurnAuthority) (reasonCode : String)
    (seed now : Nat) : RoomTx AgentTurnCommit := do
  validateIdentifier authority.providerTurnId "provider_turn_invalid"
  require (isDeclineReason reasonCode = true)
    (rejected "invalid_decline_reason" "The provider decline reason is unsupported.")
  let (room, settings) ← loadActiveRoom
  let session ← loadSession sessionId
  requireActiveTurn session authority.turnId
  terminalizeOrdinaryExecution session authority .declined
  validateInputCursor session
  let session ← ofResult (applyProviderSessionTransition session authority.providerSessionId)
  ProviderTurnFinalization.apply
    { room, settings
      turnId := authority.turnId
      providerTurnId := authority.providerTurnId
      disposition := .declined reasonCode } session [] seed now

/-- The session without the runtime whose shutdown the provider confirmed. -/
def confirmRuntimeStop (session : DurableAgentSession)
    (confirmedRuntimeStop : Option RuntimeIdentity) :
    Except PersistenceError DurableAgentSession :=
  match confirmedRuntimeStop with
  | none => .ok session
  | some runtime =>
      if runtime.Complete ∧ session.runtime = runtime then
        .ok { session with
          runtime := .none
          providerSessionActive := false
          providerSessionReused := false }
      else
        .error (rejected "stale_provider_turn"
          "Confirmed provider shutdown does not match durable turn authority.")

def failureMessage (message : String) : String :=
  let cleaned := cleanMessage (redactPersistedDiagnosticText message 512) 512
  if hasVisibleText cleaned then cleaned else "Provider turn failed."

omit [CaseFold] in
def fail (sessionId : String) (authority : ProviderTurnAuthority) (errorCode message : String)
    (confirmedRuntimeStop : Option RuntimeIdentity) (now : Nat) : RoomTx AgentTurnCommit := do
  let (room, settings) ← loadActiveRoom
  let session ← loadSession sessionId
  requireActiveTurn session authority.turnId
  terminalizeOrdinaryExecution session authority .failed
  let session ← ofResult (confirmRuntimeStop session confirmedRuntimeStop)
  let code := publicErrorCode errorCode
  let error ← errorEvent session authority.turnId code (failureMessage message) now
  let finished ← turnFinishedEvent session authority.turnId "error" none none now
  let pending ← mergedTurnQueue session
  let failed := failedSession session pending code (failureMessage message)
  saveSession failed
  let state ← sessionStateEvent failed now
  let commit ← assignPendingIn room settings now
  pure { commit with events := [error, finished, state] ++ commit.events }

end Completion

end AgentsAssemble.Persistence
