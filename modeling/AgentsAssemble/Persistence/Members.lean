import AgentsAssemble.Persistence.Lifecycle

/-!
# Members

What happens to an agent as a member of the room: muting and unmuting, an
operator's interrupt, and the cleanup of a removed agent's runtime.
-/

namespace AgentsAssemble.Persistence

open Foundation Domain Tx

/-! ## Muting -/

structure ParticipantMute where
  participantId : String
  muted : Bool
  deriving DecidableEq, Repr

def storedParticipantInvalid (message : String) : PersistenceError :=
  rejected "stored_participant_invalid" message

def parseMute (update : ParticipantMute) : RoomTx Unit :=
  require (canonicalBoundedId update.participantId 128 = true)
    (rejected "invalid_participant_mute" "participant_id is invalid.")

/-- The one session that belongs to an agent participant. -/
def sessionForParticipant (sessions : List DurableAgentSession) (participantId : String) :
    Except PersistenceError DurableAgentSession :=
  match sessions.filter fun session => session.participantId == participantId with
  | [] => .error (rejected "agent_session_missing"
      "The canonical Agent participant has no Agent Session authority.")
  | [session] => .ok session
  | _ => .error (rejected "agent_session_ambiguous"
      "More than one Agent Session owns the same room participant.")

/-- The session a mute acts on: none for a human. -/
def mutedSession (participant : Participant) : RoomTx (Option DurableAgentSession) :=
  if participant.participantType = "human" then
    pure none
  else if participant.participantType = "agent" then do
    let sessions ← loadRoomSessions
    let session ← ofResult (sessionForParticipant sessions participant.participantId)
    pure (some session)
  else
    throw (storedParticipantInvalid "Stored participant type is not canonical.")

section Mute

variable [UuidSource]

def mutedEventOf (s : Store) (principal : AuthenticatedPrincipal) (participant : Participant)
    (now : Nat) : RoomEvent :=
  { id := UuidSource.newV4 s.uuids
    seq := nextSeq s.events
    createdAt := now
    eventType := "participant_muted"
    actor := ⟨principal.participantId, "human"⟩
    participantId := some participant.participantId
    participantType := some participant.participantType
    actorId := some principal.participantId
    actorType := some "human"
    displayName := some participant.displayName
    extra := { muted := some participant.muted } }

def publishMutedEvent (principal : AuthenticatedPrincipal) (participant : Participant)
    (now : Nat) : RoomTx RoomEvent := do
  let event ← read fun s => mutedEventOf s principal participant now
  let _ ← drawUuid
  insertEvent event
  pure event

@[simp] theorem commits_publishMutedEvent {principal : AuthenticatedPrincipal}
    {participant : Participant} {now : Nat} {e : RoomEvent} {s s' : Store} :
    Commits (publishMutedEvent principal participant now) s e s' ↔
      e = mutedEventOf s principal participant now ∧ s' = s.publish e := by
  simp only [publishMutedEvent, commits_bind, commits_read, commits_drawUuid,
    commits_insertEvent, commits_pure, Store.publish]
  constructor
  · rintro ⟨e', s₁, ⟨rfl, rfl⟩, id, s₂, ⟨rfl, rfl⟩, _, s₃, ⟨-, rfl⟩, rfl, rfl⟩
    exact ⟨rfl, rfl⟩
  · rintro ⟨rfl, rfl⟩
    refine ⟨_, _, ⟨rfl, rfl⟩, _, _, ⟨rfl, rfl⟩, (), _, ⟨⟨?_, ?_⟩, rfl⟩, rfl, rfl⟩
    · simp [mutedEventOf, nextSeq]
    · intro stored hstored
      exact Nat.ne_of_lt (seq_lt_nextSeq hstored)

variable [TextServices]

/-- What a mute left behind: its commit and the interrupt the host must issue. -/
structure ParticipantMuteMutation where
  commit : AgentTurnCommit
  hostInterruptEffect : Option ProviderTurnInterruptEffect
  deriving DecidableEq, Repr

/-- Prepares the interrupt of a muted agent's turn, or wakes an unmuted agent. -/
def muteAgentSession (session : DurableAgentSession) (muted : Bool) (now : Nat) :
    RoomTx ParticipantMuteMutation := do
  require (session.isExternal = true ∨ session.hasServerCustody = true) externalRuntimeOwned
  if muted then do
    let active ← ofResult (turnAuthorityIsActive session)
    if active then do
      let execution ← loadExecutionIn session.sessionId session.turnGeneration
      let effect ← prepareInterruptEffect execution .participantMuted
      pure { commit := ⟨[], []⟩
             hostInterruptEffect := if session.isExternal then none else some effect }
    else
      pure { commit := ⟨[], []⟩, hostInterruptEffect := none }
  else do
    saveSession { session with scheduleRequested := true }
    let (room, settings) ← loadActiveRoom
    let commit ← assignPendingIn room settings now
    pure { commit, hostInterruptEffect := none }

def executeParticipantMute (principal : AuthenticatedPrincipal) (update : ParticipantMute)
    (now : Nat) : RoomTx ParticipantMuteMutation := do
  let _ ← loadActiveParticipant principal.participantId
  require (principal.capabilities.participantMute = true)
    (rejected "permission_denied" "This room session cannot mute participants.")
  parseMute update
  let participants ← read Store.participants
  let participant ← orReject (participants.lookup update.participantId)
    (rejected "participant_not_found" "The participant does not exist in this room.")
  require (participant.participantId = update.participantId)
    (storedParticipantInvalid "Stored participant identity does not match its room key.")
  require (participant.status = .joined)
    (rejected "participant_not_active" "Only a joined room participant can be muted.")
  let session ← mutedSession participant
  let participant := { participant with muted := update.muted }
  saveParticipantExact participant.participantId participant
  let event ← publishMutedEvent principal participant now
  match session with
  | none => pure { commit := ⟨[event], []⟩, hostInterruptEffect := none }
  | some session => do
      let mutation ← muteAgentSession session update.muted now
      pure { mutation with
        commit := { mutation.commit with events := event :: mutation.commit.events } }

end Mute

/-! ## Interrupting -/

/-- The session owns a busy turn of a joined, unmuted agent. -/
def IsBusySession (session : DurableAgentSession) (participant : Participant) : Prop :=
  session.status = .attached ∧ session.runtimeStatus = .busy ∧ session.enabled = true ∧
    session.providerSessionActive = true ∧ session.providerSessionId ≠ "" ∧
    participant.status = .joined ∧ participant.muted = false

instance (session : DurableAgentSession) (participant : Participant) :
    Decidable (IsBusySession session participant) :=
  inferInstanceAs (Decidable (_ ∧ _ ∧ _ ∧ _ ∧ _ ∧ _ ∧ _))

/-- The execution is the session's own turn, before or during its provider I/O. -/
def IsInterruptible (session : DurableAgentSession) (execution : ProviderTurnExecution)
    (agentId : String) : Prop :=
  activeTurnAuthority session = some true ∧ session.lifecycleIntentIsEmpty = true ∧
    session.runtime.Complete ∧ execution.sessionId = agentId ∧
    execution.participantId = agentId ∧ execution.turnGeneration = session.turnGeneration ∧
    execution.turnId = session.activeTurnId ∧ execution.runtime = session.runtime ∧
    execution.phase.isInterruptible = true

instance (session : DurableAgentSession) (execution : ProviderTurnExecution)
    (agentId : String) : Decidable (IsInterruptible session execution agentId) :=
  inferInstanceAs (Decidable (_ ∧ _ ∧ _ ∧ _ ∧ _ ∧ _ ∧ _ ∧ _ ∧ _))

def loadInterruptibleSession (agentId : String) :
    RoomTx (DurableAgentSession × ProviderTurnExecution) := do
  let session ← loadSession agentId
  let participant ← loadAgentParticipant session.participantId
  require (IsBusySession session participant) (rejected "agent_not_busy"
    "The Agent Session does not own an interruptible busy turn.")
  let attendees ← read Store.interruptAttendees
  require (session.isExternal = false ∨ attendees.contains agentId = true)
    (rejected "provider_turn_interrupt_unsupported"
      "The external runtime has not reported retained-turn interrupt capability.")
  require (session.isExternal = true ∨ session.hasServerCustody = true) externalRuntimeOwned
  let execution ← loadExecutionIn agentId session.turnGeneration
  let effect ← loadOptionalEffectIn agentId session.turnGeneration
  require (effect = none) (rejected "provider_turn_interrupt_in_progress"
    "The exact provider turn already has an interrupt owner.")
  require (IsInterruptible session execution agentId) (rejected "stale_provider_turn"
    "The provider turn no longer matches durable room authority.")
  pure (session, execution)

section Interrupt

variable [UuidSource]

/-- Accepts an operator's interrupt of one exact busy turn. -/
def executeAgentInterrupt (principal : AuthenticatedPrincipal) (agentId : String)
    (now : Nat) : RoomTx ParticipantMuteMutation := do
  authorizeControl principal
  let _ ← loadActiveParticipant principal.participantId
  let (session, execution) ← loadInterruptibleSession agentId
  let effect ← prepareInterruptEffect execution .agentInterrupt
  saveSession session
  let event ← appendStateEvent principal session now
  pure { commit := ⟨[event], []⟩
         hostInterruptEffect := if session.externalOwned then none else some effect }

end Interrupt

/-! ## Cleanup -/

/-- Removes an agent: its pending inputs go, its running turn is left to recovery. -/
def requestRuntimeCleanup (sessionId : String) : RoomTx Unit := do
  let session ← loadSession sessionId
  requireValidTurnAuthority session
  write fun s => { s with
    cleanup := if s.cleanup.contains sessionId then s.cleanup else sessionId :: s.cleanup }
  saveSession { session with
    enabled := false
    status := .detached
    scheduleRequested := false
    pendingInputs := [] }

/-- Nothing of the runtime or of its last turn is left. -/
def HasNoCustody (session : DurableAgentSession) : Prop :=
  session.lifecycleIntentIsEmpty = true ∧
    (session.runtimeStatus = .stopped ∨ session.runtimeStatus = .error) ∧
    session.recoveryRequired = false ∧ session.providerSessionActive = false ∧
    session.providerSessionReused = false ∧ session.runtime = .none ∧
    session.activeTurnId = ""

instance (session : DurableAgentSession) : Decidable (HasNoCustody session) :=
  inferInstanceAs (Decidable (_ ∧ (_ ∨ _) ∧ _ ∧ _ ∧ _ ∧ _ ∧ _))

/-- The session of a finished removal. -/
def cleanedSession (session : DurableAgentSession) (participant : Participant) :
    DurableAgentSession :=
  { session with
    status := if participant.status = .joined then .available else .detached
    runtimeStatus := .stopped
    enabled := false
    providerSessionActive := false
    providerSessionReused := false
    recoveryRequired := false
    lastError := ""
    lastErrorCode := ""
    pendingInputs := []
    inflightInputs := []
    scheduleRequested := false }

section Cleanup

variable [UuidSource] [TextServices]

/-- Finishes a removal once the turn and the runtime are gone. -/
def finishCleanupIn (sessionId : String) (now : Nat) : RoomTx (Option AgentTurnCommit) := do
  let cleanup ← read Store.cleanup
  if cleanup.contains sessionId = false then
    pure (some { events := [], nextAssignments := [] })
  else do
    let session ← loadSession sessionId
    requireValidTurnAuthority session
    let blocking ← read fun s => blockingExecutionExists s sessionId
    if ¬ HasNoCustody session ∨ blocking = true then
      pure none
    else do
      let participant ← loadAgentParticipant sessionId
      let cleaned := cleanedSession session participant
      saveSession cleaned
      write fun s => { s with cleanup := s.cleanup.filter (· ≠ sessionId) }
      let event ← sessionStateEvent cleaned now
      let (room, settings) ← loadRoomWithSettings
      let commit ←
        if room.status = .active then assignPendingIn room settings now
        else pure { events := [], nextAssignments := [] }
      pure (some { commit with events := event :: commit.events })

end Cleanup

end AgentsAssemble.Persistence
