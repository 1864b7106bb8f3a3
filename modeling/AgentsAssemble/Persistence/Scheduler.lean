import AgentsAssemble.Persistence.Context
import AgentsAssemble.Persistence.Routing

/-!
# The turn scheduler

Queueing routed messages and assigning pending queues to available sessions.
The survey of the floor only reads; the transaction then clears empty schedule
requests and assigns each chosen session a new turn.
-/

namespace AgentsAssemble.Persistence

open Foundation Domain Tx

def storedTurnAuthorityInvalid : PersistenceError :=
  rejected "stored_turn_authority_invalid"
    "Stored Agent Session turn authority is inconsistent."

def turnAuthorityIsActive (session : DurableAgentSession) : Except PersistenceError Bool :=
  match activeTurnAuthority session with
  | some active => .ok active
  | none => .error storedTurnAuthorityInvalid

/-! ## Queueing -/

def isRoutableMessage (event : RoomEvent) : Except PersistenceError Bool :=
  if event.eventType = "message_final" ∧ event.extra.messageSource ≠ some "room_tool_result" ∧
      event.messageKind ≠ some "vote_cast" ∧ event.messageKind ≠ some "vote_withdraw" ∧
      event.messageKind ≠ some "vote_close" then
    readable event.messageHasVisiblePayload
  else
    .ok false

def queueInput (event : RoomEvent) (sessionId : String)
    (deliveryKind : RoomInputDeliveryKind) : RoomTx Unit := do
  let session ← loadSession sessionId
  if (session.pendingInputs ++ session.inflightInputs).any fun input =>
      input.eventId == event.id then
    pure ()
  else do
    require (session.pendingInputs.length + session.inflightInputs.length < maxQueuedEventIds)
      (if deliveryKind = .orderedObservation then
        rejected "ordered_floor_queue_full"
          "The selected Agent Session ordered-floor queue is full."
      else
        rejected "room_turn_queue_full"
          "The selected Agent Session room-input queue is full.")
    saveSession { session with
      pendingInputs := session.pendingInputs ++ [{ eventId := event.id, deliveryKind }] }

/-- Every session of the room with its participant, each in a valid state. -/
def routeSessions (s : Store) :
    List DurableAgentSession → Except PersistenceError (List (DurableAgentSession × Participant))
  | [] => .ok []
  | session :: sessions => do
      let _ ← turnAuthorityIsActive session
      validateProviderCursor s.events session
      match s.participants.lookup session.participantId with
      | none => throw .participantMissing
      | some participant => do
          let rest ← routeSessions s sessions
          pure ((session, participant) :: rest)

def removePendingInput (eventId : String) (session : DurableAgentSession) : RoomTx Unit :=
  let kept := session.pendingInputs.filter fun input => input.eventId ≠ eventId
  if kept.length = session.pendingInputs.length then
    pure ()
  else
    saveSession { session with pendingInputs := kept }

/-- Removes a deleted event from the queues that did not cross the provider boundary. -/
def removePendingInputReference (eventId : String) : RoomTx Unit := do
  let sessions ← loadRoomSessions
  let _ ← each (removePendingInput eventId) sessions
  pure ()

section Route

variable [TextServices]

def routeMessage (settings : RoomSettings) (event : RoomEvent) (seed : Nat) :
    RoomTx Unit := do
  let routable ← ofResult (isRoutableMessage event)
  if routable = false then
    pure ()
  else do
    let rows ← loadRoomSessions
    let routed ← read fun s => routeSessions s rows
    let sessions ← ofResult routed
    let chosen ← read fun s =>
      if settings.conversationMode = "ordered" then
        orderedTargets s settings event sessions seed
      else if settings.conversationMode = "ambient" then
        .ok (ambientTargets event sessions)
      else
        .error (rejected "stored_room_settings_invalid"
          "Stored room conversation mode is invalid.")
    let targets ← ofResult chosen
    let _ ← each (fun target => queueInput event target.1 target.2) targets
    pure ()

end Route

/-! ## The floor survey -/

/-- `attendee_ready::is_available`: only an external attendee has to be ready. -/
def isAvailable (s : Store) (session : DurableAgentSession) : Bool :=
  !session.externalOwned || s.readyAttendees.contains session.participantId

def sessionIsAssignable (session : DurableAgentSession) : Bool :=
  session.enabled && session.status == .attached && session.runtimeStatus == .idle &&
    session.providerSessionActive && session.activeTurnId == "" &&
    session.inflightInputs == [] && session.lifecycleIntentAction == .none

/-- Checks a pending queue against the log; the result is the queue itself. -/
def validPendingInputs (events : List RoomEvent) (session : DurableAgentSession) :
    Except PersistenceError (List QueuedRoomInput) :=
  go [] session.lastProviderSyncSeq session.pendingInputs
where
  go (seen : List String) (previousSeq : Nat) :
      List QueuedRoomInput → Except PersistenceError (List QueuedRoomInput)
    | [] => .ok []
    | input :: inputs =>
        if input.eventId = "" ∨ input.eventId ∈ seen then
          .error (rejected "stored_turn_authority_invalid"
            "Stored Agent Session turn queue authority is inconsistent.")
        else do
          let found ← findEvent events input.eventId
          match found with
          | none => throw roomEventMissing
          | some event => do
              let visible ← readable event.messageHasVisiblePayload
              if event.eventType ≠ "message_final" ∨
                  event.actor.participantId = session.participantId ∨
                  event.seq ≤ previousSeq ∨ visible = false then
                throw (rejected "queued_room_event_invalid"
                  "Queued room input does not match canonical room turn authority.")
              let rest ← go (seen ++ [input.eventId]) event.seq inputs
              pure (input :: rest)

def eventSequence (events : List RoomEvent) (eventId : String) :
    Except PersistenceError Nat := do
  let found ← findEvent events eventId
  match found with
  | some event => pure event.seq
  | none => throw roomEventMissing

structure FloorSurvey where
  anyActive : Bool
  candidates : List (Nat × DurableAgentSession)
  emptyScheduleRequests : List DurableAgentSession
  deriving DecidableEq, Repr

/-- What one session adds to the survey. -/
def surveySession (s : Store) (survey : FloorSurvey) (session : DurableAgentSession) :
    Except PersistenceError FloorSurvey := do
  let active ← turnAuthorityIsActive session
  let survey := { survey with anyActive := survey.anyActive || active }
  if !sessionIsAssignable session || !isAvailable s session then
    pure survey
  else
    match s.participants.lookup session.participantId with
    | none => throw .participantMissing
    | some participant =>
        if participant.status ≠ .joined ∨ participant.muted then
          pure survey
        else do
          let valid ← validPendingInputs s.events session
          match valid.head? with
          | none =>
              pure (if session.scheduleRequested then
                { survey with
                  emptyScheduleRequests := survey.emptyScheduleRequests ++ [session] }
              else survey)
          | some first => do
              let sequence ← eventSequence s.events first.eventId
              pure { survey with candidates := survey.candidates ++ [(sequence, session)] }

def surveyFloor (s : Store) (sessions : List DurableAgentSession) :
    Except PersistenceError FloorSurvey :=
  sessions.foldlM (surveySession s) ⟨false, [], []⟩

/-! ## Assignment -/

structure AgentTurnAssignment where
  session : DurableAgentSession
  turnId : String
  turnGeneration : Nat
  executionId : String
  deliveryKind : RoomInputDeliveryKind
  providerInput : String
  roomView : String
  attachmentIds : List String
  roomAgentIds : List String
  tabletopTools : Bool
  deriving DecidableEq, Repr

structure PreparedAssignment where
  assignment : AgentTurnAssignment
  events : List RoomEvent
  deriving DecidableEq, Repr

/-- A committed turn transaction: what it published and the turns it assigned. -/
structure AgentTurnCommit where
  events : List RoomEvent
  nextAssignments : List AgentTurnAssignment
  deriving DecidableEq, Repr

/-- The turn id drawn from a UUID: its first twelve hexadecimal digits. -/
def turnIdOf (uuid : String) : String :=
  "turn-" ++ String.ofList ((uuid.toList.filter (· ≠ '-')).take 12)

section Assign

variable [UuidSource]

def turnStartedEvent (session : DurableAgentSession) (now : Nat) : RoomTx RoomEvent :=
  internalEvent session "turn_started" false none
    { sessionId := some session.sessionId
      turnId := some session.activeTurnId
      sourceEventId := some session.activeSourceEventId
      providerContextUpToSeq := some session.inputUpToSeq } now

def turnStateEvent (session : DurableAgentSession) (now : Nat) : RoomTx RoomEvent :=
  internalEvent session "turn_state" false none
    { sessionId := some session.sessionId
      turnId := some session.activeTurnId
      phase := some session.turnPhase } now

def sessionStateEvent (session : DurableAgentSession) (now : Nat) : RoomTx RoomEvent :=
  internalEvent session "agent_session_state" false none
    { sessionId := some session.sessionId
      runtimeStatus := some session.runtimeStatus } now

/-- The unique indexes an `assigned` row must respect. -/
def executionInsertable (s : Store) (key : TurnKey) (row : ExecutionRow) : Bool :=
  s.executions.lookup key == none &&
    s.executions.rows.all fun entry =>
      entry.2.executionId != row.executionId &&
        (entry.1.1 != key.1 || (entry.2.turnId != row.turnId && !entry.2.phase.isBlocking)) &&
        (!entry.2.phase.isBlocking || entry.2.runtime.handleId != row.runtime.handleId)

def insertAssignedExecution (session : DurableAgentSession) (turnId : String)
    (assignment : ProviderTurnAssignmentEnvelope) : RoomTx ProviderTurnExecution := do
  require (session.turnGeneration ≠ 0 ∧ session.activeTurnId = turnId ∧ session.runtime.Complete)
    invalidExecution
  let executionId ← drawUuid
  generationI64 session.turnGeneration invalidExecution
  let key := (session.sessionId, session.turnGeneration)
  let row : ExecutionRow :=
    { executionId
      participantId := session.participantId
      turnId
      phase := .assigned
      runtime := session.runtime }
  let insertable ← read fun s => executionInsertable s key row
  require (insertable = true) (constraintViolation "provider_turn_executions")
  write fun s => { s with
    executions := s.executions.insert key row
    assignments := s.assignments.insert key assignment }
  pure
    { toExecutionRow := row
      sessionId := session.sessionId
      turnGeneration := session.turnGeneration }

/-- The session after it was given this prefix as its next turn. -/
def assignTurn (session : DurableAgentSession) (prepared : PreparedRoomInput)
    (turnId : String) : DurableAgentSession :=
  { session with
    turnGeneration := session.turnGeneration + 1
    scheduleRequested := false
    runtimeStatus := .busy
    turnPhase := .thinking
    activeTurnId := turnId
    inflightInputs := prepared.inflightInputs
    pendingInputs := session.pendingInputs.drop prepared.inflightInputs.length
    activeSourceEventId := prepared.sourceEventId
    inputUpToEventId := prepared.sourceEventId
    inputUpToSeq := prepared.inputUpToSeq }

variable [TextServices]

def prepareAssignment (room : Room) (settings : RoomSettings)
    (session : DurableAgentSession) (now : Nat) : RoomTx PreparedAssignment := do
  let tabletop := settings.toolMode == "tabletop"
  let result ← read fun s => prepareRoomInput s room session session.pendingInputs tabletop
  let prepared ← ofResult result
  let first ← orReject prepared.inflightInputs.head? storedTurnAuthorityInvalid
  let uuid ← drawUuid
  require (session.turnGeneration + 1 < 2 ^ 64)
    (rejected "stored_turn_execution_invalid"
      "Agent Session turn generation is exhausted.")
  let assigned := assignTurn session prepared (turnIdOf uuid)
  saveSession assigned
  let envelope : ProviderTurnAssignmentEnvelope :=
    { deliveryKind := first.deliveryKind
      providerInput := prepared.providerInput
      roomView := prepared.roomView
      attachmentIds := prepared.attachmentIds
      roomAgentIds := prepared.roomAgentIds
      tabletopTools := tabletop }
  let execution ← insertAssignedExecution assigned (turnIdOf uuid) envelope
  let started ← turnStartedEvent assigned now
  let state ← turnStateEvent assigned now
  let sessionEvent ← sessionStateEvent assigned now
  pure
    { assignment :=
        { session := assigned
          turnId := turnIdOf uuid
          turnGeneration := execution.turnGeneration
          executionId := execution.executionId
          deliveryKind := envelope.deliveryKind
          providerInput := envelope.providerInput
          roomView := envelope.roomView
          attachmentIds := envelope.attachmentIds
          roomAgentIds := envelope.roomAgentIds
          tabletopTools := envelope.tabletopTools }
      events := [started, state, sessionEvent] }

def clearScheduleRequest (session : DurableAgentSession) : RoomTx Unit :=
  saveSession { session with scheduleRequested := false }

/-- Candidates by the sequence of their first input, then by session id. -/
def candidateLe (a b : Nat × DurableAgentSession) : Prop :=
  a.1 < b.1 ∨ (a.1 = b.1 ∧ a.2.sessionId ≤ b.2.sessionId)

instance : DecidableRel candidateLe :=
  fun a b => inferInstanceAs (Decidable (a.1 < b.1 ∨ (a.1 = b.1 ∧ a.2.sessionId ≤ b.2.sessionId)))

/-- The sessions that take the floor now, oldest input first. -/
def chosenCandidates (settings : RoomSettings) (survey : FloorSurvey) :
    List (Nat × DurableAgentSession) :=
  let sorted := survey.candidates.insertionSort candidateLe
  if settings.conversationMode = "ordered" then sorted.take 1 else sorted

/-- Assigns every currently available session allowed by the current floor mode. -/
def assignAvailablePending (room : Room) (settings : RoomSettings) (now : Nat) :
    RoomTx (List PreparedAssignment) := do
  let quiescing ← read Store.restartQuiescing
  if quiescing then
    pure []
  else do
    let sessions ← loadRoomSessions
    let surveyed ← read fun s => surveyFloor s sessions
    let survey ← ofResult surveyed
    if settings.conversationMode = "ordered" ∧ survey.anyActive then
      pure []
    else do
      let _ ← each clearScheduleRequest survey.emptyScheduleRequests
      each (fun candidate => prepareAssignment room settings candidate.2 now)
        (chosenCandidates settings survey)

def assignPendingIn (room : Room) (settings : RoomSettings) (now : Nat) :
    RoomTx AgentTurnCommit := do
  let prepared ← assignAvailablePending room settings now
  pure
    { events := prepared.flatMap PreparedAssignment.events
      nextAssignments := prepared.map PreparedAssignment.assignment }

/-- Assigns recovered work after a session becomes startable. -/
def assignPendingTurn (now : Nat) : RoomTx (Option AgentTurnCommit) := do
  let (room, settings) ← loadActiveRoom
  let commit ← assignPendingIn room settings now
  pure (if commit.nextAssignments = [] then none else some commit)

end Assign

end AgentsAssemble.Persistence
