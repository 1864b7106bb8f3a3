import AgentsAssemble.Persistence.Context

/-!
# The exact turn slot

The in-memory authority for the one turn a running provider may execute.  Every
call runs under the lock of its runtime, so a call is one step on the runtime's
state; callers keep copies of what they were given and may call again at will.
-/

namespace AgentsAssemble.Provider

open Domain
open Persistence (UuidSource isProviderInput isRoomObservationView isRoomObservationAgentId
  maxRoomObservationAgentIds)

/-! ## Errors -/

structure DriverError where
  code : String
  message : String
  deriving DecidableEq, Repr

structure ProviderAdapterError where
  code : String
  message : String
  effectUncertain : Bool
  runtimeHandleId : String
  runtimeOwnerId : String
  runtimeLeaseToken : String
  runtimeStopped : Bool
  deriving DecidableEq, Repr

namespace ProviderAdapterError

def safe (error : DriverError) : ProviderAdapterError :=
  ⟨error.code, error.message, false, "", "", "", false⟩

def uncertain (error : DriverError) (handleId ownerId : String) : ProviderAdapterError :=
  ⟨error.code, error.message, true, handleId, ownerId, "", false⟩

def confirmedStopped (error : DriverError) (handleId ownerId leaseToken : String) :
    ProviderAdapterError :=
  ⟨error.code, error.message, false, handleId, ownerId, leaseToken, true⟩

end ProviderAdapterError

def staleTurn : DriverError :=
  ⟨"stale_provider_turn",
    "The exact provider turn control no longer owns this runtime generation."⟩

def operationInProgress : DriverError :=
  ⟨"operation_in_progress", "Another exact provider operation is already active."⟩

def driverOwned : DriverError :=
  ⟨"operation_in_progress", "The provider driver is owned by another exact operation."⟩

def turnInterrupted : DriverError :=
  ⟨"provider_turn_interrupted",
    "The exact provider turn was interrupted before provider I/O."⟩

/-! ## Requests -/

/-- The columns of a durable session a turn call reads. -/
structure TurnSession where
  roomId : String
  sessionId : String
  activeTurnId : String
  turnGeneration : Nat
  turnPhase : AgentTurnPhase
  runtimeProfileKey : String
  runtimeHandleId : String
  runtimeOwnerId : String
  runtimeLeaseToken : String
  deriving DecidableEq, Repr

structure ProviderRoomObservation where
  sessionId : String
  inputUpToSeq : Int
  view : String
  attachmentIds : List String
  hasAttachmentIngress : Bool
  allowedAgentIds : List String
  deriving DecidableEq, Repr

structure ProviderTurnRequest where
  turnId : String
  turnGeneration : Nat
  executionId : String
  input : String
  roomObservation : Option ProviderRoomObservation
  deriving DecidableEq, Repr

def ownerMismatch (session : TurnSession) : ProviderAdapterError :=
  .uncertain ⟨"runtime_owner_mismatch",
    "The provider runtime does not match the durable session authority."⟩
    session.runtimeHandleId session.runtimeOwnerId

def maxTurnIdBytes : Nat := 128

/-- The text occurs in the view. -/
def viewContains (view text : String) : Bool :=
  view.toList.tails.any fun rest => text.toList.isPrefixOf rest

def validObservationAttachments (roomView : String) (attachmentIds : List String)
    (hasIngress : Bool) : Bool :=
  decide (attachmentIds.length ≤ maxMessageAttachmentsPerEvent) && decide attachmentIds.Nodup &&
    attachmentIds.all (fun attachmentId =>
      isMessageAttachmentId attachmentId && viewContains roomView attachmentId) &&
    (attachmentIds.isEmpty != hasIngress)

def validRoomObservation (session : TurnSession) (observation : ProviderRoomObservation) : Bool :=
  observation.sessionId == session.sessionId && decide (0 < observation.inputUpToSeq) &&
    isRoomObservationView observation.view &&
    validObservationAttachments observation.view observation.attachmentIds
      observation.hasAttachmentIngress &&
    decide (observation.allowedAgentIds.length ≤ maxRoomObservationAgentIds) &&
    decide observation.allowedAgentIds.Nodup &&
    observation.allowedAgentIds.all isRoomObservationAgentId

section Calls

variable [UuidSource]

def validateRequest (session : TurnSession) (request : ProviderTurnRequest) :
    Except DriverError Unit :=
  if request.turnId = "" ∨ maxTurnIdBytes < request.turnId.utf8ByteSize ∨
      trim request.turnId ≠ request.turnId ∨ request.turnId.toList.any isControl ∨
      request.turnId ≠ session.activeTurnId ∨ request.turnGeneration = 0 ∨
      request.turnGeneration ≠ session.turnGeneration ∨
      UuidSource.isUuid request.executionId = false then
    .error ⟨"provider_turn_conflict",
      "The provider turn does not match durable assignment authority."⟩
  else if session.turnPhase ≠ .thinking ∧ session.turnPhase ≠ .streaming then
    .error ⟨"provider_turn_phase_invalid",
      "The durable provider turn is not in an active phase."⟩
  else if isProviderInput request.input = false then
    .error ⟨"provider_turn_input_invalid",
      "The provider turn input is empty or exceeds its bound."⟩
  else if request.roomObservation.any fun observation =>
      !validRoomObservation session observation then
    .error ⟨"room_observation_invalid",
      "The provider room observation is invalid or exceeds its bound."⟩
  else
    .ok ()

/-! ## State -/

inductive ActiveProviderTurnPhase
  | preparing
  | entered
  | notStartedRetained
  | resultReadyRetained
  | resultReadyUncertain
  | runtimeGone
  deriving DecidableEq, Repr

/-- The turn can no longer enter the provider. -/
def ActiveProviderTurnPhase.isQuiesced : ActiveProviderTurnPhase → Bool
  | .preparing | .entered => false
  | _ => true

def ActiveProviderTurnPhase.hasResult : ActiveProviderTurnPhase → Bool
  | .resultReadyRetained | .resultReadyUncertain => true
  | _ => false

/-- The slot of the active turn.  Its cancellation token is known by the preparation. -/
structure ActiveProviderTurnSlot (Completed : Type) where
  preparationId : String
  executionId : String
  turnId : String
  turnGeneration : Nat
  phase : ActiveProviderTurnPhase
  result : Option (Except ProviderAdapterError Completed)

structure OwnedRuntime (Completed : Type) where
  handleId : String
  ownerId : String
  leaseToken : String
  profileKey : String
  driverAvailable : Bool
  activeTurn : Option (ActiveProviderTurnSlot Completed)

inductive RuntimeState (Completed : Type)
  | vacant
  | running (runtime : OwnedRuntime Completed)
  | stopConfirmed (handleId ownerId leaseToken : String)
      (activeTurn : Option (ActiveProviderTurnSlot Completed))

/-- The runtime of one session, and the cancellation tokens that were cancelled. -/
structure RuntimeSlot (Completed : Type) where
  roomId : String
  sessionId : String
  state : RuntimeState Completed
  cancelled : List String
  uuids : Nat

structure ProviderPreparedTurn where
  roomId : String
  sessionId : String
  executionId : String
  turnId : String
  turnGeneration : Nat
  runtimeHandleId : String
  runtimeOwnerId : String
  runtimeLeaseToken : String
  preparationId : String
  deriving DecidableEq, Repr

structure ProviderExactTurnAuthority where
  roomId : String
  sessionId : String
  executionId : String
  turnId : String
  turnGeneration : Nat
  runtimeHandleId : String
  runtimeOwnerId : String
  runtimeLeaseToken : String
  deriving DecidableEq, Repr

def ProviderPreparedTurn.exactAuthority (prepared : ProviderPreparedTurn) :
    ProviderExactTurnAuthority :=
  { roomId := prepared.roomId
    sessionId := prepared.sessionId
    executionId := prepared.executionId
    turnId := prepared.turnId
    turnGeneration := prepared.turnGeneration
    runtimeHandleId := prepared.runtimeHandleId
    runtimeOwnerId := prepared.runtimeOwnerId
    runtimeLeaseToken := prepared.runtimeLeaseToken }

inductive ProviderTurnInterruptDisposition
  | notStarted
  | started
  | quiesced
  deriving DecidableEq, Repr

/-- The control of a turn; it carries the turn's cancellation token. -/
structure ProviderTurnControl where
  disposition : ProviderTurnInterruptDisposition
  interruption : String
  deriving DecidableEq, Repr

/-! ## Checks -/

variable {Completed : Type}

def sameExecution (active : ActiveProviderTurnSlot Completed) (request : ProviderTurnRequest) :
    Bool :=
  active.executionId == request.executionId && active.turnId == request.turnId &&
    active.turnGeneration == request.turnGeneration

def exactActive (active : ActiveProviderTurnSlot Completed) (prepared : ProviderPreparedTurn) :
    Bool :=
  active.preparationId == prepared.preparationId && active.executionId == prepared.executionId &&
    active.turnId == prepared.turnId && active.turnGeneration == prepared.turnGeneration

def exactAuthorityMatches (active : ActiveProviderTurnSlot Completed)
    (authority : ProviderExactTurnAuthority) : Bool :=
  active.executionId == authority.executionId && active.turnId == authority.turnId &&
    active.turnGeneration == authority.turnGeneration

def OwnedRuntime.isNamedBy (runtime : OwnedRuntime Completed)
    (authority : ProviderExactTurnAuthority) : Bool :=
  runtime.handleId == authority.runtimeHandleId && runtime.ownerId == authority.runtimeOwnerId &&
    runtime.leaseToken == authority.runtimeLeaseToken

def validateOwnedRuntime (session : TurnSession) (runtime : OwnedRuntime Completed) :
    Except ProviderAdapterError Unit :=
  if runtime.profileKey ≠ session.runtimeProfileKey ∨
      ¬ (session.runtimeHandleId = "" ∨ session.runtimeHandleId = runtime.handleId) ∨
      ¬ (session.runtimeOwnerId = "" ∨ session.runtimeOwnerId = runtime.ownerId) ∨
      ¬ (session.runtimeLeaseToken = "" ∨ session.runtimeLeaseToken = runtime.leaseToken) then
    .error (.uncertain ⟨"runtime_owner_mismatch",
      "The provider runtime does not match the durable session authority."⟩
      runtime.handleId runtime.ownerId)
  else
    .ok ()

def validatePrepared (runtime : OwnedRuntime Completed) (prepared : ProviderPreparedTurn)
    (session : TurnSession) (request : ProviderTurnRequest) : Bool :=
  prepared.roomId == session.roomId && prepared.sessionId == session.sessionId &&
    prepared.executionId == request.executionId && prepared.turnId == request.turnId &&
    prepared.turnGeneration == request.turnGeneration &&
    prepared.runtimeHandleId == runtime.handleId && prepared.runtimeOwnerId == runtime.ownerId &&
    prepared.runtimeLeaseToken == runtime.leaseToken &&
    runtime.activeTurn.any fun active => exactActive active prepared

def preparedFromActive (session : TurnSession) (runtime : OwnedRuntime Completed)
    (active : ActiveProviderTurnSlot Completed) : ProviderPreparedTurn :=
  { roomId := session.roomId
    sessionId := session.sessionId
    executionId := active.executionId
    turnId := active.turnId
    turnGeneration := active.turnGeneration
    runtimeHandleId := runtime.handleId
    runtimeOwnerId := runtime.ownerId
    runtimeLeaseToken := runtime.leaseToken
    preparationId := active.preparationId }

/-- The turn a running or confirmed stopped runtime still owns. -/
def RuntimeState.activeTurn : RuntimeState Completed → Option (ActiveProviderTurnSlot Completed)
  | .vacant => none
  | .running runtime => runtime.activeTurn
  | .stopConfirmed _ _ _ active => active

def RuntimeState.setActiveTurn (state : RuntimeState Completed)
    (active : Option (ActiveProviderTurnSlot Completed)) : RuntimeState Completed :=
  match state with
  | .vacant => .vacant
  | .running runtime => .running { runtime with activeTurn := active }
  | .stopConfirmed handleId ownerId leaseToken _ =>
      .stopConfirmed handleId ownerId leaseToken active

def RuntimeState.isNamedBy (state : RuntimeState Completed)
    (authority : ProviderExactTurnAuthority) : Bool :=
  match state with
  | .vacant => false
  | .running runtime => runtime.isNamedBy authority
  | .stopConfirmed handleId ownerId leaseToken _ =>
      handleId == authority.runtimeHandleId && ownerId == authority.runtimeOwnerId &&
        leaseToken == authority.runtimeLeaseToken

/-- `exact_active_turn`: a confirmed process exit does not release the turn's result. -/
def exactActiveTurn (state : RuntimeState Completed) (authority : ProviderExactTurnAuthority) :
    Option (ActiveProviderTurnSlot Completed) :=
  if state.isNamedBy authority then
    state.activeTurn.filter fun active => exactAuthorityMatches active authority
  else
    none

def RuntimeSlot.isAt (slot : RuntimeSlot Completed) (roomId sessionId : String) : Bool :=
  slot.roomId == roomId && slot.sessionId == sessionId

/-- The running runtime under a key. -/
def RuntimeSlot.running (slot : RuntimeSlot Completed) (roomId sessionId : String) :
    Option (OwnedRuntime Completed) :=
  match slot.state with
  | .running runtime => if slot.isAt roomId sessionId then some runtime else none
  | _ => none

def RuntimeSlot.setActive (slot : RuntimeSlot Completed)
    (active : Option (ActiveProviderTurnSlot Completed)) : RuntimeSlot Completed :=
  { slot with state := slot.state.setActiveTurn active }

/-! ## Calls -/

/-- What `prepare_turn` comes to; an entered turn is waited for and then reported. -/
inductive PrepareOutcome
  | prepared (turn : ProviderPreparedTurn)
  | waits
  | failed (error : ProviderAdapterError)
  deriving DecidableEq, Repr

def prepareTurn (session : TurnSession) (request : ProviderTurnRequest)
    (slot : RuntimeSlot Completed) : PrepareOutcome × RuntimeSlot Completed :=
  match validateRequest session request with
  | .error error => (.failed (.safe error), slot)
  | .ok () =>
      match slot.running session.roomId session.sessionId with
      | none => (.failed (ownerMismatch session), slot)
      | some runtime =>
          match validateOwnedRuntime session runtime with
          | .error error => (.failed error, slot)
          | .ok () =>
              match runtime.activeTurn with
              | some active =>
                  if !sameExecution active request then
                    (.failed (.safe operationInProgress), slot)
                  else
                    match active.phase with
                    | .preparing => (.prepared (preparedFromActive session runtime active), slot)
                    | .entered => (.waits, slot)
                    | _ => (.failed (.safe operationInProgress), slot)
              | none =>
                  if !runtime.driverAvailable then (.failed (.safe driverOwned), slot)
                  else
                    let active : ActiveProviderTurnSlot Completed :=
                      { preparationId := UuidSource.newV4 slot.uuids
                        executionId := request.executionId
                        turnId := request.turnId
                        turnGeneration := request.turnGeneration
                        phase := .preparing
                        result := none }
                    (.prepared (preparedFromActive session runtime active),
                      { slot.setActive (some active) with uuids := slot.uuids + 1 })

def enterPreparedTurn (prepared : ProviderPreparedTurn) (session : TurnSession)
    (request : ProviderTurnRequest) (slot : RuntimeSlot Completed) :
    Except ProviderAdapterError String × RuntimeSlot Completed :=
  match slot.running prepared.roomId prepared.sessionId with
  | none => (.error (ownerMismatch session), slot)
  | some runtime =>
      if !validatePrepared runtime prepared session request then (.error (.safe staleTurn), slot)
      else
        match runtime.activeTurn with
        | none => (.error (.safe staleTurn), slot)
        | some active =>
            if slot.cancelled.contains active.preparationId then
              (.error (.safe turnInterrupted),
                slot.setActive (some { active with phase := .notStartedRetained }))
            else
              (.ok active.preparationId, slot.setActive (some { active with phase := .entered }))

def retainUnstartedTurn (prepared : ProviderPreparedTurn) (slot : RuntimeSlot Completed) :
    RuntimeSlot Completed :=
  match slot.running prepared.roomId prepared.sessionId with
  | none => slot
  | some runtime =>
      match runtime.activeTurn with
      | none => slot
      | some active =>
          if active.preparationId = prepared.preparationId ∧ active.phase = .preparing then
            slot.setActive (some { active with phase := .notStartedRetained })
          else
            slot

def retainPreparedTurnResult (prepared : ProviderPreparedTurn)
    (result : Except ProviderAdapterError Completed) (runtimeRetained : Bool)
    (slot : RuntimeSlot Completed) : RuntimeSlot Completed :=
  if !slot.isAt prepared.roomId prepared.sessionId then slot
  else
    match slot.state.activeTurn with
    | none => slot
    | some active =>
        if active.preparationId = prepared.preparationId then
          slot.setActive (some { active with
            result := some result
            phase := if runtimeRetained then .resultReadyRetained else .resultReadyUncertain })
        else
          slot

def retainedTurnResult (authority : ProviderExactTurnAuthority) (slot : RuntimeSlot Completed) :
    Option (Except ProviderAdapterError Completed) :=
  if !slot.isAt authority.roomId authority.sessionId then none
  else
    ((exactActiveTurn slot.state authority).filter fun active => active.phase.hasResult).bind
      ActiveProviderTurnSlot.result

/-- Whether the proof that provider I/O was never entered is returned. -/
def retainedNotStartedProof (authority : ProviderExactTurnAuthority)
    (slot : RuntimeSlot Completed) : Bool :=
  (slot.running authority.roomId authority.sessionId).any fun runtime =>
    runtime.isNamedBy authority && runtime.activeTurn.any fun active =>
      exactAuthorityMatches active authority && active.phase == .notStartedRetained

def releaseTerminalTurn (authority : ProviderExactTurnAuthority) (slot : RuntimeSlot Completed) :
    RuntimeSlot Completed :=
  match slot.running authority.roomId authority.sessionId with
  | none => slot
  | some runtime =>
      if !runtime.isNamedBy authority then slot
      else if runtime.activeTurn.any fun active =>
          exactAuthorityMatches active authority && active.phase.isQuiesced then
        slot.setActive none
      else
        slot

def beginExactTurn (authority : ProviderExactTurnAuthority) (slot : RuntimeSlot Completed) :
    Except ProviderAdapterError ProviderTurnControl × RuntimeSlot Completed :=
  match slot.running authority.roomId authority.sessionId with
  | none => (.error (.safe staleTurn), slot)
  | some runtime =>
      if !runtime.isNamedBy authority then (.error (.safe staleTurn), slot)
      else
        match runtime.activeTurn.filter fun active => exactAuthorityMatches active authority with
        | none => (.error (.safe staleTurn), slot)
        | some active =>
            match active.phase with
            | .preparing =>
                (.ok ⟨.notStarted, active.preparationId⟩,
                  { slot with cancelled := active.preparationId :: slot.cancelled })
            | .entered => (.ok ⟨.started, active.preparationId⟩, slot)
            | _ => (.ok ⟨.quiesced, active.preparationId⟩, slot)

/-- `request_interrupt` on a control. -/
def requestInterrupt (control : ProviderTurnControl) (slot : RuntimeSlot Completed) :
    RuntimeSlot Completed :=
  { slot with cancelled := control.interruption :: slot.cancelled }

def OwnedRuntime.retainConfirmedFailure (runtime : OwnedRuntime Completed) (error : DriverError) :
    OwnedRuntime Completed :=
  { runtime with
    activeTurn := runtime.activeTurn.map fun active =>
      { active with
        result := some (.error
          (.confirmedStopped error runtime.handleId runtime.ownerId runtime.leaseToken))
        phase := .resultReadyUncertain } }

def OwnedRuntime.signalRuntimeGone (runtime : OwnedRuntime Completed) : OwnedRuntime Completed :=
  { runtime with
    activeTurn := runtime.activeTurn.map fun active => { active with phase := .runtimeGone } }

def RuntimeSlot.mapRunning (slot : RuntimeSlot Completed)
    (f : OwnedRuntime Completed → RuntimeState Completed) : RuntimeSlot Completed :=
  match slot.state with
  | .running runtime => { slot with state := f runtime }
  | _ => slot

/-- The end of `stop_inner`, once the driver has stopped. -/
def confirmStop (turnFailure : Option DriverError) (runtime : OwnedRuntime Completed) :
    RuntimeState Completed :=
  let gone := runtime.signalRuntimeGone
  .stopConfirmed runtime.handleId runtime.ownerId runtime.leaseToken
    (turnFailure.bind fun error => (gone.retainConfirmedFailure error).activeTurn)

end Calls

end AgentsAssemble.Provider
