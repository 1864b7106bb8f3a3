import AgentsAssemble.Foundation.Tx
import AgentsAssemble.Portal.Observation

/-!
# The room portal: calls

Every call holds the lock of the portal, so a call is one step on its state.  A reservation is a
guard that the caller keeps: it may be used, resolved and dropped long after its turn has ended.
-/

namespace AgentsAssemble.Portal

open Foundation Domain Tx
open Persistence (UuidSource)

/-- A `RoomToolReservation`, under its reservation id. -/
structure RoomToolReservation where
  turnGeneration : String
  resolved : Bool
  deriving DecidableEq, Repr

/-- An `AttachmentReadReservation`, under its reservation id. -/
structure AttachmentReadReservation where
  turnGeneration : String
  attachmentId : String
  resolved : Bool
  deriving DecidableEq, Repr

/-- The state of the portal, and the guards that its callers keep. -/
structure RoomPortal where
  active : Option ActiveObservation
  running : Bool
  tools : Table String RoomToolReservation
  reads : Table String AttachmentReadReservation
  uuids : Nat

inductive PortalError
  | portal (error : RoomPortalError)
  | tool (error : ProviderRoomToolError)
  | text (message : String)
  /-- The call cannot be made: its caller keeps no such guard. -/
  | notKept
  deriving DecidableEq, Repr

abbrev PortalTx (α : Type) := Tx RoomPortal PortalError α

def requireServer : PortalTx Unit := do
  require ((← read RoomPortal.running) = true) (.portal .mcp)

def noObservation : PortalError :=
  .text "No active room observation."

def requireCurrentReceipt (active : ActiveObservation) : PortalTx Unit :=
  require (active.receiptGeneration = some active.turnGeneration)
    (.text "Read the discussion before using a room tool.")

def setActive (active : Option ActiveObservation) : PortalTx Unit :=
  write fun s => { s with active }

section Calls

variable [UuidSource]

def drawUuid : PortalTx String :=
  fun s => .ok (UuidSource.newV4 s.uuids, { s with uuids := s.uuids + 1 })

/-! ## The turn -/

def beginObservation (start : RoomObservationStart) : PortalTx Unit := do
  requireServer
  ofResult (start.validate.mapError PortalError.portal)
  match ← read RoomPortal.active with
  | some active => require (start.Matches active) (.portal .observation)
  | none => setActive (some (start.begun (← drawUuid)))

omit [UuidSource] in
def readDiscussion : PortalTx String := do
  let active ← orReject (← read RoomPortal.active) noObservation
  setActive (some { active with receiptGeneration := some active.turnGeneration })
  pure active.roomView

omit [UuidSource] in
def finishObservation (turnId : String) (inputUpToSeq : Int) : PortalTx ProviderTurnOutcome := do
  requireServer
  let active ← orReject (← read RoomPortal.active) (.portal .observation)
  require (active.authority.turnId = turnId ∧ active.authority.inputUpToSeq = inputUpToSeq ∧
    active.closing = false ∧ active.hasPendingOperations = false) (.portal .observation)
  let receiptGeneration ← orReject active.receiptGeneration (.portal .receiptMissing)
  require (receiptGeneration = active.turnGeneration) (.portal .outcomeInvalid)
  let outcome ← orReject active.outcome (.portal .outcomeMissing)
  let result ← orReject (finishedOutcome active receiptGeneration outcome) (.portal .outcomeInvalid)
  setActive none
  pure result

/-- The observation that is being closed keeps the tools that are executing. -/
def ActiveObservation.close (active : ActiveObservation) : ActiveObservation :=
  { active with
    closing := true
    toolReservations := active.toolReservations.deleteWhere fun _ status => status != .executing }

omit [UuidSource] in
def endObservation : PortalTx Unit := do
  match ← read RoomPortal.active with
  | none => pure ()
  | some active => setActive active.close.remaining

/-! ## Terminal actions -/

omit [UuidSource] in
def terminalObservation : PortalTx ActiveObservation := do
  let active ← orReject (← read RoomPortal.active) noObservation
  requireCurrentReceipt active
  require (active.closing = false ∧ active.outcome = none)
    (.text "This turn already has a terminal room action.")
  require (active.hasPendingOperations = false)
    (.text "Wait for pending room tools before completing this turn.")
  pure active

omit [UuidSource] in
def stage (active : ActiveObservation) (outcome : StagedOutcome) : PortalTx Unit :=
  setActive (some { active with outcome := some outcome })

omit [UuidSource] in
def publishMessage (content nextAgentId : String) : PortalTx String := do
  let active ← terminalObservation
  let content ← orReject (canonicalMessage content) (.text "The room publication is invalid.")
  let targetAgentId :=
    if nextAgentId ∈ active.authority.allowedAgentIds then nextAgentId else ""
  stage active (.message active.turnGeneration content targetAgentId)
  pure "Published to the shared room."

omit [UuidSource] in
def declineToSpeak (reasonCode : String) : PortalTx String := do
  let active ← terminalObservation
  require (validDeclineReason reasonCode = true) (.text "The decline reason is unsupported.")
  stage active (.declined active.turnGeneration reasonCode)
  pure "Declined this shared-room turn."

variable [CaseFold]

omit [UuidSource] in
def stageVote (payload : VotePayload) : PortalTx String := do
  let active ← terminalObservation
  let command ← ofResult
    ((VoteCommand.fromPayload payload).mapError fun error => .text error.message)
  stage active (.vote active.turnGeneration command)
  pure "Staged a vote action for the shared room."

omit [UuidSource] in
def createVote (question : String) (options : List String) (durationSeconds : Nat) :
    PortalTx String :=
  stageVote (.vote question options (some durationSeconds) none)

omit [UuidSource] in
def castVote (voteId choice : String) : PortalTx String :=
  stageVote (.voteCast voteId choice)

omit [UuidSource] in
def withdrawVote (voteId : String) : PortalTx String :=
  stageVote (.voteWithdraw voteId)

omit [UuidSource] in
def closeVote (voteId : String) : PortalTx String :=
  stageVote (.voteClose voteId)

inductive TerminalAction
  | publishMessage (content nextAgentId : String)
  | declineToSpeak (reasonCode : String)
  | createVote (question : String) (options : List String) (durationSeconds : Nat)
  | castVote (voteId choice : String)
  | withdrawVote (voteId : String)
  | closeVote (voteId : String)
  deriving DecidableEq, Repr

omit [UuidSource] in
def TerminalAction.run : TerminalAction → PortalTx String
  | .publishMessage content nextAgentId => Portal.publishMessage content nextAgentId
  | .declineToSpeak reasonCode => Portal.declineToSpeak reasonCode
  | .createVote question options durationSeconds =>
      Portal.createVote question options durationSeconds
  | .castVote voteId choice => Portal.castVote voteId choice
  | .withdrawVote voteId => Portal.withdrawVote voteId
  | .closeVote voteId => Portal.closeVote voteId

/-! ## Tool reservations -/

structure RoomToolAuthority where
  sessionId : String
  turnId : String
  inputUpToSeq : Int
  durableTurnGeneration : Nat
  executionId : String
  deriving DecidableEq, Repr

def TurnAuthority.toolAuthority (authority : TurnAuthority) : RoomToolAuthority :=
  { sessionId := authority.sessionId
    turnId := authority.turnId
    inputUpToSeq := authority.inputUpToSeq
    durableTurnGeneration := authority.durableTurnGeneration
    executionId := authority.executionId }

structure ReservedTool where
  authority : RoomToolAuthority
  reservationId : String
  ingress : ProviderRoomToolIngress
  deriving DecidableEq, Repr

omit [CaseFold] in
def reserveTool (requireTabletop : Bool) : PortalTx ReservedTool := do
  let active ← orReject (← read RoomPortal.active) noObservation
  require (active.closing = false ∧ active.outcome = none)
    (.text "This turn already has a terminal room action.")
  requireCurrentReceipt active
  require (requireTabletop = true → active.tabletopTools = true)
    (.text "Room randomness is available only in tabletop mode.")
  let ingress ← orReject active.toolIngress (.text "The room tool owner is unavailable.")
  require (active.successfulToolResults + active.toolReservations.size < maxRoomToolResults)
    (.text "This turn reached its room-tool result limit.")
  let reservationId ← drawUuid
  setActive (some { active with
    toolReservations := active.toolReservations.insert reservationId .queued })
  write fun s => { s with
    tools := s.tools.insert reservationId ⟨active.turnGeneration, false⟩ }
  pure { authority := active.authority.toolAuthority, reservationId, ingress }

omit [UuidSource] [CaseFold] in
def toolError (code message : String) : PortalError :=
  .tool ⟨code, message⟩

omit [UuidSource] [CaseFold] in
/-- The observation that a guard belongs to, when it is still the active one. -/
def observationOf (s : RoomPortal) (turnGeneration : String) : Option ActiveObservation :=
  s.active.filter fun active => active.turnGeneration == turnGeneration

omit [UuidSource] [CaseFold] in
def beginExecution (reservationId : String) : PortalTx Unit := do
  let guard ← orReject ((← read RoomPortal.tools).lookup reservationId) .notKept
  let active ← orReject
    ((observationOf (← read id) guard.turnGeneration).filter fun active => !active.closing)
    (toolError "stale_provider_turn" "The room turn has ended.")
  let status ← orReject (active.toolReservations.lookup reservationId)
    (toolError "stale_provider_turn" "The room tool reservation ended.")
  require (status = .queued)
    (toolError "room_tool_conflict" "The room tool reservation was already consumed.")
  setActive (some { active with
    toolReservations := active.toolReservations.insert reservationId .executing })

omit [UuidSource] [CaseFold] in
/-- `RoomToolReservation::resolve`. -/
def resolveTool (reservationId : String) (successful : Bool) : PortalTx Unit := do
  let guard ← orReject ((← read RoomPortal.tools).lookup reservationId) .notKept
  if guard.resolved then pure ()
  else do
    write fun s => { s with
      tools := s.tools.insert reservationId { guard with resolved := true } }
    match observationOf (← read id) guard.turnGeneration with
    | none => pure ()
    | some active => setActive (active.releaseTool reservationId successful).remaining

omit [UuidSource] [CaseFold] in
/-- The drop of a guard resolves it, and nothing uses it again. -/
def dropTool (reservationId : String) : PortalTx Unit := do
  resolveTool reservationId false
  write fun s => { s with tools := s.tools.erase reservationId }

/-! ## Attachment reads -/

structure ReservedRead where
  authority : RoomToolAuthority
  reservationId : String
  ingress : ProviderAttachmentReadIngress
  deriving DecidableEq, Repr

omit [CaseFold] in
def reserveAttachmentRead (attachmentId : String) : PortalTx ReservedRead := do
  let active ← orReject (← read RoomPortal.active) noObservation
  require (active.closing = false ∧ active.outcome = none ∧ attachmentId ∈ active.attachmentIds)
    (.text "The attachment is not available to this room turn.")
  let ingress ← orReject active.attachmentIngress
    (.text "The room attachment owner is unavailable.")
  let reads := active.attachmentReads
  require ((reads.pending.find? fun _ pendingId => pendingId == attachmentId) = none)
    (.text "The attachment is already being read.")
  require (min active.attachmentIds.card maxMessageAttachmentsPerEvent ≠ 0)
    (.text "This turn has no room attachments.")
  let attempts := (reads.attemptsById.lookup attachmentId).getD 0
  require (attempts < attemptsPerAttachment)
    (.text "This turn reached its room-attachment read limit.")
  let reservationId ← drawUuid
  setActive (some { active with
    attachmentReads := { reads with
      attemptsById := reads.attemptsById.insert attachmentId (attempts + 1)
      pending := reads.pending.insert reservationId attachmentId } })
  write fun s => { s with
    reads := s.reads.insert reservationId ⟨active.turnGeneration, attachmentId, false⟩ }
  pure { authority := active.authority.toolAuthority, reservationId, ingress }

omit [UuidSource] [CaseFold] in
/-- `AttachmentReadReservation::resolve`; what a read answers does not undo what it released. -/
def resolveRead (reservationId : String) (successfulSize : Option Nat) :
    PortalTx (Except String Unit) := do
  let guard ← orReject ((← read RoomPortal.reads).lookup reservationId) .notKept
  if guard.resolved then pure (.error "The room attachment reservation already ended.")
  else do
    write fun s => { s with
      reads := s.reads.insert reservationId { guard with resolved := true } }
    match observationOf (← read id) guard.turnGeneration with
    | none => pure (.error "The room attachment turn already ended.")
    | some active =>
        if active.attachmentReads.pending.lookup reservationId ≠ some guard.attachmentId then do
          setActive (some (active.releaseRead reservationId))
          pure (.error "The room attachment reservation already ended.")
        else do
          let ended :=
            (active.releaseRead reservationId).endRead guard.attachmentId successfulSize
          setActive ended.2.remaining
          pure ended.1

omit [UuidSource] [CaseFold] in
def completeRead (reservationId : String) (size : Nat) : PortalTx (Except String Unit) :=
  resolveRead reservationId (some size)

omit [UuidSource] [CaseFold] in
def dropRead (reservationId : String) : PortalTx Unit := do
  let _ ← resolveRead reservationId none
  write fun s => { s with reads := s.reads.erase reservationId }

/-! ## Runs -/

inductive PortalOp
  | begin (start : RoomObservationStart)
  | readDiscussion
  | terminal (action : TerminalAction)
  | finish (turnId : String) (inputUpToSeq : Int)
  | endTurn
  | reserveTool (requireTabletop : Bool)
  | beginExecution (reservationId : String)
  | resolveTool (reservationId : String) (successful : Bool)
  | dropTool (reservationId : String)
  | reserveRead (attachmentId : String)
  | completeRead (reservationId : String) (size : Nat)
  | dropRead (reservationId : String)
  | shutdown
  deriving DecidableEq

/-- What a call answers; a terminal action with the outcome that it staged. -/
inductive PortalOutcome
  | done
  | reply (text : String)
  | staged (text : String) (outcome : Option StagedOutcome)
  | finished (outcome : ProviderTurnOutcome)
  | reservedTool (reserved : ReservedTool)
  | reservedRead (reserved : ReservedRead)
  | completed (result : Except String Unit)
  deriving DecidableEq

def stagedReply (action : TerminalAction) : PortalTx PortalOutcome := do
  let text ← action.run
  pure (.staged text ((← read RoomPortal.active).bind ActiveObservation.outcome))

def perform (op : PortalOp) : PortalTx PortalOutcome :=
  match op with
  | .begin start => (fun _ => .done) <$> beginObservation start
  | .readDiscussion => .reply <$> readDiscussion
  | .terminal action => stagedReply action
  | .finish turnId inputUpToSeq => .finished <$> finishObservation turnId inputUpToSeq
  | .endTurn => (fun _ => .done) <$> endObservation
  | .reserveTool requireTabletop => .reservedTool <$> reserveTool requireTabletop
  | .beginExecution reservationId => (fun _ => .done) <$> beginExecution reservationId
  | .resolveTool reservationId successful =>
      (fun _ => .done) <$> resolveTool reservationId successful
  | .dropTool reservationId => (fun _ => .done) <$> dropTool reservationId
  | .reserveRead attachmentId => .reservedRead <$> reserveAttachmentRead attachmentId
  | .completeRead reservationId size => .completed <$> completeRead reservationId size
  | .dropRead reservationId => (fun _ => .done) <$> dropRead reservationId
  | .shutdown => (fun _ => .done) <$> write fun s => { s with running := false }

/-- A call with its outcome, under the turn generation that it found. -/
structure PortalLabel where
  op : PortalOp
  generation : Option String
  outcome : Except PortalError PortalOutcome

namespace PortalLabel

/-- The outcome that the call staged. -/
def staged (label : PortalLabel) : Option StagedOutcome :=
  match label.outcome with
  | .ok (.staged _ outcome) => outcome
  | _ => none

/-- The outcome that the call finished the turn with. -/
def finished (label : PortalLabel) : Option ProviderTurnOutcome :=
  match label.outcome with
  | .ok (.finished outcome) => some outcome
  | _ => none

/-- The call read the discussion. -/
def readsDiscussion (label : PortalLabel) : Bool :=
  match label.op, label.outcome with
  | .readDiscussion, .ok _ => true
  | _, _ => false

/-- The attachment that the call reserved a read of. -/
def attempted (label : PortalLabel) : Option String :=
  match label.op, label.outcome with
  | .reserveRead attachmentId, .ok _ => some attachmentId
  | _, _ => none

/-- The operation that the call reserved. -/
def reserved (label : PortalLabel) : Option (String ⊕ String) :=
  match label.outcome with
  | .ok (.reservedTool reserved) => some (.inl reserved.reservationId)
  | .ok (.reservedRead reserved) => some (.inr reserved.reservationId)
  | _ => none

/-- The operation whose guard the call uses. -/
def operation (label : PortalLabel) : Option (String ⊕ String) :=
  match label.op with
  | .beginExecution id | .resolveTool id _ | .dropTool id => some (.inl id)
  | .completeRead id _ | .dropRead id => some (.inr id)
  | _ => none

/-- The operation whose guard the call ended. -/
def ends (label : PortalLabel) : Option (String ⊕ String) :=
  match label.op, label.outcome with
  | .resolveTool id _, .ok _ | .dropTool id, .ok _ => some (.inl id)
  | .completeRead id _, .ok _ | .dropRead id, .ok _ => some (.inr id)
  | _, _ => none

/-- The bytes of the read that the call completed. -/
def readBytes (label : PortalLabel) : Nat :=
  match label.op, label.outcome with
  | .completeRead _ size, .ok (.completed (.ok _)) => size
  | _, _ => 0

end PortalLabel

def Step (label : PortalLabel) (s t : RoomPortal) : Prop :=
  label.generation = s.active.map ActiveObservation.turnGeneration ∧
    match label.outcome with
    | .ok outcome => Commits (perform label.op) s outcome t
    | .error error => Rejects (perform label.op) s error ∧ t = s

end Calls

/-- The portal that `RoomPortal::create` answers. -/
def created : RoomPortal :=
  { active := none, running := true, tools := ∅, reads := ∅, uuids := 0 }

end AgentsAssemble.Portal
