import AgentsAssemble.Domain.Cleaning
import AgentsAssemble.Domain.Vote
import AgentsAssemble.Foundation.Totals
import AgentsAssemble.Provider.ExactTurn
import Mathlib.Data.Finset.Card

/-!
# The room portal: one observation

What the portal holds for the one turn that a provider executes: the authority of the turn, what
it may read, the tools and attachment reads that are under way, and the outcome that it staged.
-/

namespace AgentsAssemble.Portal

open Foundation Domain
open Persistence (UuidSource isRoomObservationView isRoomObservationAgentId
  maxRoomObservationAgentIds)
open Provider (maxTurnIdBytes validObservationAttachments)

def maxRoomToolResults : Nat := 32
def attemptsPerAttachment : Nat := 2

/-- The largest `usize`. -/
def maxUsize : Nat := 2 ^ 64 - 1

/-! ## Outcomes and errors -/

inductive ProviderTurnOutcome
  | message (content targetAgentId : String)
  | declined (reasonCode : String)
  | vote (command : VoteCommand)
  deriving DecidableEq, Repr

inductive RoomPortalError
  | authority
  | observation
  | receiptMissing
  | outcomeMissing
  | outcomeInvalid
  | mcp
  deriving DecidableEq, Repr

structure ProviderRoomToolError where
  code : String
  message : String
  deriving DecidableEq, Repr

/-- The sending end of a channel; two ends are equal when they are of one channel. -/
structure ProviderRoomToolIngress where
  channel : Nat
  deriving DecidableEq, Repr

structure ProviderAttachmentReadIngress where
  channel : Nat
  deriving DecidableEq, Repr

/-! ## The observation -/

structure RoomObservationStart where
  sessionId : String
  turnId : String
  inputUpToSeq : Int
  durableTurnGeneration : Nat
  executionId : String
  roomView : String
  attachmentIds : List String
  attachmentIngress : Option ProviderAttachmentReadIngress
  allowedAgentIds : List String
  tabletopTools : Bool
  toolIngress : Option ProviderRoomToolIngress
  deriving DecidableEq, Repr

structure TurnAuthority where
  sessionId : String
  turnId : String
  inputUpToSeq : Int
  durableTurnGeneration : Nat
  executionId : String
  allowedAgentIds : List String
  deriving DecidableEq, Repr

inductive StagedOutcome
  | message (receiptGeneration content targetAgentId : String)
  | declined (receiptGeneration reasonCode : String)
  | vote (receiptGeneration : String) (command : VoteCommand)
  deriving DecidableEq, Repr

inductive ToolReservationStatus
  | queued
  | executing
  deriving DecidableEq, Repr

structure AttachmentReadBudget where
  attemptsById : Table String Nat
  pending : Table String String
  successfulReads : Table String Nat
  successfulBytes : Nat

structure ActiveObservation where
  authority : TurnAuthority
  roomView : String
  attachmentIds : Finset String
  attachmentIngress : Option ProviderAttachmentReadIngress
  attachmentReads : AttachmentReadBudget
  turnGeneration : String
  receiptGeneration : Option String
  outcome : Option StagedOutcome
  tabletopTools : Bool
  toolIngress : Option ProviderRoomToolIngress
  toolReservations : Table String ToolReservationStatus
  successfulToolResults : Nat
  closing : Bool

def AttachmentReadBudget.empty : AttachmentReadBudget :=
  { attemptsById := ∅, pending := ∅, successfulReads := ∅, successfulBytes := 0 }

def AttachmentReadBudget.hasPending (budget : AttachmentReadBudget) : Bool :=
  budget.pending.size != 0

namespace ActiveObservation

def hasPendingOperations (active : ActiveObservation) : Bool :=
  active.toolReservations.size != 0 || active.attachmentReads.hasPending

/-- What is left of an observation when an operation ends: a tombstone goes with the last one. -/
def remaining (active : ActiveObservation) : Option ActiveObservation :=
  if active.closing && !active.hasPendingOperations then none else some active

end ActiveObservation

/-! ## Beginning -/

def validateTurnId (value : String) : Except RoomPortalError Unit :=
  if value = "" ∨ maxTurnIdBytes < value.utf8ByteSize ∨ trim value ≠ value ∨
      value.toList.any isControl then
    .error .observation
  else
    .ok ()

namespace RoomObservationStart

def authority (start : RoomObservationStart) : TurnAuthority :=
  { sessionId := start.sessionId
    turnId := start.turnId
    inputUpToSeq := start.inputUpToSeq
    durableTurnGeneration := start.durableTurnGeneration
    executionId := start.executionId
    allowedAgentIds := start.allowedAgentIds }

/-- The checks that `begin_observation` makes of its arguments. -/
def validate [UuidSource] (start : RoomObservationStart) : Except RoomPortalError Unit := do
  validateTurnId start.sessionId
  validateTurnId start.turnId
  validateTurnId start.executionId
  if start.inputUpToSeq ≤ 0 ∨ start.durableTurnGeneration = 0 ∨
      UuidSource.isUuid start.executionId = false ∨ isRoomObservationView start.roomView = false ∨
      validObservationAttachments start.roomView start.attachmentIds
        start.attachmentIngress.isSome = false ∨
      maxRoomObservationAgentIds < start.allowedAgentIds.length ∨
      ¬ start.allowedAgentIds.Nodup ∨
      start.allowedAgentIds.any (fun value => !isRoomObservationAgentId value) then
    throw .observation

/-- The observation in progress is the one that is begun. -/
def Matches (start : RoomObservationStart) (active : ActiveObservation) : Prop :=
  active.authority = start.authority ∧ active.roomView = start.roomView ∧
    active.attachmentIds = start.attachmentIds.toFinset ∧
    active.attachmentIngress = start.attachmentIngress ∧
    active.tabletopTools = start.tabletopTools ∧ active.toolIngress = start.toolIngress

instance (start : RoomObservationStart) (active : ActiveObservation) :
    Decidable (start.Matches active) :=
  inferInstanceAs (Decidable (_ ∧ _ ∧ _ ∧ _ ∧ _ ∧ _))

/-- The observation that a turn starts with. -/
def begun (start : RoomObservationStart) (turnGeneration : String) : ActiveObservation :=
  { authority := start.authority
    roomView := start.roomView
    attachmentIds := start.attachmentIds.toFinset
    attachmentIngress := start.attachmentIngress
    attachmentReads := AttachmentReadBudget.empty
    turnGeneration
    receiptGeneration := none
    outcome := none
    tabletopTools := start.tabletopTools
    toolIngress := start.toolIngress
    toolReservations := ∅
    successfulToolResults := 0
    closing := false }

end RoomObservationStart

/-! ## Outcomes of a turn -/

def canonicalMessage (value : String) : Option String :=
  if '\x00' ∈ value.toList ∨ maxMessageCharacters < value.toList.length then none
  else
    let value := cleanMessage value maxMessageCharacters
    if hasVisibleText value then some value else none

def validDeclineReason (value : String) : Bool :=
  ["nothing_useful_to_add", "not_addressed", "duplicate"].contains value

/-- What `finish_observation` answers for a staged outcome. -/
def finishedOutcome (active : ActiveObservation) (receiptGeneration : String) :
    StagedOutcome → Option ProviderTurnOutcome
  | .message staged content targetAgentId =>
      if staged = receiptGeneration ∧ (canonicalMessage content).isSome = true ∧
          (targetAgentId = "" ∨ targetAgentId ∈ active.authority.allowedAgentIds) then
        (canonicalMessage content).map fun content => .message content targetAgentId
      else none
  | .declined staged reasonCode =>
      if staged = receiptGeneration ∧ validDeclineReason reasonCode = true then
        some (.declined reasonCode)
      else none
  | .vote staged command =>
      if staged = receiptGeneration then some (.vote command) else none

/-- The outcome of the turn that was staged. -/
def StagedOutcome.turnOutcome : StagedOutcome → ProviderTurnOutcome
  | .message _ content targetAgentId => .message content targetAgentId
  | .declined _ reasonCode => .declined reasonCode
  | .vote _ command => .vote command

/-! ## Attachment reads -/

def checkedMul (a b : Nat) : Option Nat :=
  if a * b ≤ maxUsize then some (a * b) else none

def checkedAdd (a b : Nat) : Option Nat :=
  if a + b ≤ maxUsize then some (a + b) else none

def okOr {α : Type} (value : Option α) (message : String) : Except String α :=
  value.elim (.error message) .ok

namespace ActiveObservation

/-- The bytes that the reads of one turn may take. -/
def byteLimit (active : ActiveObservation) : Option Nat :=
  (checkedMul (min active.attachmentIds.card maxMessageAttachmentsPerEvent)
    maxAttachmentBytes).bind fun limit => checkedMul limit attemptsPerAttachment

/-- Accounts for a read of `size` bytes that succeeded. -/
def countRead (active : ActiveObservation) (attachmentId : String) (size : Nat) :
    Except String ActiveObservation := do
  let byteLimit ← okOr active.byteLimit "The room attachment byte limit is invalid."
  let nextBytes ← okOr (checkedAdd active.attachmentReads.successfulBytes size)
    "The room attachment byte limit was exceeded."
  if ¬ (1 ≤ size ∧ size ≤ maxAttachmentBytes) ∨ byteLimit < nextBytes then
    throw "The room attachment read result is invalid."
  let reads := active.attachmentReads
  pure { active with
    attachmentReads := { reads with
      successfulReads := reads.successfulReads.insert attachmentId
        ((reads.successfulReads.lookup attachmentId).getD 0 + 1)
      successfulBytes := nextBytes } }

/-- The observation without a pending read. -/
def releaseRead (active : ActiveObservation) (reservationId : String) : ActiveObservation :=
  { active with
    attachmentReads := { active.attachmentReads with
      pending := active.attachmentReads.pending.erase reservationId } }

/-- What the end of a pending read answers, and the observation that it accounts for. -/
def endRead (active : ActiveObservation) (attachmentId : String) :
    Option Nat → Except String Unit × ActiveObservation
  | none => (.ok (), active)
  | some size =>
      if active.closing then (.error "The room attachment turn already ended.", active)
      else
        match active.countRead attachmentId size with
        | .ok counted => (.ok (), counted)
        | .error message => (.error message, active)

/-- The observation without a tool reservation, whose result counts when it was executing. -/
def releaseTool (active : ActiveObservation) (reservationId : String) (successful : Bool) :
    ActiveObservation :=
  { active with
    toolReservations := active.toolReservations.erase reservationId
    successfulToolResults :=
      if successful = true ∧
          active.toolReservations.lookup reservationId = some .executing then
        min (active.successfulToolResults + 1) maxUsize
      else active.successfulToolResults }

end ActiveObservation

end AgentsAssemble.Portal
