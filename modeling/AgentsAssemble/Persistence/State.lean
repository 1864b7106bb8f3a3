import AgentsAssemble.Foundation.Tx
import AgentsAssemble.Foundation.Table
import AgentsAssemble.Domain.Vote

/-!
# The durable state of one room

The tables that the turn scheduler, the provider turns, the agent lifecycle and
the room messages share.  Every row belongs to the one room, so the room column
of the keys is left out.
-/

namespace AgentsAssemble.Persistence

open Foundation Domain

/-! ## What the platform supplies -/

/-- Version 4 UUIDs in the order they are drawn: distinct and never empty. -/
class UuidSource where
  newV4 : Nat → String
  newV4_injective : Function.Injective newV4
  newV4_ne_empty : ∀ n, newV4 n ≠ ""
  isUuid : String → Bool

/-- Numbers in unary, the simplest distinct texts to sample a platform with. -/
def unaryUuid (n : Nat) : String := String.ofList (List.replicate (n + 1) 'u')

theorem unaryUuid_injective : Function.Injective unaryUuid := by
  intro a b h
  have hlength := congrArg List.length (String.ofList_inj.mp h)
  rw [List.length_replicate, List.length_replicate] at hlength
  exact Nat.succ.inj hlength

theorem unaryUuid_ne_empty (n : Nat) : unaryUuid n ≠ "" := by
  intro h
  have hchars := congrArg String.toList h
  rw [unaryUuid, String.toList_ofList] at hchars
  cases hchars

/-- Text services of the domain crate that only shape diagnostics and prompts. -/
class TextServices where
  redactPersistedDiagnosticText : String → Nat → String
  renderPersonaContext : (card recentMessages : String) → String
  toLowercase : String → String
  isAlphanumeric : Char → Bool

export TextServices
  (redactPersistedDiagnosticText renderPersonaContext toLowercase isAlphanumeric)

/-- The stable hash that names the lifecycle operation of a command. -/
class OperationHash where
  lifecycleOperationId : (principalId requestId action : String) → String

export OperationHash (lifecycleOperationId)

/-! ## Errors -/

inductive PersistenceError
  | commandRejected (code message : String)
  | commandUnresolved (code message : String)
  | commandConflict
  | storedCommandRejected (code message : String)
  | participantMissing
  | roomMissing
  | database (message : String)
  deriving DecidableEq, Repr

def rejected (code message : String) : PersistenceError :=
  .commandRejected code message

def rejection (error : CommandRejection) : PersistenceError :=
  rejected error.code error.message

/-- A `UNIQUE` or `PRIMARY KEY` violation. -/
def constraintViolation (constraint : String) : PersistenceError :=
  .database constraint

/-! ## Provider turns -/

inductive ProviderTurnExecutionPhase
  | assigned
  | startDispatching
  | running
  | interruptPending
  | quiescing
  | startAmbiguous
  | interruptAmbiguous
  | recoveryRequired
  | completed
  | declined
  | failed
  | interrupted
  deriving DecidableEq, Repr

def ProviderTurnExecutionPhase.isBlocking : ProviderTurnExecutionPhase → Bool
  | .completed | .declined | .failed | .interrupted => false
  | _ => true

inductive ProviderTurnEffectPhase
  | prepared
  | claimed
  | dispatching
  | issuedWaitingQuiescence
  | interruptAmbiguous
  | recoveryRequired
  | finalized
  deriving DecidableEq, Repr

inductive ProviderTurnInterruptCause
  | participantMuted
  | agentInterrupt
  deriving DecidableEq, Repr

def ProviderTurnInterruptCause.asStr : ProviderTurnInterruptCause → String
  | .participantMuted => "participant_muted"
  | .agentInterrupt => "agent_interrupt"

/-- A session and one of its turn generations. -/
abbrev TurnKey := String × Nat

/-- The columns of `provider_turn_executions` outside its key and its envelope. -/
structure ExecutionRow where
  executionId : String
  participantId : String
  turnId : String
  phase : ProviderTurnExecutionPhase
  runtime : RuntimeIdentity
  startDispatchNonce : String := ""
  providerTurnId : String := ""
  requeueFinalized : Bool := false
  deriving DecidableEq, Repr

/-- A loaded execution: the row under its key. -/
structure ProviderTurnExecution extends ExecutionRow where
  sessionId : String
  turnGeneration : Nat
  deriving DecidableEq, Repr

def ProviderTurnExecution.key (execution : ProviderTurnExecution) : TurnKey :=
  (execution.sessionId, execution.turnGeneration)

structure ProviderTurnAssignmentEnvelope where
  deliveryKind : RoomInputDeliveryKind
  providerInput : String
  roomView : String
  attachmentIds : List String
  roomAgentIds : List String
  tabletopTools : Bool
  deriving DecidableEq, Repr

/-- The columns of `provider_turn_effects`; an absent expiry is SQL `NULL`. -/
structure EffectRow where
  effectId : String
  cause : ProviderTurnInterruptCause
  phase : ProviderTurnEffectPhase
  claimOwner : String := ""
  claimExpiresAt : Option Nat := none
  dispatchNonce : String := ""
  deriving DecidableEq, Repr

/-- A loaded effect, joined with the custody columns of its execution. -/
structure ProviderTurnInterruptEffect where
  sessionId : String
  turnGeneration : Nat
  effectId : String
  cause : ProviderTurnInterruptCause
  phase : ProviderTurnEffectPhase
  executionId : String
  participantId : String
  turnId : String
  startDispatchNonce : String
  runtime : RuntimeIdentity
  dispatchNonce : String
  deriving DecidableEq, Repr

def ProviderTurnInterruptEffect.key (effect : ProviderTurnInterruptEffect) : TurnKey :=
  (effect.sessionId, effect.turnGeneration)

/-! ## Other tables -/

inductive RoomStatus
  | active
  | archived
  | closed
  deriving DecidableEq, Repr

structure Room where
  label : String
  status : RoomStatus
  deriving DecidableEq, Repr

structure RoomSettings where
  conversationMode : String
  toolMode : String
  orderedExcludePreviousSpeaker : Bool
  deriving DecidableEq, Repr

/-- A stored attachment; the upload left it with canonical columns. -/
structure AttachmentRow where
  filename : String
  contentType : String
  size : Nat
  isSafeImage : Bool
  canonical : ∀ attachmentId, isMessageAttachmentId attachmentId = true →
    canonicalMetadata (messageAttachmentMetadata attachmentId filename contentType size
      isSafeImage) = true
  /-- The uploader while the row is pending; a bound row has none. -/
  pendingOwnerUserId : Option String
  eventSeq : Option Nat
  expiresAt : Option Nat

structure VoteStateRow where
  pollSeq : Nat
  tallies : List Nat
  totalVotes : Nat
  manualCloseSeq : Option Nat
  deriving DecidableEq, Repr

/-- A pending or rejected lifecycle command, keyed by principal and request. -/
structure LifecycleReservationRow where
  action : String
  payloadHash : String
  sessionId : String
  operationId : String
  supervisorGeneration : String
  isPending : Bool
  failureCode : String := ""
  failureMessage : String := ""
  deriving DecidableEq, Repr

structure Store where
  room : Room
  settings : RoomSettings
  participants : Table String Participant
  sessions : Table String DurableAgentSession
  events : List RoomEvent
  executions : Table TurnKey ExecutionRow
  assignments : Table TurnKey ProviderTurnAssignmentEnvelope
  effects : Table TurnKey EffectRow
  cleanup : List String
  reservations : Table (String × String) LifecycleReservationRow
  /-- External attendees whose connection is ready. -/
  readyAttendees : List String
  /-- External attendees that reported the retained-turn interrupt capability. -/
  interruptAttendees : List String
  /-- A restart operation blocks admission. -/
  restartQuiescing : Bool
  /-- The generation of the running supervisor process. -/
  runtimeGeneration : String
  attachments : Table String AttachmentRow
  voteStates : Table String VoteStateRow
  voteBallots : Table (String × String) Nat
  personaCards : Table String String
  /-- How many UUIDs have been drawn. -/
  uuids : Nat

/-- Transactions over the room. -/
abbrev RoomTx (α : Type) := Tx Store PersistenceError α

end AgentsAssemble.Persistence
