import AgentsAssemble.Protocol.Core
import AgentsAssemble.Persistence.Members
import AgentsAssemble.Persistence.Messages
import AgentsAssemble.Foundation.Transition

/-!
# The system

A room under every transaction of the turn protocol, the agent lifecycle and
the room messages, in any order and from any number of callers.  Callers may
replay arguments as often as they like: a transaction is an operation with its
arguments, and a step is one committed run of it.
-/

namespace AgentsAssemble.System

open Foundation Domain Persistence Protocol Tx

/-! ## Operations -/

/-- A draft under the id the provider selection derives for it. -/
structure SelectedDraft extends AgentSessionDraft where
  canonicalId : isRoomObservationAgentId agentId = true

inductive Op
  -- members and messages
  | createAgent (principal : AuthenticatedPrincipal) (draft : SelectedDraft) (now : Nat)
  | sendMessage (principal : AuthenticatedPrincipal) (payload : RoomMessagePayload)
      (seed now : Nat)
  | mutateMessage (principal : AuthenticatedPrincipal) (payload : MessageMutationPayload)
      (now : Nat)
  | mute (principal : AuthenticatedPrincipal) (update : ParticipantMute) (now : Nat)
  | interrupt (principal : AuthenticatedPrincipal) (agentId : String) (now : Nat)
  | requestCleanup (sessionId : String)
  | finishCleanup (sessionId : String) (now : Nat)
  -- provider turns
  | assignPending (now : Nat)
  | authorizeStart (sessionId : String) (turnGeneration : Nat) (turnId : String)
  | markRunning (authority : ProviderTurnStartAuthority) (providerTurnId : String)
  | markRecoveryRequired (authority : ProviderTurnStartAuthority) (now : Nat)
  | taskDeath (sessionId : String) (turnGeneration : Nat) (executionId : String) (now : Nat)
  | completeMessage (sessionId : String) (authority : ProviderTurnAuthority)
      (content targetAgentId : String) (seed now : Nat)
  | completeVote (sessionId : String) (authority : ProviderTurnAuthority)
      (command : VoteCommand) (seed now : Nat)
  | decline (sessionId : String) (authority : ProviderTurnAuthority) (reasonCode : String)
      (seed now : Nat)
  | fail (sessionId : String) (authority : ProviderTurnAuthority) (errorCode message : String)
      (confirmedRuntimeStop : Option RuntimeIdentity) (now : Nat)
  -- interrupts
  | loadEffect (sessionId : String) (turnGeneration : Nat)
  | claimInterrupt (expected : ProviderTurnInterruptEffect) (claimOwner : String) (now : Nat)
  | claimRecovery (expected : ProviderTurnInterruptEffect) (claimOwner : String) (now : Nat)
  | releaseRecovery (claim : ProviderTurnEffectClaim)
  | authorizeDispatch (claim : ProviderTurnEffectClaim) (now : Nat)
  | markUnstartedWaiting (claim : ProviderTurnEffectClaim) (now : Nat)
  | markIssued (dispatched : ProviderTurnInterruptEffect) (now : Nat)
  | markAmbiguous (dispatched : ProviderTurnInterruptEffect)
  | handoffClaim (claim : ProviderTurnEffectClaim)
  | markInterruptRecoveryRequired (expected : ProviderTurnInterruptEffect)
  | authorizeRecoveryWait (claim : ProviderTurnEffectClaim) (now : Nat)
  | finalizeRetained (expected : ProviderTurnInterruptEffect) (now : Nat)
  -- reconciliation
  | loadCandidate (sessionId : String)
  | recoverAssigned (candidate : ProviderTurnReconciliationCandidate)
  | finalizeNotStarted (candidate : ProviderTurnReconciliationCandidate) (now : Nat)
  | finalizeRuntimeGone (candidate : ProviderTurnReconciliationCandidate)
      (floorProgression : FloorProgression) (now : Nat)
  -- the agent lifecycle
  | prepareLaunch (request : LifecycleRequest) (now : Nat)
  | authorizeLaunch (request : LifecycleRequest) (runtime : RuntimeIdentity)
  | completeLaunch (request : LifecycleRequest) (started : AgentRuntimeStarted) (now : Nat)
  | failLaunchBeforeEffect (request : LifecycleRequest) (errorCode message : String)
      (now : Nat)
  | failLaunch (request : LifecycleRequest) (errorCode message : String) (now : Nat)
  | markLaunchUnconfirmed (principal : AuthenticatedPrincipal)
      (agentId operationId runtimeHandleId runtimeOwnerId errorCode message : String)
      (now : Nat)
  | prepareStop (request : LifecycleRequest) (now : Nat)
  | failStopBeforeEffect (request : LifecycleRequest) (errorCode message : String) (now : Nat)
  | authorizeStop (request : LifecycleRequest)
  | recordStop (sessionId operationId : String) (now : Nat)
  | markStopUnconfirmed (principal : AuthenticatedPrincipal)
      (agentId operationId errorCode message : String) (now : Nat)
  | finalizeStop (request : LifecycleRequest) (now : Nat)

/-- What a committed operation hands back to its caller. -/
inductive Response
  | commit (commit : AgentTurnCommit)
  | optionalCommit (commit : Option AgentTurnCommit)
  | mutation (mutation : ParticipantMuteMutation)
  | start (authority : ProviderTurnStartAuthority)
  | effect (effect : ProviderTurnInterruptEffect)
  | optionalEffect (effect : Option ProviderTurnInterruptEffect)
  | claim (claim : ProviderTurnEffectClaim)
  | candidate (candidate : Option ProviderTurnReconciliationCandidate)
  | assignment (assignment : AgentTurnAssignment)
  | done

section Run

variable [UuidSource] [CaseFold] [TextServices] [OperationHash]

/-- The transaction of an operation. -/
def Op.run : Op → RoomTx Response
  | .createAgent principal draft now =>
      .commit <$> createAgentRecords principal draft.toAgentSessionDraft now
  | .sendMessage principal payload seed now =>
      .commit <$> executeMessageIn principal payload seed now
  | .mutateMessage principal payload now =>
      .commit <$> executeMessageMutationIn principal payload now
  | .mute principal update now => .mutation <$> executeParticipantMute principal update now
  | .interrupt principal agentId now =>
      .mutation <$> executeAgentInterrupt principal agentId now
  | .requestCleanup sessionId => (fun _ => .done) <$> requestRuntimeCleanup sessionId
  | .finishCleanup sessionId now => .optionalCommit <$> finishCleanupIn sessionId now
  | .assignPending now => .optionalCommit <$> assignPendingTurn now
  | .authorizeStart sessionId turnGeneration turnId =>
      .start <$> authorizeStartIn sessionId turnGeneration turnId
  | .markRunning authority providerTurnId =>
      (fun _ => .done) <$> markRunningIn authority providerTurnId
  | .markRecoveryRequired authority now =>
      .commit <$> markProviderTurnRecoveryRequired authority now
  | .taskDeath sessionId turnGeneration executionId now =>
      .commit <$> recordProviderTurnTaskDeath sessionId turnGeneration executionId now
  | .completeMessage sessionId authority content targetAgentId seed now =>
      .commit <$> Persistence.completeMessage sessionId authority content targetAgentId seed now
  | .completeVote sessionId authority command seed now =>
      .commit <$> Persistence.completeVote sessionId authority command seed now
  | .decline sessionId authority reasonCode seed now =>
      .commit <$> Persistence.decline sessionId authority reasonCode seed now
  | .fail sessionId authority errorCode message confirmedRuntimeStop now =>
      .commit <$> Persistence.fail sessionId authority errorCode message
        confirmedRuntimeStop now
  | .loadEffect sessionId turnGeneration =>
      .optionalEffect <$> loadOptionalEffectIn sessionId turnGeneration
  | .claimInterrupt expected claimOwner now =>
      .claim <$> claimProviderTurnInterrupt expected claimOwner now
  | .claimRecovery expected claimOwner now =>
      .claim <$> claimProviderTurnInterruptRecovery expected claimOwner now
  | .releaseRecovery claim =>
      (fun _ => .done) <$> releaseProviderInterruptRecoveryClaim claim
  | .authorizeDispatch claim now => .effect <$> authorizeProviderInterruptDispatch claim now
  | .markUnstartedWaiting claim now => .effect <$> markUnstartedInterruptWaiting claim now
  | .markIssued dispatched now => .effect <$> markProviderInterruptIssued dispatched now
  | .markAmbiguous dispatched =>
      (fun _ => .done) <$> markProviderInterruptAmbiguous dispatched
  | .handoffClaim claim => (fun _ => .done) <$> handoffUnissuedProviderInterruptClaim claim
  | .markInterruptRecoveryRequired expected =>
      (fun _ => .done) <$> markProviderInterruptRecoveryRequired expected
  | .authorizeRecoveryWait claim now =>
      .effect <$> authorizeProviderInterruptRecoveryWait claim now
  | .finalizeRetained expected now => .commit <$> finalizeRetainedIn expected now
  | .loadCandidate sessionId => .candidate <$> loadActiveCandidateIn sessionId
  | .recoverAssigned candidate => .assignment <$> recoverAssignedProviderTurn candidate
  | .finalizeNotStarted candidate now =>
      .commit <$> finalizeProviderTurnNotStarted candidate now
  | .finalizeRuntimeGone candidate floorProgression now =>
      .commit <$> finalizeRuntimeGoneIn candidate floorProgression now
  | .prepareLaunch request now => .commit <$> prepareAgentLaunch request now
  | .authorizeLaunch request runtime =>
      (fun _ => .done) <$> authorizeAgentStartEffect request runtime
  | .completeLaunch request started now => .commit <$> completeAgentLaunch request started now
  | .failLaunchBeforeEffect request errorCode message now =>
      .commit <$> failAgentStartBeforeEffect request errorCode message now
  | .failLaunch request errorCode message now =>
      .commit <$> failAgentLaunch request errorCode message now
  | .markLaunchUnconfirmed principal agentId operationId runtimeHandleId runtimeOwnerId
      errorCode message now =>
      .commit <$> markAgentStartUnconfirmed principal agentId operationId runtimeHandleId
        runtimeOwnerId errorCode message now
  | .prepareStop request now => .commit <$> prepareAgentStop request now
  | .failStopBeforeEffect request errorCode message now =>
      .commit <$> failAgentStopBeforeEffect request errorCode message now
  | .authorizeStop request => (fun _ => .done) <$> authorizeAgentStopEffect request
  | .recordStop sessionId operationId now =>
      (fun _ => .done) <$> recordAgentStopEffect sessionId operationId now
  | .markStopUnconfirmed principal agentId operationId errorCode message now =>
      .commit <$> markAgentStopUnconfirmed principal agentId operationId errorCode message now
  | .finalizeStop request now => .commit <$> finalizeAgentStop request now

/-! ## Steps -/

/-- A step is one committed operation, or a change made by the rest of the server. -/
inductive Label
  | inside (op : Op) (response : Response)
  | outside

/-- Other transactions of the server: they append events of their own and may rewrite what
no operation here owns. -/
structure Outside (s s' : Store) : Prop where
  sessions : s'.sessions = s.sessions
  executions : s'.executions = s.executions
  assignments : s'.assignments = s.assignments
  effects : s'.effects = s.effects
  voteStates : s'.voteStates = s.voteStates
  voteBallots : s'.voteBallots = s.voteBallots
  events : ∃ added, s'.events = s.events ++ added ∧
    Fresh s.events s.uuids added s'.uuids ∧ ∀ e ∈ added, Quiet e

inductive Step : Label → Store → Store → Prop
  | inside {s s' : Store} (op : Op) (response : Response) :
      Commits op.run s response s' → Step (.inside op response) s s'
  | outside {s s' : Store} : Outside s s' → Step .outside s s'

/-- A room before its first agent. -/
structure IsInitial (s : Store) : Prop where
  sessions : s.sessions = ∅
  events : s.events = []
  executions : s.executions = ∅
  assignments : s.assignments = ∅
  effects : s.effects = ∅
  voteStates : s.voteStates = ∅
  voteBallots : s.voteBallots = ∅

/-- Rooms any sequence of steps can lead to. -/
def IsReachable (s : Store) : Prop :=
  Reachable IsInitial Step s

end Run

end AgentsAssemble.System
