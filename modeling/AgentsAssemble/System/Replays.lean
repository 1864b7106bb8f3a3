import AgentsAssemble.System.Batches
import AgentsAssemble.Protocol.Authority
import AgentsAssemble.Protocol.Envelopes
import AgentsAssemble.Protocol.History

/-!
# Replayed assignments

A turn that was assigned but never started is handed out again after a restart.
Every assignment a transaction returns is recorded in the tables, the record is
never rewritten, and recovery reads it back unchanged.
-/

namespace AgentsAssemble.System

open Foundation Domain Persistence Protocol Tx

/-! ## Recorded assignments -/

def assignmentKey (assignment : AgentTurnAssignment) : TurnKey :=
  (assignment.session.sessionId, assignment.turnGeneration)

/-- What the assignment hands its provider, as the envelope table stores it. -/
def assignmentEnvelope (assignment : AgentTurnAssignment) :
    ProviderTurnAssignmentEnvelope :=
  { deliveryKind := assignment.deliveryKind
    providerInput := assignment.providerInput
    roomView := assignment.roomView
    attachmentIds := assignment.attachmentIds
    roomAgentIds := assignment.roomAgentIds
    tabletopTools := assignment.tabletopTools }

/-- The tables hold the turn of the assignment with everything it hands out. -/
structure Recorded (c : RoomCore) (assignment : AgentTurnAssignment) : Prop where
  row : ∃ row, c.executions.lookup (assignmentKey assignment) = some row ∧
    row.turnId = assignment.turnId ∧ row.executionId = assignment.executionId
  envelope : c.assignments.lookup (assignmentKey assignment) =
    some (assignmentEnvelope assignment)

/-- Every assignment of the list is recorded. -/
def AllRecorded (assignments : List AgentTurnAssignment) (s : Store) : Prop :=
  ∀ assignment ∈ assignments, Recorded (coreOf s) assignment

def Response.assignments : Response → List AgentTurnAssignment
  | .commit turns => turns.nextAssignments
  | .optionalCommit turns => (turns.map AgentTurnCommit.nextAssignments).getD []
  | .mutation mutated => mutated.commit.nextAssignments
  | _ => []

theorem allRecorded_nil (s : Store) : AllRecorded [] s := by
  intro assignment hmem
  cases hmem

section Recording

variable [UuidSource] [CaseFold] {P : Permit}

theorem Recorded.path {c c' : RoomCore} {assignment : AgentTurnAssignment}
    (h : Recorded c assignment) (hp : Path P c c') : Recorded c' assignment := by
  obtain ⟨row, hrow, hturn, hid⟩ := h.row
  obtain ⟨row', hrow', hhistory⟩ := Path.row_history hp hrow
  refine ⟨⟨row', hrow', hhistory.turnId.trans hturn, hhistory.executionId.trans hid⟩, ?_⟩
  rw [Path.envelope_kept hp hrow]
  exact h.envelope

variable [TextServices]

omit [CaseFold] in
theorem recorded_prepareAssignment {room : Room} {settings : RoomSettings}
    {session : DurableAgentSession} {now : Nat} {s s' : Store} {result : PreparedAssignment}
    (h : Commits (prepareAssignment room settings session now) s result s') :
    Recorded (coreOf s') result.assignment ∧
      ∀ assignment, Recorded (coreOf s) assignment → Recorded (coreOf s') assignment := by
  obtain ⟨prepared, first, hassigns⟩ := commits_prepareAssignment h
  have hexecutions : s'.executions =
      s.executions.insert (assignedKey session) (assignedRow s session) := by
    rw [hassigns.publishes.store]
    rfl
  have hassignments : s'.assignments = s.assignments.insert (assignedKey session)
      (assignedEnvelope settings prepared first) := by
    rw [hassigns.publishes.store]
    rfl
  have habsent : s.executions.lookup (assignedKey session) = none := by
    have hinsertable := hassigns.insertable
    unfold executionInsertable at hinsertable
    rw [Bool.and_eq_true, beq_iff_eq] at hinsertable
    exact hinsertable.1
  constructor
  · rw [hassigns.assignment]
    refine ⟨⟨assignedRow s session, ?_, rfl, rfl⟩, ?_⟩
    · show s'.executions.lookup _ = _
      rw [hexecutions]
      exact AList.lookup_insert _
    · show s'.assignments.lookup _ = _
      rw [hassignments]
      exact AList.lookup_insert _
  · intro assignment hrecorded
    obtain ⟨row, hrow, hturn, hid⟩ := hrecorded.row
    have hne : assignmentKey assignment ≠ assignedKey session := by
      intro heq
      rw [heq] at hrow
      rw [show (coreOf s).executions = s.executions from rfl, habsent] at hrow
      cases hrow
    refine ⟨⟨row, ?_, hturn, hid⟩, ?_⟩
    · show s'.executions.lookup _ = _
      rw [hexecutions, AList.lookup_insert_ne hne]
      exact hrow
    · show s'.assignments.lookup _ = _
      rw [hassignments, AList.lookup_insert_ne hne]
      exact hrecorded.envelope

omit [CaseFold] in
theorem recorded_each {room : Room} {settings : RoomSettings} {now : Nat}
    {candidates : List (Nat × DurableAgentSession)} {s s' : Store}
    {results : List PreparedAssignment}
    (h : Commits (each (fun candidate : Nat × DurableAgentSession =>
      prepareAssignment room settings candidate.2 now) candidates) s results s') :
    AllRecorded (results.map PreparedAssignment.assignment) s' ∧
      ∀ assignment, Recorded (coreOf s) assignment → Recorded (coreOf s') assignment := by
  induction candidates generalizing s results with
  | nil =>
      obtain ⟨rfl, rfl⟩ := commits_each_nil.mp h
      exact ⟨allRecorded_nil _, fun _ hrecorded => hrecorded⟩
  | cons candidate candidates ih =>
      obtain ⟨first, t, rest, hfirst, hrest, rfl⟩ := commits_each_cons.mp h
      obtain ⟨hrecorded, hkept⟩ := recorded_prepareAssignment hfirst
      obtain ⟨hothers, hkept'⟩ := ih hrest
      refine ⟨fun assignment hmem => ?_, fun assignment hbefore => ?_⟩
      · rcases List.mem_cons.mp hmem with rfl | hmem
        · exact hkept' _ hrecorded
        · exact hothers assignment hmem
      · exact hkept' assignment (hkept assignment hbefore)

/-- A commit whose assignments are recorded. -/
def CommitRecorded (turns : AgentTurnCommit) (s : Store) : Prop :=
  AllRecorded turns.nextAssignments s

omit [CaseFold] in
theorem records_assignPendingIn (room : Room) (settings : RoomSettings) (now : Nat) :
    Yields CommitRecorded (assignPendingIn room settings now) := by
  intro s commit s' h
  simp only [assignPendingIn, commits_bind, commits_pure] at h
  obtain ⟨prepared, _, hprepared, rfl, rfl⟩ := h
  rcases commits_assignAvailablePending hprepared with ⟨rfl, -⟩ |
    ⟨survey, cleared, t, -, -, -, -, hassigned⟩
  · exact allRecorded_nil _
  · exact (recorded_each hassigned).1

omit [UuidSource] [CaseFold] [TextServices] in
theorem records_none (events : List RoomEvent) :
    Yields CommitRecorded (pure ⟨events, []⟩ : RoomTx AgentTurnCommit) :=
  yields_pure fun s => allRecorded_nil s

omit [UuidSource] [CaseFold] [TextServices] in
/-- Adding events to a commit changes none of its assignments. -/
theorem records_publish {x : RoomTx AgentTurnCommit} (hx : Yields CommitRecorded x)
    (f : AgentTurnCommit → List RoomEvent) :
    Yields CommitRecorded (do
      let commit ← x
      pure { commit with events := f commit }) := by
  refine yields_bind_of hx ?_
  intro commit s result s' hrecorded hpure
  obtain ⟨rfl, rfl⟩ := commits_pure.mp hpure
  exact hrecorded

/-! ## The operations record what they return -/

theorem records_sendMessage (principal : AuthenticatedPrincipal) (payload : RoomMessagePayload)
    (seed now : Nat) : Yields CommitRecorded (executeMessageIn principal payload seed now) := by
  unfold executeMessageIn
  refine yields_bind fun ⟨room, settings⟩ => ?_
  refine yields_bind fun participant => ?_
  refine yields_bind fun sequence => ?_
  refine yields_bind fun ⟨event, routeToFloor⟩ => ?_
  refine yields_ite ?_ (records_none _)
  refine yields_bind fun _ => ?_
  exact records_publish (records_assignPendingIn room settings now) _

omit [CaseFold] [TextServices] in
theorem records_mutateMessage (principal : AuthenticatedPrincipal)
    (payload : MessageMutationPayload) (now : Nat) :
    Yields CommitRecorded (executeMessageMutationIn principal payload now) := by
  unfold executeMessageMutationIn
  refine yields_bind fun _ => ?_
  refine yields_bind fun mutation => ?_
  iterate 3 refine yields_bind fun _ => ?_
  cases mutation with
  | edit => iterate 2 refine yields_bind fun _ => ?_
            exact records_none _
  | delete => iterate 2 refine yields_bind fun _ => ?_
              exact records_none _

omit [CaseFold] in
theorem records_apply (finalization : ProviderTurnFinalization) (session : DurableAgentSession)
    (published : List RoomEvent) (seed now : Nat) :
    Yields CommitRecorded (finalization.apply session published seed now) := by
  unfold ProviderTurnFinalization.apply
  refine yields_bind fun errors => ?_
  refine yields_bind fun finished => ?_
  refine yields_bind fun _ => ?_
  refine yields_bind fun state => ?_
  have hassign := records_publish
    (records_assignPendingIn finalization.room finalization.settings now)
    fun commit => published ++ errors ++ [finished, state] ++ commit.events
  refine yields_ite ?_ hassign
  refine yields_bind fun event => ?_
  exact yields_bind fun _ => hassign

omit [CaseFold] in
theorem records_completeMessage (sessionId : String) (authority : ProviderTurnAuthority)
    (content targetAgentId : String) (seed now : Nat) :
    Yields CommitRecorded (completeMessage sessionId authority content targetAgentId seed now) := by
  unfold completeMessage
  iterate 2 refine yields_bind fun _ => ?_
  refine yields_bind fun ⟨room, settings⟩ => ?_
  iterate 7 refine yields_bind fun _ => ?_
  exact records_apply _ _ _ _ _

theorem records_completeVote (sessionId : String) (authority : ProviderTurnAuthority)
    (command : VoteCommand) (seed now : Nat) :
    Yields CommitRecorded (completeVote sessionId authority command seed now) := by
  unfold completeVote
  iterate 2 refine yields_bind fun _ => ?_
  refine yields_bind fun ⟨room, settings⟩ => ?_
  iterate 8 refine yields_bind fun _ => ?_
  refine yields_bind fun ⟨outcome, disposition, published⟩ => ?_
  exact yields_bind fun _ => records_apply _ _ _ _ _

omit [CaseFold] in
theorem records_decline (sessionId : String) (authority : ProviderTurnAuthority)
    (reasonCode : String) (seed now : Nat) :
    Yields CommitRecorded (decline sessionId authority reasonCode seed now) := by
  unfold decline
  iterate 2 refine yields_bind fun _ => ?_
  refine yields_bind fun ⟨room, settings⟩ => ?_
  iterate 5 refine yields_bind fun _ => ?_
  exact records_apply _ _ _ _ _

omit [CaseFold] in
theorem records_fail (sessionId : String) (authority : ProviderTurnAuthority)
    (errorCode message : String) (confirmed : Option RuntimeIdentity) (now : Nat) :
    Yields CommitRecorded (fail sessionId authority errorCode message confirmed now) := by
  unfold fail
  refine yields_bind fun ⟨room, settings⟩ => ?_
  iterate 9 refine yields_bind fun _ => ?_
  exact records_publish (records_assignPendingIn room settings now) _

omit [CaseFold] in
theorem records_provenNoEffect (session : DurableAgentSession)
    (execution : ProviderTurnExecution) (now : Nat) :
    Yields CommitRecorded (finalizeProvenNoEffectTaskDeath session execution now) := by
  unfold finalizeProvenNoEffectTaskDeath
  refine yields_bind fun ⟨room, settings⟩ => ?_
  iterate 7 refine yields_bind fun _ => ?_
  exact records_publish (records_assignPendingIn room settings now) _

omit [CaseFold] in
theorem records_taskDeath (sessionId : String) (turnGeneration : Nat) (executionId : String)
    (now : Nat) :
    Yields CommitRecorded
      (recordProviderTurnTaskDeath sessionId turnGeneration executionId now) := by
  unfold recordProviderTurnTaskDeath
  iterate 4 refine yields_bind fun _ => ?_
  refine yields_ite (records_provenNoEffect _ _ _) (yields_ite ?_ (yields_throw _))
  unfold quarantineDispatchedTaskDeath
  iterate 5 refine yields_bind fun _ => ?_
  exact records_none _

omit [CaseFold] in
theorem records_finalizeRetained (expected : ProviderTurnInterruptEffect) (now : Nat) :
    Yields CommitRecorded (finalizeRetainedIn expected now) := by
  unfold finalizeRetainedIn
  iterate 9 refine yields_bind fun _ => ?_
  cases expected.cause with
  | agentInterrupt => exact records_publish (records_none _) _
  | participantMuted =>
      refine yields_bind fun ⟨room, settings⟩ => ?_
      exact records_publish (records_assignPendingIn room settings now) _

omit [CaseFold] in
theorem records_finalizeNotStarted (candidate : ProviderTurnReconciliationCandidate)
    (now : Nat) : Yields CommitRecorded (finalizeProviderTurnNotStarted candidate now) := by
  unfold finalizeProviderTurnNotStarted
  iterate 6 refine yields_bind fun _ => ?_
  exact records_provenNoEffect _ _ _

omit [CaseFold] in
theorem records_finalizeRuntimeGone (candidate : ProviderTurnReconciliationCandidate)
    (floorProgression : FloorProgression) (now : Nat) :
    Yields CommitRecorded (finalizeRuntimeGoneIn candidate floorProgression now) := by
  unfold finalizeRuntimeGoneIn
  iterate 8 refine yields_bind fun _ => ?_
  refine yields_ite ?_ (yields_bind fun _ => ?_)
  · iterate 2 refine yields_bind fun _ => ?_
    exact records_none _
  · unfold finalizeRuntimeGoneSession
    iterate 7 refine yields_bind fun _ => ?_
    refine yields_ite ?_ (records_publish (records_none _) _)
    refine yields_bind fun ⟨room, settings⟩ => ?_
    exact records_publish (records_assignPendingIn room settings now) _

/-! ## Members and the agent lifecycle -/

/-- A mutation whose assignments are recorded. -/
def MutationRecorded (mutated : ParticipantMuteMutation) (s : Store) : Prop :=
  AllRecorded mutated.commit.nextAssignments s

omit [CaseFold] in
theorem records_mute (principal : AuthenticatedPrincipal) (update : ParticipantMute)
    (now : Nat) : Yields MutationRecorded (executeParticipantMute principal update now) := by
  have hsession : ∀ session muted, Yields MutationRecorded (muteAgentSession session muted now) := by
    intro session muted
    unfold muteAgentSession
    refine yields_bind fun _ => ?_
    refine yields_ite (yields_bind fun _ => yields_ite ?_ ?_) ?_
    · iterate 2 refine yields_bind fun _ => ?_
      exact yields_pure allRecorded_nil
    · exact yields_pure allRecorded_nil
    · refine yields_bind fun _ => ?_
      refine yields_bind fun ⟨room, settings⟩ => ?_
      refine yields_bind_of (records_assignPendingIn room settings now) ?_
      intro commit s result s' hrecorded hpure
      obtain ⟨rfl, rfl⟩ := commits_pure.mp hpure
      exact hrecorded
  unfold executeParticipantMute
  iterate 10 refine yields_bind fun _ => ?_
  split
  · exact yields_pure allRecorded_nil
  · refine yields_bind_of (hsession _ _) ?_
    intro mutated s result s' hrecorded hpure
    obtain ⟨rfl, rfl⟩ := commits_pure.mp hpure
    exact hrecorded

omit [CaseFold] [TextServices] in
theorem records_interrupt (principal : AuthenticatedPrincipal) (agentId : String) (now : Nat) :
    Yields MutationRecorded (executeAgentInterrupt principal agentId now) := by
  unfold executeAgentInterrupt
  iterate 2 refine yields_bind fun _ => ?_
  refine yields_bind fun ⟨session, execution⟩ => ?_
  iterate 3 refine yields_bind fun _ => ?_
  exact yields_pure allRecorded_nil

/-- An optional commit whose assignments are recorded. -/
def OptionalRecorded (turns : Option AgentTurnCommit) (s : Store) : Prop :=
  AllRecorded (turns.map AgentTurnCommit.nextAssignments |>.getD []) s

omit [CaseFold] in
theorem records_assignPendingTurn (now : Nat) :
    Yields OptionalRecorded (assignPendingTurn now) := by
  unfold assignPendingTurn
  refine yields_bind fun ⟨room, settings⟩ => ?_
  refine yields_bind_of (records_assignPendingIn room settings now) ?_
  intro commit s result s' hrecorded hpure
  obtain ⟨rfl, rfl⟩ := commits_pure.mp hpure
  split
  · exact allRecorded_nil _
  · exact hrecorded

omit [CaseFold] in
theorem records_finishCleanup (sessionId : String) (now : Nat) :
    Yields OptionalRecorded (finishCleanupIn sessionId now) := by
  unfold finishCleanupIn
  refine yields_bind fun _ => ?_
  refine yields_ite (yields_pure allRecorded_nil) ?_
  iterate 3 refine yields_bind fun _ => ?_
  refine yields_ite (yields_pure allRecorded_nil) ?_
  iterate 4 refine yields_bind fun _ => ?_
  refine yields_bind fun ⟨room, settings⟩ => ?_
  have hpublish (x : RoomTx AgentTurnCommit) (hx : Yields CommitRecorded x) (event : RoomEvent) :
      Yields OptionalRecorded (do
        let commit ← x
        pure (some { commit with events := event :: commit.events })) := by
    refine yields_bind_of hx ?_
    intro commit s result s' hrecorded hpure
    obtain ⟨rfl, rfl⟩ := commits_pure.mp hpure
    exact hrecorded
  exact yields_ite (hpublish _ (records_assignPendingIn room settings now) _)
    (hpublish _ (records_none _) _)

omit [CaseFold] [TextServices] in
theorem records_createAgent (principal : AuthenticatedPrincipal) (draft : AgentSessionDraft)
    (now : Nat) : Yields CommitRecorded (createAgentRecords principal draft now) := by
  unfold createAgentRecords
  iterate 11 refine yields_bind fun _ => ?_
  exact records_none _

omit [CaseFold] [TextServices] in
theorem records_markRecoveryRequired (authority : ProviderTurnStartAuthority) (now : Nat) :
    Yields CommitRecorded (markProviderTurnRecoveryRequired authority now) := by
  unfold markProviderTurnRecoveryRequired
  iterate 7 refine yields_bind fun _ => ?_
  exact records_none _

variable [OperationHash]

omit [CaseFold] [TextServices] in
theorem records_prepareLaunch (request : LifecycleRequest) (now : Nat) :
    Yields CommitRecorded (prepareAgentLaunch request now) := by
  have hlisting : ∀ session participant, Yields CommitRecorded
      (commitReaddListing request.principal session participant now) := by
    intro session participant
    unfold commitReaddListing
    iterate 3 refine yields_bind fun _ => ?_
    exact records_none _
  have hrest : ∀ session participant (incomplete : Bool), Yields CommitRecorded
      (if request.startRequested = false then do
        finishLifecycleCommand request
        commitReaddListing request.principal session participant now
      else do
        saveSession (if incomplete then session
          else prepareLaunchSession session request.operationId)
        pure { events := [], nextAssignments := [] }) := by
    intro session participant incomplete
    refine yields_ite (yields_bind fun _ => hlisting _ _) ?_
    exact yields_bind fun _ => records_none _
  unfold prepareAgentLaunch
  iterate 11 refine yields_bind fun _ => ?_
  exact yields_ite (yields_bind fun _ => hrest _ _ _) (hrest _ _ _)

omit [CaseFold] [TextServices] in
theorem records_completeLaunch (request : LifecycleRequest) (started : AgentRuntimeStarted)
    (now : Nat) : Yields CommitRecorded (completeAgentLaunch request started now) := by
  unfold completeAgentLaunch
  iterate 12 refine yields_bind fun _ => ?_
  exact records_none _

omit [CaseFold] in
theorem records_launchFailure (request : LifecycleRequest) (errorCode message : String)
    (expectedStatus : AgentLifecycleIntentStatus) (clearRuntimeIdentity : Bool) (now : Nat) :
    Yields CommitRecorded
      (commitAgentLaunchFailure request errorCode message expectedStatus clearRuntimeIdentity
        now) := by
  unfold commitAgentLaunchFailure
  iterate 7 refine yields_bind fun _ => ?_
  exact records_none _

omit [CaseFold] [OperationHash] in
theorem records_markLaunchUnconfirmed (principal : AuthenticatedPrincipal)
    (agentId operationId runtimeHandleId runtimeOwnerId errorCode message : String) (now : Nat) :
    Yields CommitRecorded (markAgentStartUnconfirmed principal agentId operationId
      runtimeHandleId runtimeOwnerId errorCode message now) := by
  unfold markAgentStartUnconfirmed
  iterate 7 refine yields_bind fun _ => ?_
  exact records_none _

omit [CaseFold] [TextServices] in
theorem records_prepareStop (request : LifecycleRequest) (now : Nat) :
    Yields CommitRecorded (prepareAgentStop request now) := by
  unfold prepareAgentStop
  iterate 6 refine yields_bind fun _ => ?_
  refine yields_ite ?_ (yields_bind fun _ => yields_ite ?_ ?_)
  · iterate 2 refine yields_bind fun _ => ?_
    exact records_none _
  · exact yields_bind fun _ => records_none _
  · iterate 3 refine yields_bind fun _ => ?_
    exact records_none _

omit [CaseFold] in
theorem records_failStop (request : LifecycleRequest) (errorCode message : String)
    (now : Nat) : Yields CommitRecorded
      (failAgentStopBeforeEffect request errorCode message now) := by
  unfold failAgentStopBeforeEffect
  iterate 6 refine yields_bind fun _ => ?_
  exact records_none _

omit [CaseFold] [OperationHash] in
theorem records_markStopUnconfirmed (principal : AuthenticatedPrincipal)
    (agentId operationId errorCode message : String) (now : Nat) :
    Yields CommitRecorded
      (markAgentStopUnconfirmed principal agentId operationId errorCode message now) := by
  have hrest : ∀ disconnected : DurableAgentSession, Yields CommitRecorded (do
      saveSession (stopUnconfirmedSession disconnected errorCode message)
      let participant ← loadAgentParticipant agentId
      saveParticipantExact participant.participantId participant.detachRuntime
      let error ← appendErrorEvent principal (stopUnconfirmedSession disconnected errorCode message)
        errorCode (stopUnconfirmedSession disconnected errorCode message).lastError now
      let state ← appendStateEvent principal
        (stopUnconfirmedSession disconnected errorCode message) now
      pure { events := [error, state], nextAssignments := [] }) := by
    intro disconnected
    iterate 5 refine yields_bind fun _ => ?_
    exact records_none _
  unfold markAgentStopUnconfirmed
  iterate 4 refine yields_bind fun _ => ?_
  refine yields_ite (yields_bind fun _ => hrest _) ?_
  iterate 2 refine yields_bind fun _ => ?_
  exact hrest _

omit [CaseFold] in
theorem records_finalizeStop (request : LifecycleRequest) (now : Nat) :
    Yields CommitRecorded (finalizeAgentStop request now) := by
  unfold finalizeAgentStop
  refine yields_bind fun _ => ?_
  refine yields_bind fun ⟨room, settings⟩ => ?_
  iterate 4 refine yields_bind fun _ => ?_
  exact records_publish (records_assignPendingIn room settings now) _

/-- Every operation records the assignments it returns. -/
theorem Op.records (op : Op) : Yields (fun response s => AllRecorded response.assignments s)
    op.run := by
  have none {α : Type} (x : RoomTx α) (f : α → Response)
      (hf : ∀ a, Response.assignments (f a) = []) :
      Yields (fun response s => AllRecorded response.assignments s) (f <$> x) := by
    intro s response s' h
    obtain ⟨a, -, rfl⟩ := commits_map.mp h
    rw [hf]
    exact allRecorded_nil s'
  have commit {x : RoomTx AgentTurnCommit} (hx : Yields CommitRecorded x) :
      Yields (fun response s => AllRecorded response.assignments s) (Response.commit <$> x) :=
    yields_map hx fun _ _ h => h
  have mutation {x : RoomTx ParticipantMuteMutation} (hx : Yields MutationRecorded x) :
      Yields (fun response s => AllRecorded response.assignments s) (Response.mutation <$> x) :=
    yields_map hx fun _ _ h => h
  have optional {x : RoomTx (Option AgentTurnCommit)} (hx : Yields OptionalRecorded x) :
      Yields (fun response s => AllRecorded response.assignments s)
        (Response.optionalCommit <$> x) :=
    yields_map hx fun _ _ h => h
  cases op with
  | createAgent => exact commit (records_createAgent _ _ _)
  | sendMessage => exact commit (records_sendMessage _ _ _ _)
  | mutateMessage => exact commit (records_mutateMessage _ _ _)
  | mute => exact mutation (records_mute _ _ _)
  | interrupt => exact mutation (records_interrupt _ _ _)
  | requestCleanup => exact none _ _ fun _ => rfl
  | finishCleanup => exact optional (records_finishCleanup _ _)
  | assignPending => exact optional (records_assignPendingTurn _)
  | authorizeStart => exact none _ _ fun _ => rfl
  | markRunning => exact none _ _ fun _ => rfl
  | markRecoveryRequired => exact commit (records_markRecoveryRequired _ _)
  | taskDeath => exact commit (records_taskDeath _ _ _ _)
  | completeMessage => exact commit (records_completeMessage _ _ _ _ _ _)
  | completeVote => exact commit (records_completeVote _ _ _ _ _)
  | decline => exact commit (records_decline _ _ _ _ _)
  | fail => exact commit (records_fail _ _ _ _ _ _)
  | loadEffect => exact none _ _ fun _ => rfl
  | claimInterrupt => exact none _ _ fun _ => rfl
  | claimRecovery => exact none _ _ fun _ => rfl
  | releaseRecovery => exact none _ _ fun _ => rfl
  | authorizeDispatch => exact none _ _ fun _ => rfl
  | markUnstartedWaiting => exact none _ _ fun _ => rfl
  | markIssued => exact none _ _ fun _ => rfl
  | markAmbiguous => exact none _ _ fun _ => rfl
  | handoffClaim => exact none _ _ fun _ => rfl
  | markInterruptRecoveryRequired => exact none _ _ fun _ => rfl
  | authorizeRecoveryWait => exact none _ _ fun _ => rfl
  | finalizeRetained => exact commit (records_finalizeRetained _ _)
  | loadCandidate => exact none _ _ fun _ => rfl
  | recoverAssigned => exact none _ _ fun _ => rfl
  | finalizeNotStarted => exact commit (records_finalizeNotStarted _ _)
  | finalizeRuntimeGone => exact commit (records_finalizeRuntimeGone _ _ _)
  | prepareLaunch => exact commit (records_prepareLaunch _ _)
  | authorizeLaunch => exact none _ _ fun _ => rfl
  | completeLaunch => exact commit (records_completeLaunch _ _ _)
  | failLaunchBeforeEffect => exact commit (records_launchFailure _ _ _ _ _ _)
  | failLaunch => exact commit (records_launchFailure _ _ _ _ _ _)
  | markLaunchUnconfirmed => exact commit (records_markLaunchUnconfirmed _ _ _ _ _ _ _ _)
  | prepareStop => exact commit (records_prepareStop _ _)
  | failStopBeforeEffect => exact commit (records_failStop _ _ _ _)
  | authorizeStop => exact none _ _ fun _ => rfl
  | recordStop => exact none _ _ fun _ => rfl
  | markStopUnconfirmed => exact commit (records_markStopUnconfirmed _ _ _ _ _ _)
  | finalizeStop => exact commit (records_finalizeStop _ _)

end Recording

end AgentsAssemble.System
