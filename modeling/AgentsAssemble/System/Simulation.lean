import AgentsAssemble.System.Posts
import AgentsAssemble.System.Residents
import AgentsAssemble.System.Completions
import AgentsAssemble.System.Recoveries

/-!
# The store refines the machine

Every operation is a path of moves under a permit read off its arguments, so
what the moves preserve holds in every room a run can reach.
-/

namespace AgentsAssemble.System

open Foundation Domain Persistence Protocol Tx

/-! ## Permits -/

/-- The session holds no turn. -/
def HoldsNoTurn (s : Store) (agentId : String) : Prop :=
  ∀ a, s.sessions.lookup agentId = some a → a.activeTurnId = ""

/-- The turn whose inflight inputs the operation may consume. -/
def Op.consumed : Op → Option TurnKey
  | .completeMessage _ authority _ _ _ _ => some (authority.sessionId, authority.turnGeneration)
  | .completeVote _ authority _ _ _ => some (authority.sessionId, authority.turnGeneration)
  | .decline _ authority _ _ _ => some (authority.sessionId, authority.turnGeneration)
  | _ => none

/-- The turn the operation reports the end of. -/
def Op.reported : Op → Option TurnKey
  | .completeMessage _ authority _ _ _ _ => some (authority.sessionId, authority.turnGeneration)
  | .completeVote _ authority _ _ _ => some (authority.sessionId, authority.turnGeneration)
  | .decline _ authority _ _ _ => some (authority.sessionId, authority.turnGeneration)
  | .fail _ authority _ _ _ _ => some (authority.sessionId, authority.turnGeneration)
  | _ => none

/-- The session whose inflight inputs the operation may put back. -/
def Op.restored : Op → Option String
  | .fail sessionId _ _ _ _ _ => some sessionId
  | .taskDeath sessionId _ _ _ => some sessionId
  | .finalizeRetained expected _ => some expected.sessionId
  | .finalizeNotStarted candidate _ => some candidate.execution.sessionId
  | .finalizeRuntimeGone candidate _ _ => some candidate.execution.sessionId
  | .markStopUnconfirmed _ agentId _ _ _ _ => some agentId
  | .finalizeStop request _ => some request.agentId
  | _ => none

/-- The session whose pending inputs the operation may discard. -/
def Op.cleaned : Op → Option String
  | .requestCleanup sessionId => some sessionId
  | .finishCleanup sessionId _ => some sessionId
  | _ => none

/-- The event the operation may delete. -/
def Op.deleted : Op → Option String
  | .mutateMessage _ payload _ => MessageMutationPayload.deletedId payload
  | _ => none

/-- The operation publishes messages of its own. -/
def Op.routes : Op → Prop
  | .sendMessage _ _ _ _ | .completeMessage _ _ _ _ _ _ | .completeVote _ _ _ _ _
  | .decline _ _ _ _ _ => True
  | _ => False

/-- The clock a ballot of the operation is checked against. -/
def Op.clock : Op → Option Nat
  | .sendMessage _ _ _ now => some now
  | .completeVote _ _ _ _ now => some now
  | _ => none

/-- The launch result overwrites no session that holds a turn. -/
def Op.Careful (s : Store) : Op → Prop
  | .prepareLaunch request _ => ListsCarefully s request
  | .completeLaunch request started _ =>
      started.runtimeReused = false → HoldsNoTurn s request.agentId
  | .failLaunch request _ _ _ => HoldsNoTurn s request.agentId
  | .markLaunchUnconfirmed _ agentId _ _ _ _ _ _ => HoldsNoTurn s agentId
  | _ => True

/-- An interrupt is claimed only of a turn that waits for it, and an effect named with the
turn it belongs to. -/
def Op.Paired (s : Store) : Op → Prop
  | .claimInterrupt expected _ _ => ∀ row, s.executions.lookup expected.key = some row →
      row.phase = .interruptPending
  | .markUnstartedWaiting claim _ => NamesTurn s claim.effect
  | .markIssued dispatched _ => NamesTurn s dispatched
  | .markAmbiguous dispatched => NamesTurn s dispatched
  | _ => True

/-- No message goes whose attachments an assigned turn still shows. -/
def Op.Evident (s : Store) (op : Op) : Prop :=
  ∀ eventId, op.deleted = some eventId → DeletesEvidently s eventId

def Op.permit (op : Op) (s : Store) : Permit where
  consumes key := op.consumed = some key ∧ RunsGeneration s key
  restores sessionId := op.restored = some sessionId
  cleans sessionId := op.cleaned = some sessionId
  deletes eventId := op.deleted = some eventId
  routes := op.routes
  clock now := op.clock = some now
  careful := op.Careful s
  paired := op.Paired s
  evident := op.Evident s

/-- What the rest of the server may do: nothing but append events. -/
def outsidePermit : Permit where
  consumes _ := False
  restores _ := False
  cleans _ := False
  deletes _ := False
  routes := False
  clock _ := False
  careful := True
  paired := True
  evident := True

def Label.permit (s : Store) : Label → Permit
  | .inside op _ => op.permit s
  | .outside => outsidePermit

section Simulation

variable [UuidSource] [CaseFold] [TextServices] [OperationHash]

/-- A reported end is the end of the turn it names. -/
theorem Op.ends {op : Op} {s s' : Store} {response : Response} {key : TurnKey}
    (hsound : Sound (coreOf s)) (hreported : op.reported = some key)
    (h : Commits op.run s response s') :
    Ends (op.permit s) (coreOf s) (coreOf s') key := by
  cases op <;> try cases hreported
  case completeMessage =>
    obtain ⟨commit, hrun, -⟩ := commits_map.mp h
    exact ends_completeMessage hsound (fun hruns => ⟨rfl, hruns⟩) trivial hrun
  case completeVote =>
    obtain ⟨commit, hrun, -⟩ := commits_map.mp h
    exact ends_completeVote hsound rfl (fun hruns => ⟨rfl, hruns⟩) trivial hrun
  case decline =>
    obtain ⟨commit, hrun, -⟩ := commits_map.mp h
    exact ends_decline hsound (fun hruns => ⟨rfl, hruns⟩) trivial hrun
  case fail =>
    obtain ⟨commit, hrun, -⟩ := commits_map.mp h
    exact ends_fail hsound rfl hrun

theorem Op.path {op : Op} {s s' : Store} {response : Response} (hsound : Sound (coreOf s))
    (h : Commits op.run s response s') : Path (op.permit s) (coreOf s) (coreOf s') := by
  cases op <;> obtain ⟨result, hrun, -⟩ := commits_map.mp h
  case createAgent => exact path_createAgent hrun
  case sendMessage => exact path_sendMessage hsound rfl trivial hrun
  case mutateMessage =>
    exact path_mutateMessage hsound (fun _ hid => hid) (fun hevident _ hid => hevident _ hid) hrun
  case mute => exact path_mute hsound hrun
  case interrupt => exact path_interrupt hrun
  case requestCleanup => exact path_requestCleanup rfl hrun
  case finishCleanup => exact path_finishCleanup hsound rfl hrun
  case assignPending => exact path_assignPendingTurn hsound hrun
  case authorizeStart => exact path_authorizeStart hsound hrun
  case markRunning => exact path_markRunning hrun
  case markRecoveryRequired => exact path_markRecoveryRequired hrun
  case taskDeath => exact path_taskDeath hsound rfl hrun
  case completeMessage => exact (Op.ends hsound rfl h).path
  case completeVote => exact (Op.ends hsound rfl h).path
  case decline => exact (Op.ends hsound rfl h).path
  case fail => exact (Op.ends hsound rfl h).path
  case loadEffect =>
    obtain ⟨rfl, -⟩ := commits_loadOptionalEffectIn hrun
    exact Relation.ReflTransGen.refl
  case claimInterrupt => exact path_claimInterrupt hsound (fun hpaired => hpaired) hrun
  case claimRecovery => exact path_claimRecovery hsound hrun
  case releaseRecovery => exact path_releaseRecovery hsound hrun
  case authorizeDispatch => exact path_authorizeDispatch hsound hrun
  case markUnstartedWaiting => exact path_transitionToWaiting (fun hpaired => hpaired) hrun
  case markIssued => exact path_transitionToWaiting (fun hpaired => hpaired) hrun
  case markAmbiguous => exact path_markAmbiguous (fun hpaired => hpaired) hrun
  case handoffClaim => exact path_handoff hsound hrun
  case markInterruptRecoveryRequired => exact path_handoff hsound hrun
  case authorizeRecoveryWait => exact path_recoveryWait hsound hrun
  case finalizeRetained => exact path_finalizeRetained hsound rfl hrun
  case loadCandidate =>
    obtain rfl := commits_loadActiveCandidate hrun
    exact Relation.ReflTransGen.refl
  case recoverAssigned =>
    obtain rfl := commits_recoverAssigned hrun
    exact Relation.ReflTransGen.refl
  case finalizeNotStarted => exact path_finalizeNotStarted hsound rfl hrun
  case finalizeRuntimeGone => exact path_finalizeRuntimeGone hsound rfl hrun
  case prepareLaunch => exact path_prepareLaunch (fun hcareful => hcareful) hrun
  case authorizeLaunch => exact path_authorizeLaunch hrun
  case completeLaunch => exact path_completeLaunch (fun hcareful => hcareful) hrun
  case failLaunchBeforeEffect => exact path_launchFailure (fun _ hclear => absurd hclear (by decide)) hrun
  case failLaunch => exact path_launchFailure (fun hcareful _ => hcareful) hrun
  case markLaunchUnconfirmed => exact path_markLaunchUnconfirmed (fun hcareful => hcareful) hrun
  case prepareStop => exact path_prepareStop hrun
  case failStopBeforeEffect => exact path_failStop hrun
  case authorizeStop => exact path_authorizeStop hrun
  case recordStop => exact path_recordStop hsound hrun
  case markStopUnconfirmed => exact path_markStopUnconfirmed rfl hrun
  case finalizeStop => exact path_finalizeStop hsound rfl hrun

omit [TextServices] [OperationHash] in
theorem Outside.path {s s' : Store} (h : Outside s s') :
    Path outsidePermit (coreOf s) (coreOf s') := by
  obtain ⟨added, hevents, hfresh, hquiet⟩ := h.events
  have hcore : coreOf s' = { coreOf s with events := s.events ++ added, uuids := s'.uuids } := by
    rw [coreOf, h.sessions, h.executions, h.assignments, h.effects, h.voteStates,
      h.voteBallots, hevents]
    rfl
  rw [hcore]
  exact Relation.ReflTransGen.single (Move.log added s'.uuids hfresh hquiet)

/-! ## Steps and runs -/

theorem Step.path {l : Label} {s s' : Store} (hsound : Sound (coreOf s)) (h : Step l s s') :
    Path (l.permit s) (coreOf s) (coreOf s') := by
  cases h with
  | inside op response hrun => exact op.path hsound hrun
  | outside hout => exact hout.path

theorem Step.sound {l : Label} {s s' : Store} (hsound : Sound (coreOf s)) (h : Step l s s') :
    Sound (coreOf s') :=
  Path.sound hsound (h.path hsound)

omit [CaseFold] [TextServices] [OperationHash] in
theorem IsInitial.sound {s : Store} (h : IsInitial s) : Sound (coreOf s) := by
  have hsessions : (coreOf s).sessions = ∅ := h.sessions
  have hevents : (coreOf s).events = [] := h.events
  have hexecutions : (coreOf s).executions = ∅ := h.executions
  have heffects : (coreOf s).effects = ∅ := h.effects
  refine ⟨⟨?_, ?_, ?_, ?_⟩, ⟨?_, ?_⟩, ⟨?_, ?_, ?_, ?_, ?_, ?_, ?_, ?_, ?_, ?_, ?_⟩⟩ <;>
    simp [hsessions, hevents, hexecutions, heffects, AList.lookup_empty]

theorem IsReachable.sound {s : Store} (h : IsReachable s) : Sound (coreOf s) :=
  Reachable.invariant (I := fun s => Sound (coreOf s)) (fun _ hs => hs.sound)
    (fun _ _ _ hs hstep => hstep.sound hs) h

/-- A sound room stays sound along a run. -/
theorem Run.sound {s t : Store} {ls : List Label} (hs : Sound (coreOf s))
    (h : Run Step s ls t) : Sound (coreOf t) :=
  h.invariant (I := fun s => Sound (coreOf s)) (fun _ _ _ hs hstep => hstep.sound hs) hs

end Simulation

end AgentsAssemble.System
