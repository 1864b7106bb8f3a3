import AgentsAssemble.System.Batches
import AgentsAssemble.Protocol.Authority

/-!
# Turn custody over runs

As long as no launch result overwrites a session that holds a turn, every
session is in one of the two shapes of a turn, and its row and the rows of its
executions describe each other.
-/

namespace AgentsAssemble.System

open Foundation Domain Persistence Protocol Tx

section Custody

variable [UuidSource] [CaseFold] [TextServices] [OperationHash]

/-- Rooms that lead from launch results which overwrite no session with a turn. -/
def CarefullyReachable (s : Store) : Prop :=
  ReachableMeeting Op.Careful s

omit [UuidSource] [CaseFold] [TextServices] [OperationHash] in
theorem IsInitial.linked {s : Store} (h : IsInitial s) : Linked (coreOf s) := by
  have hsessions : (coreOf s).sessions = ∅ := h.sessions
  refine ⟨?_, ?_, ?_⟩ <;> simp [hsessions, AList.lookup_empty]

theorem CarefullyReachable.linked {s : Store} (h : CarefullyReachable s) :
    Sound (coreOf s) ∧ Linked (coreOf s) := by
  refine ReachableMeeting.invariant ?_ ?_ ?_ h
  · intro s hs
    exact hs.linked
  · intro s s' op response hsound hlinked hcareful hrun
    exact Path.linked hcareful hsound hlinked (op.path hsound hrun)
  · intro s s' hsound hlinked hout
    exact Path.linked trivial hsound hlinked hout.path

omit [CaseFold] [TextServices] [OperationHash] in
/-- The authority of a session in one of the two shapes can be read. -/
theorem authority_of_shape {s : Store} {sid : String} {a : DurableAgentSession}
    (hsound : Sound (coreOf s)) (ha : s.sessions.lookup sid = some a) (hshape : TurnShape a) :
    (a.activeTurnId ≠ "" → activeTurnAuthority a = some true) ∧
      (a.activeTurnId = "" → activeTurnAuthority a = some false) := by
  have hcanonical := (hsound.sessions.queues sid a ha).canonical hsound.log
  refine ⟨fun hid => ?_, fun hid => ?_⟩
  · exact activeTurnAuthority_eq_true.mpr ⟨hcanonical, hshape.active hid⟩
  · exact activeTurnAuthority_eq_false.mpr ⟨hcanonical, hshape.clear hid⟩

/-- In every room careful steps lead to, the authority of every session is readable: a session
with a turn is busy or stopping in a running phase, and one without has no turn field set. -/
theorem turn_authority_well_formed {s : Store} (hs : CarefullyReachable s) {sid : String}
    {a : DurableAgentSession} (ha : s.sessions.lookup sid = some a) :
    activeTurnAuthority a ≠ none ∧
      (a.activeTurnId ≠ "" → (a.runtimeStatus = .busy ∨ a.runtimeStatus = .stopping) ∧
        (a.turnPhase = .thinking ∨ a.turnPhase = .streaming)) ∧
      (a.activeTurnId = "" → ClearTurn a) := by
  obtain ⟨hsound, hlinked⟩ := hs.linked
  have hshape := hlinked.shape sid a ha
  obtain ⟨hactive, hclear⟩ := authority_of_shape hsound ha hshape
  refine ⟨?_, fun hid => ?_, fun hid => hshape.clear hid⟩
  · by_cases hid : a.activeTurnId = ""
    · rw [hclear hid]
      exact Option.some_ne_none _
    · rw [hactive hid]
      exact Option.some_ne_none _
  · have hturn := hshape.active hid
    exact ⟨hturn.runtime, hturn.phase⟩

/-! ## The session and its executions -/

omit [CaseFold] [TextServices] [OperationHash] in
/-- What a blocking row says about its session. -/
theorem blocking_row_matches {s : Store} (hsound : Sound (coreOf s))
    (hlinked : Linked (coreOf s)) {sid : String} {gen : Nat} {row : ExecutionRow}
    (hrow : s.executions.lookup (sid, gen) = some row) (hblocking : row.phase.isBlocking = true) :
    ∃ a, s.sessions.lookup sid = some a ∧ a.sessionId = sid ∧
      activeTurnAuthority a = some true ∧ gen = a.turnGeneration ∧
      row.turnId = a.activeTurnId ∧ row.participantId = a.participantId ∧
      row.runtime = a.runtime := by
  obtain ⟨a, ha, -⟩ := hsound.rows.owner sid gen row hrow
  obtain ⟨hid, rfl, -⟩ := hlinked.owned sid a gen row ha hrow hblocking
  obtain ⟨stored, hstored, hmatches⟩ := hlinked.running sid a ha hid
  obtain rfl := Option.some.inj (hrow.symm.trans hstored)
  have hactive := (authority_of_shape hsound ha (hlinked.shape sid a ha)).1 hid
  exact ⟨a, ha, (hsound.sessions.keyed sid a ha).1, hactive, rfl, hmatches.turnId,
    hmatches.participantId, hmatches.runtime⟩

/-- The session row and the execution rows simulate each other. -/
theorem session_and_executions_agree {s : Store} (hs : CarefullyReachable s) :
    (∀ sid g g' row row', s.executions.lookup (sid, g) = some row →
      s.executions.lookup (sid, g') = some row' → row.phase.isBlocking = true →
      row'.phase.isBlocking = true → g = g') ∧
    (∀ sid gen row, s.executions.lookup (sid, gen) = some row → row.phase.isBlocking = true →
      ∃ a, s.sessions.lookup sid = some a ∧ activeTurnAuthority a = some true ∧
        gen = a.turnGeneration ∧ row.turnId = a.activeTurnId ∧
        row.participantId = a.participantId ∧ row.runtime = a.runtime ∧
        validateCandidate a
          { toExecutionRow := row, sessionId := sid, turnGeneration := gen } = .ok ()) ∧
    ∀ sid a, s.sessions.lookup sid = some a → activeTurnAuthority a = some true →
      ∃ row, s.executions.lookup (sid, a.turnGeneration) = some row ∧
        (row.phase.isBlocking = true ∨
          (a.lifecycleIntentAction = .stop ∧ a.lifecycleIntentStatus = .effectApplied ∧
            row.phase = .interrupted ∧ row.requeueFinalized = true)) := by
  obtain ⟨hsound, hlinked⟩ := hs.linked
  refine ⟨hsound.rows.single, fun sid gen row hrow hblocking => ?_, fun sid a ha hactive => ?_⟩
  · obtain ⟨a, ha, hid, hactive, rfl, hturn, hparticipant, hruntime⟩ :=
      blocking_row_matches hsound hlinked hrow hblocking
    refine ⟨a, ha, hactive, rfl, hturn, hparticipant, hruntime, ?_⟩
    unfold validateCandidate
    rw [if_pos ⟨hblocking, hactive, hid, hparticipant, hturn, rfl, hruntime⟩]
  · have hturn := (activeTurnAuthority_eq_true.mp hactive).2
    obtain ⟨row, hrow, hmatches⟩ := hlinked.running sid a ha hturn.turnId
    refine ⟨row, hrow, ?_⟩
    by_cases hstop : StopApplied a
    · obtain ⟨hphase, hrequeue⟩ := hmatches.applied hstop
      exact Or.inr ⟨hstop.1, hstop.2, hphase, hrequeue⟩
    · exact Or.inl (hmatches.live hstop)

/-- Whether the named session holds no turn. -/
def holdsNoTurn (s : Store) (agentId : String) : Bool :=
  (s.sessions.lookup agentId).all fun a => a.activeTurnId == ""

omit [UuidSource] [CaseFold] [TextServices] [OperationHash] in
theorem holdsNoTurn_sound {s : Store} {agentId : String} (h : holdsNoTurn s agentId = true) :
    HoldsNoTurn s agentId := by
  intro a ha
  rw [holdsNoTurn, ha] at h
  exact beq_iff_eq.mp h

/-- A check for carefulness: launch results only on sessions without a turn. -/
def isCareful (s : Store) : Op → Bool
  | .prepareLaunch request _ => request.startRequested || holdsNoTurn s request.agentId
  | .completeLaunch request _ _ => holdsNoTurn s request.agentId
  | .failLaunch request _ _ _ => holdsNoTurn s request.agentId
  | .markLaunchUnconfirmed _ agentId _ _ _ _ _ _ => holdsNoTurn s agentId
  | _ => true

omit [UuidSource] [CaseFold] [TextServices] [OperationHash] in
theorem isCareful_sound (s : Store) (op : Op) (h : isCareful s op = true) : op.Careful s := by
  cases op <;> try exact trivial
  case prepareLaunch request now =>
    intro hlisting a ha _
    rw [isCareful, hlisting, Bool.false_or] at h
    exact holdsNoTurn_sound h a ha
  case completeLaunch request started now => exact fun _ => holdsNoTurn_sound h
  case failLaunch request errorCode message now => exact holdsNoTurn_sound h
  case markLaunchUnconfirmed => exact holdsNoTurn_sound h

end Custody

/-! ## A launch that fails under a turn -/

namespace Sample

/-- The running agent is launched again, and the launch fails after its effect began. -/
def failUnderTurn : List Op :=
  firstTurn ++
  [ .prepareLaunch (lifecycleRequest "again" "agent.start") 0
  , .authorizeLaunch (lifecycleRequest "again" "agent.start") runtime
  , .failLaunch (lifecycleRequest "again" "agent.start") "spawn_failed" "spawn failed" 0 ]

end Sample

open Sample in
/-- The first turn of the sample room is busy in a running phase. -/
theorem first_turn_authority_well_formed :
    ((checkedRoom isCareful emptyRoom firstTurn).sessions.lookup "bot").any
        (fun a => a.activeTurnId != "") = true ∧
      ∀ a, (checkedRoom isCareful emptyRoom firstTurn).sessions.lookup "bot" = some a →
        activeTurnAuthority a ≠ none := by
  have hroom : checkedRoom isCareful emptyRoom firstTurn = turnRoom :=
    (checkedRoom_eq_roomAfter (by decide +kernel)).trans roomAfter_firstTurn
  refine ⟨by rw [hroom]; decide, fun a ha => ?_⟩
  have hcareful : CarefullyReachable (checkedRoom isCareful emptyRoom firstTurn) :=
    reachable_checkedRoom isCareful_sound emptyRoom_initial firstTurn
  exact (turn_authority_well_formed hcareful ha).1

open Sample in
/-- The first turn of the sample room has a blocking execution. -/
theorem first_turn_has_execution :
    ((checkedRoom isCareful emptyRoom firstTurn).sessions.lookup "bot").bind
        activeTurnAuthority = some true ∧
      ∀ a, (checkedRoom isCareful emptyRoom firstTurn).sessions.lookup "bot" = some a →
        activeTurnAuthority a = some true →
        ∃ row, (checkedRoom isCareful emptyRoom firstTurn).executions.lookup
          ("bot", a.turnGeneration) = some row := by
  have hroom : checkedRoom isCareful emptyRoom firstTurn = turnRoom :=
    (checkedRoom_eq_roomAfter (by decide +kernel)).trans roomAfter_firstTurn
  refine ⟨by rw [hroom]; decide, fun a ha hactive => ?_⟩
  have hcareful : CarefullyReachable (checkedRoom isCareful emptyRoom firstTurn) :=
    reachable_checkedRoom isCareful_sound emptyRoom_initial firstTurn
  obtain ⟨row, hrow, -⟩ :=
    (session_and_executions_agree hcareful).2.2 "bot" a ha hactive
  exact ⟨row, hrow⟩

open Sample in
/-- The failed launch leaves the session of a running turn in neither shape. -/
theorem failed_launch_breaks_authority :
    ¬ ∀ s, IsReachable s → ∀ sid a, s.sessions.lookup sid = some a →
      activeTurnAuthority a ≠ none := by
  intro hclaim
  have hbroken : ((roomAfter emptyRoom failUnderTurn).sessions.lookup "bot").map
      activeTurnAuthority = some none := by
    rw [failUnderTurn, roomAfter_append _ run_firstTurn]
    decide +kernel
  obtain ⟨a, ha, hnone⟩ := Option.map_eq_some_iff.mp hbroken
  exact hclaim _ (reachable_roomAfter emptyRoom_reachable failUnderTurn) "bot" a ha hnone

end AgentsAssemble.System
