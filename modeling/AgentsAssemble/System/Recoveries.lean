import AgentsAssemble.System.Endings
import AgentsAssemble.Protocol.Envelopes

/-!
# Recovery reads

Loading a candidate and rehydrating its assignment write nothing.  What they
demand of the stored rows is what the reachable rooms guarantee.
-/

namespace AgentsAssemble.System

open Foundation Domain Persistence Protocol Tx

section Recoveries

theorem commits_loadReconciliationCandidate {sessionId : String} {generation : Nat}
    {candidate : ProviderTurnReconciliationCandidate} {s s' : Store}
    (h : Commits (loadReconciliationCandidate sessionId generation) s candidate s') :
    s' = s ∧ candidate.execution.sessionId = sessionId ∧
      candidate.execution.turnGeneration = generation ∧
      s.executions.lookup (sessionId, generation) = some candidate.execution.toExecutionRow ∧
      s.sessions.lookup sessionId = some candidate.session ∧
      validateCandidate candidate.session candidate.execution = .ok () := by
  simp only [loadReconciliationCandidate, commits_bind, commits_loadExecutionIn,
    commits_loadSession, commits_ofResult] at h
  obtain ⟨execution, _, ⟨-, hrow, hsid, hgen, rfl⟩, session, _, ⟨hsession, -, -, rfl⟩, _, _,
    ⟨hvalid, rfl⟩, effect, t, heffect, hpure⟩ := h
  obtain ⟨rfl, -, -⟩ := commits_loadOptionalEffectIn heffect
  obtain ⟨rfl, rfl⟩ := commits_pure.mp hpure
  exact ⟨rfl, hsid, hgen, hrow, hsession, hvalid⟩

theorem commits_loadActiveCandidate {sessionId : String}
    {candidate : Option ProviderTurnReconciliationCandidate} {s s' : Store}
    (h : Commits (loadActiveCandidateIn sessionId) s candidate s') : s' = s := by
  rw [loadActiveCandidateIn] at h
  obtain ⟨generations, _, hread, hrest⟩ := commits_bind.mp h
  obtain ⟨-, rfl⟩ := commits_read.mp hread
  cases generations with
  | nil => exact (commits_pure.mp hrest).2
  | cons generation rest =>
      obtain ⟨_, _, hrequire, hload⟩ := commits_bind.mp hrest
      obtain ⟨-, rfl⟩ := commits_require.mp hrequire
      obtain ⟨found, hfound, -⟩ := commits_map.mp hload
      exact (commits_loadReconciliationCandidate hfound).1

theorem commits_loadAssignmentIn {session : DurableAgentSession}
    {execution : ProviderTurnExecution} {assignment : ProviderTurnAssignmentEnvelope}
    {s s' : Store} (h : Commits (loadAssignmentIn session execution) s assignment s') :
    s' = s ∧ s.assignments.lookup execution.key = some assignment := by
  simp only [loadAssignmentIn, commits_bind, commits_read, commits_orReject,
    commits_ofResult] at h
  obtain ⟨_, _, ⟨rfl, rfl⟩, envelope, _, ⟨hstored, rfl⟩, _, _, ⟨rfl, rfl⟩, _, _, ⟨-, rfl⟩,
    hpure⟩ := h
  obtain ⟨rfl, rfl⟩ := commits_pure.mp hpure
  obtain ⟨row, -, hrow⟩ := Option.bind_eq_some_iff.mp hstored
  split at hrow
  · exact ⟨rfl, hrow⟩
  · cases hrow

theorem commits_recoverAssigned {candidate : ProviderTurnReconciliationCandidate}
    {assignment : AgentTurnAssignment} {s s' : Store}
    (h : Commits (recoverAssignedProviderTurn candidate) s assignment s') : s' = s := by
  simp only [recoverAssignedProviderTurn, commits_bind, commits_require, commits_loadSession,
    commits_loadExecutionIn, commits_ofResult, commits_loadParticipant] at h
  obtain ⟨_, _, ⟨-, rfl⟩, session, _, ⟨-, -, -, rfl⟩, execution, _, ⟨-, -, -, -, rfl⟩, _, _,
    ⟨-, rfl⟩, _, _, ⟨-, rfl⟩, effect, _, heffect, hrest⟩ := h
  obtain ⟨rfl, -, -⟩ := commits_loadOptionalEffectIn heffect
  obtain ⟨_, _, ⟨-, rfl⟩, participant, _, ⟨-, rfl⟩, _, _, ⟨-, rfl⟩, envelope, t, henvelope,
    hpure⟩ := hrest
  obtain ⟨rfl, -⟩ := commits_loadAssignmentIn henvelope
  exact (commits_pure.mp hpure).2

end Recoveries

end AgentsAssemble.System
