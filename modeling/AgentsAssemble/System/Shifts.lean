import AgentsAssemble.System.Endings

/-!
# Turn phases as moves

The start of a turn, its quarantine and every transition of its interrupt are
shifts of one execution row and one effect row.
-/

namespace AgentsAssemble.System

open Foundation Domain Persistence Protocol Tx

section Shifting

variable [UuidSource] [CaseFold] {P : Permit}

theorem path_shift {s s' : Store} {key effectKey : TurnKey} {row row' : ExecutionRow}
    {effect effect' : Option EffectRow}
    (hcore : coreOf s' = { coreOf s with executions := s'.executions, effects := s'.effects })
    (hrow : Table.Sets s.executions s'.executions key (some row'))
    (heffect : Table.Sets s.effects s'.effects effectKey effect')
    (guard : Shifts P (coreOf s) key row row' effectKey effect effect') :
    Path P (coreOf s) (coreOf s') := by
  rw [hcore]
  exact Relation.ReflTransGen.single (Move.shift key row row' effectKey effect effect' _ _
    guard hrow heffect)

omit [UuidSource] [CaseFold] in
/-- A live row that only changes its phase and its provider columns. -/
theorem rowShift_of_live {row row' : ExecutionRow}
    (hidentity : row'.executionId = row.executionId ∧ row'.participantId = row.participantId ∧
      row'.turnId = row.turnId ∧ row'.runtime = row.runtime ∧
      row'.requeueFinalized = row.requeueFinalized)
    (hlive : row.phase.isBlocking = true) (hlive' : row'.phase.isBlocking = true)
    (hassigned : row'.phase ≠ .assigned) : RowShift row row' := by
  obtain ⟨hid, hparticipant, hturn, hruntime, hrequeue⟩ := hidentity
  refine ⟨hid, hparticipant, hturn, hruntime, hrequeue, fun _ => hlive', fun hterminal => ?_,
    fun h => absurd h hassigned⟩
  rw [hlive] at hterminal
  cases hterminal

/-! ## Starting -/

/-- What a consumed start authorization found and wrote. -/
structure Authorizes (s : Store) (sid : String) (gen : Nat) (turnId : String)
    (row : ExecutionRow) (authority : ProviderTurnStartAuthority) (s' : Store) : Prop where
  stored : s.executions.lookup (sid, gen) = some row
  assigned : row.phase = .assigned
  unfenced : hasUnfinalizedEffect s (sid, gen) = false
  store : s' = { s with
    executions := s.executions.insert (sid, gen)
      { row with phase := .startDispatching, startDispatchNonce := UuidSource.newV4 s.uuids }
    uuids := s.uuids + 1 }

omit [CaseFold] in
theorem commits_authorizeStartIn {sid turnId : String} {gen : Nat} {s s' : Store}
    {authority : ProviderTurnStartAuthority}
    (h : Commits (authorizeStartIn sid gen turnId) s authority s') :
    ∃ row, Authorizes s sid gen turnId row authority s' := by
  simp only [authorizeStartIn, commits_bind, commits_loadSession, commits_loadParticipant,
    commits_requireExecutionAuthority, commits_require, commits_drawUuid, commits_generationI64,
    commits_requireNoEffect, commits_updateExecution, commits_loadExecutionIn,
    commits_pure] at h
  obtain ⟨a, _, ⟨-, -, -, rfl⟩, participant, _, ⟨-, rfl⟩, active, _, ⟨-, rfl⟩, _, s, ⟨-, rfl⟩,
    nonce, t, ⟨rfl, rfl⟩, h⟩ := h
  obtain ⟨_, _, ⟨-, rfl⟩, _, t, ⟨hunfenced, ht⟩, _, t', ⟨row, hrow, hguard, hstore⟩, execution, _,
    ⟨-, -, -, -, rfl⟩, -, rfl⟩ := h
  subst ht
  simp only [Bool.and_eq_true, beq_iff_eq] at hguard
  exact ⟨row, hrow, hguard.1.2, hunfenced, hstore⟩

theorem path_authorizeStart {sid turnId : String} {gen : Nat} {s s' : Store}
    {authority : ProviderTurnStartAuthority} (hsound : Sound (coreOf s))
    (h : Commits (authorizeStartIn sid gen turnId) s authority s') :
    Path P (coreOf s) (coreOf s') := by
  obtain ⟨row, hstored, hassigned, hunfenced, rfl⟩ := commits_authorizeStartIn h
  have hblocking : row.phase.isBlocking = true := by
    rw [hassigned]
    rfl
  have habsent := effect_absent hsound hstored hblocking hunfenced
  let started : ExecutionRow :=
    { row with phase := .startDispatching, startDispatchNonce := UuidSource.newV4 s.uuids }
  have hshift : Path P (coreOf s)
      (coreOf { s with executions := s.executions.insert (sid, gen) started }) := by
    refine path_shift rfl (Table.sets_insert _ _ _) (Table.sets_of_lookup habsent)
      ⟨hstored, habsent, ?_, .kept none, fun _ hne => absurd rfl hne, fun _ => ⟨rfl, ?_⟩⟩
    · exact rowShift_of_live ⟨rfl, rfl, rfl, rfl, rfl⟩ hblocking rfl nofun
    · rw [hassigned]
      exact TurnShift.start
  exact hshift.trans (publishes_draw _).path

theorem path_markRunning {authority : ProviderTurnStartAuthority} {providerTurnId : String}
    {s s' : Store} {u : Unit} (h : Commits (markRunningIn authority providerTurnId) s u s') :
    Path P (coreOf s) (coreOf s') := by
  simp only [markRunningIn, commits_bind, commits_require, commits_generationI64,
    commits_updateExecution] at h
  obtain ⟨_, _, ⟨-, rfl⟩, _, s, ⟨-, rfl⟩, row, hrow, hguard, rfl⟩ := h
  simp only [Bool.and_eq_true, beq_iff_eq] at hguard
  refine path_shift rfl (Table.sets_insert _ _ _) (Table.sets_self _ _)
    ⟨hrow, rfl, ?_, .kept _, fun hnone hne => absurd hnone hne, fun _ => ⟨rfl, ?_⟩⟩
  · exact rowShift_of_live ⟨rfl, rfl, rfl, rfl, rfl⟩ (by rw [hguard.2]; rfl) rfl (by rintro ⟨⟩)
  · rw [hguard.2]
    exact TurnShift.run _

theorem path_markRecoveryRequired {authority : ProviderTurnStartAuthority} {now : Nat}
    {s s' : Store} {commit : AgentTurnCommit}
    (h : Commits (markProviderTurnRecoveryRequired authority now) s commit s') :
    Path P (coreOf s) (coreOf s') := by
  simp only [markProviderTurnRecoveryRequired, commits_bind, commits_loadSession,
    commits_loadExecutionIn, commits_requireExecutionAuthority, commits_require,
    commits_updateExecution] at h
  obtain ⟨a, _, ⟨ha, hid, -, rfl⟩, execution, _, ⟨-, hrow, hsid, hgen, rfl⟩, active, _, ⟨-, rfl⟩,
    _, s, ⟨-, rfl⟩, _, t, ⟨row, hrow', hguard, rfl⟩, _, t', hsaved, state, t₁, hstate, h⟩ := h
  obtain ⟨-, rfl⟩ := commits_pure.mp h
  simp only [Bool.and_eq_true] at hguard
  have hblocking := isBlocking_of_isStarted hguard.2
  have hshift : Path P (coreOf s) (coreOf { s with
      executions := s.executions.insert execution.key { row with phase := .recoveryRequired } }) := by
    refine path_shift rfl (Table.sets_insert _ _ _) (Table.sets_self _ _)
      ⟨hrow', rfl, ?_, .kept _, fun hnone hne => absurd hnone hne, fun _ => ⟨rfl, ?_⟩⟩
    · exact rowShift_of_live ⟨rfl, rfl, rfl, rfl, rfl⟩ hblocking rfl (by rintro ⟨⟩)
    · exact TurnShift.uncertain _ _ hguard.2
  rw [← hid] at ha
  have hsave : Path P _ _ := path_saveCustody hsaved ha
    ⟨rfl, rfl, rfl, rfl, rfl, rfl, rfl, rfl, rfl, rfl, rfl, rfl⟩ rfl rfl rfl rfl
  exact (hshift.trans hsave).trans (publishes_sessionStateEvent hstate).path

/-! ## Task death -/

omit [UuidSource] [CaseFold] in
theorem commits_quarantineEffect {key : TurnKey} {s s' : Store} {u : Unit}
    (h : Commits (quarantineEffect key) s u s') :
    s' = { s with effects := s'.effects } ∧
      Table.Sets s.effects s'.effects key ((s.effects.lookup key).map EffectRow.quarantine) := by
  have hstore := commits_write.mp h
  split at hstore
  · rename_i habsent
    subst hstore
    refine ⟨rfl, Table.sets_of_lookup ?_⟩
    rw [habsent]
    rfl
  · rename_i row heffect
    subst hstore
    refine ⟨rfl, ?_⟩
    rw [heffect]
    exact Table.sets_insert _ _ _

omit [UuidSource] [CaseFold] in
/-- Quarantining neither finalizes an effect nor opens it again. -/
theorem quarantine_shift (effects : Table TurnKey EffectRow) (effect : Option EffectRow)
    (hopen : ∀ row, effect = some row → row.phase ≠ .finalized) :
    EffectShift effects effect (effect.map EffectRow.quarantine) := by
  cases effect with
  | none => exact .kept none
  | some row =>
      have hphase := hopen row rfl
      refine .moved row row.quarantine ?_ ?_ ?_ ?_ <;>
        · rw [EffectRow.quarantine]
          cases hp : row.phase <;> simp_all [isUndispatched]

theorem path_quarantine {session : DurableAgentSession} {execution : ProviderTurnExecution}
    {now : Nat} {s s' : Store} {commit : AgentTurnCommit} (hsound : Sound (coreOf s))
    (hlive : LiveTurn (coreOf s) session execution.toExecutionRow)
    (hkey : execution.key = (session.sessionId, session.turnGeneration))
    (hdispatched : execution.phase.isDispatched = true)
    (h : Commits (quarantineDispatchedTaskDeath session execution now) s commit s') :
    Path P (coreOf s) (coreOf s') := by
  simp only [quarantineDispatchedTaskDeath, commits_bind, commits_read,
    commits_updateExecution] at h
  obtain ⟨_, s, ⟨rfl, rfl⟩, _, t, ⟨row, hrow, -, ht⟩, _, t', hquarantine, _, t₁, hsaved, state,
    t₂, hstate, h⟩ := h
  obtain ⟨-, rfl⟩ := commits_pure.mp h
  rw [hkey] at hrow ht hquarantine
  obtain rfl := Option.some.inj (hlive.storedRow.symm.trans hrow)
  obtain ⟨ht', heffects⟩ := commits_quarantineEffect hquarantine
  have hopen : ∀ effect, s.effects.lookup (session.sessionId, session.turnGeneration) =
      some effect → effect.phase ≠ .finalized := by
    intro effect heffect hfinal
    obtain ⟨row, hrow', hiff, -⟩ := hsound.rows.effects _ effect heffect
    obtain rfl := Option.some.inj (hrow.symm.trans hrow')
    have hblocking := hlive.blocking
    rw [hiff.mp hfinal] at hblocking
    cases hblocking
  have hsessions : t'.sessions.lookup session.sessionId = some session := by
    rw [ht', ht]
    exact hlive.stored
  have hcore : coreOf t' = { coreOf s with executions := t'.executions, effects := t'.effects } := by
    rw [ht', ht]
    rfl
  have hsets : Table.Sets s.executions t'.executions (session.sessionId, session.turnGeneration)
      (some { execution.toExecutionRow with
        phase := if (s.effects.lookup (session.sessionId, session.turnGeneration)).any
            fun row => row.phase == .dispatching then .interruptAmbiguous
          else .recoveryRequired }) := by
    rw [ht', ht]
    exact Table.sets_insert _ _ _
  rw [show t.effects = s.effects by rw [ht]] at heffects
  have hmoved : Path P (coreOf s) (coreOf t') := by
    refine path_shift hcore hsets heffects
      ⟨hrow, rfl, rowShift_of_live ⟨rfl, rfl, rfl, rfl, rfl⟩ hlive.blocking ?_ ?_,
        quarantine_shift _ _ hopen,
        fun hnone hne => absurd (Option.map_eq_none_iff.mpr hnone) hne, fun _ => ⟨rfl, ?_⟩⟩
    · dsimp only
      split <;> rfl
    · dsimp only
      split <;> rintro ⟨⟩
    · rw [Option.map_map]
      exact TurnShift.death _ _ hdispatched hopen
  have hsave : Path P _ _ := path_saveCustody hsaved hsessions
    ⟨rfl, rfl, rfl, rfl, rfl, rfl, rfl, rfl, rfl, rfl, rfl, rfl⟩ rfl rfl rfl rfl
  exact (hmoved.trans hsave).trans (publishes_sessionStateEvent hstate).path

theorem path_taskDeath [TextServices] {sessionId executionId : String} {turnGeneration now : Nat}
    {s s' : Store} {commit : AgentTurnCommit} (hsound : Sound (coreOf s))
    (hrestores : P.restores sessionId)
    (h : Commits (recordProviderTurnTaskDeath sessionId turnGeneration executionId now)
      s commit s') : Path P (coreOf s) (coreOf s') := by
  simp only [recordProviderTurnTaskDeath, commits_bind, commits_loadExecutionIn,
    commits_loadSession, commits_requireExecutionAuthority, commits_require] at h
  obtain ⟨execution, _, ⟨-, hrow, hsid, hgen, rfl⟩, a, _, ⟨ha, hid, -, rfl⟩, active, _,
    ⟨hactive, rfl⟩, _, s, ⟨⟨-, hmatches, rfl⟩, rfl⟩, h⟩ := h
  have hkey : execution.key = (a.sessionId, a.turnGeneration) := by
    rw [ProviderTurnExecution.key, hsid, hid, hmatches.2.2.1]
  rw [← hid] at ha hrow hrestores
  have hgeneration : turnGeneration = a.turnGeneration := hgen.symm.trans hmatches.2.2.1
  split at h
  · rename_i hassigned
    have hlive := live_of_loaded ha hactive hrow hmatches.2.1 hgeneration (by rw [hassigned]; rfl)
    exact path_provenNoEffect hsound hlive hkey hrestores h
  split at h
  · rename_i hdispatched
    have hblocking : execution.phase.isBlocking = true := by
      cases hphase : execution.phase <;> rw [hphase] at hdispatched <;>
        first | rfl | cases hdispatched
    have hlive := live_of_loaded ha hactive hrow hmatches.2.1 hgeneration hblocking
    exact path_quarantine hsound hlive hkey hdispatched h
  · exact (commits_throw.mp h).elim

/-! ## Preparing an interrupt -/

/-- The row of a turn whose interrupt was prepared. -/
def pendingRow (row : ExecutionRow) : ExecutionRow :=
  { row with phase := if row.phase.isInterruptible then .interruptPending else row.phase }

omit [UuidSource] [CaseFold] in
theorem pendingRow_of_not {row : ExecutionRow} (h : row.phase.isInterruptible ≠ true) :
    pendingRow row = row := by
  rw [pendingRow, if_neg h]

omit [UuidSource] [CaseFold] in
theorem pendingRow_shift (row : ExecutionRow) : RowShift row (pendingRow row) := by
  by_cases hphase : row.phase.isInterruptible = true
  · have hblocking : row.phase.isBlocking = true := by
      cases hp : row.phase <;> rw [hp] at hphase <;> first | rfl | cases hphase
    have hpending : (pendingRow row).phase = .interruptPending := if_pos hphase
    exact rowShift_of_live ⟨rfl, rfl, rfl, rfl, rfl⟩ hblocking (by rw [hpending]; rfl)
      (by rw [hpending]; nofun)
  · rw [pendingRow_of_not hphase]
    exact RowShift.refl row

omit [UuidSource] [CaseFold] in
/-- A turn without an effect gets the prepared one, under an id that is still free. -/
theorem insertPreparedEffect_cases (key : TurnKey) (effectId : String)
    (cause : ProviderTurnInterruptCause) (s : Store) :
    insertPreparedEffect key effectId cause s = s ∨
      s.effects.lookup key = none ∧
        (∀ k e, s.effects.lookup k = some e → e.effectId ≠ effectId) ∧
        insertPreparedEffect key effectId cause s =
          { s with effects := s.effects.insert key { effectId, cause, phase := .prepared } } := by
  rw [insertPreparedEffect]
  split
  · exact Or.inl rfl
  · rename_i hfree
    simp only [not_or, Decidable.not_not, List.any_eq_true, not_exists, not_and, beq_iff_eq]
      at hfree
    refine Or.inr ⟨hfree.1, fun k e he => ?_, rfl⟩
    exact hfree.2 (k, e) (Table.mem_rows.mpr he)

omit [CaseFold] in
/-- What preparing an interrupt leaves: an effect under the turn and the pending row. -/
theorem commits_prepareInterruptEffect {execution : ProviderTurnExecution}
    {cause : ProviderTurnInterruptCause} {effect : ProviderTurnInterruptEffect} {s s' : Store}
    (hrow : s.executions.lookup execution.key = some execution.toExecutionRow)
    (h : Commits (prepareInterruptEffect execution cause) s effect s') :
    execution.phase.isBlocking = true ∧
      ∃ t, t = insertPreparedEffect execution.key (UuidSource.newV4 s.uuids) cause
          { s with uuids := s.uuids + 1 } ∧
        t.executions = s.executions ∧ (∃ e, t.effects.lookup execution.key = some e) ∧
        s' = { t with executions := s'.executions } ∧
        Table.Sets s.executions s'.executions execution.key
          (some (pendingRow execution.toExecutionRow)) := by
  simp only [prepareInterruptEffect, commits_bind, commits_require, commits_drawUuid,
    commits_generationI64, commits_write, commits_loadEffectIn] at h
  obtain ⟨_, s, ⟨hblocking, rfl⟩, effectId, _, ⟨rfl, rfl⟩, _, _, ⟨-, rfl⟩, _, _, ht, e, _,
    ⟨-, heffect, rfl⟩, _, t, ⟨-, rfl⟩, h⟩ := h
  obtain ⟨row, -, hrowEffect, -, -⟩ := effectOf_eq_some heffect
  have hexecutions : t.executions = s.executions := by
    rcases insertPreparedEffect_cases execution.key (UuidSource.newV4 s.uuids) cause
      { s with uuids := s.uuids + 1 } with hkept | ⟨-, -, hprepared⟩
    · rw [ht, hkept]
    · rw [ht, hprepared]
  refine ⟨hblocking, t, ht, hexecutions, ⟨row, hrowEffect⟩, ?_⟩
  split at h
  · rename_i hphase
    simp only [commits_bind, commits_updateExecution, commits_loadEffectIn] at h
    obtain ⟨_, _, ⟨row, hrow', -, rfl⟩, -, -, rfl⟩ := h
    rw [hexecutions] at hrow'
    obtain rfl := Option.some.inj (hrow.symm.trans hrow')
    refine ⟨rfl, ?_⟩
    rw [pendingRow, if_pos hphase, ← hexecutions]
    exact Table.sets_insert _ _ _
  · rename_i hphase
    obtain ⟨-, -, rfl⟩ := commits_loadEffectIn.mp h
    refine ⟨rfl, ?_⟩
    rw [pendingRow_of_not hphase, hexecutions]
    exact Table.sets_of_lookup hrow

theorem path_prepareInterrupt {execution : ProviderTurnExecution}
    {cause : ProviderTurnInterruptCause} {effect : ProviderTurnInterruptEffect} {s s' : Store}
    (hrow : s.executions.lookup execution.key = some execution.toExecutionRow)
    (h : Commits (prepareInterruptEffect execution cause) s effect s') :
    Path P (coreOf s) (coreOf s') := by
  obtain ⟨hblocking, t, ht, hexecutions, ⟨e, he⟩, hstore, hsets⟩ :=
    commits_prepareInterruptEffect hrow h
  have hdrawn : Path P (coreOf s) (coreOf { s with uuids := s.uuids + 1 }) :=
    (publishes_draw s).path
  refine hdrawn.trans ?_
  rcases insertPreparedEffect_cases execution.key (UuidSource.newV4 s.uuids) cause
      { s with uuids := s.uuids + 1 } with hkept | ⟨habsent, hids, hprepared⟩
  · rw [hkept] at ht
    subst ht
    rw [hstore]
    have hphases : TurnShift execution.phase
        ((s.effects.lookup execution.key).map EffectRow.phase)
        (pendingRow execution.toExecutionRow).phase
        ((s.effects.lookup execution.key).map EffectRow.phase) := by
      rw [show s.effects.lookup execution.key = some e from he]
      by_cases hphase : execution.phase.isInterruptible = true
      · rw [pendingRow, if_pos hphase]
        exact TurnShift.resumePrepare _ _ hphase
      · rw [pendingRow_of_not hphase]
        exact TurnShift.lease _ _
    exact path_shift rfl hsets (Table.sets_self _ execution.key)
      ⟨hrow, rfl, pendingRow_shift _, .kept _, fun hnone hne => absurd hnone hne,
        fun _ => ⟨rfl, hphases⟩⟩
  · rw [hprepared] at ht
    subst ht
    rw [hstore]
    exact path_shift rfl hsets (Table.sets_insert _ _ _)
      ⟨hrow, habsent, pendingRow_shift _, .prepared _ rfl hids,
        fun _ _ => ⟨rfl, hblocking⟩, fun _ => ⟨rfl, TurnShift.prepare _ hblocking⟩⟩

/-! ## Effects and executions together -/

/-- An effect row moves, and an execution row with it. -/
theorem path_moveBoth {s s' : Store} {key effectKey : TurnKey} {row row' : ExecutionRow}
    {effect effect' : EffectRow}
    (hstore : s' = { s with
      executions := s.executions.insert key row'
      effects := s.effects.insert effectKey effect' })
    (hrow : s.executions.lookup key = some row)
    (heffect : s.effects.lookup effectKey = some effect) (hshift : RowShift row row')
    (hmoved : EffectShift s.effects (some effect) (some effect'))
    (hpaired : P.paired → effectKey = key ∧
      TurnShift row.phase (some effect.phase) row'.phase (some effect'.phase)) :
    Path P (coreOf s) (coreOf s') := by
  subst hstore
  exact path_shift rfl (Table.sets_insert _ _ _) (Table.sets_insert _ _ _)
    ⟨hrow, heffect, hshift, hmoved, fun hnone => absurd hnone nofun, hpaired⟩

/-- An effect row moves under an execution that stays as it is. -/
theorem path_moveEffect {s s' : Store} {key : TurnKey} {row : ExecutionRow}
    {effect effect' : EffectRow} (hstore : s' = { s with effects := s.effects.insert key effect' })
    (hrow : s.executions.lookup key = some row) (heffect : s.effects.lookup key = some effect)
    (hmoved : EffectShift s.effects (some effect) (some effect'))
    (hpaired : P.paired →
      TurnShift row.phase (some effect.phase) row.phase (some effect'.phase)) :
    Path P (coreOf s) (coreOf s') := by
  subst hstore
  exact path_shift rfl (Table.sets_of_lookup hrow) (Table.sets_insert _ _ _)
    ⟨hrow, heffect, RowShift.refl row, hmoved, fun hnone => absurd hnone nofun,
      fun h => ⟨rfl, hpaired h⟩⟩

omit [UuidSource] [CaseFold] in
theorem effectShift_of_phase {effects : Table TurnKey EffectRow} {effect effect' : EffectRow}
    (hid : effect'.effectId = effect.effectId) (hcause : effect'.cause = effect.cause)
    (hopen : effect.phase ≠ .finalized) (hopen' : effect'.phase ≠ .finalized)
    (hundispatched : isUndispatched effect'.phase = true → isUndispatched effect.phase = true) :
    EffectShift effects (some effect) (some effect') :=
  .moved effect effect' hid hcause (iff_of_false hopen' hopen) hundispatched

omit [UuidSource] [CaseFold] in
/-- The snapshot a caller holds names the stored effect. -/
theorem exactEffect_key {expected current : ProviderTurnInterruptEffect}
    (h : { expected with phase := current.phase } = current) :
    current.key = expected.key ∧ current.effectId = expected.effectId := by
  rw [← h]
  exact ⟨rfl, rfl⟩

/-! ## Claims and leases -/

theorem path_claimInterrupt {expected : ProviderTurnInterruptEffect} {claimOwner : String}
    {now : Nat} {s s' : Store} {claim : ProviderTurnEffectClaim} (hsound : Sound (coreOf s))
    (hpaired : P.paired → ∀ row, s.executions.lookup expected.key = some row →
      row.phase = .interruptPending)
    (h : Commits (claimProviderTurnInterrupt expected claimOwner now) s claim s') :
    Path P (coreOf s) (coreOf s') := by
  simp only [claimProviderTurnInterrupt, validateClaimOwner, requireExactEffect, commits_bind,
    commits_require, commits_loadEffectIn] at h
  obtain ⟨_, _, ⟨-, rfl⟩, current, _, ⟨-, hcurrent, rfl⟩, _, s, ⟨hexact, rfl⟩, _, t, hupdate,
    effect, _, ⟨-, -, rfl⟩, h⟩ := h
  obtain ⟨-, rfl⟩ := commits_pure.mp h
  obtain ⟨row, execution, hrow, hexecution, hjoin, hguard, hstore⟩ :=
    updateEffect_loaded hsound hcurrent hupdate
  have hphase : isUndispatched row.phase = true := by
    simp only [Bool.or_eq_true, Bool.and_eq_true, beq_iff_eq] at hguard
    rcases hguard with hprepared | ⟨hclaimed, -⟩
    · rw [hprepared]
      rfl
    · rw [hclaimed]
      rfl
  have hopen : row.phase ≠ .finalized := by
    intro hfinal
    rw [hfinal] at hphase
    cases hphase
  refine path_moveEffect hstore hexecution hrow
    (effectShift_of_phase rfl rfl hopen nofun fun _ => hphase) fun hp => ?_
  rw [hpaired hp execution hexecution]
  exact TurnShift.claim _ hphase

theorem path_claimRecovery {expected : ProviderTurnInterruptEffect} {claimOwner : String}
    {now : Nat} {s s' : Store} {claim : ProviderTurnEffectClaim} (hsound : Sound (coreOf s))
    (h : Commits (claimProviderTurnInterruptRecovery expected claimOwner now) s claim s') :
    Path P (coreOf s) (coreOf s') := by
  simp only [claimProviderTurnInterruptRecovery, validateClaimOwner, requireExactEffect,
    commits_bind, commits_require, commits_loadEffectIn, commits_loadExecutionIn] at h
  obtain ⟨_, _, ⟨-, rfl⟩, current, _, ⟨-, hcurrent, rfl⟩, _, _, ⟨-, rfl⟩, execution, _,
    ⟨-, -, -, -, rfl⟩, _, s, ⟨-, rfl⟩, _, t, hupdate, effect, _, ⟨-, -, rfl⟩, h⟩ := h
  obtain ⟨-, rfl⟩ := commits_pure.mp h
  obtain ⟨row, execution', hrow, hexecution, -, -, hstore⟩ :=
    updateEffect_loaded hsound hcurrent hupdate
  exact path_moveEffect hstore hexecution hrow (.moved _ _ rfl rfl Iff.rfl id)
    fun _ => TurnShift.lease _ _

theorem path_releaseRecovery {claim : ProviderTurnEffectClaim} {s s' : Store} {u : Unit}
    (hsound : Sound (coreOf s))
    (h : Commits (releaseProviderInterruptRecoveryClaim claim) s u s') :
    Path P (coreOf s) (coreOf s') := by
  simp only [releaseProviderInterruptRecoveryClaim, requireExactEffect, commits_bind,
    commits_require, commits_loadEffectIn] at h
  obtain ⟨current, _, ⟨-, hcurrent, rfl⟩, _, s, ⟨-, rfl⟩, hupdate⟩ := h
  obtain ⟨row, execution, hrow, hexecution, -, -, hstore⟩ :=
    updateEffect_loaded hsound hcurrent hupdate
  exact path_moveEffect hstore hexecution hrow (.moved _ _ rfl rfl Iff.rfl id)
    fun _ => TurnShift.lease _ _

/-! ## Dispatch and its result -/

theorem path_authorizeDispatch {claim : ProviderTurnEffectClaim} {now : Nat} {s s' : Store}
    {effect : ProviderTurnInterruptEffect} (hsound : Sound (coreOf s))
    (h : Commits (authorizeProviderInterruptDispatch claim now) s effect s') :
    Path P (coreOf s) (coreOf s') := by
  simp only [authorizeProviderInterruptDispatch, commits_bind, commits_drawUuid,
    commits_loadEffectIn] at h
  obtain ⟨nonce, _, ⟨rfl, rfl⟩, _, t, hupdate, -, -, rfl⟩ := h
  obtain ⟨key, row, hrow, -, hguard, hstore⟩ := commits_updateEffect hupdate
  simp only [Bool.and_eq_true, beq_iff_eq] at hguard
  obtain ⟨execution, hexecution, -, -⟩ := hsound.rows.effects key row hrow
  have hdrawn : Path P (coreOf s) (coreOf { s with uuids := s.uuids + 1 }) :=
    (publishes_draw s).path
  refine hdrawn.trans (path_moveEffect hstore hexecution hrow
    (effectShift_of_phase rfl rfl ?_ (by rintro ⟨⟩) (by rintro ⟨⟩)) fun _ => ?_)
  · rw [hguard.1]
    rintro ⟨⟩
  · rw [hguard.1]
    exact TurnShift.dispatch _

omit [UuidSource] [CaseFold] in
/-- An execution row that carries the effect of a caller in this phase. -/
theorem carries_phase {row : ExecutionRow} {effect : ProviderTurnInterruptEffect}
    {phase : ProviderTurnExecutionPhase} (h : row.carries effect phase = true) :
    row.phase = phase := by
  simp only [ExecutionRow.carries, Bool.and_eq_true, beq_iff_eq] at h
  exact h.1.2

/-- The effect id of the caller belongs to the turn of the caller. -/
def NamesTurn (s : Store) (effect : ProviderTurnInterruptEffect) : Prop :=
  ∀ key row, s.effects.lookup key = some row → row.effectId = effect.effectId →
    key = effect.key

theorem path_transitionToWaiting {expected : ProviderTurnInterruptEffect}
    {claimOwner : Option String} {now : Nat} {s s' : Store}
    {effect : ProviderTurnInterruptEffect} (hpaired : P.paired → NamesTurn s expected)
    (h : Commits (transitionToWaitingIn expected claimOwner now) s effect s') :
    Path P (coreOf s) (coreOf s') := by
  simp only [transitionToWaitingIn, commits_bind, commits_generationI64,
    commits_updateExecution, commits_loadEffectIn] at h
  obtain ⟨_, t, hupdate, _, _, ⟨-, rfl⟩, _, t', ⟨execution, hexecution, hcarries, ht'⟩, -, -,
    rfl⟩ := h
  obtain ⟨key, row, hrow, hid, hguard, rfl⟩ := commits_updateEffect hupdate
  have hopen : row.phase ≠ .finalized := by
    intro hfinal
    cases claimOwner <;> simp [hfinal] at hguard
  have hpending := carries_phase hcarries
  refine path_moveBoth ht' hexecution hrow ?_
    (effectShift_of_phase rfl rfl hopen (by rintro ⟨⟩) (by rintro ⟨⟩)) fun hp => ⟨hpaired hp key row hrow hid, ?_⟩
  · exact rowShift_of_live ⟨rfl, rfl, rfl, rfl, rfl⟩ (by rw [hpending]; rfl) rfl (by rintro ⟨⟩)
  · rw [hpending]
    exact TurnShift.issue _

theorem path_markAmbiguous {dispatched : ProviderTurnInterruptEffect} {s s' : Store} {u : Unit}
    (hpaired : P.paired → NamesTurn s dispatched)
    (h : Commits (markProviderInterruptAmbiguous dispatched) s u s') :
    Path P (coreOf s) (coreOf s') := by
  simp only [markProviderInterruptAmbiguous, commits_bind, commits_generationI64,
    commits_updateExecution] at h
  obtain ⟨_, t, hupdate, _, _, ⟨-, rfl⟩, execution, hexecution, hcarries, ht'⟩ := h
  obtain ⟨key, row, hrow, hid, hguard, rfl⟩ := commits_updateEffect hupdate
  simp only [Bool.and_eq_true, beq_iff_eq] at hguard
  have hpending := carries_phase hcarries
  refine path_moveBoth ht' hexecution hrow ?_ (effectShift_of_phase rfl rfl ?_ (by rintro ⟨⟩) (by rintro ⟨⟩))
    fun hp => ⟨hpaired hp key row hrow hid, ?_⟩
  · exact rowShift_of_live ⟨rfl, rfl, rfl, rfl, rfl⟩ (by rw [hpending]; rfl) rfl (by rintro ⟨⟩)
  · rw [hguard.1]
    rintro ⟨⟩
  · rw [hpending, hguard.1]
    exact TurnShift.ambiguous

/-! ## Recovery -/

/-- A loaded pair moves to one of the two phases of a recovery. -/
theorem path_recoverPair {current : ProviderTurnInterruptEffect} {key : TurnKey}
    {execution : ProviderTurnExecution} {s t s' : Store} {guard : EffectRow → Bool}
    {update : EffectRow → EffectRow} {guard' : ExecutionRow → Bool}
    {phase : ProviderTurnExecutionPhase} {error : PersistenceError} {u : Unit}
    (hsound : Sound (coreOf s)) (hcurrent : effectOf s key = some current)
    (hkey : execution.key = key)
    (hrow : s.executions.lookup key = some execution.toExecutionRow)
    (hlive : execution.phase.isBlocking = true) (hopen : current.phase ≠ .finalized)
    (heffect : Commits (updateEffect current.effectId guard update error) s u t)
    (hexecution : Commits (updateExecution execution.key guard'
      (fun row => { row with phase }) error) t u s')
    (hid : ∀ row, (update row).effectId = row.effectId)
    (hcause : ∀ row, (update row).cause = row.cause)
    (hphase : ∀ row, (update row).phase ≠ .finalized ∧ isUndispatched (update row).phase = false)
    (hblocking : phase.isBlocking = true) (hassigned : phase ≠ .assigned)
    (hshift : ∀ p row, TurnShift p (some row.phase) phase (some (update row).phase)) :
    Path P (coreOf s) (coreOf s') := by
  obtain ⟨row, stored, hrowEffect, -, hjoin, -, rfl⟩ := updateEffect_loaded hsound hcurrent heffect
  obtain ⟨row', hrow', -, rfl⟩ := commits_updateExecution.mp hexecution
  rw [hkey] at hrow' ⊢
  obtain rfl := Option.some.inj (hrow.symm.trans hrow')
  rw [hjoin] at hopen
  refine path_moveBoth rfl hrow hrowEffect ?_
    (effectShift_of_phase (hid row) (hcause row) hopen (hphase row).1 fun h => ?_)
    fun _ => ⟨rfl, hshift _ row⟩
  · exact rowShift_of_live ⟨rfl, rfl, rfl, rfl, rfl⟩ hlive hblocking hassigned
  · rw [(hphase row).2] at h
    cases h

theorem path_handoff {expected : ProviderTurnInterruptEffect} {owner : Option String}
    {s s' : Store} {u : Unit} (hsound : Sound (coreOf s))
    (h : Commits (transitionToRecoveryRequired expected owner) s u s') :
    Path P (coreOf s) (coreOf s') := by
  simp only [transitionToRecoveryRequired, requireExactEffect, commits_bind, commits_require,
    commits_loadEffectIn, commits_loadExecutionIn] at h
  obtain ⟨current, _, ⟨-, hcurrent, rfl⟩, _, _, ⟨hexact, rfl⟩, execution, _,
    ⟨-, hrow, hsid, hgen, rfl⟩, _, s, ⟨⟨heffect, hphase, -⟩, rfl⟩, h⟩ := h
  have hkey : execution.key = (expected.sessionId, expected.turnGeneration) := by
    rw [ProviderTurnExecution.key, hsid, hgen, ← hexact]
  have hcurrentKey : (current.sessionId, current.turnGeneration) =
      (expected.sessionId, expected.turnGeneration) := by
    rw [← hexact]
  rw [hcurrentKey] at hrow
  cases owner with
  | some owner =>
      obtain ⟨_, t, hupdate, hexecution⟩ := commits_bind.mp h
      exact path_recoverPair hsound hcurrent hkey hrow (by rw [hphase]; rfl) (by rw [heffect]; nofun)
        hupdate hexecution (fun _ => rfl) (fun _ => rfl) (fun _ => ⟨nofun, rfl⟩) rfl nofun
        fun p row => TurnShift.handoff _ _
  | none =>
      obtain ⟨_, t, hupdate, hexecution⟩ := commits_bind.mp h
      exact path_recoverPair hsound hcurrent hkey hrow (by rw [hphase]; rfl) (by rw [heffect]; nofun)
        hupdate hexecution (fun _ => rfl) (fun _ => rfl) (fun _ => ⟨nofun, rfl⟩) rfl nofun
        fun p row => TurnShift.handoff _ _

omit [UuidSource] [CaseFold] in
theorem recoverable_live {effect : ProviderTurnEffectPhase} {phase : ProviderTurnExecutionPhase}
    (h : recoverableInterruptPair effect phase = true) :
    phase.isBlocking = true ∧ effect ≠ .finalized := by
  cases effect <;> cases phase <;> first | exact ⟨rfl, by decide⟩ | cases h

theorem path_recoveryWait {claim : ProviderTurnEffectClaim} {now : Nat} {s s' : Store}
    {effect : ProviderTurnInterruptEffect} (hsound : Sound (coreOf s))
    (h : Commits (authorizeProviderInterruptRecoveryWait claim now) s effect s') :
    Path P (coreOf s) (coreOf s') := by
  simp only [authorizeProviderInterruptRecoveryWait, requireExactEffect, commits_bind,
    commits_require, commits_loadEffectIn, commits_loadExecutionIn] at h
  obtain ⟨current, _, ⟨-, hcurrent, rfl⟩, _, _, ⟨hexact, rfl⟩, execution, _,
    ⟨-, hrow, hsid, hgen, rfl⟩, _, s, ⟨⟨hpair, -⟩, rfl⟩, _, t, hupdate, _, t', hexecution, h⟩ := h
  obtain ⟨-, rfl⟩ := commits_pure.mp h
  obtain ⟨hlive, hopen⟩ := recoverable_live hpair
  have hkey : execution.key = (claim.effect.sessionId, claim.effect.turnGeneration) := by
    rw [ProviderTurnExecution.key, hsid, hgen]
  exact path_recoverPair hsound hcurrent hkey hrow hlive hopen hupdate hexecution
    (fun _ => rfl) (fun _ => rfl) (fun _ => ⟨nofun, rfl⟩) rfl nofun fun p row => TurnShift.wait _ _

end Shifting

end AgentsAssemble.System
