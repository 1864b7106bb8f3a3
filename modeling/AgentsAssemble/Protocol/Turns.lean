import AgentsAssemble.Protocol.Queues

/-!
# Executions over moves

The rows of the turns: one live execution for each session, one log entry for
each ended turn, and effects that are finalized together with their execution.
`Sound` collects what holds whatever the provider lifecycle does.
-/

namespace AgentsAssemble.Protocol

open Foundation Domain Persistence

/-! ## Well-formed rows -/

structure RowsWF (c : RoomCore) : Prop where
  owner : ∀ sid gen row, c.executions.lookup (sid, gen) = some row →
    ∃ a, c.sessions.lookup sid = some a ∧ gen ≤ a.turnGeneration
  bounded : ∀ sid gen row, c.executions.lookup (sid, gen) = some row → gen ≤ maxI64
  single : ∀ sid g g' row row', c.executions.lookup (sid, g) = some row →
    c.executions.lookup (sid, g') = some row' → row.phase.isBlocking = true →
    row'.phase.isBlocking = true → g = g'
  turnIds : ∀ sid g g' row row', c.executions.lookup (sid, g) = some row →
    c.executions.lookup (sid, g') = some row' → row.turnId = row'.turnId → g = g'
  finished : ∀ sid gen row, c.executions.lookup (sid, gen) = some row →
    c.events.countP (isFinishOf sid row.turnId) = if row.phase.isBlocking then 0 else 1
  ended : ∀ sid turnId, 0 < c.events.countP (isFinishOf sid turnId) →
    ∃ gen row, c.executions.lookup (sid, gen) = some row ∧ row.turnId = turnId
  stored : ∀ key row, c.executions.lookup key = some row → c.assignments.lookup key ≠ none
  assigned : ∀ key row, c.executions.lookup key = some row → row.phase = .assigned →
    row.startDispatchNonce = "" ∧ row.providerTurnId = ""
  requeue : ∀ key row, c.executions.lookup key = some row → row.phase.isBlocking = true →
    row.requeueFinalized = false
  effects : ∀ key effect, c.effects.lookup key = some effect →
    ∃ row, c.executions.lookup key = some row ∧
      (effect.phase = .finalized ↔ row.phase.isBlocking = false) ∧
      (row.phase.isBlocking = false → row.requeueFinalized = true)
  effectIds : ∀ k k' e e', c.effects.lookup k = some e → c.effects.lookup k' = some e' →
    e.effectId = e'.effectId → k = k'

/-- Only the log and the sessions changed, and no turn ended. -/
theorem RowsWF.transport {c c' : RoomCore} (h : RowsWF c)
    (hexecutions : c'.executions = c.executions) (hassignments : c'.assignments = c.assignments)
    (heffects : c'.effects = c.effects)
    (hsessions : ∀ sid a, c.sessions.lookup sid = some a →
      ∃ b, c'.sessions.lookup sid = some b ∧ a.turnGeneration ≤ b.turnGeneration)
    (hevents : ∀ sid turnId, c'.events.countP (isFinishOf sid turnId) =
      c.events.countP (isFinishOf sid turnId)) : RowsWF c' := by
  refine ⟨?_, hexecutions ▸ h.bounded, hexecutions ▸ h.single, hexecutions ▸ h.turnIds, ?_, ?_,
    hexecutions ▸ hassignments ▸ h.stored, hexecutions ▸ h.assigned, hexecutions ▸ h.requeue,
    hexecutions ▸ heffects ▸ h.effects, heffects ▸ h.effectIds⟩
  · intro sid gen row hrow
    rw [hexecutions] at hrow
    obtain ⟨a, ha, hgen⟩ := h.owner sid gen row hrow
    obtain ⟨b, hb, hle⟩ := hsessions sid a ha
    exact ⟨b, hb, hgen.trans hle⟩
  · intro sid gen row hrow
    rw [hexecutions] at hrow
    rw [hevents]
    exact h.finished sid gen row hrow
  · intro sid turnId hpos
    rw [hevents] at hpos
    rw [hexecutions]
    exact h.ended sid turnId hpos

theorem countP_quiet_append {events added : List RoomEvent} (h : ∀ e ∈ added, Quiet e)
    (sid turnId : String) :
    (events ++ added).countP (isFinishOf sid turnId) =
      events.countP (isFinishOf sid turnId) := by
  have hnone : added.countP (isFinishOf sid turnId) = 0 := by
    rw [List.countP_eq_zero]
    intro e he
    rw [(h e he).not_finish]
    decide
  rw [List.countP_append, hnone, Nat.add_zero]

/-- The log entry of a settled turn ends that turn and no other. -/
theorem countP_finished {events : List RoomEvent} {finished : RoomEvent} {sid turnId : String}
    (htype : finished.eventType = "turn_finished")
    (hsession : finished.extra.sessionId = some sid)
    (hturn : finished.extra.turnId = some turnId) (sid' turnId' : String) :
    (events ++ [finished]).countP (isFinishOf sid' turnId') =
      events.countP (isFinishOf sid' turnId') +
        if sid' = sid ∧ turnId' = turnId then 1 else 0 := by
  have hthis : isFinishOf sid' turnId' finished = true ↔ sid' = sid ∧ turnId' = turnId := by
    simp only [isFinishOf, htype, hsession, hturn, beq_self_eq_true, Bool.true_and,
      Bool.and_eq_true, beq_iff_eq, Option.some.injEq]
    constructor <;> rintro ⟨rfl, rfl⟩ <;> exact ⟨rfl, rfl⟩
  rw [List.countP_append, List.countP_singleton]
  simp only [hthis]

section Machine

variable {P : Permit} {c c' : RoomCore}

theorem Assigns.rows_wf {a b : DurableAgentSession} {row : ExecutionRow}
    {envelope : ProviderTurnAssignmentEnvelope} {sessions : Table String DurableAgentSession}
    {executions : Table TurnKey ExecutionRow}
    {assignments : Table TurnKey ProviderTurnAssignmentEnvelope} (h : RowsWF c)
    (guard : Assigns c a b row envelope)
    (sets : Table.Sets c.sessions sessions a.sessionId (some b))
    (setsRow : Table.Sets c.executions executions (a.sessionId, b.turnGeneration) (some row))
    (setsEnvelope : Table.Sets c.assignments assignments (a.sessionId, b.turnGeneration)
      (some envelope)) :
    RowsWF { c with sessions, executions, assignments } := by
  have hblocking : row.phase.isBlocking = true := by
    rw [guard.phase]
    rfl
  refine ⟨?_, ?_, ?_, ?_, ?_, ?_, ?_, ?_, ?_, ?_, h.effectIds⟩
  · intro sid gen r hr
    rcases setsRow.cases hr with ⟨hkey, -⟩ | ⟨-, hr⟩
    · obtain ⟨rfl, rfl⟩ := Prod.mk.inj hkey
      exact ⟨b, sets.at_key, Nat.le_refl _⟩
    · obtain ⟨x, hx, hgen⟩ := h.owner sid gen r hr
      by_cases hsid : sid = a.sessionId
      · subst hsid
        obtain rfl := Option.some.inj (hx.symm.trans guard.stored)
        refine ⟨b, sets.at_key, hgen.trans ?_⟩
        rw [guard.next.generation]
        exact Nat.le_succ _
      · exact ⟨x, (sets.off_key hsid).trans hx, hgen⟩
  · intro sid gen r hr
    rcases setsRow.cases hr with ⟨hkey, -⟩ | ⟨-, hr⟩
    · obtain ⟨-, rfl⟩ := Prod.mk.inj hkey
      exact guard.bounded
    · exact h.bounded sid gen r hr
  · intro sid g g' r r' hr hr' hb hb'
    rcases setsRow.cases hr with ⟨hkey, -⟩ | ⟨-, hr⟩ <;>
      rcases setsRow.cases hr' with ⟨hkey', -⟩ | ⟨-, hr'⟩
    · rw [(Prod.mk.inj hkey).2, (Prod.mk.inj hkey').2]
    · rw [(Prod.mk.inj hkey).1] at hr'
      rw [guard.insertable.unblocked g' r' hr'] at hb'
      cases hb'
    · rw [(Prod.mk.inj hkey').1] at hr
      rw [guard.insertable.unblocked g r hr] at hb
      cases hb
    · exact h.single sid g g' r r' hr hr' hb hb'
  · intro sid g g' r r' hr hr' hturn
    rcases setsRow.cases hr with ⟨hkey, hrow⟩ | ⟨-, hr⟩ <;>
      rcases setsRow.cases hr' with ⟨hkey', hrow'⟩ | ⟨-, hr'⟩
    · rw [(Prod.mk.inj hkey).2, (Prod.mk.inj hkey').2]
    · obtain rfl := Option.some.inj hrow
      rw [(Prod.mk.inj hkey).1] at hr'
      exact absurd hturn.symm (guard.insertable.turnId g' r' hr')
    · obtain rfl := Option.some.inj hrow'
      rw [(Prod.mk.inj hkey').1] at hr
      exact absurd hturn (guard.insertable.turnId g r hr)
    · exact h.turnIds sid g g' r r' hr hr' hturn
  · intro sid gen r hr
    rcases setsRow.cases hr with ⟨hkey, hrow⟩ | ⟨-, hr⟩
    · obtain rfl := Option.some.inj hrow
      obtain ⟨rfl, rfl⟩ := Prod.mk.inj hkey
      -- A logged end of this turn id would belong to a stored row.
      have hzero : c.events.countP (isFinishOf a.sessionId row.turnId) = 0 := by
        by_contra hne
        obtain ⟨g, stored, hstored, hturn⟩ := h.ended _ _ (Nat.pos_of_ne_zero hne)
        exact guard.insertable.turnId g stored hstored hturn
      rw [hblocking, if_pos rfl]
      exact hzero
    · exact h.finished sid gen r hr
  · intro sid turnId hpos
    obtain ⟨gen, r, hr, hturn⟩ := h.ended sid turnId hpos
    have hne : (sid, gen) ≠ (a.sessionId, b.turnGeneration) := by
      intro hkey
      rw [hkey, guard.insertable.absent] at hr
      cases hr
    exact ⟨gen, r, (setsRow.off_key hne).trans hr, hturn⟩
  · intro key r hr
    by_cases hkey : key = (a.sessionId, b.turnGeneration)
    · subst hkey
      show assignments.lookup _ ≠ none
      rw [setsEnvelope.at_key]
      simp
    · show assignments.lookup _ ≠ none
      rw [setsEnvelope.off_key hkey]
      exact h.stored key r ((setsRow.off_key hkey) ▸ hr)
  · intro key r hr hphase
    rcases setsRow.cases hr with ⟨-, hrow⟩ | ⟨-, hr⟩
    · obtain rfl := Option.some.inj hrow
      exact ⟨guard.nonce, guard.providerTurnId⟩
    · exact h.assigned key r hr hphase
  · intro key r hr hb
    rcases setsRow.cases hr with ⟨-, hrow⟩ | ⟨-, hr⟩
    · obtain rfl := Option.some.inj hrow
      exact guard.requeue
    · exact h.requeue key r hr hb
  · intro key effect heffect
    obtain ⟨r, hr, hfinal, hrequeue⟩ := h.effects key effect heffect
    have hne : key ≠ (a.sessionId, b.turnGeneration) := by
      intro hkey
      rw [hkey, guard.insertable.absent] at hr
      cases hr
    exact ⟨r, (setsRow.off_key hne).trans hr, hfinal, hrequeue⟩

theorem Shifts.rows_wf {key effectKey : TurnKey} {row row' : ExecutionRow}
    {effect effect' : Option EffectRow} {executions : Table TurnKey ExecutionRow}
    {effects : Table TurnKey EffectRow} (h : RowsWF c)
    (guard : Shifts P c key row row' effectKey effect effect')
    (setsRow : Table.Sets c.executions executions key (some row'))
    (setsEffect : Table.Sets c.effects effects effectKey effect') :
    RowsWF { c with executions, effects } := by
  have shift := guard.shift
  have old : ∀ k r, executions.lookup k = some r →
      ∃ r₀, c.executions.lookup k = some r₀ ∧ RowShift r₀ r := by
    intro k r hr
    rcases setsRow.cases hr with ⟨rfl, hrow⟩ | ⟨-, hr⟩
    · obtain rfl := Option.some.inj hrow
      exact ⟨row, guard.storedRow, shift⟩
    · exact ⟨r, hr, RowShift.refl r⟩
  have new : ∀ k r₀, c.executions.lookup k = some r₀ →
      ∃ r, executions.lookup k = some r ∧ RowShift r₀ r := by
    intro k r₀ hr₀
    by_cases hk : k = key
    · subst hk
      obtain rfl := Option.some.inj (hr₀.symm.trans guard.storedRow)
      exact ⟨row', setsRow.at_key, shift⟩
    · exact ⟨r₀, (setsRow.off_key hk).trans hr₀, RowShift.refl r₀⟩
  -- The effect rows after the move, with the finality they had before.
  have effectOld : ∀ k e, effects.lookup k = some e →
      (∃ e₀, c.effects.lookup k = some e₀ ∧ e.effectId = e₀.effectId ∧
        (e.phase = .finalized ↔ e₀.phase = .finalized)) ∨
      (k = key ∧ row.phase.isBlocking = true ∧ e.phase ≠ .finalized ∧
        effect' = some e ∧
        ∀ k' e', c.effects.lookup k' = some e' → e'.effectId ≠ e.effectId) := by
    intro k e he
    rcases setsEffect.cases he with ⟨rfl, heq⟩ | ⟨-, he⟩
    · have hstored := guard.storedEffect
      cases guard.effectShift with
      | kept => exact Or.inl ⟨e, hstored.trans heq, rfl, Iff.rfl⟩
      | prepared new hphase hnew =>
          obtain rfl := Option.some.inj heq
          obtain ⟨hkey, hb⟩ := guard.prepared rfl (by simp)
          refine Or.inr ⟨hkey, hb, ?_, rfl, hnew⟩
          rw [hphase]
          simp
      | moved before after hid _ hfinal =>
          obtain rfl := Option.some.inj heq
          exact Or.inl ⟨before, hstored, hid, hfinal⟩
    · exact Or.inl ⟨e, he, rfl, Iff.rfl⟩
  refine ⟨?_, ?_, ?_, ?_, ?_, ?_, ?_, ?_, ?_, ?_, ?_⟩
  · intro sid gen r hr
    obtain ⟨r₀, hr₀, -⟩ := old _ r hr
    exact h.owner sid gen r₀ hr₀
  · intro sid gen r hr
    obtain ⟨r₀, hr₀, -⟩ := old _ r hr
    exact h.bounded sid gen r₀ hr₀
  · intro sid g g' r r' hr hr' hb hb'
    obtain ⟨r₀, hr₀, hs⟩ := old _ r hr
    obtain ⟨r₀', hr₀', hs'⟩ := old _ r' hr'
    exact h.single sid g g' r₀ r₀' hr₀ hr₀' (hs.live hb) (hs'.live hb')
  · intro sid g g' r r' hr hr' hturn
    obtain ⟨r₀, hr₀, hs⟩ := old _ r hr
    obtain ⟨r₀', hr₀', hs'⟩ := old _ r' hr'
    exact h.turnIds sid g g' r₀ r₀' hr₀ hr₀' (hs.turnId.symm.trans (hturn.trans hs'.turnId))
  · intro sid gen r hr
    obtain ⟨r₀, hr₀, hs⟩ := old _ r hr
    have hphase : r.phase.isBlocking = r₀.phase.isBlocking :=
      Bool.eq_iff_iff.mpr ⟨hs.live, hs.blocking⟩
    rw [hs.turnId, hphase]
    exact h.finished sid gen r₀ hr₀
  · intro sid turnId hpos
    obtain ⟨gen, r₀, hr₀, hturn⟩ := h.ended sid turnId hpos
    obtain ⟨r, hr, hs⟩ := new _ r₀ hr₀
    exact ⟨gen, r, hr, hs.turnId.trans hturn⟩
  · intro k r hr
    obtain ⟨r₀, hr₀, -⟩ := old _ r hr
    exact h.stored k r₀ hr₀
  · intro k r hr hphase
    obtain ⟨r₀, hr₀, hs⟩ := old _ r hr
    have hsame := hs.assigned hphase
    rw [hsame] at hphase ⊢
    exact h.assigned k r₀ hr₀ hphase
  · intro k r hr hb
    obtain ⟨r₀, hr₀, hs⟩ := old _ r hr
    rw [hs.requeue]
    exact h.requeue k r₀ hr₀ (hs.live hb)
  · intro k e he
    rcases effectOld k e he with ⟨e₀, he₀, -, hfinal⟩ | ⟨rfl, hb, hopen, -, -⟩
    · obtain ⟨r₀, hr₀, hfinal₀, hrequeue⟩ := h.effects k e₀ he₀
      obtain ⟨r, hr, hs⟩ := new _ r₀ hr₀
      have hphase : r.phase.isBlocking = r₀.phase.isBlocking :=
        Bool.eq_iff_iff.mpr ⟨hs.live, hs.blocking⟩
      refine ⟨r, hr, ?_, fun hterminal => ?_⟩
      · rw [hfinal, hfinal₀, hphase]
      · rw [hs.requeue]
        exact hrequeue (hphase ▸ hterminal)
    · have hb' := shift.blocking hb
      refine ⟨row', setsRow.at_key, by simp [hopen, hb'], fun hterminal => ?_⟩
      rw [hb'] at hterminal
      cases hterminal
  · intro k k' e e' he he' hid
    rcases effectOld k e he with ⟨e₀, he₀, hid₀, -⟩ | ⟨rfl, -, -, hnew, hfresh⟩ <;>
      rcases effectOld k' e' he' with ⟨e₀', he₀', hid₀', -⟩ | ⟨rfl, -, -, hnew', hfresh'⟩
    · exact h.effectIds k k' e₀ e₀' he₀ he₀' (hid₀.symm.trans (hid.trans hid₀'))
    · exact absurd (hid₀.symm.trans hid) (hfresh' k e₀ he₀)
    · exact absurd (hid₀'.symm.trans hid.symm) (hfresh k' e₀' he₀')
    · rfl

variable [UuidSource]

theorem Settles.rows_wf {a b : DurableAgentSession} {row row' : ExecutionRow}
    {finished : RoomEvent} {uuids : Nat} {sessions : Table String DurableAgentSession}
    {executions : Table TurnKey ExecutionRow} {effects : Table TurnKey EffectRow}
    (h : RowsWF c) (guard : Settles P c a b row row' finished uuids)
    (sets : Table.Sets c.sessions sessions a.sessionId (some b))
    (setsRow : Table.Sets c.executions executions (a.sessionId, a.turnGeneration) (some row'))
    (setsEffect : Table.Sets c.effects effects (a.sessionId, a.turnGeneration)
      ((c.effects.lookup (a.sessionId, a.turnGeneration)).map finalizeEffect)) :
    RowsWF { c with sessions, executions, effects, uuids, events := c.events ++ [finished] } := by
  have hcount : ∀ sid turnId, (c.events ++ [finished]).countP (isFinishOf sid turnId) =
      c.events.countP (isFinishOf sid turnId) +
        if sid = a.sessionId ∧ turnId = row.turnId then 1 else 0 :=
    countP_finished guard.eventType guard.ofSession guard.ofTurn
  -- A row after the move is the settled one or an untouched one; both have an old row.
  have old : ∀ key r, executions.lookup key = some r →
      ∃ r₀, c.executions.lookup key = some r₀ ∧ r.turnId = r₀.turnId ∧
        (r = r₀ ∨ (key = (a.sessionId, a.turnGeneration) ∧ r = row' ∧ r₀ = row)) := by
    intro key r hr
    rcases setsRow.cases hr with ⟨rfl, hrow⟩ | ⟨-, hr⟩
    · obtain rfl := Option.some.inj hrow
      exact ⟨row, guard.storedRow, guard.turnId, Or.inr ⟨rfl, rfl, rfl⟩⟩
    · exact ⟨r, hr, rfl, Or.inl rfl⟩
  have live : ∀ key r, executions.lookup key = some r → r.phase.isBlocking = true →
      c.executions.lookup key = some r := by
    intro key r hr hb
    rcases setsRow.cases hr with ⟨rfl, hrow⟩ | ⟨-, hr⟩
    · obtain rfl := Option.some.inj hrow
      rw [guard.terminal] at hb
      cases hb
    · exact hr
  have effectOld : ∀ key e, effects.lookup key = some e →
      ∃ e₀, c.effects.lookup key = some e₀ ∧ e.effectId = e₀.effectId := by
    intro key e he
    rcases setsEffect.cases he with ⟨rfl, hmap⟩ | ⟨-, he⟩
    · obtain ⟨e₀, he₀, rfl⟩ := Option.map_eq_some_iff.mp hmap
      exact ⟨e₀, he₀, rfl⟩
    · exact ⟨e, he, rfl⟩
  refine ⟨?_, ?_, ?_, ?_, ?_, ?_, ?_, ?_, ?_, ?_, ?_⟩
  · intro sid gen r hr
    obtain ⟨r₀, hr₀, -⟩ := old _ r hr
    obtain ⟨x, hx, hgen⟩ := h.owner sid gen r₀ hr₀
    by_cases hsid : sid = a.sessionId
    · subst hsid
      obtain rfl := Option.some.inj (hx.symm.trans guard.stored)
      refine ⟨b, sets.at_key, hgen.trans ?_⟩
      rw [guard.settlement.identity.2.2]
    · exact ⟨x, (sets.off_key hsid).trans hx, hgen⟩
  · intro sid gen r hr
    obtain ⟨r₀, hr₀, -⟩ := old _ r hr
    exact h.bounded sid gen r₀ hr₀
  · intro sid g g' r r' hr hr' hb hb'
    exact h.single sid g g' r r' (live _ r hr hb) (live _ r' hr' hb') hb hb'
  · intro sid g g' r r' hr hr' hturn
    obtain ⟨r₀, hr₀, hid, -⟩ := old _ r hr
    obtain ⟨r₀', hr₀', hid', -⟩ := old _ r' hr'
    exact h.turnIds sid g g' r₀ r₀' hr₀ hr₀' (hid.symm.trans (hturn.trans hid'))
  · intro sid gen r hr
    obtain ⟨r₀, hr₀, hid, hcase⟩ := old _ r hr
    show (c.events ++ [finished]).countP (isFinishOf sid r.turnId) = _
    rw [hcount, hid, h.finished sid gen r₀ hr₀]
    rcases hcase with rfl | ⟨hkey, rfl, rfl⟩
    · have hne : ¬ (sid = a.sessionId ∧ r.turnId = row.turnId) := by
        rintro ⟨rfl, hturn⟩
        have hgen := h.turnIds _ _ _ _ _ hr₀ guard.storedRow hturn
        subst hgen
        have hrow : row' = r := Option.some.inj (setsRow.at_key.symm.trans hr)
        have hlive : row = r := Option.some.inj (guard.storedRow.symm.trans hr₀)
        have hterminal := guard.terminal
        rw [hrow, ← hlive, guard.blocking] at hterminal
        cases hterminal
      rw [if_neg hne, Nat.add_zero]
    · obtain ⟨rfl, rfl⟩ := Prod.mk.inj hkey
      rw [guard.blocking, guard.terminal]
      simp
  · intro sid turnId hpos
    have hpos' : 0 < (c.events ++ [finished]).countP (isFinishOf sid turnId) := hpos
    rw [hcount] at hpos'
    have lift : ∀ gen r, c.executions.lookup (sid, gen) = some r → r.turnId = turnId →
        ∃ gen r, executions.lookup (sid, gen) = some r ∧ r.turnId = turnId := by
      intro gen r hr hturn
      by_cases hkey : (sid, gen) = (a.sessionId, a.turnGeneration)
      · refine ⟨gen, row', hkey ▸ setsRow.at_key, ?_⟩
        rw [hkey] at hr
        rw [guard.turnId, ← hturn, Option.some.inj (guard.storedRow.symm.trans hr)]
      · exact ⟨gen, r, (setsRow.off_key hkey).trans hr, hturn⟩
    by_cases hthis : sid = a.sessionId ∧ turnId = row.turnId
    · obtain ⟨rfl, rfl⟩ := hthis
      exact lift _ row guard.storedRow rfl
    · rw [if_neg hthis, Nat.add_zero] at hpos'
      obtain ⟨gen, r, hr, hturn⟩ := h.ended sid turnId hpos'
      exact lift gen r hr hturn
  · intro key r hr
    obtain ⟨r₀, hr₀, -⟩ := old _ r hr
    exact h.stored key r₀ hr₀
  · intro key r hr hphase
    have hb : r.phase.isBlocking = true := by
      rw [hphase]
      rfl
    exact h.assigned key r (live key r hr hb) hphase
  · intro key r hr hb
    exact h.requeue key r (live key r hr hb) hb
  · intro key e he
    rcases setsEffect.cases he with ⟨rfl, hmap⟩ | ⟨hne, he⟩
    · obtain ⟨e₀, he₀, rfl⟩ := Option.map_eq_some_iff.mp hmap
      have hrequeue := guard.requeue (by rw [he₀]; simp)
      exact ⟨row', setsRow.at_key, by simp [finalizeEffect, guard.terminal], fun _ => hrequeue⟩
    · obtain ⟨r, hr, hfinal, hrequeue⟩ := h.effects key e he
      exact ⟨r, (setsRow.off_key hne).trans hr, hfinal, hrequeue⟩
  · intro k k' e e' he he' hid
    obtain ⟨e₀, he₀, hid₀⟩ := effectOld k e he
    obtain ⟨e₀', he₀', hid₀'⟩ := effectOld k' e' he'
    exact h.effectIds k k' e₀ e₀' he₀ he₀' (hid₀.symm.trans (hid.trans hid₀'))

variable [CaseFold]

/-- Sessions are never removed, and their generations never fall. -/
theorem Move.session_mono (hm : Move P c c') {sid : String} {a : DurableAgentSession}
    (ha : c.sessions.lookup sid = some a) :
    ∃ b, c'.sessions.lookup sid = some b ∧ a.turnGeneration ≤ b.turnGeneration := by
  have keep : ∀ {sessions : Table String DurableAgentSession} {x y : DurableAgentSession},
      c.sessions.lookup x.sessionId = some x →
      Table.Sets c.sessions sessions x.sessionId (some y) →
      x.turnGeneration ≤ y.turnGeneration →
      ∃ b, sessions.lookup sid = some b ∧ a.turnGeneration ≤ b.turnGeneration := by
    intro sessions x y hx sets hle
    by_cases hsid : sid = x.sessionId
    · subst hsid
      obtain rfl := Option.some.inj (ha.symm.trans hx)
      exact ⟨y, sets.at_key, hle⟩
    · exact ⟨a, (sets.off_key hsid).trans ha, Nat.le_refl _⟩
  cases hm with
  | session x y sessions stored change sets =>
      exact keep stored sets (Nat.le_of_eq change.identity.2.2.1.symm)
  | assign x y row envelope sessions _ _ guard sets =>
      refine keep guard.stored sets ?_
      rw [guard.next.generation]
      exact Nat.le_succ _
  | settle x y row row' finished uuids sessions _ _ guard sets =>
      exact keep guard.stored sets (Nat.le_of_eq guard.settlement.identity.2.2.symm)
  | create x sessions guard sets =>
      have hsid : sid ≠ x.sessionId := by
        rintro rfl
        rw [guard.absent] at ha
        cases ha
      exact ⟨a, (sets.off_key hsid).trans ha, Nat.le_refl _⟩
  | log => exact ⟨a, ha, Nat.le_refl _⟩
  | edit => exact ⟨a, ha, Nat.le_refl _⟩
  | tombstone => exact ⟨a, ha, Nat.le_refl _⟩
  | shift => exact ⟨a, ha, Nat.le_refl _⟩
  | vote => exact ⟨a, ha, Nat.le_refl _⟩

theorem Move.rows_wf (hl : LogWF c.events c.uuids) (h : RowsWF c) (hm : Move P c c') :
    RowsWF c' := by
  cases hm with
  | log added uuids fresh quiet =>
      exact h.transport rfl rfl rfl (fun sid a ha => ⟨a, ha, Nat.le_refl _⟩)
        (countP_quiet_append quiet)
  | edit event content now guard =>
      exact h.transport rfl rfl rfl (fun sid a ha => ⟨a, ha, Nat.le_refl _⟩)
        fun sid turnId => countP_rewriteIn hl guard.stored rfl rfl
  | tombstone event kind now guard =>
      refine h.transport rfl rfl rfl (fun sid a ha => ⟨a, ha, Nat.le_refl _⟩)
        fun sid turnId => countP_rewriteIn hl guard.stored rfl ?_
      cases kind <;> rfl
  | session a b sessions stored change sets =>
      exact h.transport rfl rfl rfl
        (fun sid x hx => (Move.session a b sessions stored change sets).session_mono hx)
        fun _ _ => rfl
  | create a sessions guard sets =>
      exact h.transport rfl rfl rfl
        (fun sid x hx => (Move.create (P := P) a sessions guard sets).session_mono hx)
        fun _ _ => rfl
  | assign a b row envelope _ _ _ guard sets setsRow setsEnvelope =>
      exact guard.rows_wf h sets setsRow setsEnvelope
  | settle a b row row' finished uuids _ _ _ guard sets setsRow setsEffect =>
      exact guard.rows_wf h sets setsRow setsEffect
  | shift key row row' effectKey effect effect' _ _ guard setsRow setsEffect =>
      exact guard.rows_wf h setsRow setsEffect
  | vote => exact h.transport rfl rfl rfl (fun sid a ha => ⟨a, ha, Nat.le_refl _⟩) fun _ _ => rfl

/-! ## Soundness -/

/-- What holds of every core whatever the provider lifecycle does. -/
structure Sound (c : RoomCore) : Prop where
  log : LogWF c.events c.uuids
  sessions : SessionsWF c
  rows : RowsWF c

theorem Move.sound (h : Sound c) (hm : Move P c c') : Sound c' :=
  ⟨hm.log_wf h.log, hm.sessions_wf h.log h.sessions, hm.rows_wf h.log h.rows⟩

theorem Path.sound (h : Sound c) (hp : Path P c c') : Sound c' :=
  Path.invariant (fun _ _ hc hm => hm.sound hc) h hp

theorem Path.logStep (h : Sound c) (hp : Path P c c') : LogStep c.events c'.events := by
  induction hp with
  | refl => exact h.log.step_refl
  | tail hpath hlast ih => exact ih.trans (hlast.logStep (Path.sound h hpath).log)

end Machine

end AgentsAssemble.Protocol
