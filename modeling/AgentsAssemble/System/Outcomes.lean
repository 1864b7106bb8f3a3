import AgentsAssemble.System.Batches
import AgentsAssemble.Protocol.History

/-!
# One outcome for each turn

Whatever its callers replay, a turn generation gets its start authority once,
its interrupt goes out once and one end of it is reported.  Each of the three is
a token that the first step takes and no step gives back.
-/

namespace AgentsAssemble.System

open Foundation Domain Persistence Protocol Tx

/-! ## The steps that count -/

/-- The step hands out the start authority of the turn. -/
def Label.starts (key : TurnKey) : Label → Bool
  | .inside (.authorizeStart sessionId turnGeneration _) _ => (sessionId, turnGeneration) == key
  | _ => false

/-- The step fences the first byte of the interrupt. -/
def Label.dispatches (effectId : String) : Label → Bool
  | .inside (.authorizeDispatch claim _) _ => claim.effect.effectId == effectId
  | _ => false

/-- The step reports the end of the turn: its message, its vote, its decline or its failure. -/
def Label.reports (key : TurnKey) : Label → Bool
  | .inside op _ => op.reported == some key
  | .outside => false

section Outcomes

variable [UuidSource] [CaseFold] [TextServices] [OperationHash]

/-- A step that takes a token no step gives back happens once along a run. -/
theorem counts_once {token : Store → Prop} {hit : Label → Bool}
    (hneed : ∀ l s s', Sound (coreOf s) → Step l s s' → hit l = true → token s ∧ ¬ token s')
    (hspent : ∀ l s s', Sound (coreOf s) → Step l s s' → ¬ token s → ¬ token s')
    {s t : Store} {labels : List Label} (hs : Sound (coreOf s)) (h : Run Step s labels t) :
    labels.countP hit ≤ 1 := by
  have hcount : labels.countP hit ≤ 1 ∧ (0 < labels.countP hit → ¬ token t) := by
    refine h.count_le_one (I := fun s => Sound (coreOf s))
      (fun _ _ _ hsound hstep => hstep.sound hsound) ?_ ?_ hs
    · intro l s s' hsound hstep hl
      exact hneed l s s' hsound hstep hl
    · intro l s s' hsound hstep hnot
      refine ⟨hspent l s s' hsound hstep hnot, ?_⟩
      by_contra hl
      exact hnot (hneed l s s' hsound hstep (by simpa using hl)).1
  exact hcount.1

/-! ## Starts -/

/-- The turn was not started: its execution, if there is one, is still assigned. -/
def Unstarted (key : TurnKey) (s : Store) : Prop :=
  ∀ row, s.executions.lookup key = some row → row.phase = .assigned

theorem Step.started {l : Label} {s s' : Store} {key : TurnKey} (hsound : Sound (coreOf s))
    (h : Step l s s') (hstarted : ¬ Unstarted key s) : ¬ Unstarted key s' := by
  intro hunstarted
  refine hstarted fun row hrow => ?_
  obtain ⟨row', hrow', hhistory⟩ := Path.row_history (h.path hsound) hrow
  have hassigned := hunstarted row' hrow'
  rw [← hhistory.assigned hassigned]
  exact hassigned

theorem Step.starts {l : Label} {s s' : Store} {key : TurnKey} (h : Step l s s')
    (hl : l.starts key = true) : Unstarted key s ∧ ¬ Unstarted key s' := by
  cases h with
  | outside => cases hl
  | inside op response hrun =>
      cases op <;> try cases hl
      case authorizeStart sessionId turnGeneration turnId =>
        obtain rfl := beq_iff_eq.mp hl
        obtain ⟨authority, hcommits, -⟩ := commits_map.mp hrun
        obtain ⟨row, hrow, hassigned, -, rfl⟩ := commits_authorizeStartIn hcommits
        refine ⟨fun stored hstored => ?_, fun hunstarted => ?_⟩
        · obtain rfl := Option.some.inj (hrow.symm.trans hstored)
          exact hassigned
        · have hphase := hunstarted _ (AList.lookup_insert _)
          cases hphase

theorem starts_once {s t : Store} {labels : List Label} (key : TurnKey)
    (hs : Sound (coreOf s)) (h : Run Step s labels t) : labels.countP (Label.starts key) ≤ 1 :=
  counts_once (fun _ _ _ _ hstep hl => hstep.starts hl)
    (fun _ _ _ hsound hstep => hstep.started hsound) hs h

/-! ## Interrupts -/

/-- The interrupt of the effect did not go out. -/
def Undispatched (effectId : String) (s : Store) : Prop :=
  ∀ key effect, s.effects.lookup key = some effect → effect.effectId = effectId →
    isUndispatched effect.phase = true

theorem Step.dispatched {l : Label} {s s' : Store} {effectId : String}
    (hsound : Sound (coreOf s)) (h : Step l s s') (hspent : ¬ Undispatched effectId s) :
    ¬ Undispatched effectId s' := by
  intro hundispatched
  refine hspent fun key effect heffect hid => ?_
  obtain ⟨effect', heffect', hhistory⟩ := Path.effect_history (h.path hsound) heffect
  exact hhistory.undispatched (hundispatched key effect' heffect' (hhistory.effectId.trans hid))

theorem Step.dispatches {l : Label} {s s' : Store} {effectId : String}
    (hsound : Sound (coreOf s)) (h : Step l s s') (hl : l.dispatches effectId = true) :
    Undispatched effectId s ∧ ¬ Undispatched effectId s' := by
  cases h with
  | outside => cases hl
  | inside op response hrun =>
      cases op <;> try cases hl
      case authorizeDispatch claim now =>
        obtain rfl := beq_iff_eq.mp hl
        obtain ⟨effect, hcommits, -⟩ := commits_map.mp hrun
        simp only [authorizeProviderInterruptDispatch, commits_bind, commits_drawUuid,
          commits_loadEffectIn] at hcommits
        obtain ⟨nonce, _, ⟨-, rfl⟩, _, t, hupdate, -, -, rfl⟩ := hcommits
        obtain ⟨key, row, hrow, hid, hguard, rfl⟩ := commits_updateEffect hupdate
        have hclaimed : row.phase = .claimed := by
          rw [Bool.and_eq_true, beq_iff_eq] at hguard
          exact hguard.1
        refine ⟨fun k other hother hsame => ?_, fun hundispatched => ?_⟩
        · -- Only one row carries the id, and it is the claimed one.
          obtain rfl := hsound.rows.effectIds k key other row hother hrow (hsame.trans hid.symm)
          obtain rfl := Option.some.inj (hrow.symm.trans hother)
          rw [hclaimed]
          rfl
        · have hphase := hundispatched key _ (AList.lookup_insert _) hid
          cases hphase

theorem dispatches_once {s t : Store} {labels : List Label} (effectId : String)
    (hs : Sound (coreOf s)) (h : Run Step s labels t) :
    labels.countP (Label.dispatches effectId) ≤ 1 :=
  counts_once (fun _ _ _ hsound hstep hl => hstep.dispatches hsound hl)
    (fun _ _ _ hsound hstep => hstep.dispatched hsound) hs h

/-! ## Outcomes -/

/-- The turn has no outcome yet. -/
def Unended (key : TurnKey) (s : Store) : Prop :=
  ∀ row, s.executions.lookup key = some row → row.phase.isBlocking = true

theorem Step.ended {l : Label} {s s' : Store} {key : TurnKey} (hsound : Sound (coreOf s))
    (h : Step l s s') (hended : ¬ Unended key s) : ¬ Unended key s' := by
  intro hunended
  refine hended fun row hrow => ?_
  by_contra hne
  obtain ⟨row', hrow', hhistory⟩ := Path.row_history (h.path hsound) hrow
  obtain rfl := hhistory.terminal (by simpa using hne)
  exact hne (hunended row' hrow')

theorem Step.reports {l : Label} {s s' : Store} {key : TurnKey} (hsound : Sound (coreOf s))
    (h : Step l s s') (hl : l.reports key = true) : Unended key s ∧ ¬ Unended key s' := by
  cases h with
  | outside => cases hl
  | inside op response hrun =>
      have hends := Op.ends hsound (beq_iff_eq.mp hl) hrun
      obtain ⟨row, hrow, hterminal⟩ := hends.settled
      refine ⟨hends.live, fun hunended => ?_⟩
      rw [hunended row hrow] at hterminal
      cases hterminal

theorem reports_once {s t : Store} {labels : List Label} (key : TurnKey)
    (hs : Sound (coreOf s)) (h : Run Step s labels t) : labels.countP (Label.reports key) ≤ 1 :=
  counts_once (fun _ _ _ hsound hstep hl => hstep.reports hsound hl)
    (fun _ _ _ hsound hstep => hstep.ended hsound) hs h

/-- An outcome is final: the row of an ended turn never changes again. -/
theorem outcome_final {s t : Store} {labels : List Label} {key : TurnKey} {row : ExecutionRow}
    (hs : Sound (coreOf s)) (h : Run Step s labels t)
    (hrow : s.executions.lookup key = some row) (hterminal : row.phase.isBlocking = false) :
    t.executions.lookup key = some row := by
  have hkept : (s.executions.lookup key = some row → t.executions.lookup key = some row) := by
    refine h.relates (I := fun s => Sound (coreOf s))
      (R := fun s t => s.executions.lookup key = some row → t.executions.lookup key = some row)
      (fun _ => id) (fun _ _ _ hab hbc => hbc ∘ hab)
      (fun _ _ _ hsound hstep => hstep.sound hsound) ?_ hs
    intro l a b hsound hstep ha
    obtain ⟨row', hrow', hhistory⟩ := Path.row_history (hstep.path hsound) ha
    obtain rfl := hhistory.terminal hterminal
    exact hrow'
  exact hkept hrow

/-- Over any run a generation is started once and never under an open interrupt, its interrupt
goes out once, and one end of it is reported; its outcome is final and finished once. -/
theorem generation_happens_once {init t : Store} {labels : List Label}
    (hinit : IsInitial init) (hrun : Run Step init labels t) (key : TurnKey) :
    labels.countP (Label.starts key) ≤ 1 ∧
      (∀ s turnId authority s', Commits (authorizeStartIn key.1 key.2 turnId) s authority s' →
        hasUnfinalizedEffect s key = false) ∧
      (∀ effect, t.effects.lookup key = some effect →
        labels.countP (Label.dispatches effect.effectId) ≤ 1) ∧
      labels.countP (Label.reports key) ≤ 1 ∧
      (∀ before after s row, labels = before ++ after → Run Step init before s →
        Run Step s after t → s.executions.lookup key = some row →
        row.phase.isBlocking = false → t.executions.lookup key = some row) ∧
      ∀ row, t.executions.lookup key = some row →
        t.events.countP (isFinishOf key.1 row.turnId) = if row.phase.isBlocking then 0 else 1 := by
  have hsound := hinit.sound
  refine ⟨starts_once key hsound hrun, ?_, ?_, reports_once key hsound hrun, ?_, ?_⟩
  · intro s turnId authority s' hstart
    obtain ⟨row, -, -, hunfenced, -⟩ := commits_authorizeStartIn hstart
    exact hunfenced
  · intro effect _
    exact dispatches_once effect.effectId hsound hrun
  · intro before after s row _ hbefore hafter hrow hterminal
    exact outcome_final (Run.sound hsound hbefore) hafter hrow hterminal
  · intro row hrow
    exact (Run.sound hsound hrun).rows.finished key.1 key.2 row hrow

end Outcomes

open Sample in
/-- The running turn of the sample room was started once and is not finished yet. -/
theorem running_turn_happens_once :
    ((roomAfter emptyRoom runningTurn).executions.lookup ("bot", 1)).map ExecutionRow.phase =
        some .running ∧
      ∃ labels, Run Step emptyRoom labels (roomAfter emptyRoom runningTurn) ∧
        labels.countP (Label.starts ("bot", 1)) ≤ 1 := by
  refine ⟨by rw [runningTurn, roomAfter_append _ run_firstTurn]; decide +kernel, ?_⟩
  obtain ⟨labels, hrun⟩ := run_roomAfter emptyRoom runningTurn
  exact ⟨labels, hrun, (generation_happens_once emptyRoom_initial hrun ("bot", 1)).1⟩

end AgentsAssemble.System
