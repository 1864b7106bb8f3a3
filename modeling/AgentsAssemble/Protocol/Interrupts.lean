import AgentsAssemble.Protocol.Turns

/-!
# Interrupts over moves

The pairs of execution and effect phases that a recovery can lease, and the
statechart that keeps every turn in one of them.
-/

namespace AgentsAssemble.Protocol

open Foundation Domain Persistence

/-- The phases of a turn fit together: an unfinalized effect can be recovered. -/
def pairIsRecoverable (phase : ProviderTurnExecutionPhase) :
    Option ProviderTurnEffectPhase → Bool
  | none => phase != .interruptPending && phase != .quiescing && phase != .interruptAmbiguous
  | some .finalized => !phase.isBlocking
  | some effect => recoverableInterruptPair effect phase

/-- The statechart keeps every turn recoverable. -/
theorem TurnShift.recoverable {p p' : ProviderTurnExecutionPhase}
    {e e' : Option ProviderTurnEffectPhase} (h : TurnShift p e p' e')
    (hp : pairIsRecoverable p e = true) : pairIsRecoverable p' e' = true := by
  cases h with
  | lease => exact hp
  | start => rfl
  | run =>
      cases e with
      | none => rfl
      | some e => cases e <;> cases hp
  | uncertain _ _ hstarted =>
      cases e with
      | none => rfl
      | some e => cases p <;> cases hstarted <;> cases e <;> cases hp
  | prepare _ hblocking => cases p <;> first
      | rfl
      | exact absurd hp (by decide)
      | exact absurd hblocking (by decide)
  | resumePrepare _ e hinterruptible => cases p <;> cases hinterruptible <;> cases e <;> cases hp
  | claim => rfl
  | dispatch => cases p <;> first | rfl | cases hp
  | issue => rfl
  | ambiguous => rfl
  | handoff => rfl
  | wait => rfl
  | death _ e hdispatched hopen =>
      cases e with
      | none => rfl
      | some effect =>
          obtain ⟨effectId, cause, phase, owner, expiresAt, nonce⟩ := effect
          cases phase with
          | prepared => rfl
          | claimed => rfl
          | dispatching => rfl
          | issuedWaitingQuiescence => rfl
          | interruptAmbiguous =>
              have hpair : pairIsRecoverable p (some .interruptAmbiguous) = true := hp
              cases p <;> first
                | exact absurd hpair (by decide)
                | exact absurd hdispatched (by decide)
          | recoveryRequired =>
              have hpair : pairIsRecoverable p (some .recoveryRequired) = true := hp
              cases p <;> first
                | exact absurd hpair (by decide)
                | exact absurd hdispatched (by decide)
          | finalized => exact absurd rfl (hopen _ rfl)

/-- Every turn of the room is in a recoverable pair. -/
def Paired (c : RoomCore) : Prop :=
  ∀ key row, c.executions.lookup key = some row →
    pairIsRecoverable row.phase ((c.effects.lookup key).map EffectRow.phase) = true

section Machine

variable [UuidSource] [CaseFold] {P : Permit} {c c' : RoomCore}

theorem Move.paired (hpaired : P.paired) (hsound : Sound c) (h : Paired c)
    (hm : Move P c c') : Paired c' := by
  cases hm with
  | log => exact h
  | edit => exact h
  | tombstone => exact h
  | session => exact h
  | create => exact h
  | vote => exact h
  | assign a b row envelope _ executions _ guard _ setsRow =>
      intro key r hr
      rcases setsRow.cases hr with ⟨rfl, hnew⟩ | ⟨-, hold⟩
      · obtain rfl := Option.some.inj hnew
        have hnone : c.effects.lookup (a.sessionId, b.turnGeneration) = none := by
          by_contra hne
          obtain ⟨effect, heffect⟩ := Option.ne_none_iff_exists'.mp hne
          obtain ⟨stored, hstored, -⟩ := hsound.rows.effects _ effect heffect
          rw [guard.insertable.absent] at hstored
          cases hstored
        show pairIsRecoverable row.phase ((c.effects.lookup _).map _) = true
        rw [hnone, guard.phase]
        rfl
      · exact h key r hold
  | settle a b row row' finished uuids _ executions effects guard _ setsRow setsEffect =>
      intro key r hr
      show pairIsRecoverable r.phase ((effects.lookup key).map EffectRow.phase) = true
      rcases setsRow.cases hr with ⟨rfl, hnew⟩ | ⟨hne, hold⟩
      · obtain rfl := Option.some.inj hnew
        have hterminal := guard.terminal
        rw [setsEffect.at_key]
        cases c.effects.lookup (a.sessionId, a.turnGeneration) with
        | none => cases hphase : row'.phase <;> rw [hphase] at hterminal <;> first
            | rfl
            | cases hterminal
        | some effect =>
            show (!row'.phase.isBlocking) = true
            rw [hterminal]
            rfl
      · rw [setsEffect.off_key hne]
        exact h key r hold
  | shift key row row' effectKey effect effect' executions effects guard setsRow setsEffect =>
      obtain ⟨rfl, hshift⟩ := guard.paired hpaired
      intro k r hr
      show pairIsRecoverable r.phase ((effects.lookup k).map EffectRow.phase) = true
      rcases setsRow.cases hr with ⟨rfl, hnew⟩ | ⟨hne, hold⟩
      · obtain rfl := Option.some.inj hnew
        rw [setsEffect.at_key]
        refine hshift.recoverable ?_
        have hbefore := h k row guard.storedRow
        rwa [guard.storedEffect] at hbefore
      · rw [setsEffect.off_key hne]
        exact h k r hold

theorem Path.paired (hpaired : P.paired) (hsound : Sound c) (h : Paired c)
    (hp : Path P c c') : Paired c' := by
  have hboth : Sound c' ∧ Paired c' :=
    Path.invariant (I := fun d => Sound d ∧ Paired d)
      (fun _ _ hd hm => ⟨hm.sound hd.1, hm.paired hpaired hd.1 hd.2⟩) ⟨hsound, h⟩ hp
  exact hboth.2

end Machine

end AgentsAssemble.Protocol
