import AgentsAssemble.System.Batches
import AgentsAssemble.Protocol.History
import AgentsAssemble.Protocol.Interrupts

/-!
# Recoverable interrupts over runs

An interrupt that is claimed only while its execution waits for it never leaves
the pairs a recovery can lease.  Callers hold snapshots of effects; each one was
handed out by an earlier step, so it names the turn its effect belongs to.
-/

namespace AgentsAssemble.System

open Foundation Domain Persistence Protocol Tx

/-! ## Snapshots of effects -/

/-- The snapshot an operation writes by without reading it again. -/
def Op.presented : Op → Option ProviderTurnInterruptEffect
  | .markUnstartedWaiting claim _ => some claim.effect
  | .markIssued dispatched _ => some dispatched
  | .markAmbiguous dispatched => some dispatched
  | _ => none

def Response.handed : Response → Option ProviderTurnInterruptEffect
  | .effect snapshot => some snapshot
  | .claim held => some held.effect
  | _ => none

def Label.presented : Label → Option ProviderTurnInterruptEffect
  | .inside op _ => op.presented
  | .outside => none

def Label.handed : Label → Option ProviderTurnInterruptEffect
  | .inside _ response => response.handed
  | .outside => none

/-- Callers make up no snapshot: what a step presents, an earlier step handed out. -/
def Traced (labels : List Label) : Prop :=
  ∀ before l after, labels = before ++ l :: after → ∀ effect, l.presented = some effect →
    ∃ m ∈ before, m.handed = some effect

theorem Traced.init {labels : List Label} {l : Label} (h : Traced (labels ++ [l])) :
    Traced labels := by
  intro before m after hsplit effect hpresented
  refine h before m (after ++ [l]) ?_ effect hpresented
  rw [hsplit, List.append_assoc, List.cons_append]

theorem traced_of_quiet {labels : List Label} (h : ∀ l ∈ labels, l.presented = none) :
    Traced labels := by
  intro before l after hsplit effect hpresented
  have hmem : l ∈ labels := hsplit ▸ List.mem_append_right before List.mem_cons_self
  rw [h l hmem] at hpresented
  cases hpresented

/-- The store holds the effect of the snapshot under the turn of the snapshot. -/
def Named (s : Store) (effect : ProviderTurnInterruptEffect) : Prop :=
  ∃ row, s.effects.lookup effect.key = some row ∧ row.effectId = effect.effectId

theorem named_of_load {s : Store} {key : TurnKey} {effect : ProviderTurnInterruptEffect}
    (h : effectOf s key = some effect) : Named s effect := by
  obtain ⟨row, execution, hrow, -, rfl⟩ := effectOf_eq_some h
  exact ⟨row, hrow, rfl⟩

/-- An interrupt is claimed only while its execution waits for it. -/
def Op.ClaimsPending (s : Store) : Op → Prop
  | .claimInterrupt expected _ _ => ∀ row, s.executions.lookup expected.key = some row →
      row.phase = .interruptPending
  | _ => True

section Leases

variable [UuidSource] [CaseFold] [TextServices] [OperationHash]

omit [CaseFold] [TextServices] [OperationHash] in
theorem Named.namesTurn {s : Store} {effect : ProviderTurnInterruptEffect}
    (hsound : Sound (coreOf s)) (h : Named s effect) : NamesTurn s effect := by
  obtain ⟨row, hrow, hid⟩ := h
  intro key other hother hsame
  exact hsound.rows.effectIds key effect.key other row hother hrow (hsame.trans hid.symm)

omit [TextServices] [OperationHash] in
theorem Named.path {P : Permit} {s s' : Store} {effect : ProviderTurnInterruptEffect}
    (h : Named s effect) (hp : Path P (coreOf s) (coreOf s')) : Named s' effect := by
  obtain ⟨row, hrow, hid⟩ := h
  obtain ⟨row', hrow', hhistory⟩ := Path.effect_history hp hrow
  exact ⟨row', hrow', hhistory.effectId.trans hid⟩

/-- What a step hands out names a stored effect. -/
theorem handed_named {l : Label} {s s' : Store} {effect : ProviderTurnInterruptEffect}
    (hsound : Sound (coreOf s)) (h : Step l s s') (hhanded : l.handed = some effect) :
    Named s' effect := by
  have hpath := h.path hsound
  cases h with
  | outside => cases hhanded
  | inside op response hrun =>
      cases op <;> obtain ⟨result, hcommits, rfl⟩ := commits_map.mp hrun <;>
        try exact absurd hhanded.symm (Option.some_ne_none effect)
      case claimInterrupt =>
        obtain rfl := Option.some.inj hhanded
        simp only [claimProviderTurnInterrupt, commits_bind, commits_loadEffectIn] at hcommits
        obtain ⟨_, _, -, _, _, -, _, _, -, _, _, -, loaded, _, ⟨-, hloaded, rfl⟩, hpure⟩ := hcommits
        obtain ⟨rfl, rfl⟩ := commits_pure.mp hpure
        exact named_of_load hloaded
      case claimRecovery =>
        obtain rfl := Option.some.inj hhanded
        simp only [claimProviderTurnInterruptRecovery, commits_bind, commits_loadEffectIn] at hcommits
        obtain ⟨_, _, -, _, _, -, _, _, -, _, _, -, _, _, -, _, _, -, loaded, _, ⟨-, hloaded, rfl⟩,
          hpure⟩ := hcommits
        obtain ⟨rfl, rfl⟩ := commits_pure.mp hpure
        exact named_of_load hloaded
      case authorizeDispatch =>
        obtain rfl := Option.some.inj hhanded
        simp only [authorizeProviderInterruptDispatch, commits_bind, commits_loadEffectIn] at hcommits
        obtain ⟨_, _, -, _, _, -, -, hloaded, rfl⟩ := hcommits
        exact named_of_load hloaded
      case markUnstartedWaiting =>
        obtain rfl := Option.some.inj hhanded
        simp only [markUnstartedInterruptWaiting, transitionToWaitingIn, commits_bind,
          commits_loadEffectIn] at hcommits
        obtain ⟨_, _, -, _, _, -, _, _, -, -, hloaded, rfl⟩ := hcommits
        exact named_of_load hloaded
      case markIssued =>
        obtain rfl := Option.some.inj hhanded
        simp only [markProviderInterruptIssued, transitionToWaitingIn, commits_bind,
          commits_loadEffectIn] at hcommits
        obtain ⟨_, _, -, _, _, -, _, _, -, -, hloaded, rfl⟩ := hcommits
        exact named_of_load hloaded
      case authorizeRecoveryWait =>
        obtain rfl := Option.some.inj hhanded
        simp only [authorizeProviderInterruptRecoveryWait, commits_bind,
          commits_loadEffectIn] at hcommits
        obtain ⟨current, _, ⟨-, hcurrent, -⟩, _, _, -, _, _, -, _, _, -, _, _, -, _, _, -,
          hpure⟩ := hcommits
        obtain ⟨rfl, -⟩ := commits_pure.mp hpure
        have hnamed : Named s current := named_of_load hcurrent
        exact hnamed.path hpath

/-! ## Every interrupt stays recoverable -/

/-- Rooms that claims in time lead to, for callers that make up no snapshot. -/
def TimelyReachable (s : Store) : Prop :=
  ∃ init labels, IsInitial init ∧ Run (StepMeeting Op.ClaimsPending) init labels s ∧
    Traced labels

omit [UuidSource] [CaseFold] [TextServices] [OperationHash] in
theorem paired_of_pending {s : Store} {op : Op} (hpending : op.ClaimsPending s)
    (hnames : ∀ effect, op.presented = some effect → NamesTurn s effect) : op.Paired s := by
  cases op <;> try exact trivial
  case claimInterrupt => exact hpending
  case markUnstartedWaiting => exact hnames _ rfl
  case markIssued => exact hnames _ rfl
  case markAmbiguous => exact hnames _ rfl

theorem StepMeeting.paired {l : Label} {s s' : Store} (hsound : Sound (coreOf s))
    (hpaired : Paired (coreOf s)) (h : StepMeeting Op.ClaimsPending l s s')
    (hnamed : ∀ effect, l.presented = some effect → Named s effect) :
    Paired (coreOf s') := by
  obtain ⟨hstep, hmeets⟩ := h
  cases hstep with
  | outside hout => exact Path.paired trivial hsound hpaired hout.path
  | inside op response hrun =>
      have hpermit : op.Paired s :=
        paired_of_pending hmeets fun effect he => (hnamed effect he).namesTurn hsound
      exact Path.paired hpermit hsound hpaired (op.path hsound hrun)

omit [UuidSource] [CaseFold] [TextServices] [OperationHash] in
theorem IsInitial.paired {s : Store} (h : IsInitial s) : Paired (coreOf s) := by
  intro key row hrow
  have hexecutions : (coreOf s).executions = ∅ := h.executions
  rw [hexecutions, AList.lookup_empty] at hrow
  cases hrow

theorem TimelyReachable.paired {s : Store} (h : TimelyReachable s) :
    Sound (coreOf s) ∧ Paired (coreOf s) := by
  obtain ⟨init, labels, hinit, hrun, htraced⟩ := h
  suffices Traced labels → Sound (coreOf s) ∧ Paired (coreOf s) ∧
      ∀ l ∈ labels, ∀ effect, l.handed = some effect → Named s effect by
    obtain ⟨hsound, hpaired, -⟩ := this htraced
    exact ⟨hsound, hpaired⟩
  refine Run.invariant_labels (I := fun labels s => Traced labels → Sound (coreOf s) ∧
    Paired (coreOf s) ∧ ∀ l ∈ labels, ∀ effect, l.handed = some effect → Named s effect) ?_ ?_ hrun
  · intro labels l s t hbefore hstep htraced
    obtain ⟨hsound, hpaired, hnamed⟩ := hbefore htraced.init
    refine ⟨hstep.1.sound hsound, ?_, ?_⟩
    · refine hstep.paired hsound hpaired fun effect hpresented => ?_
      obtain ⟨m, hm, hhanded⟩ := htraced labels l [] rfl effect hpresented
      exact hnamed m hm effect hhanded
    · intro m hm effect hhanded
      rcases List.mem_append.mp hm with hm | hm
      · exact (hnamed m hm effect hhanded).path (hstep.1.path hsound)
      · rw [List.mem_singleton.mp hm] at hhanded
        exact handed_named hsound hstep.1 hhanded
  · intro _
    refine ⟨hinit.sound, hinit.paired, ?_⟩
    intro l hl
    cases hl

/-! ## Recovery -/

/-- The row of the effect is leased by nobody else at `now`. -/
def LeaseFree (effect : EffectRow) (claimOwner : String) (now : Nat) : Prop :=
  (effect.claimOwner == "" || effect.claimOwner == claimOwner ||
    effect.claimExpiresAt == none || effect.isLeaseExpired (millisOf now)) = true

omit [CaseFold] [TextServices] [OperationHash] in
/-- A recovery leases every effect in one of the pairs, as soon as its lease is free. -/
theorem recovery_commits {s : Store} {key : TurnKey} {effect : EffectRow} {row : ExecutionRow}
    {claimOwner : String} {now : Nat} (hsound : Sound (coreOf s))
    (heffect : s.effects.lookup key = some effect) (hrow : s.executions.lookup key = some row)
    (hpair : recoverableInterruptPair effect.phase row.phase = true)
    (howner : UuidSource.isUuid claimOwner = true) (hfree : LeaseFree effect claimOwner now) :
    ∃ claim s', Commits (claimProviderTurnInterruptRecovery (joinEffect key effect row)
      claimOwner now) s claim s' := by
  have hgen : key.2 ≤ maxI64 := hsound.rows.bounded key.1 key.2 row hrow
  have hopen : row.requeueFinalized = false :=
    hsound.rows.requeue key row hrow (recoverable_live hpair).1
  have hloaded : effectOf s key = some (joinEffect key effect row) := by
    unfold effectOf
    rw [heffect, hrow]
    rfl
  let leased : EffectRow :=
    { effect with claimOwner, claimExpiresAt := some (millisOf now + claimTtlMillis) }
  let s' : Store := { s with effects := s.effects.insert key leased }
  have hlease : s'.effects.lookup key = some leased := AList.lookup_insert _
  have hreloaded : effectOf s' key = some (joinEffect key leased row) := by
    unfold effectOf
    rw [hlease, hrow]
    rfl
  refine ⟨⟨joinEffect key leased row, claimOwner⟩, s', ?_⟩
  simp only [claimProviderTurnInterruptRecovery, validateClaimOwner, requireExactEffect,
    commits_bind, commits_require, commits_loadEffectIn, commits_loadExecutionIn]
  refine ⟨(), s, ⟨howner, rfl⟩, _, s, ⟨hgen, hloaded, rfl⟩, (), s, ⟨rfl, rfl⟩,
    { toExecutionRow := row, sessionId := key.1, turnGeneration := key.2 }, s,
    ⟨hgen, hrow, rfl, rfl, rfl⟩, (), s, ⟨⟨hpair, rfl, rfl, hopen⟩, rfl⟩, (), s', ?_,
    joinEffect key leased row, s', ⟨hgen, hreloaded, rfl⟩, commits_pure.mpr ⟨rfl, rfl⟩⟩
  refine updateEffect_commits _ _ heffect ?_ fun k r hr hid =>
    hsound.rows.effectIds k key r effect hr heffect hid
  have hsame : (effect.phase == effect.phase && effect.dispatchNonce == effect.dispatchNonce) =
      true := by
    rw [Bool.and_eq_true]
    exact ⟨beq_self_eq_true _, beq_self_eq_true _⟩
  rw [Bool.and_eq_true]
  exact ⟨hsame, hfree⟩

/-- While claims come in time, every unfinalized effect forms a recoverable pair with its
execution, so a recovery can lease it; the others belong to turns that ended. -/
theorem interrupts_stay_recoverable {s : Store} (hs : TimelyReachable s) {key : TurnKey}
    {effect : EffectRow} (heffect : s.effects.lookup key = some effect) :
    ∃ row, s.executions.lookup key = some row ∧
      (effect.phase ≠ .finalized → recoverableInterruptPair effect.phase row.phase = true ∧
        ∀ claimOwner now, UuidSource.isUuid claimOwner = true →
          LeaseFree effect claimOwner now →
          ∃ claim s', Commits (claimProviderTurnInterruptRecovery (joinEffect key effect row)
            claimOwner now) s claim s') ∧
      (effect.phase = .finalized ↔
        row.phase.isBlocking = false ∧ row.requeueFinalized = true) := by
  obtain ⟨hsound, hpaired⟩ := hs.paired
  obtain ⟨row, hrow, hfinal, hrequeue⟩ := hsound.rows.effects key effect heffect
  refine ⟨row, hrow, fun hopen => ?_, fun h => ?_, fun h => hfinal.mpr h.1⟩
  · have hpair : pairIsRecoverable row.phase (some effect.phase) = true := by
      have hstored := hpaired key row hrow
      rwa [show (coreOf s).effects.lookup key = some effect from heffect] at hstored
    have hrecoverable : recoverableInterruptPair effect.phase row.phase = true := by
      cases hphase : effect.phase <;> rw [hphase] at hpair hopen
      case finalized => exact absurd rfl hopen
      all_goals exact hpair
    refine ⟨hrecoverable, fun claimOwner now howner hfree => ?_⟩
    exact recovery_commits hsound heffect hrow hrecoverable howner hfree
  · have hterminal := hfinal.mp h
    exact ⟨hterminal, hrequeue hterminal⟩

/-- An operation that presents no snapshot and claims none either. -/
def isUnclaiming (_ : Store) : Op → Bool
  | .claimInterrupt _ _ _ => false
  | op => op.presented.isNone

omit [UuidSource] [CaseFold] [TextServices] [OperationHash] in
theorem isUnclaiming_sound (s : Store) (op : Op) (h : isUnclaiming s op = true) :
    op.ClaimsPending s ∧ op.presented = none := by
  cases op <;> first
    | exact ⟨trivial, rfl⟩
    | cases h

theorem timelyReachable_of_unclaiming {s : Store}
    (h : ReachableMeeting (fun s op => op.ClaimsPending s ∧ op.presented = none) s) :
    TimelyReachable s := by
  obtain ⟨init, labels, hinit, hrun⟩ := h
  suffices Run (StepMeeting Op.ClaimsPending) init labels s ∧
      ∀ l ∈ labels, l.presented = none from
    ⟨init, labels, hinit, this.1, traced_of_quiet this.2⟩
  induction hrun with
  | nil => exact ⟨Run.nil _, fun l hl => absurd hl List.not_mem_nil⟩
  | @snoc t u labels l hrun hlast ih =>
      obtain ⟨hbefore, hquiet⟩ := ih
      obtain ⟨hstep, hmeets⟩ := hlast
      have hboth : l.Meets Op.ClaimsPending t ∧ l.presented = none := by
        cases l with
        | outside => exact ⟨trivial, rfl⟩
        | inside op response => exact hmeets
      refine ⟨Run.snoc hbefore ⟨hstep, hboth.1⟩, fun m hm => ?_⟩
      rcases List.mem_append.mp hm with hm | hm
      · exact hquiet m hm
      · rw [List.mem_singleton.mp hm]
        exact hboth.2

end Leases

/-! ## A claim that comes too late -/

namespace Sample

/-- The running agent is muted. -/
def muteRunning : List Op :=
  runningTurn ++ [.mute owner ⟨"bot", true⟩ 0]

/-- The agent is muted after its turn was quarantined, and the interrupt is claimed. -/
def claimQuarantined : List Op :=
  firstTurn ++
  [ .authorizeStart "bot" 1 "turn-5"
  , .markRecoveryRequired startAuthority 0
  , .mute owner ⟨"bot", true⟩ 0
  , .claimInterrupt
      { sessionId := "bot"
        turnGeneration := 1
        effectId := "13"
        cause := .participantMuted
        phase := .prepared
        executionId := "6"
        participantId := "bot"
        turnId := "turn-5"
        startDispatchNonce := "10"
        runtime
        dispatchNonce := "" } "claimant" 0 ]

end Sample

open Sample in
/-- The interrupt of a muted running turn can be leased. -/
theorem muted_turn_recoverable :
    ((checkedRoom isUnclaiming emptyRoom muteRunning).effects.lookup ("bot", 1)).any
        (fun effect => effect.phase == .prepared) = true ∧
      ∀ effect, (checkedRoom isUnclaiming emptyRoom muteRunning).effects.lookup ("bot", 1) =
        some effect → ∃ row,
          (checkedRoom isUnclaiming emptyRoom muteRunning).executions.lookup ("bot", 1) =
            some row ∧ (effect.phase ≠ .finalized →
              recoverableInterruptPair effect.phase row.phase = true) := by
  have hpasses : passes isUnclaiming emptyRoom muteRunning = true := by
    rw [muteRunning, runningTurn, List.append_assoc, passes_firstTurn_append]
    decide +kernel
  refine ⟨?_, fun effect heffect => ?_⟩
  · rw [checkedRoom_eq_roomAfter hpasses, muteRunning, runningTurn, List.append_assoc,
      roomAfter_append _ run_firstTurn]
    decide +kernel
  have htimely : TimelyReachable (checkedRoom isUnclaiming emptyRoom muteRunning) :=
    timelyReachable_of_unclaiming
      (reachable_checkedRoom isUnclaiming_sound emptyRoom_initial muteRunning)
  obtain ⟨row, hrow, hopen, -⟩ := interrupts_stay_recoverable htimely heffect
  exact ⟨row, hrow, fun h => (hopen h).1⟩

open Sample in
/-- A claim on a quarantined turn leaves a pair that no recovery can lease. -/
theorem late_claim_gets_stuck :
    ¬ ∀ s, IsReachable s → ∀ key effect row, s.effects.lookup key = some effect →
      s.executions.lookup key = some row → effect.phase ≠ .finalized →
      recoverableInterruptPair effect.phase row.phase = true := by
  intro hclaim
  have hstuck : ((roomAfter emptyRoom claimQuarantined).effects.lookup ("bot", 1)).map
        EffectRow.phase = some .claimed ∧
      ((roomAfter emptyRoom claimQuarantined).executions.lookup ("bot", 1)).map
        ExecutionRow.phase = some .recoveryRequired := by
    rw [claimQuarantined, roomAfter_append _ run_firstTurn]
    decide +kernel
  obtain ⟨effect, heffect, hclaimed⟩ := Option.map_eq_some_iff.mp hstuck.1
  obtain ⟨row, hrow, hquarantined⟩ := Option.map_eq_some_iff.mp hstuck.2
  have hreachable := reachable_roomAfter emptyRoom_reachable claimQuarantined
  have hpair := hclaim _ hreachable ("bot", 1) effect row heffect hrow
    (by rw [hclaimed]; exact nofun)
  rw [hclaimed, hquarantined] at hpair
  cases hpair

end AgentsAssemble.System
