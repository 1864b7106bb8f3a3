import AgentsAssemble.Foundation.Transition
import AgentsAssemble.Provider.ExactCalls

/-!
# Runs of the exact turn slot

Any number of tasks call on one runtime, in any order.  A preparation is entered
once, entering excludes the proof that it was not started, a slot changes hands
only by a release of its quiesced turn, and a retained result stays, as long as
every call of the run meets the condition of `Moment.Careful`.
-/

namespace AgentsAssemble.Provider

open Foundation
open Persistence (UuidSource unaryUuid unaryUuid_injective unaryUuid_ne_empty)

section Runs

variable [UuidSource] {Completed : Type}

/-! ## Preparations -/

/-- The preparation was handed out. -/
def RuntimeSlot.Drawn (p : String) (slot : RuntimeSlot Completed) : Prop :=
  ∃ n < slot.uuids, UuidSource.newV4 n = p

/-- The turn in the slot was prepared on this runtime. -/
def RuntimeSlot.Prepared (slot : RuntimeSlot Completed) : Prop :=
  ∀ active, slot.active = some active → slot.Drawn active.preparationId

theorem Shift.uuids_le {moment : Moment Completed} {s t : RuntimeSlot Completed}
    (h : Shift moment s t) : s.uuids ≤ t.uuids := by
  cases h with
  | prepares _ _ _ _ _ _ huuids =>
      rw [huuids]
      exact Nat.le_succ _
  | stays _ huuids | enters _ _ _ _ _ huuids | quiesces _ _ _ _ _ _ _ _ _ huuids
  | leaves _ _ _ _ huuids => exact Nat.le_of_eq huuids.symm

theorem Shift.drawn {moment : Moment Completed} {s t : RuntimeSlot Completed} {p : String}
    (h : Shift moment s t) (hdrawn : s.Drawn p) : t.Drawn p := by
  obtain ⟨n, hn, hp⟩ := hdrawn
  exact ⟨n, Nat.lt_of_lt_of_le hn h.uuids_le, hp⟩

theorem Shift.prepared {moment : Moment Completed} {s t : RuntimeSlot Completed}
    (h : Shift moment s t) (hs : s.Prepared) : t.Prepared := by
  intro active hafter
  have hkept := fun p => h.drawn (p := p)
  cases h with
  | stays hactive => exact hkept _ (hs active (hactive ▸ hafter))
  | prepares fresh _ _ hactive hpreparation _ huuids =>
      obtain rfl : fresh = active := by simpa [hactive] using hafter
      refine ⟨s.uuids, ?_, hpreparation.symm⟩
      rw [huuids]
      exact Nat.lt_succ_self _
  | enters old hbefore _ _ hactive =>
      obtain rfl : { old with phase := .entered } = active := by simpa [hactive] using hafter
      exact hkept _ (hs old hbefore)
  | quiesces old after hbefore hactive hpreparation =>
      obtain rfl : after = active := by simpa [hactive] using hafter
      rw [hpreparation]
      exact hkept _ (hs old hbefore)
  | leaves old _ hactive =>
      rw [hactive] at hafter
      cases hafter

/-- The turn of `p`, while it occupies the slot, satisfies `P`. -/
def RuntimeSlot.While (P : ActiveProviderTurnSlot Completed → Prop) (p : String)
    (slot : RuntimeSlot Completed) : Prop :=
  ∀ active, slot.active = some active → active.preparationId = p → P active

/-- A preparation that was handed out never comes back to the slot. -/
theorem not_drawn_next {slot : RuntimeSlot Completed} {p : String} (h : slot.Drawn p) :
    UuidSource.newV4 slot.uuids ≠ p := by
  rintro rfl
  obtain ⟨n, hn, hsame⟩ := h
  rw [UuidSource.newV4_injective hsame] at hn
  exact Nat.lt_irrefl _ hn

/-- The frame of a preparation: a property of its turn that entering and quiescing keep is
kept by every step. -/
theorem Shift.while_kept {P : ActiveProviderTurnSlot Completed → Prop} {p : String}
    {moment : Moment Completed} {s t : RuntimeSlot Completed} (h : Shift moment s t)
    (hdrawn : s.Drawn p) (hs : s.While P p)
    (henter : ∀ active : ActiveProviderTurnSlot Completed, P active → active.phase = .preparing →
      active.preparationId ∉ s.cancelled → active.preparationId = p →
      P { active with phase := .entered })
    (hquiesce : ∀ active after : ActiveProviderTurnSlot Completed, P active →
      after.phase.isQuiesced = true →
      (after.phase = .notStartedRetained →
        active.phase = .preparing ∨ active.phase = .notStartedRetained) → P after) :
    t.While P p := by
  intro active hafter hid
  cases h with
  | stays hactive => exact hs active (hactive ▸ hafter) hid
  | prepares fresh _ _ hactive hpreparation =>
      obtain rfl : fresh = active := by simpa [hactive] using hafter
      exact (not_drawn_next hdrawn (hpreparation.symm.trans hid)).elim
  | enters old hbefore hphase hallowed hactive =>
      obtain rfl : { old with phase := .entered } = active := by simpa [hactive] using hafter
      exact henter old (hs old hbefore hid) hphase hallowed hid
  | quiesces old after hbefore hactive hpreparation _ hquiesced hunstarted =>
      obtain rfl : after = active := by simpa [hactive] using hafter
      exact hquiesce old after (hs old hbefore (hpreparation.symm.trans hid)) hquiesced hunstarted
  | leaves old _ hactive =>
      rw [hactive] at hafter
      cases hafter

theorem Shift.cancelled_subset {moment : Moment Completed} {s t : RuntimeSlot Completed}
    (h : Shift moment s t) : s.cancelled ⊆ t.cancelled := by
  cases h with
  | stays _ _ hcancelled => exact hcancelled
  | prepares _ _ _ _ _ _ _ hcancelled | enters _ _ _ _ _ _ hcancelled
  | quiesces _ _ _ _ _ _ _ _ _ _ hcancelled | leaves _ _ _ _ _ hcancelled =>
      rw [hcancelled]
      exact List.Subset.refl _

/-- An entry is a shift of the turn that was preparing. -/
theorem Shift.of_enters {moment : Moment Completed} {s t : RuntimeSlot Completed} {p : String}
    (h : Shift moment s t) (henters : moment.enters p = true) :
    ∃ active, s.active = some active ∧ active.preparationId = p ∧ active.phase = .preparing ∧
      p ∉ s.cancelled ∧ t.active = some { active with phase := .entered } := by
  cases h with
  | enters active hbefore hphase hallowed hactive _ _ hiff =>
      obtain rfl := (hiff p).mp henters
      exact ⟨active, hbefore, rfl, hphase, hallowed, hactive⟩
  | stays _ _ _ hquiet =>
      rw [hquiet p] at henters
      cases henters
  | prepares _ _ _ _ _ _ _ _ hquiet | quiesces _ _ _ _ _ _ _ _ _ _ _ hquiet
  | leaves _ _ _ _ _ _ hquiet =>
      rw [(hquiet p).1] at henters
      cases henters

/-- What a returned proof or disposition says about the turn. -/
theorem Shift.of_showsNotStarted {moment : Moment Completed} {s t : RuntimeSlot Completed}
    {p : String} (h : Shift moment s t) (hshows : moment.showsNotStarted p = true) :
    t.active = s.active ∧ ∃ active, s.active = some active ∧ active.preparationId = p ∧
      (active.phase = .preparing ∧ p ∈ t.cancelled ∨ active.phase = .notStartedRetained) := by
  cases h with
  | stays hactive _ _ _ hshown => exact ⟨hactive, hshown p hshows⟩
  | enters _ _ _ _ _ _ _ _ hquiet =>
      rw [hquiet p] at hshows
      cases hshows
  | prepares _ _ _ _ _ _ _ _ hquiet | quiesces _ _ _ _ _ _ _ _ _ _ _ hquiet
  | leaves _ _ _ _ _ _ hquiet =>
      rw [(hquiet p).2] at hshows
      cases hshows

/-! ### Entries -/

/-- `p` was handed out and is past its preparation. -/
def Spent (p : String) (slot : RuntimeSlot Completed) : Prop :=
  slot.Drawn p ∧ slot.While (fun active => active.phase ≠ .preparing) p

theorem spent_step {p : String} {moment : Moment Completed} {s t : RuntimeSlot Completed}
    (h : Shift moment s t) (hs : Spent p s) : Spent p t := by
  refine ⟨h.drawn hs.1, h.while_kept hs.1 hs.2 ?_ ?_⟩
  · intro active _ _ _ _ hphase
    cases hphase
  · intro active after _ hquiesced _ hphase
    rw [hphase] at hquiesced
    cases hquiesced

theorem spent_of_enters {p : String} {moment : Moment Completed} {s t : RuntimeSlot Completed}
    (h : Shift moment s t) (hprepared : s.Prepared) (henters : moment.enters p = true) :
    ¬ Spent p s ∧ Spent p t := by
  obtain ⟨active, hbefore, hid, hphase, -, hafter⟩ := h.of_enters henters
  have hdrawn : s.Drawn p := hid ▸ hprepared active hbefore
  constructor
  · rintro ⟨-, hpast⟩
    exact hpast active hbefore hid hphase
  · refine ⟨h.drawn hdrawn, ?_⟩
    intro active' hactive' _ hpreparing
    rw [hafter] at hactive'
    obtain rfl := Option.some.inj hactive'
    cases hpreparing

/-- No entry of `p` can succeed any more. -/
def Barred (p : String) (slot : RuntimeSlot Completed) : Prop :=
  slot.Drawn p ∧
    (p ∈ slot.cancelled ∨ slot.While (fun active => active.phase ≠ .preparing) p)

theorem barred_step {p : String} {moment : Moment Completed} {s t : RuntimeSlot Completed}
    (h : Shift moment s t) (hs : Barred p s) : Barred p t := by
  refine ⟨h.drawn hs.1, ?_⟩
  rcases hs.2 with hcancelled | hpast
  · exact .inl (h.cancelled_subset hcancelled)
  · exact .inr (spent_step h ⟨hs.1, hpast⟩).2

theorem not_enters_of_barred {p : String} {moment : Moment Completed}
    {s t : RuntimeSlot Completed} (h : Shift moment s t) (hs : Barred p s) :
    moment.enters p = false := by
  rw [← Bool.not_eq_true]
  intro henters
  obtain ⟨active, hbefore, hid, hphase, hallowed, -⟩ := h.of_enters henters
  rcases hs.2 with hcancelled | hpast
  · exact hallowed hcancelled
  · exact hpast active hbefore hid hphase

theorem barred_of_showsNotStarted {p : String} {moment : Moment Completed}
    {s t : RuntimeSlot Completed} (h : Shift moment s t) (hprepared : s.Prepared)
    (hshows : moment.showsNotStarted p = true) : Barred p t := by
  obtain ⟨hsame, active, hbefore, hid, hcase⟩ := h.of_showsNotStarted hshows
  refine ⟨h.drawn (hid ▸ hprepared active hbefore), ?_⟩
  rcases hcase with ⟨-, hcancelled⟩ | hphase
  · exact .inl hcancelled
  · right
    intro active' hactive' _ hpreparing
    rw [hsame, hbefore] at hactive'
    obtain rfl := Option.some.inj hactive'
    rw [hphase] at hpreparing
    cases hpreparing

/-- `p` entered the provider: nothing shows it as not started any more. -/
def Consumed (p : String) (slot : RuntimeSlot Completed) : Prop :=
  slot.Drawn p ∧
    slot.While (fun active => active.phase ≠ .preparing ∧ active.phase ≠ .notStartedRetained) p

theorem consumed_step {p : String} {moment : Moment Completed} {s t : RuntimeSlot Completed}
    (h : Shift moment s t) (hs : Consumed p s) : Consumed p t := by
  refine ⟨h.drawn hs.1, h.while_kept hs.1 hs.2 ?_ ?_⟩
  · intro active _ _ _ _
    exact ⟨nofun, nofun⟩
  · intro active after hactive hquiesced hunstarted
    constructor
    · intro hphase
      rw [hphase] at hquiesced
      cases hquiesced
    · intro hphase
      rcases hunstarted hphase with hpreparing | hretained
      · exact hactive.1 hpreparing
      · exact hactive.2 hretained

theorem consumed_of_enters {p : String} {moment : Moment Completed}
    {s t : RuntimeSlot Completed} (h : Shift moment s t) (hprepared : s.Prepared)
    (henters : moment.enters p = true) : Consumed p t := by
  obtain ⟨active, hbefore, hid, -, -, hafter⟩ := h.of_enters henters
  refine ⟨h.drawn (hid ▸ hprepared active hbefore), ?_⟩
  intro active' hactive' _
  rw [hafter] at hactive'
  obtain rfl := Option.some.inj hactive'
  exact ⟨nofun, nofun⟩

theorem not_showsNotStarted_of_consumed {p : String} {moment : Moment Completed}
    {s t : RuntimeSlot Completed} (h : Shift moment s t) (hs : Consumed p s) :
    moment.showsNotStarted p = false := by
  rw [← Bool.not_eq_true]
  intro hshows
  obtain ⟨-, active, hbefore, hid, hcase⟩ := h.of_showsNotStarted hshows
  obtain ⟨hpreparing, hretained⟩ := hs.2 active hbefore hid
  rcases hcase with ⟨hphase, -⟩ | hphase
  · exact hpreparing hphase
  · exact hretained hphase

/-! ### Phases -/

/-- How far a turn has come: preparing, entered, quiesced. -/
def ActiveProviderTurnPhase.rank : ActiveProviderTurnPhase → Nat
  | .preparing => 0
  | .entered => 1
  | _ => 2

omit [UuidSource] in
theorem rank_of_isQuiesced {phase : ActiveProviderTurnPhase} (h : phase.isQuiesced = true) :
    phase.rank = 2 := by
  cases phase <;> first | rfl | cases h

omit [UuidSource] in
theorem rank_le_two (phase : ActiveProviderTurnPhase) : phase.rank ≤ 2 := by
  cases phase <;> decide

/-- The turn of `p`, while it occupies the slot, has come at least this far. -/
def ComeTo (rank : Nat) (p : String) (slot : RuntimeSlot Completed) : Prop :=
  slot.Drawn p ∧ slot.While (fun active => rank ≤ active.phase.rank) p

theorem comeTo_step {rank : Nat} (hrank : rank ≤ 2) {p : String} {moment : Moment Completed}
    {s t : RuntimeSlot Completed} (h : Shift moment s t) (hs : ComeTo rank p s) :
    ComeTo rank p t := by
  refine ⟨h.drawn hs.1, h.while_kept hs.1 hs.2 ?_ ?_⟩
  · intro active hactive hphase _ _
    rw [hphase] at hactive
    exact Nat.le_trans hactive (Nat.zero_le _)
  · intro active after _ hquiesced _
    rw [rank_of_isQuiesced hquiesced]
    exact hrank

/-! ### Occupation -/

/-- The slot still belongs to `p`, or the runtime has stopped. -/
def Occupied (p : String) (slot : RuntimeSlot Completed) : Prop :=
  slot.holds p = true ∨ slot.active = none ∧ ∀ runtime, slot.state ≠ .running runtime

theorem occupied_step {p : String} {moment : Moment Completed} {s t : RuntimeSlot Completed}
    (h : Shift moment s t) (hsame : SameRuntime s t) (hkept : moment.releases p = false)
    (hs : Occupied p s) : Occupied p t := by
  have hstopped : (∀ runtime, s.state ≠ .running runtime) →
      ∀ runtime, t.state ≠ .running runtime := by
    intro hs runtime hrunning
    obtain ⟨before, hbefore⟩ := hsame.running runtime hrunning
    exact hs before hbefore
  unfold Occupied at hs ⊢
  rw [holds_iff] at hs ⊢
  cases h with
  | stays hactive =>
      rw [hactive]
      exact hs.imp id (And.imp_right hstopped)
  | prepares _ hrunning hnone =>
      obtain ⟨runtime, hrunning⟩ := hrunning
      rcases hs with ⟨active, hactive, -⟩ | ⟨-, hs⟩
      · rw [hnone] at hactive
        cases hactive
      · exact (hs runtime hrunning).elim
  | enters old hbefore _ _ hactive =>
      left
      rcases hs with ⟨active, hsome, hid⟩ | ⟨hnone, -⟩
      · obtain rfl : old = active := Option.some.inj (hbefore.symm.trans hsome)
        exact ⟨_, hactive, hid⟩
      · rw [hbefore] at hnone
        cases hnone
  | quiesces old after hbefore hactive hpreparation =>
      left
      rcases hs with ⟨active, hsome, hid⟩ | ⟨hnone, -⟩
      · obtain rfl : old = active := Option.some.inj (hbefore.symm.trans hsome)
        exact ⟨after, hactive, hpreparation.trans hid⟩
      · rw [hbefore] at hnone
        cases hnone
  | leaves old hbefore hactive hreleases =>
      right
      rcases hs with ⟨active, hsome, hid⟩ | ⟨hnone, -⟩
      · obtain rfl : old = active := Option.some.inj (hbefore.symm.trans hsome)
        rcases hreleases with hreleased | ⟨-, hstop⟩
        · rw [hid, hkept] at hreleased
          cases hreleased
        · exact ⟨hactive, hstop⟩
      · rw [hbefore] at hnone
        cases hnone

/-! ### Results -/

/-- `turn` still occupies the slot, with the result it retained. -/
def Retained (turn : ActiveProviderTurnSlot Completed)
    (result : Except ProviderAdapterError Completed) (slot : RuntimeSlot Completed) : Prop :=
  ∃ active, slot.active = some active ∧ active.preparationId = turn.preparationId ∧
    (active.executionId = turn.executionId ∧ active.turnId = turn.turnId ∧
      active.turnGeneration = turn.turnGeneration) ∧
    active.phase.hasResult = true ∧ active.result = some result

theorem retained_step {turn : ActiveProviderTurnSlot Completed}
    {result : Except ProviderAdapterError Completed} {moment : Moment Completed}
    {s t : RuntimeSlot Completed} (h : Shift moment s t)
    (hkept : moment.releases turn.preparationId = false) (hruns : moment.isGone = false)
    (hs : Retained turn result s) : Retained turn result t := by
  obtain ⟨active, hsome, hid, hexecution, hphase, hresult⟩ := hs
  cases h with
  | stays hactive => exact ⟨active, hactive.trans hsome, hid, hexecution, hphase, hresult⟩
  | prepares _ _ hnone =>
      rw [hnone] at hsome
      cases hsome
  | enters old hbefore hpreparing =>
      obtain rfl : old = active := Option.some.inj (hbefore.symm.trans hsome)
      rw [hpreparing] at hphase
      cases hphase
  | quiesces old after hbefore hactive hpreparation hsame _ _ hover =>
      obtain rfl : old = active := Option.some.inj (hbefore.symm.trans hsome)
      rcases hover with hgone | hnoresult | ⟨hhas, hresult'⟩
      · rw [hruns] at hgone
        cases hgone
      · rw [hphase] at hnoresult
        cases hnoresult
      · refine ⟨after, hactive, hpreparation.trans hid, ?_, hhas, hresult'.trans hresult⟩
        exact ⟨hsame.1.trans hexecution.1, hsame.2.1.trans hexecution.2.1,
          hsame.2.2.trans hexecution.2.2⟩
  | leaves old hbefore _ hreleases =>
      obtain rfl : old = active := Option.some.inj (hbefore.symm.trans hsome)
      rcases hreleases with hreleased | ⟨hgone, -⟩
      · rw [hid, hkept] at hreleased
        cases hreleased
      · rw [hruns] at hgone
        cases hgone

theorem retained_of_retains {p : String} {result : Except ProviderAdapterError Completed}
    {moment : Moment Completed} {s t : RuntimeSlot Completed} (h : Step moment s t)
    (hretains : moment.retains p result) :
    ∃ turn, s.active = some turn ∧ turn.preparationId = p ∧ Retained turn result t := by
  obtain ⟨rfl, hperform⟩ := h
  obtain ⟨hholds, hcall⟩ := hretains
  obtain ⟨turn, hactive, hid⟩ := holds_iff.mp hholds
  refine ⟨turn, hactive, hid, ?_⟩
  have hafter : t = (perform moment.call moment.before).2 := (congrArg Prod.snd hperform).symm
  cases hkind : moment.call with
  | retainResult prepared given runtimeRetained =>
      simp only [hkind] at hcall
      obtain ⟨hat, howned, rfl⟩ := hcall
      have hslot : moment.before.setActive (some { turn with
          result := some given
          phase := if runtimeRetained then .resultReadyRetained else .resultReadyUncertain }) =
            t := by
        rw [hafter, hkind]
        have hturn : moment.before.state.activeTurn = some turn := hactive
        simp [perform, retainPreparedTurnResult, hat, hturn, hid, howned]
      subst hslot
      refine ⟨_, setActive_active hactive _, rfl, ⟨rfl, rfl, rfl⟩, ?_, rfl⟩
      cases runtimeRetained <;> rfl
  | confirmedFailure error =>
      simp only [hkind] at hcall
      obtain ⟨runtime, hstate, rfl⟩ := hcall
      have hturn : runtime.activeTurn = some turn := (active_of_running hstate).symm.trans hactive
      refine ⟨{ turn with
        result := some (.error
          (.confirmedStopped error runtime.handleId runtime.ownerId runtime.leaseToken))
        phase := .resultReadyUncertain }, ?_, rfl, ⟨rfl, rfl, rfl⟩, rfl, rfl⟩
      rw [hafter, hkind]
      simp [perform, RuntimeSlot.mapRunning, hstate, RuntimeSlot.active, RuntimeState.activeTurn,
        OwnedRuntime.retainConfirmedFailure, hturn]
  | _ =>
      simp only [hkind] at hcall

omit [UuidSource] in
/-- A retained result is what the exact authority of its turn reads. -/
theorem retainedTurnResult_of_retained {turn : ActiveProviderTurnSlot Completed}
    {result : Except ProviderAdapterError Completed} {s t : RuntimeSlot Completed}
    {authority : ProviderExactTurnAuthority} (hsame : SameRuntime s t)
    (hs : Retained turn result s) (ht : Retained turn result t)
    (hat : s.isAt authority.roomId authority.sessionId = true)
    (hexact : (exactActiveTurn s.state authority).isSome = true) :
    retainedTurnResult authority t = some result := by
  obtain ⟨exact, hturn⟩ := Option.isSome_iff_exists.mp hexact
  obtain ⟨hnamed, hactive, hmatches⟩ := exactActiveTurn_eq_some.mp hturn
  obtain ⟨before, hbefore, -, ⟨hexec, hturnId, hgeneration⟩, -⟩ := hs
  obtain ⟨after, hafter, -, ⟨hexec', hturnId', hgeneration'⟩, hphase, hresult⟩ := ht
  obtain rfl : exact = before := Option.some.inj (hactive.symm.trans hbefore)
  have hfound : exactActiveTurn t.state authority = some after := by
    refine exactActiveTurn_eq_some.mpr ⟨(hsame.isNamedBy authority).trans hnamed, hafter, ?_⟩
    rw [exactAuthorityMatches, hexec', hturnId', hgeneration', ← hexec, ← hturnId, ← hgeneration]
    exact hmatches
  unfold retainedTurnResult
  rw [hsame.isAt, hat, hfound]
  simp only [Bool.not_true, Bool.false_eq_true, if_false, Option.filter, hphase, if_true,
    Option.bind_some, hresult]

/-! ## What every run keeps -/

/-- The promises of the exact turn slot, over every run of `step` on a fresh runtime. -/
structure KeepsExactTurns
    (step : Moment Completed → RuntimeSlot Completed → RuntimeSlot Completed → Prop) : Prop where
  /-- A preparation is entered at most once. -/
  enteredOnce : ∀ {s t : RuntimeSlot Completed} {moments : List (Moment Completed)} (p : String),
    s.Fresh → Run step s moments t → moments.countP (Moment.enters p) ≤ 1
  /-- Once a preparation was shown as not started, it is never entered. -/
  notStartedBars : ∀ {s u t : RuntimeSlot Completed} {before after : List (Moment Completed)}
    {shown : Moment Completed} (p : String), s.Fresh → Run step s (before ++ [shown]) u →
    shown.showsNotStarted p = true → Run step u after t → ∀ moment ∈ after, moment.enters p = false
  /-- Once a preparation was entered, it is never shown as not started. -/
  enteredStarted : ∀ {s u t : RuntimeSlot Completed} {before after : List (Moment Completed)}
    {entered : Moment Completed} (p : String), s.Fresh → Run step s (before ++ [entered]) u →
    entered.enters p = true → Run step u after t →
    ∀ moment ∈ after, moment.showsNotStarted p = false
  /-- The slot changes hands only by a release with the exact authority of its quiesced turn. -/
  replacedByRelease : ∀ {s u t : RuntimeSlot Completed} {before after : List (Moment Completed)}
    {p q : String}, s.Fresh → Run step s before u → u.holds p = true → Run step u after t →
    t.holds q = true → q ≠ p → ∃ moment ∈ after, moment.releases p = true
  /-- A phase never returns to preparing or entered. -/
  phaseForward : ∀ {s u t : RuntimeSlot Completed} {before after : List (Moment Completed)}
    {earlier later : ActiveProviderTurnSlot Completed}, s.Fresh → Run step s before u →
    u.active = some earlier → Run step u after t → t.active = some later →
    later.preparationId = earlier.preparationId → earlier.phase.rank ≤ later.phase.rank
  /-- A retained result is returned to the exact authority until the slot is released or its
  runtime is signalled gone. -/
  resultKept : ∀ {s u t : RuntimeSlot Completed} {before after : List (Moment Completed)}
    {retained : Moment Completed} {p : String} {result : Except ProviderAdapterError Completed}
    (authority : ProviderExactTurnAuthority), s.Fresh → Run step s (before ++ [retained]) u →
    retained.retains p result → u.isAt authority.roomId authority.sessionId = true →
    (exactActiveTurn u.state authority).isSome = true → Run step u after t →
    (∀ moment ∈ after, moment.releases p = false ∧ moment.isGone = false) →
    retainedTurnResult authority t = some result

theorem prepared_run {s t : RuntimeSlot Completed} {moments : List (Moment Completed)}
    (hs : s.Fresh) (h : Run CarefulStep s moments t) : t.Prepared := by
  have hsteps : ∀ moment (u v : RuntimeSlot Completed), u.Prepared → CarefulStep moment u v →
      v.Prepared := fun _ _ _ hu hstep => (shift_of_careful hstep).prepared hu
  refine h.invariant hsteps ?_
  intro active hactive
  rw [hs] at hactive
  cases hactive

theorem enteredOnce_run {s t : RuntimeSlot Completed} {moments : List (Moment Completed)}
    (p : String) (hs : s.Fresh) (h : Run CarefulStep s moments t) :
    moments.countP (Moment.enters p) ≤ 1 := by
  have hsteps : ∀ moment (u v : RuntimeSlot Completed), u.Prepared → CarefulStep moment u v →
      v.Prepared := fun _ _ _ hu hstep => (shift_of_careful hstep).prepared hu
  have hneed : ∀ moment (u v : RuntimeSlot Completed), u.Prepared → CarefulStep moment u v →
      moment.enters p = true → ¬ Spent p u ∧ ¬ ¬ Spent p v := by
    intro moment u v hu hstep henters
    obtain ⟨hbefore, hafter⟩ := spent_of_enters (shift_of_careful hstep) hu henters
    exact ⟨hbefore, not_not.mpr hafter⟩
  have hspent : ∀ moment (u v : RuntimeSlot Completed), u.Prepared → CarefulStep moment u v →
      ¬ ¬ Spent p u → ¬ ¬ Spent p v ∧ moment.enters p = false := by
    intro moment u v _ hstep hspent
    rw [not_not] at hspent ⊢
    have hshift := shift_of_careful hstep
    exact ⟨spent_step hshift hspent, not_enters_of_barred hshift ⟨hspent.1, .inr hspent.2⟩⟩
  exact (h.count_le_one hsteps hneed hspent (prepared_run hs (Run.nil s))).1

/-- The slot stays with `p` along a run without a release of `p`. -/
theorem occupied_run {p : String} {u t : RuntimeSlot Completed}
    {after : List (Moment Completed)} (hu : Occupied p u) (h : Run CarefulStep u after t)
    (hkept : ∀ moment ∈ after, moment.releases p = false) : Occupied p t := by
  refine h.invariant_labels (I := fun ls v =>
    (∀ moment ∈ ls, moment.releases p = false) → Occupied p v) ?_ (fun _ => hu) hkept
  intro ls moment v w ih hlast hall
  have hbefore : Occupied p v :=
    ih fun earlier hearlier => hall earlier (List.mem_append_left _ hearlier)
  exact occupied_step (shift_of_careful hlast) (step_sameRuntime hlast)
    (hall moment (List.mem_append_right _ (List.mem_singleton_self _))) hbefore

theorem retained_run {turn : ActiveProviderTurnSlot Completed}
    {result : Except ProviderAdapterError Completed} {u t : RuntimeSlot Completed}
    {after : List (Moment Completed)} (hu : Retained turn result u)
    (h : Run CarefulStep u after t)
    (hkept : ∀ moment ∈ after,
      moment.releases turn.preparationId = false ∧ moment.isGone = false) :
    Retained turn result t := by
  refine h.invariant_labels (I := fun ls v => (∀ moment ∈ ls,
    moment.releases turn.preparationId = false ∧ moment.isGone = false) →
    Retained turn result v) ?_ (fun _ => hu) hkept
  intro ls moment v w ih hlast hall
  have hbefore : Retained turn result v :=
    ih fun earlier hearlier => hall earlier (List.mem_append_left _ hearlier)
  obtain ⟨hreleases, hruns⟩ := hall moment (List.mem_append_right _ (List.mem_singleton_self _))
  exact retained_step (shift_of_careful hlast) hreleases hruns hbefore

theorem sameRuntime_run {u t : RuntimeSlot Completed} {after : List (Moment Completed)}
    (h : Run CarefulStep u after t) : SameRuntime u t := by
  have hsteps : ∀ moment (v w : RuntimeSlot Completed), True → CarefulStep moment v w → SameRuntime v w :=
    fun _ _ _ _ hstep => step_sameRuntime hstep
  exact h.relates SameRuntime.refl (fun _ _ _ => SameRuntime.trans)
    (fun _ _ _ _ _ => trivial) hsteps trivial

/-- Where every call meets the condition, the slot keeps all its promises. -/
theorem exact_turns_kept :
    KeepsExactTurns (CarefulStep : Moment Completed → RuntimeSlot Completed → _ → Prop) where
  enteredOnce p hs h := enteredOnce_run p hs h
  notStartedBars p hs hbefore hshown hafter := by
    obtain ⟨v, hrun, hlast⟩ := hbefore.of_snoc
    have hbarred := barred_of_showsNotStarted (shift_of_careful hlast) (prepared_run hs hrun) hshown
    refine Run.excludes ?_ ?_ hbarred hafter
    · exact fun _ _ _ hu hstep => barred_step (shift_of_careful hstep) hu
    · exact fun _ _ _ hu hstep => not_enters_of_barred (shift_of_careful hstep) hu
  enteredStarted p hs hbefore hentered hafter := by
    obtain ⟨v, hrun, hlast⟩ := hbefore.of_snoc
    have hconsumed := consumed_of_enters (shift_of_careful hlast) (prepared_run hs hrun) hentered
    refine Run.excludes ?_ ?_ hconsumed hafter
    · exact fun _ _ _ hu hstep => consumed_step (shift_of_careful hstep) hu
    · exact fun _ _ _ hu hstep => not_showsNotStarted_of_consumed (shift_of_careful hstep) hu
  replacedByRelease := by
    intro s u t before after p q hs hbefore hp hafter hq hne
    by_contra hnone
    have hkept : ∀ moment ∈ after, moment.releases p = false := by
      intro moment hmoment
      rw [← Bool.not_eq_true]
      exact fun hreleases => hnone ⟨moment, hmoment, hreleases⟩
    obtain ⟨active, hactive, hid⟩ := holds_iff.mp hq
    rcases occupied_run (.inl hp) hafter hkept with hholds | ⟨hgone, -⟩
    · obtain ⟨owner, howner, hownerId⟩ := holds_iff.mp hholds
      rw [hactive] at howner
      obtain rfl := Option.some.inj howner
      exact hne (hid.symm.trans hownerId)
    · rw [hactive] at hgone
      cases hgone
  phaseForward := by
    intro s u t before after earlier later hs hbefore hearlier hafter hlater hsame
    have hdrawn := prepared_run hs hbefore earlier hearlier
    have hstart : ComeTo earlier.phase.rank earlier.preparationId u := by
      refine ⟨hdrawn, ?_⟩
      intro active hactive _
      rw [hearlier] at hactive
      rw [Option.some.inj hactive]
    have hsteps : ∀ moment (v w : RuntimeSlot Completed), ComeTo earlier.phase.rank earlier.preparationId v →
        CarefulStep moment v w → ComeTo earlier.phase.rank earlier.preparationId w :=
      fun _ _ _ hv hstep => comeTo_step (rank_le_two _) (shift_of_careful hstep) hv
    exact (hafter.invariant hsteps hstart).2 later hlater hsame
  resultKept := by
    intro s u t before after retained p result authority hs hbefore hretains hat hexact hafter
      hkept
    obtain ⟨v, hrun, hlast⟩ := hbefore.of_snoc
    obtain ⟨turn, -, rfl, hu⟩ := retained_of_retains hlast.1 hretains
    exact retainedTurnResult_of_retained (sameRuntime_run hafter) hu
      (retained_run hu hafter hkept) hat hexact

/-! ## Runs of calls -/

/-- The moments of a list of calls, and the state they leave. -/
def follow (slot : RuntimeSlot Completed) :
    List (Call Completed) → List (Moment Completed) × RuntimeSlot Completed
  | [] => ([], slot)
  | call :: calls =>
      let (answer, next) := perform call slot
      let (moments, last) := follow next calls
      (⟨slot, call, answer⟩ :: moments, last)

theorem run_follow (slot : RuntimeSlot Completed) (calls : List (Call Completed)) :
    Run Step slot (follow slot calls).1 (follow slot calls).2 := by
  induction calls generalizing slot with
  | nil => exact Run.nil slot
  | cons call calls ih =>
      have hfirst : Step ⟨slot, call, (perform call slot).1⟩ slot (perform call slot).2 :=
        ⟨rfl, rfl⟩
      exact (Run.single hfirst).append (ih _)

end Runs

namespace Sample

scoped instance : UuidSource where
  newV4 := unaryUuid
  newV4_injective := unaryUuid_injective
  newV4_ne_empty := unaryUuid_ne_empty
  isUuid _ := true

def session : TurnSession :=
  { roomId := "room", sessionId := "agent", activeTurnId := "turn", turnGeneration := 1
    turnPhase := .thinking, runtimeProfileKey := "profile", runtimeHandleId := "handle"
    runtimeOwnerId := "owner", runtimeLeaseToken := "lease" }

def request : ProviderTurnRequest :=
  { turnId := "turn", turnGeneration := 1, executionId := "execution", input := "go"
    roomObservation := none }

def prepared : ProviderPreparedTurn :=
  { roomId := "room", sessionId := "agent", executionId := "execution", turnId := "turn"
    turnGeneration := 1, runtimeHandleId := "handle", runtimeOwnerId := "owner"
    runtimeLeaseToken := "lease", preparationId := "u" }

/-- A running runtime without a turn. -/
def idle : RuntimeSlot Unit :=
  { roomId := "room", sessionId := "agent", cancelled := [], uuids := 0
    state := .running
      { handleId := "handle", ownerId := "owner", leaseToken := "lease", profileKey := "profile"
        driverAvailable := true, activeTurn := none } }

end Sample

open Sample in
/-- A turn that is prepared and entered meets the condition. -/
theorem prepared_turn_entered : ∃ moments t, Run CarefulStep idle moments t ∧
    0 < moments.countP (Moment.enters "u") ∧ moments.countP (Moment.enters "u") ≤ 1 := by
  let first : Call Unit := .prepare session request
  let second : Call Unit := .enter prepared session request
  let preparing := (perform first idle).2
  let opened : Moment Unit := ⟨idle, first, (perform first idle).1⟩
  let entered : Moment Unit := ⟨preparing, second, (perform second preparing).1⟩
  have hopened : CarefulStep opened idle preparing := ⟨⟨rfl, rfl⟩, trivial⟩
  have hcareful : entered.Careful := by
    intro runtime active hrunning _ hactive
    have hphase : preparing.active.map (·.phase) = some .preparing := by decide +kernel
    rw [active_of_running (running_eq_some.mp hrunning).1, hactive] at hphase
    exact .inl (Option.some.inj hphase)
  have hrun : Run CarefulStep idle ([opened] ++ [entered]) (perform second preparing).2 :=
    Run.snoc (Run.single hopened) ⟨⟨rfl, rfl⟩, hcareful⟩
  have hfresh : idle.Fresh := rfl
  exact ⟨_, _, hrun, by decide +kernel, exact_turns_kept.enteredOnce "u" hfresh hrun⟩

open Sample in
/-- A turn retained as unstarted can still be entered after its proof was returned. -/
theorem unstarted_turn_entered :
    ¬ KeepsExactTurns (Step : Moment Unit → RuntimeSlot Unit → _ → Prop) := by
  intro hkeeps
  let unstarted := (follow idle [.prepare session request, .retainUnstarted prepared]).2
  let proof : Call Unit := .notStartedProof prepared.exactAuthority
  let shown : Moment Unit := ⟨unstarted, proof, (perform proof unstarted).1⟩
  let again : Call Unit := .enter prepared session request
  let entered : Moment Unit := ⟨unstarted, again, (perform again unstarted).1⟩
  have hrun : Run Step idle (_ ++ [shown]) unstarted := Run.snoc (run_follow idle _) ⟨rfl, rfl⟩
  have hafter : Run Step unstarted [entered] (perform again unstarted).2 :=
    Run.single ⟨rfl, rfl⟩
  have hfresh : idle.Fresh := rfl
  have hnever := hkeeps.notStartedBars "u" hfresh hrun (by decide +kernel) hafter entered
    (List.mem_singleton_self _)
  have hentered : entered.enters "u" = true := by decide +kernel
  rw [hnever] at hentered
  cases hentered

end AgentsAssemble.Provider
