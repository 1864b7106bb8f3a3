import AgentsAssemble.Foundation.Transition
import AgentsAssemble.Server.Mutations

/-!
# The principal mutation budget over runs

What a call does to the stored charges: it prunes windows, and a fresh charge
adds one.  While no call prunes a charge before the clock is a minute old, the
charges of a principal are throttled, and a retry is answered for as long as its
charge is young.
-/

namespace AgentsAssemble.Server.Mutation

open Foundation

namespace MutationState

/-- The charges stored for a principal. -/
def stored (s : MutationState) (principalId : String) : List MutationCharge :=
  (s.windows.lookup principalId).elim [] PrincipalWindow.recent

/-- The charge a request of a principal may be retried under. -/
def exempt (s : MutationState) (principalId : String) (identity : MutationIdentity) : Option Nat :=
  (s.windows.lookup principalId).bind fun window => window.retryable.lookup identity

/-- Every window is sound, and the state counts the charges of all of them. -/
structure Sound (s : MutationState) : Prop where
  window : ∀ principalId window, s.windows.lookup principalId = some window → window.Sound
  numbered : ∀ principalId, ∀ charge ∈ s.stored principalId, charge.chargeId ≤ s.sequence
  tracked : s.trackedMutations = s.windows.total fun _ window => window.recent.length
  principals : s.windows.size ≤ maxTrackedPrincipals
  mutations : s.trackedMutations ≤ maxTrackedMutations

/-- The windows a call prunes hold no charge, or the clock is as old as a window. -/
def Timely (s : MutationState) (principalId : String) (now : Nat) : Prop :=
  mutationWindow ≤ now ∨
    s.stored principalId = [] ∧
      (((s.prunePrincipal principalId now).slotless principalId ∨
        maxTrackedMutations ≤ (s.prunePrincipal principalId now).trackedMutations) →
          ∀ other, s.stored other = [])

/-- What pruning leaves of a state: charges of a minute ago are gone from some windows, with
their exemptions. -/
structure Pruned (now : Nat) (s t : MutationState) : Prop where
  sequence : t.sequence = s.sequence
  stored : ∀ principalId, t.stored principalId = s.stored principalId ∨
    t.stored principalId =
      Log.expire MutationCharge.time mutationWindow now (s.stored principalId)
  exempt : ∀ principalId identity chargeId, t.exempt principalId identity = some chargeId ↔
    s.exempt principalId identity = some chargeId ∧
      ∃ charge ∈ t.stored principalId, charge.identity = identity ∧ charge.chargeId = chargeId

variable {s t : MutationState} {principalId : String} {now : Nat}

theorem stored_of_lookup {window : PrincipalWindow}
    (h : s.windows.lookup principalId = some window) : s.stored principalId = window.recent := by
  rw [stored, h]
  rfl

theorem exempt_of_lookup {window : PrincipalWindow}
    (h : s.windows.lookup principalId = some window) (identity : MutationIdentity) :
    s.exempt principalId identity = window.retryable.lookup identity := by
  rw [exempt, h]
  rfl

theorem stored_of_none (h : s.windows.lookup principalId = none) : s.stored principalId = [] := by
  rw [stored, h]
  rfl

theorem exempt_of_none (h : s.windows.lookup principalId = none) (identity : MutationIdentity) :
    s.exempt principalId identity = none := by
  rw [exempt, h]
  rfl

theorem Sound.exempt_stored (h : s.Sound) {identity : MutationIdentity} {chargeId : Nat}
    (hexempt : s.exempt principalId identity = some chargeId) :
    ∃ charge ∈ s.stored principalId, charge.identity = identity ∧ charge.chargeId = chargeId := by
  cases hlookup : s.windows.lookup principalId with
  | none =>
      rw [exempt_of_none hlookup] at hexempt
      cases hexempt
  | some window =>
      rw [exempt_of_lookup hlookup] at hexempt
      rw [stored_of_lookup hlookup]
      exact (h.window principalId window hlookup).exempt identity chargeId hexempt

theorem Sound.pruned_refl (h : s.Sound) (now : Nat) : Pruned now s s where
  sequence := rfl
  stored := fun _ => Or.inl rfl
  exempt := fun _ _ _ => ⟨fun hexempt => ⟨hexempt, h.exempt_stored hexempt⟩, And.left⟩

theorem Pruned.trans {u : MutationState} (h : Pruned now s t) (h' : Pruned now t u) :
    Pruned now s u where
  sequence := h'.sequence.trans h.sequence
  stored := by
    intro principalId
    rcases h'.stored principalId with hsame | hlater
    · rw [hsame]
      exact h.stored principalId
    · rcases h.stored principalId with hsame | hearlier
      · exact Or.inr (by rw [hlater, hsame])
      · exact Or.inr (by rw [hlater, hearlier, Log.expire_expire])
  exempt := by
    intro principalId identity chargeId
    rw [h'.exempt, h.exempt]
    constructor
    · rintro ⟨⟨hexempt, -⟩, hstored⟩
      exact ⟨hexempt, hstored⟩
    · rintro ⟨hexempt, charge, hcharge, hsame⟩
      refine ⟨⟨hexempt, charge, ?_, hsame⟩, charge, hcharge, hsame⟩
      rcases h'.stored principalId with heq | hexpired
      · rwa [heq] at hcharge
      · rw [hexpired] at hcharge
        exact (Log.expire_suffix now _).subset hcharge

/-! ## Pruning -/

theorem prunePrincipal_of_none (h : s.windows.lookup principalId = none) (now : Nat) :
    s.prunePrincipal principalId now = s := by
  rw [prunePrincipal, h]

theorem prunePrincipal_of_some {window : PrincipalWindow}
    (h : s.windows.lookup principalId = some window) (now : Nat) :
    s.prunePrincipal principalId now =
      { s with
        windows := s.windows.insert principalId (window.pruned now)
        trackedMutations := s.trackedMutations - window.prune now } := by
  rw [prunePrincipal, h]

theorem stored_prunePrincipal (s : MutationState) (principalId other : String) (now : Nat)
    (h : mutationWindow ≤ now ∨ s.stored principalId = []) :
    (s.prunePrincipal principalId now).stored other =
      if other = principalId then
        Log.expire MutationCharge.time mutationWindow now (s.stored principalId)
      else s.stored other := by
  cases hlookup : s.windows.lookup principalId with
  | none =>
      rw [prunePrincipal_of_none hlookup, stored_of_none hlookup]
      split
      · rename_i hother
        rw [hother, stored_of_none hlookup]
        rfl
      · rfl
  | some window =>
      rw [stored_of_lookup hlookup] at h ⊢
      rw [prunePrincipal_of_some hlookup, ← PrincipalWindow.pruned_recent h]
      show ((s.windows.insert principalId (window.pruned now)).lookup other).elim [] _ = _
      rw [Table.lookup_insert_ite]
      split <;> rfl

/-- A window of a sound state can be replaced by a sound one whose charges are counted. -/
theorem Sound.insert (hs : s.Sound) {window : PrincipalWindow} {sequence tracked : Nat}
    (hwindow : window.Sound) (hnumbered : ∀ charge ∈ window.recent, charge.chargeId ≤ sequence)
    (hsequence : s.sequence ≤ sequence)
    (htracked : tracked + (s.stored principalId).length =
      s.trackedMutations + window.recent.length)
    (hslot : s.windows.lookup principalId = none → s.windows.size < maxTrackedPrincipals)
    (hmutations : tracked ≤ maxTrackedMutations) :
    Sound ⟨sequence, s.windows.insert principalId window, tracked⟩ := by
  have htotal := Table.total_insert (fun _ w => w.recent.length) s.windows principalId window
  rw [← hs.tracked] at htotal
  constructor
  case window =>
    intro other later hlater
    rcases (Table.sets_insert s.windows _ _).cases hlater with ⟨-, hnew⟩ | ⟨-, hold⟩
    · obtain rfl := Option.some.inj hnew
      exact hwindow
    · exact hs.window other later hold
  case numbered =>
    intro other charge hcharge
    change charge ∈ ((s.windows.insert principalId window).lookup other).elim []
      PrincipalWindow.recent at hcharge
    rw [Table.lookup_insert_ite] at hcharge
    split at hcharge
    · exact hnumbered charge hcharge
    · exact (hs.numbered other charge hcharge).trans hsequence
  case tracked =>
    show tracked = Table.total _ (s.windows.insert principalId window)
    cases hlookup : s.windows.lookup principalId with
    | none =>
        rw [hlookup, Option.elim_none] at htotal
        rw [stored_of_none hlookup, List.length_nil] at htracked
        omega
    | some old =>
        rw [hlookup, Option.elim_some] at htotal
        rw [stored_of_lookup hlookup] at htracked
        omega
  case principals =>
    show Table.size (s.windows.insert principalId window) ≤ _
    cases hlookup : s.windows.lookup principalId with
    | none =>
        rw [Table.size_insert_of_none hlookup]
        exact hslot hlookup
    | some old =>
        rw [Table.size_insert_of_some hlookup]
        exact hs.principals
  case mutations => exact hmutations

theorem Sound.prunePrincipal (hs : s.Sound) (principalId : String) (now : Nat) :
    (s.prunePrincipal principalId now).Sound := by
  cases hlookup : s.windows.lookup principalId with
  | none => rwa [prunePrincipal_of_none hlookup]
  | some window =>
      rw [prunePrincipal_of_some hlookup]
      have hprune := window.prune_add now
      have hstored := stored_of_lookup hlookup
      refine hs.insert ((hs.window principalId window hlookup).pruned now) ?_ le_rfl ?_
        (fun hnone => ?_) ((Nat.sub_le _ _).trans hs.mutations)
      · intro charge hcharge
        exact hs.numbered principalId charge (hstored ▸ (window.pruned_suffix now).subset hcharge)
      · have hle : window.recent.length ≤ s.trackedMutations := by
          have htotal := Table.total_erase (fun _ w => w.recent.length) s.windows principalId
          rw [hlookup, Option.elim_some, ← hs.tracked] at htotal
          omega
        rw [hstored]
        omega
      · rw [hlookup] at hnone
        cases hnone

theorem Sound.pruned_prunePrincipal (hs : s.Sound)
    (h : mutationWindow ≤ now ∨ s.stored principalId = []) :
    Pruned now s (s.prunePrincipal principalId now) := by
  constructor
  case sequence =>
    rw [MutationState.prunePrincipal]
    split <;> rfl
  case stored =>
    intro other
    rw [stored_prunePrincipal s principalId other now h]
    split
    · rename_i hother
      exact Or.inr (by rw [hother])
    · exact Or.inl rfl
  case exempt =>
    intro other identity chargeId
    cases hlookup : s.windows.lookup principalId with
    | none =>
        rw [prunePrincipal_of_none hlookup]
        exact (hs.pruned_refl now).exempt other identity chargeId
    | some window =>
        have hwindow := hs.window principalId window hlookup
        rw [prunePrincipal_of_some hlookup]
        by_cases hother : other = principalId
        · subst hother
          have hnew : (s.windows.insert other (window.pruned now)).lookup other =
              some (window.pruned now) := AList.lookup_insert _
          rw [exempt_of_lookup hlookup, exempt_of_lookup hnew, stored_of_lookup hnew]
          exact hwindow.lookup_pruned now identity chargeId
        · have hsame : (s.windows.insert principalId (window.pruned now)).lookup other =
              s.windows.lookup other := AList.lookup_insert_ne hother
          rw [exempt, exempt, stored, hsame]
          exact (hs.pruned_refl now).exempt other identity chargeId

theorem lookup_pruneAll (s : MutationState) (now : Nat) (other : String) :
    (s.pruneAll now).windows.lookup other =
      ((s.windows.lookup other).map fun window => window.pruned now).filter
        fun window => !window.recent.isEmpty := by
  show ((s.windows.update _ _).retain _).lookup other = _
  rw [Table.lookup_retain, Table.lookup_update]
  simp only [if_true]

theorem stored_pruneAll (h : mutationWindow ≤ now ∨ ∀ other, s.stored other = [])
    (other : String) :
    (s.pruneAll now).stored other =
      Log.expire MutationCharge.time mutationWindow now (s.stored other) := by
  rw [stored, lookup_pruneAll]
  cases hlookup : s.windows.lookup other with
  | none =>
      rw [stored_of_none hlookup]
      rfl
  | some window =>
      have hrecent := stored_of_lookup hlookup
      rw [hrecent, ← PrincipalWindow.pruned_recent (h.imp id fun hnone => hrecent ▸ hnone other),
        Option.map_some, Option.filter_some]
      split
      · rfl
      · rename_i hempty
        rw [Bool.not_eq_true, Bool.not_eq_false', List.isEmpty_iff] at hempty
        exact hempty.symm

/-- A window that all of them were pruned to holds a charge. -/
theorem stored_ne_nil_of_pruneAll {other : String} {window : PrincipalWindow}
    (h : (s.pruneAll now).windows.lookup other = some window) : window.recent ≠ [] := by
  rw [lookup_pruneAll, Option.filter_eq_some_iff] at h
  have hkept := h.2
  rw [Bool.not_eq_true', List.isEmpty_eq_false_iff] at hkept
  exact hkept

theorem Sound.pruneAll (hs : s.Sound) (now : Nat) : (s.pruneAll now).Sound := by
  have hback : ∀ other window, (s.pruneAll now).windows.lookup other = some window →
      ∃ old, s.windows.lookup other = some old ∧ old.pruned now = window := by
    intro other window hwindow
    rw [lookup_pruneAll, Option.filter_eq_some_iff] at hwindow
    exact Option.map_eq_some_iff.mp hwindow.1
  have htotal : (s.pruneAll now).windows.total (fun _ window => window.recent.length) =
      s.windows.total fun _ window => (window.pruned now).recent.length := by
    rw [MutationState.pruneAll, Table.total_retain, Table.total_update]
    intro _ window hempty
    rw [Bool.not_eq_false', List.isEmpty_iff] at hempty
    rw [hempty, List.length_nil]
  have hsum : (s.windows.total fun _ window => (window.pruned now).recent.length) +
      (s.windows.total fun _ window => window.prune now) =
        s.windows.total fun _ window => window.recent.length := by
    rw [← Table.total_add]
    congr 1
    funext _ window
    exact window.prune_add now
  have hmutations := hs.mutations
  constructor
  case window =>
    intro other window hwindow
    obtain ⟨old, hold, rfl⟩ := hback other window hwindow
    exact (hs.window other old hold).pruned now
  case numbered =>
    intro other charge hcharge
    cases hlookup : (s.pruneAll now).windows.lookup other with
    | none =>
        rw [stored_of_none hlookup] at hcharge
        cases hcharge
    | some window =>
        obtain ⟨old, hold, rfl⟩ := hback other window hlookup
        rw [stored_of_lookup hlookup] at hcharge
        refine hs.numbered other charge ?_
        rw [stored_of_lookup hold]
        exact (old.pruned_suffix now).subset hcharge
  case tracked =>
    rw [htotal]
    show s.trackedMutations - (s.windows.total fun _ window => window.prune now) = _
    rw [hs.tracked]
    omega
  case principals =>
    refine (Table.size_retain_le _ _).trans ?_
    rw [Table.size_update]
    exact hs.principals
  case mutations => exact (Nat.sub_le _ _).trans hmutations

theorem Sound.pruned_pruneAll (hs : s.Sound)
    (h : mutationWindow ≤ now ∨ ∀ other, s.stored other = []) :
    Pruned now s (s.pruneAll now) := by
  refine ⟨rfl, fun other => Or.inr (stored_pruneAll h other), fun other identity chargeId => ?_⟩
  cases hlookup : s.windows.lookup other with
  | none =>
      have hnone : (s.pruneAll now).windows.lookup other = none := by
        rw [lookup_pruneAll, hlookup]
        rfl
      rw [exempt_of_none hlookup, exempt_of_none hnone]
      simp
  | some window =>
      have hwindow := hs.window other window hlookup
      rw [exempt_of_lookup hlookup]
      cases hafter : (s.pruneAll now).windows.lookup other with
      | none =>
          rw [exempt_of_none hafter, stored_of_none hafter]
          simp
      | some later =>
          obtain rfl : window.pruned now = later := by
            rw [lookup_pruneAll, hlookup, Option.map_some, Option.filter_eq_some_iff] at hafter
            exact Option.some.inj hafter.1
          rw [exempt_of_lookup hafter, stored_of_lookup hafter]
          exact hwindow.lookup_pruned now identity chargeId

/-! ## A charge -/

/-- `t` stores what `s` stores, under the same exemptions. -/
structure Same (s t : MutationState) : Prop where
  sequence : t.sequence = s.sequence
  stored : ∀ principalId, t.stored principalId = s.stored principalId
  exempt : ∀ principalId identity, t.exempt principalId identity = s.exempt principalId identity

/-- `t` stores one charge more than `s`, which is the one to retry its request under. -/
structure Adds (principalId : String) (charge : MutationCharge) (s t : MutationState) : Prop where
  sequence : t.sequence = charge.chargeId
  next : charge.chargeId = s.sequence + 1
  stored : ∀ other, t.stored other =
    if other = principalId then s.stored principalId ++ [charge] else s.stored other
  exempt : ∀ other identity, t.exempt other identity =
    if other = principalId ∧ identity = charge.identity then some charge.chargeId
    else s.exempt other identity

theorem Pruned.same {u : MutationState} (h : Pruned now s t) (hsame : Same t u) :
    Pruned now s u := by
  refine ⟨hsame.sequence.trans h.sequence, fun other => ?_, fun other identity chargeId => ?_⟩
  · rw [hsame.stored]
    exact h.stored other
  · rw [hsame.exempt, hsame.stored]
    exact h.exempt other identity chargeId

theorem lookup_getD_new (s : MutationState) (principalId : String) :
    ((s.windows.lookup principalId).getD .new).recent = s.stored principalId ∧
      ∀ identity, ((s.windows.lookup principalId).getD .new).retryable.lookup identity =
        s.exempt principalId identity := by
  cases hlookup : s.windows.lookup principalId with
  | none => exact ⟨(stored_of_none hlookup).symm, fun identity => (exempt_of_none hlookup _).symm⟩
  | some window =>
      exact ⟨(stored_of_lookup hlookup).symm, fun identity => (exempt_of_lookup hlookup _).symm⟩

theorem Sound.getD_new (hs : s.Sound) (principalId : String) :
    ((s.windows.lookup principalId).getD .new).Sound := by
  cases hlookup : s.windows.lookup principalId with
  | none => exact PrincipalWindow.sound_new
  | some window => exact hs.window principalId window hlookup

/-- What a charge that is no retry does to a state that has been pruned for it. -/
theorem Sound.chargeTracked_cases (hs : s.Sound) (hsequence : s.sequence < wordMax)
    (principalId : String) (identity : MutationIdentity) (payloadBytes now : Nat) :
    (s.chargeTracked principalId identity payloadBytes now = (.error capacityExceeded, s) ∧
      (s.slotless principalId = true ∨ maxTrackedMutations ≤ s.trackedMutations)) ∨
    (∃ t, s.chargeTracked principalId identity payloadBytes now = (.error budgetExceeded, t) ∧
      Same s t ∧ t.Sound) ∨
    ∃ t, s.chargeTracked principalId identity payloadBytes now = (.ok (s.sequence + 1), t) ∧
      Adds principalId ⟨now, payloadBytes, identity, s.sequence + 1⟩ s t ∧ t.Sound ∧
      (s.stored principalId).length + 1 ≤ maxMutationsPerWindow ∧
      Log.total MutationCharge.bytes (s.stored principalId) + payloadBytes ≤
        maxMutationBytesPerWindow := by
  by_cases hslotless : s.slotless principalId = true
  · exact Or.inl ⟨if_pos hslotless, Or.inl hslotless⟩
  by_cases hfull : maxTrackedMutations ≤ s.trackedMutations
  · exact Or.inl ⟨(if_neg hslotless).trans (if_pos hfull), Or.inr hfull⟩
  have hslot : s.windows.lookup principalId = none → s.windows.size < maxTrackedPrincipals := by
    intro hnone
    rw [slotless, hnone] at hslotless
    simpa using hslotless
  have hnext : checkedAdd s.sequence 1 = some (s.sequence + 1) :=
    checkedAdd_eq_some.mpr ⟨hsequence, rfl⟩
  obtain ⟨hrecent, hexempt⟩ := lookup_getD_new s principalId
  have hwindow := hs.getD_new principalId
  have hbytes := hwindow.bytes
  have hnumbered := hs.numbered principalId
  unfold chargeTracked
  rw [if_neg hslotless, if_neg hfull, hnext]
  dsimp only
  generalize (s.windows.lookup principalId).getD .new = window at *
  rw [hrecent] at hbytes
  rw [← hrecent] at hnumbered
  rcases window.charge_cases now identity payloadBytes (s.sequence + 1) with
    hrefused | ⟨hcharged, hcount, hfits⟩
  · refine Or.inr (Or.inl ⟨⟨s.sequence, s.windows.insert principalId window,
      s.trackedMutations⟩, by rw [hrefused], ⟨rfl, fun other => ?_, fun other identity' => ?_⟩, ?_⟩)
    · show ((s.windows.insert principalId window).lookup other).elim [] _ = _
      rw [Table.lookup_insert_ite]
      split
      · rename_i hother
        rw [hother]
        exact hrecent
      · rfl
    · show ((s.windows.insert principalId window).lookup other).bind _ = _
      rw [Table.lookup_insert_ite]
      split
      · rename_i hother
        rw [hother]
        exact hexempt identity'
      · rfl
    · exact hs.insert hwindow hnumbered le_rfl (by rw [hrecent]) hslot hs.mutations
  · rw [hrecent] at hcount
    rw [hbytes] at hfits
    have hnew : ∀ charge ∈ window.recent, charge.chargeId ≠ s.sequence + 1 := by
      intro charge hcharge
      have hle := hnumbered charge hcharge
      omega
    refine Or.inr (Or.inr ⟨_, by rw [hcharged], ⟨rfl, rfl, fun other => ?_,
      fun other identity' => ?_⟩, ?_, hcount, hfits⟩)
    · show ((s.windows.insert principalId _).lookup other).elim [] _ = _
      rw [Table.lookup_insert_ite, ← hrecent]
      split <;> rfl
    · show ((s.windows.insert principalId _).lookup other).bind _ = _
      rw [Table.lookup_insert_ite]
      by_cases hother : other = principalId
      · rw [if_pos hother]
        show (window.retryable.insert identity (s.sequence + 1)).lookup identity' = _
        rw [Table.lookup_insert_ite, hexempt, hother]
        simp
      · rw [if_neg hother, if_neg fun hboth => hother hboth.1]
        rfl
    · refine hs.insert (hwindow.charged hnew) ?_ (Nat.le_succ _) ?_ hslot (by omega)
      · intro charge hcharge
        rcases List.mem_append.mp hcharge with hold | hlast
        · exact (hnumbered charge hold).trans (Nat.le_succ _)
        · rw [List.mem_singleton.mp hlast]
      · rw [List.length_append, ← hrecent, List.length_singleton]
        omega

/-- What a charge does, of a state it leaves no charge out of too early. -/
inductive Charged (s : MutationState) (principalId : String) (identity : MutationIdentity)
    (payloadBytes now : Nat) : Except Refusal Nat × MutationState → Prop
  | retried {chargeId : Nat}
      (hexempt : (s.prunePrincipal principalId now).exempt principalId identity = some chargeId) :
      Charged s principalId identity payloadBytes now
        (.ok chargeId, s.prunePrincipal principalId now)
  | crowded {t : MutationState} (hcleared : ∃ u, t = pruneAll u now)
      (hstored : ∀ other, t.stored other =
        Log.expire MutationCharge.time mutationWindow now (s.stored other))
      (hpruned : Pruned now s t) (hsound : t.Sound)
      (hfull : t.slotless principalId = true ∨ maxTrackedMutations ≤ t.trackedMutations) :
      Charged s principalId identity payloadBytes now (.error capacityExceeded, t)
  | exceeded {t : MutationState} (hpruned : Pruned now s t) (hsound : t.Sound) :
      Charged s principalId identity payloadBytes now (.error budgetExceeded, t)
  | fresh {t u : MutationState} (hpruned : Pruned now s t) (htsound : t.Sound)
      (hstored : t.stored principalId =
        Log.expire MutationCharge.time mutationWindow now (s.stored principalId))
      (hnew : t.exempt principalId identity = none)
      (hadds : Adds principalId ⟨now, payloadBytes, identity, s.sequence + 1⟩ t u)
      (hsound : u.Sound)
      (hcount : (t.stored principalId).length + 1 ≤ maxMutationsPerWindow)
      (hbytes : Log.total MutationCharge.bytes (t.stored principalId) + payloadBytes ≤
        maxMutationBytesPerWindow) :
      Charged s principalId identity payloadBytes now (.ok (s.sequence + 1), u)

theorem Timely.pruneAll (h : s.Timely principalId now)
    (hfull : (s.prunePrincipal principalId now).slotless principalId = true ∨
      maxTrackedMutations ≤ (s.prunePrincipal principalId now).trackedMutations) :
    mutationWindow ≤ now ∨ ∀ other, (s.prunePrincipal principalId now).stored other = [] := by
  rcases h with hlate | ⟨hnone, hall⟩
  · exact Or.inl hlate
  · refine Or.inr fun other => ?_
    rw [stored_prunePrincipal s principalId other now (Or.inr hnone)]
    split
    · rw [hnone]
      rfl
    · exact hall hfull other

theorem makeRoom_cases (t : MutationState) (principalId : String) (now : Nat) :
    (t.makeRoom principalId now = t.pruneAll now ∧
      (t.slotless principalId = true ∨ maxTrackedMutations ≤ t.trackedMutations)) ∨
    (t.makeRoom principalId now = t ∧
      ¬ (t.slotless principalId = true ∨ maxTrackedMutations ≤ t.trackedMutations)) := by
  have hiff : (t.slotless principalId || decide (maxTrackedMutations ≤ t.trackedMutations)) =
      true ↔ (t.slotless principalId = true ∨ maxTrackedMutations ≤ t.trackedMutations) := by
    rw [Bool.or_eq_true, decide_eq_true_eq]
  by_cases hfull : t.slotless principalId = true ∨ maxTrackedMutations ≤ t.trackedMutations
  · exact Or.inl ⟨if_pos (hiff.mpr hfull), hfull⟩
  · exact Or.inr ⟨if_neg (mt hiff.mp hfull), hfull⟩

theorem Sound.charged (hs : s.Sound) (htimely : s.Timely principalId now)
    (hsequence : s.sequence < wordMax) (identity : MutationIdentity) (payloadBytes : Nat) :
    Charged s principalId identity payloadBytes now
      (s.charge principalId identity payloadBytes now) := by
  have hown : mutationWindow ≤ now ∨ s.stored principalId = [] := htimely.imp id And.left
  have hfirst := hs.pruned_prunePrincipal hown
  have hstored := fun other => stored_prunePrincipal s principalId other now hown
  have hsound := hs.prunePrincipal principalId now
  have hcleared := htimely.pruneAll
  have hself := hstored principalId
  rw [if_pos rfl] at hself
  unfold charge
  dsimp only
  cases hexempt : (s.prunePrincipal principalId now).exempt principalId identity with
  | some chargeId =>
      have hlookup := hexempt
      rw [exempt] at hlookup
      rw [hlookup]
      exact .retried hexempt
  | none =>
      have hlookup := hexempt
      rw [exempt] at hlookup
      rw [hlookup]
      dsimp only
      rcases makeRoom_cases (s.prunePrincipal principalId now) principalId now with
        ⟨hroom, hfull⟩ | ⟨hroom, hfree⟩
      · -- every window was pruned, so what is stored is young
        have hlater := hsound.pruned_pruneAll (hcleared hfull)
        have hall : ∀ other, ((s.prunePrincipal principalId now).pruneAll now).stored other =
            Log.expire MutationCharge.time mutationWindow now (s.stored other) := by
          intro other
          rw [stored_pruneAll (hcleared hfull), hstored]
          split
          · rename_i hother
            rw [hother, Log.expire_expire]
          · rfl
        have hnew : ((s.prunePrincipal principalId now).pruneAll now).exempt principalId
            identity = none := by
          refine Option.eq_none_iff_forall_ne_some.mpr fun chargeId hsome => ?_
          have hearlier := ((hlater.exempt _ _ _).mp hsome).1
          rw [hexempt] at hearlier
          cases hearlier
        have hpruned := hfirst.trans hlater
        rw [hroom]
        rcases (hsound.pruneAll now).chargeTracked_cases (hpruned.sequence ▸ hsequence)
            principalId identity payloadBytes now with
          ⟨hrefused, hstill⟩ | ⟨t, hrefused, hsame, ht⟩ | ⟨t, hfresh, hadds, ht, hcount, hbytes⟩
        · rw [hrefused]
          exact .crowded ⟨_, rfl⟩ hall hpruned (hsound.pruneAll now) hstill
        · rw [hrefused]
          exact .exceeded (hpruned.same hsame) ht
        · rw [hfresh, hpruned.sequence]
          rw [hpruned.sequence] at hadds
          exact .fresh hpruned (hsound.pruneAll now) (hall principalId) hnew hadds ht hcount hbytes
      · rw [hroom]
        rcases hsound.chargeTracked_cases (hfirst.sequence ▸ hsequence)
            principalId identity payloadBytes now with
          ⟨-, hstill⟩ | ⟨t, hrefused, hsame, ht⟩ | ⟨t, hfresh, hadds, ht, hcount, hbytes⟩
        · exact absurd hstill hfree
        · rw [hrefused]
          exact .exceeded (hfirst.same hsame) ht
        · rw [hfresh, hfirst.sequence]
          rw [hfirst.sequence] at hadds
          exact .fresh hfirst hsound hself hexempt hadds ht hcount hbytes

/-! ## A resolution -/

theorem stored_resolve (s : MutationState) (principalId other : String)
    (identity : MutationIdentity) (chargeId : Nat) :
    (s.resolve principalId identity chargeId).stored other = s.stored other := by
  cases hlookup : s.windows.lookup principalId with
  | none => rw [resolve, hlookup]
  | some window =>
      rw [resolve, hlookup]
      dsimp only
      split
      · show ((s.windows.insert principalId _).lookup other).elim [] _ = _
        rw [Table.lookup_insert_ite]
        split
        · rename_i hother
          rw [hother, stored_of_lookup hlookup]
          rfl
        · rfl
      · rfl

/-- A resolution ends the exemption of its own charge alone. -/
theorem exempt_resolve (s : MutationState) (principalId other : String)
    (identity identity' : MutationIdentity) (chargeId : Nat) :
    (s.resolve principalId identity chargeId).exempt other identity' =
      if other = principalId ∧ identity' = identity ∧
          s.exempt principalId identity = some chargeId then none
      else s.exempt other identity' := by
  cases hlookup : s.windows.lookup principalId with
  | none =>
      rw [exempt_of_none hlookup, if_neg (by rintro ⟨-, -, ⟨⟩⟩), resolve, hlookup]
  | some window =>
      rw [exempt_of_lookup hlookup, resolve, hlookup]
      dsimp only
      by_cases hcurrent : window.retryable.lookup identity = some chargeId
      · rw [if_pos hcurrent]
        show ((s.windows.insert principalId _).lookup other).bind _ = _
        rw [Table.lookup_insert_ite]
        by_cases hother : other = principalId
        · rw [if_pos hother, hother, exempt_of_lookup hlookup]
          show (window.retryable.erase identity).lookup identity' = _
          rw [Table.lookup_erase_ite]
          simp [hcurrent]
        · rw [if_neg hother, if_neg fun hboth => hother hboth.1]
          rfl
      · rw [if_neg hcurrent, if_neg fun hboth => hcurrent hboth.2.2]

theorem sequence_resolve (s : MutationState) (principalId : String)
    (identity : MutationIdentity) (chargeId : Nat) :
    (s.resolve principalId identity chargeId).sequence = s.sequence := by
  rw [resolve]
  split
  · rfl
  · split <;> rfl

theorem Sound.resolve (hs : s.Sound) (principalId : String) (identity : MutationIdentity)
    (chargeId : Nat) : (s.resolve principalId identity chargeId).Sound := by
  cases hlookup : s.windows.lookup principalId with
  | none =>
      rw [MutationState.resolve, hlookup]
      exact hs
  | some window =>
      rw [MutationState.resolve, hlookup]
      dsimp only
      split
      · have hwindow := hs.window principalId window hlookup
        refine hs.insert ⟨hwindow.bytes, fun identity' chargeId' hexempt => ?_,
          hwindow.numbered⟩ (fun charge hcharge => ?_) le_rfl ?_ ?_ hs.mutations
        · change (window.retryable.erase identity).lookup identity' = some chargeId' at hexempt
          rw [Table.lookup_erase_ite] at hexempt
          split at hexempt
          · cases hexempt
          · exact hwindow.exempt identity' chargeId' hexempt
        · exact hs.numbered principalId charge (stored_of_lookup hlookup ▸ hcharge)
        · rw [stored_of_lookup hlookup]
        · rw [hlookup]
          rintro ⟨⟩
      · exact hs

end MutationState

end AgentsAssemble.Server.Mutation
