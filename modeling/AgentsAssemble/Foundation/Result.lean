import Mathlib.Algebra.Order.Ring.Nat
import Mathlib.Data.List.Forall2
import Mathlib.Tactic.Common

/-!
# Fallible computations

Inversion lemmas for `Except`: what it means that a chain of fallible steps, or
a fallible map over a list, succeeded or failed.
-/

namespace AgentsAssemble.Foundation.Result

variable {ε α β : Type}

@[simp] theorem pure_eq_ok {a b : α} : (pure a : Except ε α) = .ok b ↔ a = b := by
  constructor
  · intro h
    exact Except.ok.inj h
  · rintro rfl
    rfl

@[simp] theorem pure_eq_error {a : α} {e : ε} : (pure a : Except ε α) = .error e ↔ False :=
  ⟨fun h => (nomatch h), False.elim⟩

@[simp] theorem throw_eq_ok {e : ε} {a : α} : (throw e : Except ε α) = .ok a ↔ False :=
  ⟨fun h => (nomatch h), False.elim⟩

@[simp] theorem throw_eq_error {d e : ε} : (throw d : Except ε α) = .error e ↔ d = e := by
  constructor
  · intro h
    exact Except.error.inj h
  · rintro rfl
    rfl

theorem bind_eq_ok {x : Except ε α} {f : α → Except ε β} {b : β} :
    (x >>= f) = .ok b ↔ ∃ a, x = .ok a ∧ f a = .ok b := by
  cases x with
  | error e => simp [bind, Except.bind]
  | ok a => simp [bind, Except.bind]

theorem bind_eq_error {x : Except ε α} {f : α → Except ε β} {e : ε} :
    (x >>= f) = .error e ↔ x = .error e ∨ ∃ a, x = .ok a ∧ f a = .error e := by
  cases x with
  | error d => simp [bind, Except.bind]
  | ok a => simp [bind, Except.bind]

theorem map_eq_ok {x : Except ε α} {f : α → β} {b : β} :
    f <$> x = .ok b ↔ ∃ a, x = .ok a ∧ f a = b := by
  cases x with
  | error e => simp [Functor.map, Except.map]
  | ok a => simp [Functor.map, Except.map]

theorem mapError_eq_ok {δ : Type} {x : Except ε α} {f : ε → δ} {a : α} :
    x.mapError f = .ok a ↔ x = .ok a := by
  cases x <;> simp [Except.mapError]

/-- A check that throws before the rest of the computation. -/
theorem check_eq_ok {c : Prop} [Decidable c] {e : ε} {f : Unit → Except ε α} {a : α} :
    (if c then throw e >>= f else f ()) = .ok a ↔ ¬ c ∧ f () = .ok a := by
  by_cases h : c
  · rw [if_pos h, bind_eq_ok]
    simp [h]
  · rw [if_neg h]
    simp [h]

theorem check_eq_error {c : Prop} [Decidable c] {d e : ε} {f : Unit → Except ε α} :
    (if c then throw d >>= f else f ()) = .error e ↔
      (c ∧ d = e) ∨ ¬ c ∧ f () = .error e := by
  by_cases h : c
  · rw [if_pos h, bind_eq_error]
    simp [h]
  · rw [if_neg h]
    simp [h]

theorem mapM_nil_eq_ok {f : α → Except ε β} {bs : List β} :
    [].mapM f = .ok bs ↔ bs = [] := by
  rw [List.mapM_nil, pure_eq_ok]
  exact eq_comm

theorem mapM_cons_eq_ok {f : α → Except ε β} {a : α} {as : List α} {bs : List β} :
    (a :: as).mapM f = .ok bs ↔
      ∃ b bs', f a = .ok b ∧ as.mapM f = .ok bs' ∧ bs = b :: bs' := by
  rw [List.mapM_cons, bind_eq_ok]
  constructor
  · rintro ⟨b, hb, h⟩
    obtain ⟨bs', hbs, h'⟩ := bind_eq_ok.mp h
    exact ⟨b, bs', hb, hbs, (pure_eq_ok.mp h').symm⟩
  · rintro ⟨b, bs', hb, hbs, rfl⟩
    exact ⟨b, hb, bind_eq_ok.mpr ⟨bs', hbs, rfl⟩⟩

/-- A map succeeds with these values exactly if each element maps to its value. -/
theorem mapM_eq_ok {f : α → Except ε β} {as : List α} {bs : List β} :
    as.mapM f = .ok bs ↔ List.Forall₂ (fun a b => f a = .ok b) as bs := by
  induction as generalizing bs with
  | nil =>
      rw [mapM_nil_eq_ok, List.forall₂_nil_left_iff]
  | cons a as ih =>
      rw [mapM_cons_eq_ok, List.forall₂_cons_left_iff]
      constructor
      · rintro ⟨b, bs', hb, hbs, rfl⟩
        exact ⟨b, bs', hb, ih.mp hbs, rfl⟩
      · rintro ⟨b, bs', hb, hbs, rfl⟩
        exact ⟨b, bs', hb, ih.mpr hbs, rfl⟩

/-- A map fails only where one of its elements fails. -/
theorem mapM_eq_error {f : α → Except ε β} {as : List α} {e : ε}
    (h : as.mapM f = .error e) : ∃ a ∈ as, f a = .error e := by
  induction as with
  | nil => cases h
  | cons a as ih =>
      rw [List.mapM_cons] at h
      rcases bind_eq_error.mp h with ha | ⟨b, -, hrest⟩
      · exact ⟨a, List.mem_cons_self, ha⟩
      · rcases bind_eq_error.mp hrest with has | ⟨bs, -, hpure⟩
        · obtain ⟨a', ha', hfail⟩ := ih has
          exact ⟨a', List.mem_cons_of_mem _ ha', hfail⟩
        · exact (pure_eq_error.mp hpure).elim

/-! ## Matched lists -/

/-- A list of at most one element has no two. -/
theorem eq_of_length_le_one {γ : Type} {as : List γ} (h : as.length ≤ 1) {a b : γ}
    (ha : a ∈ as) (hb : b ∈ as) : a = b := by
  match as, h with
  | [only], _ => rw [List.mem_singleton.mp ha, List.mem_singleton.mp hb]

/-- In matched lists, every element on the left has its match. -/
theorem forall₂_mem_left {γ δ : Type} {R : γ → δ → Prop} {as : List γ} {bs : List δ}
    (h : List.Forall₂ R as bs) {a : γ} (ha : a ∈ as) : ∃ b ∈ bs, R a b := by
  induction h with
  | nil => cases ha
  | cons hab _ ih =>
      rcases List.mem_cons.mp ha with rfl | ha
      · exact ⟨_, List.mem_cons_self, hab⟩
      · obtain ⟨b, hb, hrel⟩ := ih ha
        exact ⟨b, List.mem_cons_of_mem _ hb, hrel⟩

/-- In matched lists, every element on the right is a match. -/
theorem forall₂_mem_right {γ δ : Type} {R : γ → δ → Prop} {as : List γ} {bs : List δ}
    (h : List.Forall₂ R as bs) {b : δ} (hb : b ∈ bs) : ∃ a ∈ as, R a b :=
  forall₂_mem_left h.flip hb

/-- Matched lists whose matches share a key have the same keys. -/
theorem forall₂_map_eq {γ δ κ : Type} {R : γ → δ → Prop} {f : γ → κ} {g : δ → κ}
    (hkey : ∀ a b, R a b → f a = g b) {as : List γ} {bs : List δ} (h : List.Forall₂ R as bs) :
    as.map f = bs.map g := by
  induction h with
  | nil => rfl
  | cons hab _ ih => rw [List.map_cons, List.map_cons, hkey _ _ hab, ih]

end AgentsAssemble.Foundation.Result
