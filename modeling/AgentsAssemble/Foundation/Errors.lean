import AgentsAssemble.Foundation.Tx
import AgentsAssemble.Foundation.Result

/-!
# Error rules

Which errors a computation can end in.  A class of errors is closed under
sequencing, so a computation stays within it as soon as its parts do.
-/

namespace AgentsAssemble.Foundation

variable {σ ε α β : Type} {E : ε → Prop}

/-! ## Pure computations -/

namespace Result

/-- Every error of `x` satisfies `E`. -/
def FailsWithin (E : ε → Prop) (x : Except ε α) : Prop :=
  ∀ e, x = .error e → E e

theorem failsWithin_ok (a : α) : FailsWithin E (.ok a : Except ε α) := nofun

theorem failsWithin_pure (a : α) : FailsWithin E (pure a : Except ε α) := nofun

theorem failsWithin_error {e : ε} (h : E e) : FailsWithin E (.error e : Except ε α) := by
  intro d hd
  obtain rfl := Except.error.inj hd
  exact h

theorem failsWithin_throw {e : ε} (h : E e) : FailsWithin E (throw e : Except ε α) :=
  failsWithin_error h

theorem failsWithin_bind {x : Except ε α} {f : α → Except ε β} (hx : FailsWithin E x)
    (hf : ∀ a, x = .ok a → FailsWithin E (f a)) : FailsWithin E (x >>= f) := by
  intro e he
  rcases bind_eq_error.mp he with hfirst | ⟨a, ha, hrest⟩
  · exact hx e hfirst
  · exact hf a ha e hrest

theorem failsWithin_ite {c : Prop} [Decidable c] {x y : Except ε α} (hx : FailsWithin E x)
    (hy : FailsWithin E y) : FailsWithin E (if c then x else y) := by
  by_cases hc : c
  · rw [if_pos hc]
    exact hx
  · rw [if_neg hc]
    exact hy

/-- A check that throws before the rest. -/
theorem failsWithin_check {c : Prop} [Decidable c] {e : ε} {f : Unit → Except ε α} (he : E e)
    (hf : FailsWithin E (f ())) : FailsWithin E (if c then throw e >>= f else f ()) :=
  failsWithin_ite (failsWithin_bind (failsWithin_throw he) fun _ h => nomatch h) hf

theorem failsWithin_mapM {f : α → Except ε β} {as : List α}
    (hf : ∀ a ∈ as, FailsWithin E (f a)) : FailsWithin E (as.mapM f) := by
  intro e he
  obtain ⟨a, ha, herror⟩ := mapM_eq_error he
  exact hf a ha e herror

end Result

/-! ## Transactions -/

namespace Tx

/-- Every rejection of `x` satisfies `E`. -/
def FailsWithin (E : ε → Prop) (x : Tx σ ε α) : Prop :=
  ∀ ⦃s : σ⦄ ⦃e : ε⦄, Rejects x s e → E e

theorem failsWithin_pure (a : α) : FailsWithin E (pure a : Tx σ ε α) :=
  fun _ _ h => (rejects_pure.mp h).elim

theorem failsWithin_throw {e : ε} (h : E e) : FailsWithin E (throw e : Tx σ ε α) := by
  intro s d hd
  rw [rejects_throw.mp hd]
  exact h

theorem failsWithin_read (f : σ → α) : FailsWithin E (read f : Tx σ ε α) :=
  fun _ _ h => (rejects_read.mp h).elim

theorem failsWithin_write (f : σ → σ) : FailsWithin E (write f : Tx σ ε Unit) :=
  fun _ _ h => (rejects_write.mp h).elim

theorem failsWithin_require {c : Prop} [Decidable c] {e : ε} (h : E e) :
    FailsWithin E (require c e : Tx σ ε Unit) := by
  intro s d hd
  rw [(rejects_require.mp hd).2]
  exact h

theorem failsWithin_orReject {o : Option α} {e : ε} (h : E e) :
    FailsWithin E (orReject o e : Tx σ ε α) := by
  intro s d hd
  rw [(rejects_orReject.mp hd).2]
  exact h

theorem failsWithin_ofResult {o : Except ε α} (h : Result.FailsWithin E o) :
    FailsWithin E (ofResult o : Tx σ ε α) :=
  fun _ e he => h e (rejects_ofResult.mp he)

theorem failsWithin_bind {x : Tx σ ε α} {f : α → Tx σ ε β} (hx : FailsWithin E x)
    (hf : ∀ a, FailsWithin E (f a)) : FailsWithin E (x >>= f) := by
  intro s e he
  rcases rejects_bind.mp he with hfirst | ⟨a, s₁, -, hrest⟩
  · exact hx hfirst
  · exact hf a hrest

theorem failsWithin_each {f : α → Tx σ ε β} {as : List α}
    (hf : ∀ a ∈ as, FailsWithin E (f a)) : FailsWithin E (each f as) := by
  induction as with
  | nil => exact failsWithin_pure []
  | cons a as ih =>
      refine failsWithin_bind (hf a List.mem_cons_self) fun b => ?_
      refine failsWithin_bind (ih fun x hx => hf x (List.mem_cons_of_mem _ hx)) fun bs => ?_
      exact failsWithin_pure (b :: bs)

/-- A loop rejects at one of its items, after the items before it committed. -/
theorem rejects_each_cons {f : α → Tx σ ε β} {a : α} {as : List α} {s : σ} {e : ε} :
    Rejects (each f (a :: as)) s e ↔
      Rejects (f a) s e ∨ ∃ b s₁, Commits (f a) s b s₁ ∧ Rejects (each f as) s₁ e := by
  rw [each, rejects_bind]
  constructor
  · rintro (hfirst | ⟨b, s₁, hb, hrest⟩)
    · exact Or.inl hfirst
    · rcases rejects_bind.mp hrest with hloop | ⟨bs, s₂, -, hpure⟩
      · exact Or.inr ⟨b, s₁, hb, hloop⟩
      · exact (rejects_pure.mp hpure).elim
  · rintro (hfirst | ⟨b, s₁, hb, hloop⟩)
    · exact Or.inl hfirst
    · exact Or.inr ⟨b, s₁, hb, rejects_bind.mpr (Or.inl hloop)⟩

end Tx

end AgentsAssemble.Foundation
