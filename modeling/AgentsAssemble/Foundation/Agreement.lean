import AgentsAssemble.Foundation.Tx

/-!
# Two runs of a transaction

Two transactions agree from a state when they end alike: both are rejected with
one error, or both commit and their values and states are related.  A common
first step can be taken in both at once, so two runs are compared from the step
on at which they differ.
-/

namespace AgentsAssemble.Foundation.Tx

variable {σ ε α β : Type}

/-- `x` and `y`, started in `s`, end alike up to `R`. -/
def Agree (R : α × σ → α × σ → Prop) (x y : Tx σ ε α) (s : σ) : Prop :=
  match x.run s, y.run s with
  | .ok a, .ok b => R a b
  | .error d, .error e => d = e
  | _, _ => False

theorem agree_pure {R : α × σ → α × σ → Prop} {a b : α} {s : σ} (h : R (a, s) (b, s)) :
    Agree R (pure a : Tx σ ε α) (pure b) s :=
  h

theorem agree_throw {R : α × σ → α × σ → Prop} (e : ε) (s : σ) :
    Agree R (throw e : Tx σ ε α) (throw e) s :=
  (rfl : e = e)

/-- One transaction agrees with itself up to a reflexive relation. -/
theorem agree_refl {R : α × σ → α × σ → Prop} (hR : ∀ a, R a a) (x : Tx σ ε α) (s : σ) :
    Agree R x x s := by
  unfold Agree
  cases x.run s with
  | ok a => exact hR a
  | error e => rfl

/-- A common first step. -/
theorem agree_bind {R : β × σ → β × σ → Prop} {x : Tx σ ε α} {f g : α → Tx σ ε β} {s : σ}
    (h : ∀ a t, Commits x s a t → Agree R (f a) (g a) t) :
    Agree R (x >>= f) (x >>= g) s := by
  unfold Agree Commits at *
  have hf : (x >>= f).run s = (x.run s).bind fun a => (f a.1).run a.2 := rfl
  have hg : (x >>= g).run s = (x.run s).bind fun a => (g a.1).run a.2 := rfl
  rw [hf, hg]
  cases hx : x.run s with
  | ok a => exact h a.1 a.2 hx
  | error e => rfl

/-- A last step that writes related states. -/
theorem agree_write {R : Unit × σ → Unit × σ → Prop} {f g : σ → σ} {s : σ}
    (h : R ((), f s) ((), g s)) : Agree R (write f : Tx σ ε Unit) (write g) s :=
  h

/-- Two writes and what is returned after them. -/
theorem agree_write_pure {R : α × σ → α × σ → Prop} {f g : σ → σ} {a b : α} {s : σ}
    (h : R (a, f s) (b, g s)) :
    Agree R (write f >>= fun _ => (pure a : Tx σ ε α)) (write g >>= fun _ => pure b) s :=
  h

end AgentsAssemble.Foundation.Tx
