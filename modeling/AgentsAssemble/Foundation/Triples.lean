import AgentsAssemble.Foundation.Tx

/-!
# Postconditions of transactions

`Meets x s Q E` says both what a transaction leaves when it commits and how it
may be rejected.  Every combinator has a rule that runs it forward, so the
specification of a long transaction is proved along its text.
-/

namespace AgentsAssemble.Foundation.Tx

variable {σ ε α β : Type}

/-- Started in `s`, `x` commits into `Q` or is rejected with an error of `E`. -/
structure Meets (x : Tx σ ε α) (s : σ) (Q : α → σ → Prop) (E : ε → Prop) : Prop where
  commits : ∀ {a s'}, Commits x s a s' → Q a s'
  rejects : ∀ {e}, Rejects x s e → E e

namespace Meets

variable {x : Tx σ ε α} {f : α → Tx σ ε β} {s : σ} {P : α → σ → Prop} {Q : β → σ → Prop}
  {E : ε → Prop}

theorem pure {b : β} (h : Q b s) : Meets (pure b : Tx σ ε β) s Q E where
  commits := by
    intro a s' hc
    obtain ⟨rfl, rfl⟩ := commits_pure.mp hc
    exact h
  rejects := fun hr => (rejects_pure.mp hr).elim

theorem throw {e : ε} (h : E e) : Meets (throw e : Tx σ ε β) s Q E where
  commits := fun hc => (commits_throw.mp hc).elim
  rejects := by
    intro d hr
    rw [rejects_throw.mp hr]
    exact h

/-- What the first part meets, the second part starts from. -/
theorem bind (hx : Meets x s P E) (hf : ∀ a s₁, P a s₁ → Meets (f a) s₁ Q E) :
    Meets (x >>= f) s Q E where
  commits := by
    intro b s' hc
    obtain ⟨a, s₁, hfirst, hrest⟩ := commits_bind.mp hc
    exact (hf a s₁ (hx.commits hfirst)).commits hrest
  rejects := by
    intro e hr
    rcases rejects_bind.mp hr with hfirst | ⟨a, s₁, hfirst, hrest⟩
    · exact hx.rejects hfirst
    · exact (hf a s₁ (hx.commits hfirst)).rejects hrest

theorem mono {P' : α → σ → Prop} {E' : ε → Prop} (hx : Meets x s P E)
    (hP : ∀ a t, P a t → P' a t) (hE : ∀ e, E e → E' e) : Meets x s P' E' where
  commits := fun hc => hP _ _ (hx.commits hc)
  rejects := fun hr => hE _ (hx.rejects hr)

theorem map {g : α → β} (hx : Meets x s (fun a t => Q (g a) t) E) : Meets (g <$> x) s Q E := by
  rw [← bind_pure_comp]
  exact hx.bind fun a t h => pure h

theorem write {g : σ → σ} {Q : Unit → σ → Prop} (h : Q () (g s)) :
    Meets (write g : Tx σ ε Unit) s Q E where
  commits := by
    intro _ s' hc
    rw [commits_write.mp hc]
    exact h
  rejects := fun hr => (rejects_write.mp hr).elim

theorem require {c : Prop} [Decidable c] {e : ε} {Q : Unit → σ → Prop} (he : ¬c → E e)
    (h : c → Q () s) : Meets (require c e : Tx σ ε Unit) s Q E where
  commits := by
    intro _ s' hc
    obtain ⟨hholds, rfl⟩ := commits_require.mp hc
    exact h hholds
  rejects := by
    intro d hr
    obtain ⟨hfails, rfl⟩ := rejects_require.mp hr
    exact he hfails

/-- What is never rejected is rejected with nothing else. -/
theorem safe {P : α → σ → Prop} (h : Meets x s P fun _ => False) : Meets x s P E :=
  h.mono (fun _ _ hp => hp) fun _ hf => hf.elim

/-- What commits does nothing else. -/
theorem of_commits {a : α} {t : σ} (h : Commits x s a t) :
    Meets x s (fun b u => b = a ∧ u = t) E where
  commits := fun hc => commits_functional hc h
  rejects := fun hr => absurd hr (not_rejects_of_commits h)

/-- What is never rejected commits. -/
theorem exists_commits {P : α → σ → Prop} (h : Meets x s P fun _ => False) :
    ∃ a t, Commits x s a t ∧ P a t := by
  rcases commits_or_rejects x s with ⟨a, t, hc⟩ | ⟨e, hr⟩
  · exact ⟨a, t, hc, h.commits hc⟩
  · exact (h.rejects hr).elim

/-! ### Running forward -/

theorem read_bind {g : σ → α} (h : Meets (f (g s)) s Q E) : Meets (read g >>= f) s Q E := by
  refine bind (P := fun a t => a = g s ∧ t = s) ⟨fun hc => commits_read.mp hc,
    fun hr => (rejects_read.mp hr).elim⟩ ?_
  rintro a t ⟨rfl, rfl⟩
  exact h

theorem write_bind {g : σ → σ} {f : Unit → Tx σ ε β} (h : Meets (f ()) (g s) Q E) :
    Meets (Tx.write g >>= f) s Q E := by
  refine bind (P := fun _ t => t = g s) (write rfl) ?_
  rintro ⟨⟩ t rfl
  exact h

theorem require_bind {c : Prop} [Decidable c] {e : ε} {f : Unit → Tx σ ε β} (he : ¬c → E e)
    (h : c → Meets (f ()) s Q E) : Meets (Tx.require c e >>= f) s Q E := by
  refine bind (P := fun _ t => c ∧ t = s) (require he fun hc => ⟨hc, rfl⟩) ?_
  rintro ⟨⟩ t ⟨hc, rfl⟩
  exact h hc

theorem orReject_bind {o : Option α} {e : ε} (he : o = none → E e)
    (h : ∀ a, o = some a → Meets (f a) s Q E) : Meets (orReject o e >>= f) s Q E := by
  cases o with
  | none => exact bind (P := fun _ _ => False) (throw (he rfl)) fun _ _ h => h.elim
  | some a =>
      refine bind (P := fun b t => b = a ∧ t = s) (pure ⟨rfl, rfl⟩) ?_
      rintro b t ⟨rfl, rfl⟩
      exact h _ rfl

theorem ofResult_bind {o : Except ε α} (he : ∀ e, o = .error e → E e)
    (h : ∀ a, o = .ok a → Meets (f a) s Q E) : Meets (ofResult o >>= f) s Q E := by
  cases o with
  | error e => exact bind (P := fun _ _ => False) (throw (he e rfl)) fun _ _ h => h.elim
  | ok a =>
      refine bind (P := fun b t => b = a ∧ t = s) (pure ⟨rfl, rfl⟩) ?_
      rintro b t ⟨rfl, rfl⟩
      exact h _ rfl

theorem pure_bind {a : α} (h : Meets (f a) s Q E) :
    Meets ((Pure.pure a : Tx σ ε α) >>= f) s Q E := by
  refine bind (P := fun b t => b = a ∧ t = s) (pure ⟨rfl, rfl⟩) ?_
  rintro b t ⟨rfl, rfl⟩
  exact h

theorem ite {c : Prop} [Decidable c] {x y : Tx σ ε β} (hx : c → Meets x s Q E)
    (hy : ¬c → Meets y s Q E) : Meets (if c then x else y) s Q E := by
  by_cases h : c
  · rw [if_pos h]
    exact hx h
  · rw [if_neg h]
    exact hy h

/-- A loop keeps what each of its items keeps. -/
theorem each {I : σ → Prop} {g : α → Tx σ ε β} {as : List α} (hs : I s)
    (hg : ∀ a ∈ as, ∀ t, I t → Meets (g a) t (fun _ u => I u) E) :
    Meets (each g as) s (fun _ t => I t) E := by
  induction as generalizing s with
  | nil => exact pure hs
  | cons a as ih =>
      refine (hg a List.mem_cons_self s hs).bind fun b t ht => ?_
      refine (ih ht fun a' ha' => hg a' (List.mem_cons_of_mem _ ha')).bind fun bs u hu => ?_
      exact pure hu

end Meets

end AgentsAssemble.Foundation.Tx
