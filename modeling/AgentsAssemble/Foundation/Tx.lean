import Mathlib.Logic.Relation
import Mathlib.Tactic.Common

/-!
# Transactions

A transaction reads and writes a state and either commits a value or is
rejected with an error.  A rejected transaction leaves no trace: the caller
keeps the state it started from, which is the rollback of the database.

`Commits` and `Rejects` are the two observations one can make of a
transaction.  Each combinator has one inversion lemma for each observation,
so a committed run of a long transaction is taken apart by rewriting.
`Within` is the relational frame rule: a preorder kept by the parts of a
transaction is kept by the whole.
-/

namespace AgentsAssemble.Foundation

/-- Transactions over states `σ` that fail with errors `ε`. -/
abbrev Tx (σ ε : Type) (α : Type) := StateT σ (Except ε) α

namespace Tx

variable {σ ε α β : Type}

/-- `x`, started in `s`, commits the value `a` and the state `s'`. -/
def Commits (x : Tx σ ε α) (s : σ) (a : α) (s' : σ) : Prop :=
  x.run s = .ok (a, s')

/-- `x`, started in `s`, is rejected with `e`. -/
def Rejects (x : Tx σ ε α) (s : σ) (e : ε) : Prop :=
  x.run s = .error e

instance [DecidableEq σ] [DecidableEq ε] [DecidableEq α]
    (x : Tx σ ε α) (s : σ) (a : α) (s' : σ) : Decidable (Commits x s a s') :=
  inferInstanceAs (Decidable (_ = _))

instance [DecidableEq σ] [DecidableEq ε] [DecidableEq α]
    (x : Tx σ ε α) (s : σ) (e : ε) : Decidable (Rejects x s e) :=
  inferInstanceAs (Decidable (_ = _))

/-- Rejects with `e` unless `c` holds. -/
def require (c : Prop) [Decidable c] (e : ε) : Tx σ ε Unit :=
  if c then pure () else throw e

/-- Reads an optional value, rejecting with `e` when it is absent. -/
def orReject (o : Option α) (e : ε) : Tx σ ε α :=
  match o with
  | some a => pure a
  | none => throw e

/-- Lifts a fallible pure computation. -/
def ofResult (o : Except ε α) : Tx σ ε α :=
  match o with
  | .ok a => pure a
  | .error e => throw e

/-- Reads a projection of the state. -/
def read (f : σ → α) : Tx σ ε α := fun s => .ok (f s, s)

/-- Overwrites the state by a function of it. -/
def write (f : σ → σ) : Tx σ ε Unit := fun s => .ok ((), f s)

/-- Runs one transaction for each element, in order. -/
def each (f : α → Tx σ ε β) : List α → Tx σ ε (List β)
  | [] => pure []
  | a :: as => do
    let b ← f a
    let bs ← each f as
    pure (b :: bs)

/-- Runs `x` and hands its rejection to the caller, undoing what `x` wrote. -/
def attempt (x : Tx σ ε α) : Tx σ ε (Except ε α) := fun s =>
  match x.run s with
  | .ok (a, s') => .ok (.ok a, s')
  | .error e => .ok (.error e, s)

/-! ## Committed runs -/

theorem commits_functional {x : Tx σ ε α} {s : σ} {a b : α} {s₁ s₂ : σ}
    (h₁ : Commits x s a s₁) (h₂ : Commits x s b s₂) : a = b ∧ s₁ = s₂ := by
  have h : (Except.ok (a, s₁) : Except ε (α × σ)) = .ok (b, s₂) := h₁.symm.trans h₂
  simpa using h

theorem not_rejects_of_commits {x : Tx σ ε α} {s : σ} {a : α} {s' : σ} {e : ε}
    (h : Commits x s a s') : ¬ Rejects x s e := by
  intro hr
  have hc : (Except.ok (a, s') : Except ε (α × σ)) = .error e := h.symm.trans hr
  cases hc

theorem commits_or_rejects (x : Tx σ ε α) (s : σ) :
    (∃ a s', Commits x s a s') ∨ ∃ e, Rejects x s e := by
  unfold Commits Rejects
  cases h : x.run s with
  | ok p => exact Or.inl ⟨p.1, p.2, rfl⟩
  | error e => exact Or.inr ⟨e, rfl⟩

@[simp] theorem commits_pure {a b : α} {s s' : σ} :
    Commits (pure a : Tx σ ε α) s b s' ↔ b = a ∧ s' = s := by
  constructor
  · intro h
    have h' : (Except.ok (a, s) : Except ε (α × σ)) = .ok (b, s') := h
    simp only [Except.ok.injEq, Prod.mk.injEq] at h'
    exact ⟨h'.1.symm, h'.2.symm⟩
  · rintro ⟨rfl, rfl⟩
    rfl

@[simp] theorem commits_throw {e : ε} {a : α} {s s' : σ} :
    Commits (throw e : Tx σ ε α) s a s' ↔ False := by
  constructor
  · intro h
    have h' : (Except.error e : Except ε (α × σ)) = .ok (a, s') := h
    cases h'
  · exact False.elim

theorem commits_bind {x : Tx σ ε α} {f : α → Tx σ ε β} {s s' : σ} {b : β} :
    Commits (x >>= f) s b s' ↔
      ∃ a s₁, Commits x s a s₁ ∧ Commits (f a) s₁ b s' := by
  unfold Commits
  rw [StateT.run_bind]
  cases hx : x.run s with
  | error e =>
      simp [bind, Except.bind]
  | ok p =>
      rcases p with ⟨a, s₁⟩
      simp [bind, Except.bind]

@[simp] theorem commits_read {f : σ → α} {a : α} {s s' : σ} :
    Commits (read f : Tx σ ε α) s a s' ↔ a = f s ∧ s' = s := by
  constructor
  · intro h
    have h' : (Except.ok (f s, s) : Except ε (α × σ)) = .ok (a, s') := h
    simp only [Except.ok.injEq, Prod.mk.injEq] at h'
    exact ⟨h'.1.symm, h'.2.symm⟩
  · rintro ⟨rfl, rfl⟩
    rfl

@[simp] theorem commits_write {f : σ → σ} {u : Unit} {s s' : σ} :
    Commits (write f : Tx σ ε Unit) s u s' ↔ s' = f s := by
  constructor
  · intro h
    have h' : (Except.ok ((), f s) : Except ε (Unit × σ)) = .ok (u, s') := h
    simp only [Except.ok.injEq, Prod.mk.injEq] at h'
    exact h'.2.symm
  · rintro rfl
    rfl

@[simp] theorem commits_require {c : Prop} [Decidable c] {e : ε} {u : Unit} {s s' : σ} :
    Commits (require c e : Tx σ ε Unit) s u s' ↔ c ∧ s' = s := by
  unfold require
  by_cases h : c
  · rw [if_pos h, commits_pure]
    simp [h]
  · rw [if_neg h, commits_throw]
    simp [h]

@[simp] theorem commits_orReject {o : Option α} {e : ε} {a : α} {s s' : σ} :
    Commits (orReject o e : Tx σ ε α) s a s' ↔ o = some a ∧ s' = s := by
  cases o with
  | none => simp [orReject]
  | some b =>
      simp only [orReject, commits_pure, Option.some.injEq]
      exact and_congr_left fun _ => eq_comm

@[simp] theorem commits_ofResult {o : Except ε α} {a : α} {s s' : σ} :
    Commits (ofResult o : Tx σ ε α) s a s' ↔ o = .ok a ∧ s' = s := by
  cases o with
  | error e => simp [ofResult]
  | ok b =>
      simp only [ofResult, commits_pure, Except.ok.injEq]
      exact and_congr_left fun _ => eq_comm

theorem commits_attempt {x : Tx σ ε α} {r : Except ε α} {s s' : σ} :
    Commits (attempt x) s r s' ↔
      (∃ a, r = .ok a ∧ Commits x s a s') ∨ ∃ e, r = .error e ∧ Rejects x s e ∧ s' = s := by
  unfold Commits Rejects
  have hrun : (attempt x).run s = match x.run s with
      | .ok (a, s') => .ok (.ok a, s')
      | .error e => .ok (.error e, s) := rfl
  rw [hrun]
  cases hx : x.run s with
  | error e =>
      constructor
      · intro h
        obtain ⟨rfl, rfl⟩ : Except.error e = r ∧ s = s' := by simpa using h
        exact Or.inr ⟨e, rfl, rfl, rfl⟩
      · rintro (⟨a, -, ha⟩ | ⟨d, rfl, hd, rfl⟩)
        · cases ha
        · simp only [Except.error.injEq] at hd
          rw [hd]
  | ok p =>
      obtain ⟨a, t⟩ := p
      constructor
      · intro h
        obtain ⟨rfl, rfl⟩ : Except.ok a = r ∧ t = s' := by simpa using h
        exact Or.inl ⟨a, rfl, rfl⟩
      · rintro (⟨b, rfl, hb⟩ | ⟨d, -, hd, -⟩)
        · simp only [Except.ok.injEq, Prod.mk.injEq] at hb
          rw [hb.1, hb.2]
        · cases hd

theorem commits_map {x : Tx σ ε α} {g : α → β} {s s' : σ} {b : β} :
    Commits (g <$> x) s b s' ↔ ∃ a, Commits x s a s' ∧ b = g a := by
  rw [← bind_pure_comp, commits_bind]
  constructor
  · rintro ⟨a, s₁, hx, hp⟩
    rw [commits_pure] at hp
    obtain ⟨rfl, rfl⟩ := hp
    exact ⟨a, hx, rfl⟩
  · rintro ⟨a, hx, rfl⟩
    exact ⟨a, s', hx, commits_pure.mpr ⟨rfl, rfl⟩⟩

/-! ## Rejected runs -/

@[simp] theorem rejects_pure {a : α} {s : σ} {e : ε} :
    Rejects (pure a : Tx σ ε α) s e ↔ False := by
  constructor
  · intro h
    have h' : (Except.ok (a, s) : Except ε (α × σ)) = .error e := h
    cases h'
  · exact False.elim

@[simp] theorem rejects_throw {d e : ε} {s : σ} :
    Rejects (throw d : Tx σ ε α) s e ↔ e = d := by
  constructor
  · intro h
    have h' : (Except.error d : Except ε (α × σ)) = .error e := h
    simpa using h'.symm
  · rintro rfl
    rfl

theorem rejects_bind {x : Tx σ ε α} {f : α → Tx σ ε β} {s : σ} {e : ε} :
    Rejects (x >>= f) s e ↔
      Rejects x s e ∨ ∃ a s₁, Commits x s a s₁ ∧ Rejects (f a) s₁ e := by
  unfold Commits Rejects
  rw [StateT.run_bind]
  cases hx : x.run s with
  | error d => simp [bind, Except.bind]
  | ok p =>
      rcases p with ⟨a, s₁⟩
      simp [bind, Except.bind]

@[simp] theorem rejects_read {f : σ → α} {s : σ} {e : ε} :
    Rejects (read f : Tx σ ε α) s e ↔ False := by
  constructor
  · intro h
    have h' : (Except.ok (f s, s) : Except ε (α × σ)) = .error e := h
    cases h'
  · exact False.elim

@[simp] theorem rejects_write {f : σ → σ} {s : σ} {e : ε} :
    Rejects (write f : Tx σ ε Unit) s e ↔ False := by
  constructor
  · intro h
    have h' : (Except.ok ((), f s) : Except ε (Unit × σ)) = .error e := h
    cases h'
  · exact False.elim

@[simp] theorem rejects_require {c : Prop} [Decidable c] {d e : ε} {s : σ} :
    Rejects (require c d : Tx σ ε Unit) s e ↔ ¬ c ∧ e = d := by
  unfold require
  by_cases h : c
  · rw [if_pos h, rejects_pure]
    simp [h]
  · rw [if_neg h, rejects_throw]
    simp [h]

@[simp] theorem rejects_orReject {o : Option α} {d e : ε} {s : σ} :
    Rejects (orReject o d : Tx σ ε α) s e ↔ o = none ∧ e = d := by
  cases o with
  | none => simp [orReject]
  | some b => simp [orReject]

@[simp] theorem rejects_ofResult {o : Except ε α} {e : ε} {s : σ} :
    Rejects (ofResult o : Tx σ ε α) s e ↔ o = .error e := by
  cases o with
  | error d => simp [ofResult, eq_comm]
  | ok b => simp [ofResult]

/-! ## Frame rule -/

/-- Every committed run of `x` moves the state along `R`. -/
def Within (R : σ → σ → Prop) (x : Tx σ ε α) : Prop :=
  ∀ ⦃s : σ⦄ ⦃a : α⦄ ⦃s' : σ⦄, Commits x s a s' → R s s'

section Within

variable {R : σ → σ → Prop}

theorem within_pure (hrefl : ∀ s, R s s) (a : α) : Within R (pure a : Tx σ ε α) := by
  intro s b s' h
  obtain ⟨-, rfl⟩ := commits_pure.mp h
  exact hrefl _

theorem within_throw (e : ε) : Within R (throw e : Tx σ ε α) :=
  fun _ _ _ h => (commits_throw.mp h).elim

theorem within_read (hrefl : ∀ s, R s s) (f : σ → α) : Within R (read f : Tx σ ε α) := by
  intro s b s' h
  obtain ⟨-, rfl⟩ := commits_read.mp h
  exact hrefl _

theorem within_require (hrefl : ∀ s, R s s) (c : Prop) [Decidable c] (e : ε) :
    Within R (require c e : Tx σ ε Unit) := by
  intro s b s' h
  obtain ⟨-, rfl⟩ := commits_require.mp h
  exact hrefl _

theorem within_orReject (hrefl : ∀ s, R s s) (o : Option α) (e : ε) :
    Within R (orReject o e : Tx σ ε α) := by
  intro s b s' h
  obtain ⟨-, rfl⟩ := commits_orReject.mp h
  exact hrefl _

theorem within_ofResult (hrefl : ∀ s, R s s) (o : Except ε α) :
    Within R (ofResult o : Tx σ ε α) := by
  intro s b s' h
  obtain ⟨-, rfl⟩ := commits_ofResult.mp h
  exact hrefl _

theorem within_write {f : σ → σ} (h : ∀ s, R s (f s)) :
    Within R (write f : Tx σ ε Unit) := by
  intro s b s' hc
  rw [commits_write.mp hc]
  exact h s

theorem within_bind (htrans : ∀ a b c, R a b → R b c → R a c)
    {x : Tx σ ε α} {f : α → Tx σ ε β}
    (hx : Within R x) (hf : ∀ a, Within R (f a)) : Within R (x >>= f) := by
  intro s b s' h
  obtain ⟨a, s₁, h₁, h₂⟩ := commits_bind.mp h
  exact htrans _ _ _ (hx h₁) (hf a h₂)

theorem within_each (hrefl : ∀ s, R s s) (htrans : ∀ a b c, R a b → R b c → R a c)
    {f : α → Tx σ ε β} (hf : ∀ a, Within R (f a)) (as : List α) :
    Within R (each f as) := by
  induction as with
  | nil => exact within_pure hrefl []
  | cons a as ih =>
      refine within_bind htrans (hf a) fun b => within_bind htrans ih fun bs => ?_
      exact within_pure hrefl (b :: bs)

theorem Within.mono {S : σ → σ → Prop} {x : Tx σ ε α} (h : Within R x)
    (hRS : ∀ {a b}, R a b → S a b) : Within S x :=
  fun _ _ _ hc => hRS (h hc)

end Within

/-! ## Postconditions -/

/-- Whatever `x` commits, its result and the state it leaves satisfy `Q`. -/
def Yields (Q : α → σ → Prop) (x : Tx σ ε α) : Prop :=
  ∀ ⦃s : σ⦄ ⦃a : α⦄ ⦃s' : σ⦄, Commits x s a s' → Q a s'

section Yields

variable {Q : β → σ → Prop}

theorem yields_pure {b : β} (h : ∀ s, Q b s) : Yields Q (pure b : Tx σ ε β) := by
  intro s c s' hc
  obtain ⟨rfl, -⟩ := commits_pure.mp hc
  exact h s'

theorem yields_throw (e : ε) : Yields Q (throw e : Tx σ ε β) :=
  fun _ _ _ h => (commits_throw.mp h).elim

/-- The last transaction decides what a sequence yields. -/
theorem yields_bind {x : Tx σ ε α} {f : α → Tx σ ε β} (hf : ∀ a, Yields Q (f a)) :
    Yields Q (x >>= f) := by
  intro s b s' h
  obtain ⟨a, s₁, -, hrest⟩ := commits_bind.mp h
  exact hf a hrest

/-- What `x` yields, a continuation that only reads carries on. -/
theorem yields_bind_of {P : α → σ → Prop} {x : Tx σ ε α} {f : α → Tx σ ε β}
    (hx : Yields P x) (hf : ∀ a s b s', P a s → Commits (f a) s b s' → Q b s') :
    Yields Q (x >>= f) := by
  intro s b s' h
  obtain ⟨a, s₁, hfirst, hrest⟩ := commits_bind.mp h
  exact hf a s₁ b s' (hx hfirst) hrest

theorem yields_map {P : α → σ → Prop} {x : Tx σ ε α} {g : α → β} (hx : Yields P x)
    (hg : ∀ a s, P a s → Q (g a) s) : Yields Q (g <$> x) := by
  intro s b s' h
  obtain ⟨a, hfirst, rfl⟩ := commits_map.mp h
  exact hg a s' (hx hfirst)

theorem yields_ite {c : Prop} [Decidable c] {x y : Tx σ ε β} (hx : Yields Q x)
    (hy : Yields Q y) : Yields Q (if c then x else y) := by
  by_cases h : c
  · rwa [if_pos h]
  · rwa [if_neg h]

end Yields

/-! ## Loops -/

theorem commits_each_nil {f : α → Tx σ ε β} {s s' : σ} {bs : List β} :
    Commits (each f []) s bs s' ↔ bs = [] ∧ s' = s := by
  simp [each]

theorem commits_each_cons {f : α → Tx σ ε β} {a : α} {as : List α} {s s' : σ}
    {bs : List β} :
    Commits (each f (a :: as)) s bs s' ↔
      ∃ b s₁ bs', Commits (f a) s b s₁ ∧ Commits (each f as) s₁ bs' s' ∧
        bs = b :: bs' := by
  simp only [each, commits_bind, commits_pure]
  constructor
  · rintro ⟨b, s₁, hb, bs', s₂, hbs, rfl, rfl⟩
    exact ⟨b, s₁, bs', hb, hbs, rfl⟩
  · rintro ⟨b, s₁, bs', hb, hbs, rfl⟩
    exact ⟨b, s₁, hb, bs', s', hbs, rfl, rfl⟩

/-- Loop invariant: a predicate kept by every body run survives the loop. -/
theorem each_invariant {I : σ → Prop} {f : α → Tx σ ε β} {as : List α}
    (hf : ∀ a ∈ as, ∀ {s b s'}, I s → Commits (f a) s b s' → I s')
    {s s' : σ} {bs : List β} (hs : I s) (h : Commits (each f as) s bs s') : I s' := by
  induction as generalizing s bs with
  | nil =>
      obtain ⟨-, rfl⟩ := commits_each_nil.mp h
      exact hs
  | cons a as ih =>
      obtain ⟨b, s₁, bs', hb, hbs, -⟩ := commits_each_cons.mp h
      have h₁ : I s₁ := hf a List.mem_cons_self hs hb
      exact ih (fun a' ha' => hf a' (List.mem_cons_of_mem _ ha')) h₁ hbs

/-- A loop whose items each rely on a fact `Q` of the state: a body run moves the state along
`R` and keeps the facts of the items it is apart from. -/
theorem each_relates {R : σ → σ → Prop} {Q : α → σ → Prop} {D : α → α → Prop}
    {f : α → Tx σ ε β} (hrefl : ∀ s, R s s) (htrans : ∀ a b c, R a b → R b c → R a c)
    (hstep : ∀ a s b s', Q a s → Commits (f a) s b s' → R s s')
    (hkeep : ∀ a a' s b s', D a a' → Q a s → Q a' s → Commits (f a) s b s' → Q a' s')
    {as : List α} (hD : as.Pairwise D) {s s' : σ} {bs : List β} (hQ : ∀ a ∈ as, Q a s)
    (h : Commits (each f as) s bs s') : R s s' := by
  induction as generalizing s bs with
  | nil =>
      obtain ⟨-, rfl⟩ := commits_each_nil.mp h
      exact hrefl _
  | cons a as ih =>
      obtain ⟨b, s₁, bs', hb, hbs, -⟩ := commits_each_cons.mp h
      obtain ⟨hapart, hrest⟩ := List.pairwise_cons.mp hD
      have ha := hQ a List.mem_cons_self
      refine htrans _ _ _ (hstep a s b s₁ ha hb) (ih hrest (fun a' ha' => ?_) hbs)
      exact hkeep a a' s b s₁ (hapart a' ha') ha (hQ a' (List.mem_cons_of_mem _ ha')) hb

/-- A loop over distinct keys, each of which touches the row under its own key alone: what the
body does to its row, the loop does to the row of every key. -/
theorem each_keyed {κ ρ φ : Type} {f : κ → Tx σ ε β} {r : σ → κ → Option ρ} {g : σ → φ}
    {D : κ → Option ρ → Option ρ → Prop}
    (hstep : ∀ k s b t, Commits (f k) s b t →
      g t = g s ∧ D k (r s k) (r t k) ∧ ∀ k', k' ≠ k → r t k' = r s k')
    {keys : List κ} (hkeys : keys.Nodup) {s t : σ} {bs : List β}
    (h : Commits (each f keys) s bs t) :
    g t = g s ∧ (∀ k ∈ keys, D k (r s k) (r t k)) ∧
      ∀ k, k ∉ keys → r t k = r s k := by
  induction keys generalizing s bs with
  | nil =>
      obtain ⟨-, rfl⟩ := commits_each_nil.mp h
      exact ⟨rfl, fun k hk => absurd hk List.not_mem_nil, fun _ _ => rfl⟩
  | cons key keys ih =>
      obtain ⟨b, u, bs', hfirst, hloop, -⟩ := commits_each_cons.mp h
      obtain ⟨hkey, hrest⟩ := List.nodup_cons.mp hkeys
      obtain ⟨hsame, hmoved, hothers⟩ := hstep key s b u hfirst
      obtain ⟨hsame', hmoved', hothers'⟩ := ih hrest hloop
      refine ⟨hsame'.trans hsame, ?_, ?_⟩
      · intro k hk
        rcases List.mem_cons.mp hk with rfl | hlater
        · rw [hothers' k hkey]
          exact hmoved
        · have hne : k ≠ key := fun heq => hkey (heq ▸ hlater)
          rw [← hothers k hne]
          exact hmoved' k hlater
      · intro k hk
        rw [List.mem_cons, not_or] at hk
        rw [hothers' k hk.2, hothers k hk.1]

end Tx

end AgentsAssemble.Foundation
