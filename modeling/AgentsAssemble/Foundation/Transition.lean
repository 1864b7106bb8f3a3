import Mathlib.Logic.Relation
import Mathlib.Tactic.Common

/-!
# Labelled transition systems

Runs of a system whose steps carry labels.  An invariant is established once,
for every reachable state, from the initial states and the step lemma.  The
token rule bounds how often a label fires along one run: a label that consumes
a token which no step gives back fires at most once.
-/

namespace AgentsAssemble.Foundation

variable {σ ι : Type}

/-- A run from `s` to `t` under a labelled step relation, with its labels in order. -/
inductive Run (step : ι → σ → σ → Prop) : σ → List ι → σ → Prop
  | nil (s : σ) : Run step s [] s
  | snoc {s t u : σ} {ls : List ι} {l : ι} :
      Run step s ls t → step l t u → Run step s (ls ++ [l]) u

/-- States reachable from an initial state. -/
def Reachable (init : σ → Prop) (step : ι → σ → σ → Prop) (t : σ) : Prop :=
  ∃ s ls, init s ∧ Run step s ls t

namespace Run

variable {step : ι → σ → σ → Prop}

theorem single {l : ι} {s t : σ} (h : step l s t) : Run step s [l] t :=
  Run.snoc (Run.nil s) h

theorem append {s t u : σ} {ls ms : List ι} (h₁ : Run step s ls t)
    (h₂ : Run step t ms u) : Run step s (ls ++ ms) u := by
  induction h₂ with
  | nil => rwa [List.append_nil]
  | snoc _ hstep ih =>
      rw [← List.append_assoc]
      exact Run.snoc ih hstep

/-- The last step of a run. -/
theorem of_snoc {ls : List ι} {l : ι} {s u : σ} (h : Run step s (ls ++ [l]) u) :
    ∃ t, Run step s ls t ∧ step l t u := by
  generalize hlabels : ls ++ [l] = labels at h
  cases h with
  | nil => simp at hlabels
  | snoc hrun hlast =>
      obtain ⟨rfl, rfl⟩ := List.append_inj' hlabels rfl |>.imp id List.singleton_inj.mp
      exact ⟨_, hrun, hlast⟩

/-- A run of steps is a run of any weaker step relation. -/
theorem imp {step' : ι → σ → σ → Prop} (himp : ∀ l s t, step l s t → step' l s t) {s t : σ}
    {ls : List ι} (h : Run step s ls t) : Run step' s ls t := by
  induction h with
  | nil => exact Run.nil _
  | snoc _ hlast ih => exact Run.snoc ih (himp _ _ _ hlast)

/-- What every step preserves, every run preserves. -/
theorem invariant {I : σ → Prop} (hstep : ∀ l s t, I s → step l s t → I t)
    {s t : σ} {ls : List ι} (hs : I s) (h : Run step s ls t) : I t := by
  induction h with
  | nil => exact hs
  | snoc _ hlast ih => exact hstep _ _ _ ih hlast

/-- What every step preserves together with the labels taken so far, every run preserves. -/
theorem invariant_labels {I : List ι → σ → Prop}
    (hstep : ∀ ls l s t, I ls s → step l s t → I (ls ++ [l]) t)
    {s t : σ} {ls : List ι} (hs : I [] s) (h : Run step s ls t) : I ls t := by
  induction h with
  | nil => exact hs
  | snoc _ hlast ih => exact hstep _ _ _ _ ih hlast

/-- A kept fact that excludes a label excludes it for the whole run. -/
theorem excludes {I : σ → Prop} {bad : ι → Bool} (hstep : ∀ l s t, I s → step l s t → I t)
    (hexcl : ∀ l s t, I s → step l s t → bad l = false) {s t : σ} {ls : List ι} (hs : I s)
    (h : Run step s ls t) : ∀ l ∈ ls, bad l = false := by
  induction h with
  | nil => exact fun _ hl => nomatch hl
  | @snoc t u ls l hrun hlast ih =>
      intro m hm
      rcases List.mem_append.mp hm with hbefore | hlatest
      · exact ih m hbefore
      · rw [List.mem_singleton.mp hlatest]
        exact hexcl l t u (invariant hstep hs hrun) hlast

/-- A preorder that contains every step taken under an invariant contains every run. -/
theorem relates {I : σ → Prop} {R : σ → σ → Prop} (hrefl : ∀ s, R s s)
    (htrans : ∀ a b c, R a b → R b c → R a c)
    (hI : ∀ l s t, I s → step l s t → I t) (hR : ∀ l s t, I s → step l s t → R s t)
    {s t : σ} {ls : List ι} (hs : I s) (h : Run step s ls t) : R s t := by
  induction h with
  | nil => exact hrefl _
  | snoc hrun hlast ih =>
      exact htrans _ _ _ ih (hR _ _ _ (invariant hI hs hrun) hlast)

/-- The token rule.  If firing `hit` needs `token` and leaves it spent, and no
step restores a spent token, then `hit` fires at most once along a run. -/
theorem count_le_one {I : σ → Prop} {token : σ → Prop} {hit : ι → Bool}
    (hI : ∀ l s t, I s → step l s t → I t)
    (hneed : ∀ l s t, I s → step l s t → hit l = true → token s ∧ ¬ token t)
    (hspent : ∀ l s t, I s → step l s t → ¬ token s → ¬ token t ∧ hit l = false)
    {s t : σ} {ls : List ι} (hs : I s) (h : Run step s ls t) :
    ls.countP hit ≤ 1 ∧ (0 < ls.countP hit → ¬ token t) := by
  induction h with
  | nil => simp
  | @snoc t u ls l hrun hlast ih =>
      have hIt : I t := invariant hI hs hrun
      obtain ⟨hle, hgone⟩ := ih
      rw [List.countP_append, List.countP_singleton]
      cases hl : hit l with
      | true =>
          obtain ⟨htok, hnot⟩ := hneed l t u hIt hlast hl
          have hzero : ls.countP hit = 0 := by
            by_contra hne
            exact hgone (Nat.pos_of_ne_zero hne) htok
          simp [hzero, hnot]
      | false =>
          simp only [Bool.false_eq_true, if_false, Nat.add_zero]
          exact ⟨hle, fun hpos => (hspent l t u hIt hlast (hgone hpos)).1⟩

end Run

/-- Invariants of reachable states from their base case and step lemma. -/
theorem Reachable.invariant {init : σ → Prop} {step : ι → σ → σ → Prop} {I : σ → Prop}
    (hinit : ∀ s, init s → I s) (hstep : ∀ l s t, I s → step l s t → I t)
    {t : σ} (h : Reachable init step t) : I t := by
  obtain ⟨s, ls, hs, hrun⟩ := h
  exact hrun.invariant hstep (hinit s hs)

theorem Reachable.step {init : σ → Prop} {step : ι → σ → σ → Prop} {l : ι} {s t : σ}
    (h : Reachable init step s) (hst : step l s t) : Reachable init step t := by
  obtain ⟨r, ls, hr, hrun⟩ := h
  exact ⟨r, ls ++ [l], hr, Run.snoc hrun hst⟩

end AgentsAssemble.Foundation
