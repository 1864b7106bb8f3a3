import Mathlib.Algebra.Order.Ring.Nat
import Mathlib.Algebra.BigOperators.Group.List.Basic
import Mathlib.Algebra.Order.BigOperators.Group.List
import Mathlib.Data.Finset.Basic
import Mathlib.Logic.Function.Iterate

/-!
# Selections

Two ways to choose from a collection: rounds that only ever add, stopped at a
fixed point or at a limit, and a budget spent in order on whatever still fits.
-/

namespace AgentsAssemble.Foundation

/-! ## Rounds -/

section Rounds

variable {α : Type*} [DecidableEq α] (grow : Finset α → Finset α)

/-- Grow a set for a number of rounds, or until a round adds nothing. -/
def saturate : Nat → Finset α → Finset α
  | 0, s => s
  | rounds + 1, s => if grow s = s then s else saturate rounds (grow s)

/-- The sets of a run in which every round added something. -/
inductive Grows (start : Finset α) : Nat → Finset α → Prop
  | start : Grows start 0 start
  | round {k : Nat} {s : Finset α} : Grows start k s → grow s ≠ s → Grows start (k + 1) (grow s)

variable {grow}

/-- Stopping early changes nothing: what is fixed stays as it is. -/
theorem saturate_eq_iterate (rounds : Nat) (s : Finset α) :
    saturate grow rounds s = grow^[rounds] s := by
  induction rounds generalizing s with
  | zero => rfl
  | succ rounds ih =>
      rw [saturate, Function.iterate_succ_apply]
      split
      · next hfixed => rw [hfixed, Function.iterate_fixed hfixed]
      · exact ih (grow s)

omit [DecidableEq α] in
theorem iterate_subset_succ (hgrow : ∀ s, s ⊆ grow s) (rounds : Nat) (s : Finset α) :
    grow^[rounds] s ⊆ grow^[rounds + 1] s := by
  rw [Function.iterate_succ_apply']
  exact hgrow _

/-- More rounds never select less. -/
theorem saturate_mono (hgrow : ∀ s, s ⊆ grow s) {few many : Nat} (h : few ≤ many) (s : Finset α) :
    saturate grow few s ⊆ saturate grow many s := by
  rw [saturate_eq_iterate, saturate_eq_iterate]
  exact monotone_nat_of_le_succ (fun rounds => iterate_subset_succ hgrow rounds s) h

omit [DecidableEq α] in
theorem Grows.head {start s : Finset α} {k : Nat} (hne : grow start ≠ start)
    (h : Grows grow (grow start) k s) : Grows grow start (k + 1) s := by
  induction h with
  | start => exact .round .start hne
  | round _ hnew ih => exact .round ih hnew

/-- A run of rounds ends at a fixed point or at its limit. -/
theorem saturate_grows (grow : Finset α → Finset α) (rounds : Nat) (s : Finset α) :
    ∃ k ≤ rounds, Grows grow s k (saturate grow rounds s) ∧
      (k < rounds → grow (saturate grow rounds s) = saturate grow rounds s) := by
  induction rounds generalizing s with
  | zero => exact ⟨0, Nat.le_refl _, .start, fun h => absurd h (Nat.lt_irrefl _)⟩
  | succ rounds ih =>
      rw [saturate]
      split
      · next hfixed => exact ⟨0, Nat.zero_le _, .start, fun _ => hfixed⟩
      · next hne =>
          obtain ⟨k, hk, hgrows, hfixed⟩ := ih (grow s)
          exact ⟨k + 1, Nat.succ_le_succ hk, hgrows.head hne,
            fun h => hfixed (Nat.lt_of_succ_lt_succ h)⟩

/-- What a run selected was added by a round from a set below it. -/
theorem Grows.added {start s : Finset α} {k : Nat} (hgrow : ∀ s, s ⊆ grow s)
    (h : Grows grow start k s) {a : α} (ha : a ∈ s) :
    a ∈ start ∨ ∃ before ⊆ s, a ∉ before ∧ a ∈ grow before := by
  induction h with
  | start => exact Or.inl ha
  | @round k s _ _ ih =>
      by_cases hbefore : a ∈ s
      · obtain hstart | ⟨before, hsub, hadded⟩ := ih hbefore
        · exact Or.inl hstart
        · exact Or.inr ⟨before, hsub.trans (hgrow s), hadded⟩
      · exact Or.inr ⟨s, hgrow s, hbefore, ha⟩

end Rounds

/-! ## Budgets -/

section Budgets

variable {α : Type*} (weight : α → Nat)

/-- What still fits of a list when it is taken in order. -/
def greedy : Nat → List α → List α
  | _, [] => []
  | left, a :: rest =>
      if weight a ≤ left then a :: greedy (left - weight a) rest else greedy left rest

variable {weight}

theorem greedy_sublist (left : Nat) (order : List α) : (greedy weight left order).Sublist order := by
  induction order generalizing left with
  | nil => exact List.Sublist.refl _
  | cons a rest ih =>
      rw [greedy]
      split
      · exact (ih _).cons_cons a
      · exact (ih left).cons a

theorem sum_greedy_le (weight : α → Nat) (left : Nat) (order : List α) :
    ((greedy weight left order).map weight).sum ≤ left := by
  induction order generalizing left with
  | nil => exact Nat.zero_le _
  | cons a rest ih =>
      rw [greedy]
      split
      · next hfits =>
          rw [List.map_cons, List.sum_cons]
          have hrest := ih (left - weight a)
          omega
      · exact ih left

theorem greedy_append (left : Nat) (front back : List α) :
    greedy weight left (front ++ back) =
      greedy weight left front ++
        greedy weight (left - ((greedy weight left front).map weight).sum) back := by
  induction front generalizing left with
  | nil => simp [greedy]
  | cons a front ih =>
      rw [List.cons_append, greedy, greedy]
      split
      · rw [ih, List.cons_append, List.map_cons, List.sum_cons, Nat.sub_sub]
      · exact ih left

/-- Nothing was taken because nothing fitted. -/
theorem lt_of_greedy_eq_nil {left : Nat} {order : List α} (h : greedy weight left order = [])
    {a : α} (ha : a ∈ order) : left < weight a := by
  induction order with
  | nil => cases ha
  | cons b rest ih =>
      rw [greedy] at h
      split at h
      · cases h
      · next hfits =>
          rcases List.mem_cons.mp ha with rfl | hrest
          · exact Nat.not_le.mp hfits
          · exact ih h hrest

/-- What was refused did not fit beside what was taken before it. -/
theorem lt_of_not_mem_greedy {before : α → α → Prop} [DecidableRel before] {left : Nat}
    {order : List α} (hsorted : order.Pairwise before) {a : α} (ha : a ∈ order)
    (hrefused : a ∉ greedy weight left order) :
    left < (((greedy weight left order).filter fun b => before b a).map weight).sum + weight a := by
  obtain ⟨front, back, rfl⟩ := List.append_of_mem ha
  rw [greedy_append] at hrefused ⊢
  have hfront : (greedy weight left front).filter (fun b => before b a) =
      greedy weight left front := by
    refine List.filter_eq_self.mpr fun b hb => decide_eq_true ?_
    exact (List.pairwise_append.mp hsorted).2.2 b ((greedy_sublist _ _).subset hb) a
      List.mem_cons_self
  have hover : left - ((greedy weight left front).map weight).sum < weight a := by
    refine Nat.not_le.mp fun hfits => hrefused (List.mem_append_right _ ?_)
    rw [greedy, if_pos hfits]
    exact List.mem_cons_self
  have hspent := sum_greedy_le weight left front
  rw [List.filter_append, hfront, List.map_append, List.sum_append]
  omega

end Budgets

end AgentsAssemble.Foundation
