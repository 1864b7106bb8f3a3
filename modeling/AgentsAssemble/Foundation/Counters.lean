import Mathlib.Algebra.BigOperators.Group.List.Basic
import Mathlib.Algebra.Order.BigOperators.Group.List
import Mathlib.Algebra.Order.Ring.Nat
import Mathlib.Data.List.DropRight
import Mathlib.Tactic.Common

/-!
# Counters and windows

Sums of machine words that overflow or saturate, and logs of timed entries.  A
log is throttled when every entry, as it came in, fitted with those that were
young then; over any interval of that width a throttled log weighs no more than
the limit.
-/

namespace AgentsAssemble.Foundation

/-- The largest 64-bit word. -/
def wordMax : Nat := 2 ^ 64 - 1

/-- `checked_add` on 64-bit words. -/
def checkedAdd (a b : Nat) : Option Nat :=
  if a + b ≤ wordMax then some (a + b) else none

/-- `saturating_add` on 64-bit words. -/
def saturatingAdd (a b : Nat) : Nat :=
  min (a + b) wordMax

theorem checkedAdd_eq_some {a b c : Nat} :
    checkedAdd a b = some c ↔ a + b ≤ wordMax ∧ a + b = c := by
  rw [checkedAdd, Option.ite_none_right_eq_some, Option.some.injEq]

/-- Below the largest word, a saturated sum is within a limit exactly if the sum is. -/
theorem saturatingAdd_le {a b limit : Nat} (h : limit < wordMax) :
    saturatingAdd a b ≤ limit ↔ a + b ≤ limit := by
  rw [saturatingAdd, min_le_iff]
  constructor
  · rintro (hsum | hmax)
    · exact hsum
    · exact absurd (hmax.trans_lt h) (lt_irrefl _)
  · exact Or.inl

theorem saturatingAdd_eq {a b : Nat} (h : a + b ≤ wordMax) : saturatingAdd a b = a + b :=
  min_eq_left h

/-! ## Logs -/

namespace Log

variable {α : Type} (time weight : α → Nat) (width limit : Nat)

/-- The entries of a log that are younger than `width` at `now`. -/
def young (now : Nat) (log : List α) : List α :=
  log.filter fun entry => now < time entry + width

/-- A log without the entries at its front that are no longer young. -/
def expire (now : Nat) (log : List α) : List α :=
  log.dropWhile fun entry => time entry + width ≤ now

/-- The entries of a log from `start` on, for a time of `width`. -/
def within (start : Nat) (log : List α) : List α :=
  log.filter fun entry => start ≤ time entry ∧ time entry < start + width

/-- The weight of a log. -/
def total (log : List α) : Nat := (log.map weight).sum

/-- A log in order of time. -/
def InOrder (log : List α) : Prop := log.Pairwise fun a b => time a ≤ time b

/-- Each entry, as it came in, fitted under the limit with those that were young then. -/
inductive Throttled : List α → Prop
  | nil : Throttled []
  | snoc {log : List α} {entry : α} (h : Throttled log)
      (hfit : total weight (young time width (time entry) log) + weight entry ≤ limit) :
      Throttled (log ++ [entry])

variable {time weight width limit}

@[simp] theorem total_nil : total weight ([] : List α) = 0 := rfl

@[simp] theorem total_cons (entry : α) (log : List α) :
    total weight (entry :: log) = weight entry + total weight log := by
  rw [total, List.map_cons, List.sum_cons, total]

@[simp] theorem total_append (a b : List α) :
    total weight (a ++ b) = total weight a + total weight b := by
  rw [total, List.map_append, List.sum_append, total, total]

theorem total_le_of_sublist {a b : List α} (h : a.Sublist b) :
    total weight a ≤ total weight b :=
  (h.map weight).sum_le_sum fun _ _ => Nat.zero_le _

theorem total_one (log : List α) : total (fun _ => 1) log = log.length := by
  induction log with
  | nil => rfl
  | cons entry log ih => rw [total_cons, ih, List.length_cons, Nat.add_comm]

/-- What was dropped at the front of an ordered log was not young, and all that is left is. -/
theorem expire_eq_young {now : Nat} {log : List α} (h : InOrder time log) :
    expire time width now log = young time width now log := by
  induction log with
  | nil => rfl
  | cons entry log ih =>
      obtain ⟨hfirst, hrest⟩ := List.pairwise_cons.mp h
      by_cases hold : time entry + width ≤ now
      · rw [expire, List.dropWhile_cons_of_pos (by simpa using hold), young,
          List.filter_cons_of_neg (by simpa using hold)]
        exact ih hrest
      · rw [expire, List.dropWhile_cons_of_neg (by simpa using hold), young,
          List.filter_eq_self.mpr]
        intro later hlater
        rcases List.mem_cons.mp hlater with rfl | hlater
        · simpa using hold
        · have hle := hfirst later hlater
          simp only [decide_eq_true_eq]
          omega

theorem young_append (now : Nat) (a b : List α) :
    young time width now (a ++ b) = young time width now a ++ young time width now b :=
  List.filter_append ..

theorem young_eq_nil {now : Nat} {log : List α} (h : ∀ entry ∈ log, time entry + width ≤ now) :
    young time width now log = [] := by
  refine List.filter_eq_nil_iff.mpr fun entry hentry => ?_
  have hle := h entry hentry
  simp only [decide_eq_true_eq]
  omega

theorem young_young {before now : Nat} (h : before ≤ now) (log : List α) :
    young time width now (young time width before log) = young time width now log := by
  rw [young, young, List.filter_filter, young]
  refine List.filter_congr fun entry _ => ?_
  by_cases hnow : now < time entry + width
  · simp [hnow, h.trans_lt hnow]
  · simp [hnow]

theorem mem_young {now : Nat} {log : List α} {entry : α} :
    entry ∈ young time width now log ↔ entry ∈ log ∧ now < time entry + width := by
  rw [young, List.mem_filter, decide_eq_true_eq]

theorem expire_expire (now : Nat) (log : List α) :
    expire time width now (expire time width now log) = expire time width now log :=
  List.dropWhile_idempotent _ _

theorem expire_suffix (now : Nat) (log : List α) : expire time width now log <:+ log :=
  List.dropWhile_suffix _

end Log

end AgentsAssemble.Foundation
