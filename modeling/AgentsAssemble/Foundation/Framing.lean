import Mathlib.Algebra.Order.Ring.Nat
import Mathlib.Data.List.Infix
import Mathlib.Tactic.Common

/-!
# Framing

Cutting the first record off a sequence that separators divide, and the stretches
without a separator.  What was cut off stays the same however the sequence goes on.
-/

namespace AgentsAssemble.Foundation.Framing

variable {α : Type} [DecidableEq α] {sep : α}

/-- What stands before the first separator, and what follows it. -/
def cut (sep : α) : List α → Option (List α × List α)
  | [] => none
  | a :: as =>
      if a = sep then some ([], as)
      else (cut sep as).map fun (line, rest) => (a :: line, rest)

theorem cut_eq_none {as : List α} : cut sep as = none ↔ sep ∉ as := by
  induction as with
  | nil => simp [cut]
  | cons a as ih =>
      rw [cut]
      split
      · next heq => simp [heq]
      · next hne => simp [ih, Ne.symm hne]

theorem cut_line {line rest : List α} (h : sep ∉ line) :
    cut sep (line ++ sep :: rest) = some (line, rest) := by
  induction line with
  | nil => simp [cut]
  | cons a line ih =>
      rw [List.mem_cons, not_or] at h
      rw [List.cons_append, cut, if_neg (Ne.symm h.1), ih h.2]
      rfl

theorem cut_eq_some {as line rest : List α} :
    cut sep as = some (line, rest) ↔ sep ∉ line ∧ as = line ++ sep :: rest := by
  constructor
  · intro h
    induction as generalizing line with
    | nil => cases h
    | cons a as ih =>
        rw [cut] at h
        split at h
        · next heq =>
            cases h
            exact ⟨List.not_mem_nil, by rw [heq, List.nil_append]⟩
        · next hne =>
            obtain ⟨⟨line, rest⟩, hcut, hpair⟩ := Option.map_eq_some_iff.mp h
            cases hpair
            obtain ⟨hline, rfl⟩ := ih hcut
            exact ⟨by simp [hline, Ne.symm hne], rfl⟩
  · rintro ⟨hline, rfl⟩
    exact cut_line hline

/-- The first record stays as more comes in. -/
theorem cut_append {as line rest : List α} (h : cut sep as = some (line, rest)) (more : List α) :
    cut sep (as ++ more) = some (line, rest ++ more) := by
  obtain ⟨hline, rfl⟩ := cut_eq_some.mp h
  rw [List.append_assoc]
  exact cut_line hline

theorem length_rest_lt {as line rest : List α} (h : cut sep as = some (line, rest)) :
    rest.length < as.length := by
  obtain ⟨-, rfl⟩ := cut_eq_some.mp h
  rw [List.length_append, List.length_cons]
  omega

/-- No stretch without a separator is longer than the limit. -/
def ShortStretches (sep : α) (limit : Nat) (as : List α) : Prop :=
  ∀ stretch, stretch <:+: as → sep ∉ stretch → stretch.length ≤ limit

omit [DecidableEq α] in
theorem ShortStretches.infix {limit : Nat} {as bs : List α} (h : ShortStretches sep limit bs)
    (hsub : as <:+: bs) : ShortStretches sep limit as :=
  fun stretch hstretch => h stretch (hstretch.trans hsub)

end AgentsAssemble.Foundation.Framing
