import AgentsAssemble.Foundation.Ascii
import Mathlib.Algebra.BigOperators.Group.List.Basic
import Mathlib.Algebra.Order.Ring.Nat
import Mathlib.Data.List.Induction
import Mathlib.Tactic.Common

/-!
# Texts put together

How long a text is that is put together from parts, and which characters it cannot have.
-/

namespace AgentsAssemble.Foundation

/-! ## Lengths -/

theorem length_intercalate (separator : String) (parts : List String) :
    (String.intercalate separator parts).toList.length =
      (parts.map fun part => part.toList.length).sum +
        separator.toList.length * (parts.length - 1) := by
  induction parts with
  | nil => simp
  | cons part parts ih =>
      cases parts with
      | nil => simp
      | cons next rest =>
          rw [String.intercalate_cons_cons, String.toList_append, String.toList_append,
            List.length_append, List.length_append, ih]
          simp only [List.map_cons, List.sum_cons, List.length_cons, Nat.add_sub_cancel]
          rw [Nat.mul_succ]
          omega

/-- A character takes at most four bytes. -/
theorem utf8ByteSize_le (value : String) : value.utf8ByteSize ≤ 4 * value.toList.length := by
  have hchars : ∀ cs : List Char, (String.ofList cs).utf8ByteSize ≤ 4 * cs.length := by
    intro cs
    induction cs using List.reverseRecOn with
    | nil => simp
    | append_singleton cs c ih =>
        have hpush : String.ofList (cs ++ [c]) = (String.ofList cs).push c := by
          apply String.toList_inj.mp
          simp
        have hc := Char.utf8Size_le_four c
        rw [hpush, String.utf8ByteSize_push, List.length_append, List.length_singleton]
        omega
  simpa using hchars value.toList

/-! ## Characters -/

/-- The text does not have this character. -/
def Lacks (c : Char) (value : String) : Prop :=
  c ∉ value.toList

instance (c : Char) (value : String) : Decidable (Lacks c value) :=
  inferInstanceAs (Decidable (c ∉ value.toList))

namespace Lacks

variable {c : Char}

theorem append_iff {a b : String} : Lacks c (a ++ b) ↔ Lacks c a ∧ Lacks c b := by
  unfold Lacks
  rw [String.toList_append, List.mem_append, not_or]

theorem append {a b : String} (ha : Lacks c a) (hb : Lacks c b) : Lacks c (a ++ b) :=
  append_iff.mpr ⟨ha, hb⟩

theorem intercalate {separator : String} {parts : List String} (hseparator : Lacks c separator)
    (h : ∀ part ∈ parts, Lacks c part) : Lacks c (String.intercalate separator parts) := by
  induction parts with
  | nil => simp [Lacks]
  | cons part parts ih =>
      have hpart := h part List.mem_cons_self
      cases parts with
      | nil => simpa using hpart
      | cons next rest =>
          rw [String.intercalate_cons_cons]
          exact (hpart.append hseparator).append
            (ih fun other hother => h other (List.mem_cons_of_mem _ hother))

theorem of_mem_intercalate {separator part : String} {parts : List String}
    (h : Lacks c (String.intercalate separator parts)) (hmem : part ∈ parts) : Lacks c part := by
  induction parts with
  | nil => cases hmem
  | cons first parts ih =>
      cases parts with
      | nil =>
          obtain rfl := List.mem_singleton.mp hmem
          simpa using h
      | cons next rest =>
          rw [String.intercalate_cons_cons] at h
          obtain ⟨hfirst, hrest⟩ := append_iff.mp h
          rcases List.mem_cons.mp hmem with rfl | hmem
          · exact (append_iff.mp hfirst).1
          · exact ih hrest hmem

/-- A long text that is written out is checked through its bytes. -/
theorem literal {value : String} (h : c ∉ charsOf value) : Lacks c value := by
  unfold Lacks
  rw [toList_eq_charsOf]
  exact h

/-- Only a digit stands in a number. -/
theorem natural (hc : c.isDigit = false) (n : Nat) : Lacks c (toString n) := by
  intro hmem
  have hdigits : (toString n).toList = Nat.toDigits 10 n := by
    simp [toString, Nat.repr]
  rw [hdigits] at hmem
  have hdigit := Nat.isDigit_of_mem_toDigits (by decide) (by decide) hmem
  rw [hc] at hdigit
  cases hdigit

end Lacks

end AgentsAssemble.Foundation
