import Mathlib.Algebra.Order.Ring.Nat
import Mathlib.Tactic.Common

/-!
# Cursors over repeated deliveries

A source of numbered items may deliver a number again, but it never skips one.  A reader that
remembers the last number it took can pass over what it has and finds the next number behind it.
-/

namespace AgentsAssemble.Foundation.Cursors

/-- No number is more than one above all before it. -/
def Unskipping : Nat → List Nat → Prop
  | _, [] => True
  | floor, n :: ns => n ≤ floor + 1 ∧ Unskipping (max floor n) ns

/-- The largest number that has been delivered. -/
def reach : Nat → List Nat → Nat
  | floor, [] => floor
  | floor, n :: ns => reach (max floor n) ns

variable {floor floor' n : Nat} {ns : List Nat}

@[simp] theorem reach_nil : reach floor [] = floor := rfl

@[simp] theorem reach_cons : reach floor (n :: ns) = reach (max floor n) ns := rfl

theorem le_reach (floor : Nat) (ns : List Nat) : floor ≤ reach floor ns := by
  induction ns generalizing floor with
  | nil => exact le_refl _
  | cons n ns ih => exact le_trans (le_max_left floor n) (ih _)

theorem reach_mono (h : floor ≤ floor') : reach floor ns ≤ reach floor' ns := by
  induction ns generalizing floor floor' with
  | nil => exact h
  | cons n ns ih => exact ih (max_le_max_right n h)

theorem reach_concat : reach floor (ns ++ [n]) = max (reach floor ns) n := by
  induction ns generalizing floor with
  | nil => rfl
  | cons m ns ih => exact ih

theorem unskipping_concat :
    Unskipping floor (ns ++ [n]) ↔ Unskipping floor ns ∧ n ≤ reach floor ns + 1 := by
  induction ns generalizing floor with
  | nil => simp [Unskipping]
  | cons m ns ih =>
      rw [List.cons_append, Unskipping, ih, Unskipping, and_assoc, reach_cons]

/-- A reader that has taken more skips nothing either. -/
theorem Unskipping.mono (h : Unskipping floor ns) (hle : floor ≤ floor') :
    Unskipping floor' ns := by
  induction ns generalizing floor floor' with
  | nil => trivial
  | cons n ns ih =>
      obtain ⟨hfirst, hrest⟩ := h
      exact ⟨by omega, ih hrest (max_le_max_right n hle)⟩

/-- What has been taken can be delivered again in any order. -/
theorem Unskipping.of_le (h : ∀ n ∈ ns, n ≤ floor) : Unskipping floor ns := by
  induction ns with
  | nil => trivial
  | cons n ns ih =>
      have hfirst : n ≤ floor := h n List.mem_cons_self
      rw [Unskipping, max_eq_left hfirst]
      exact ⟨Nat.le_succ_of_le hfirst, ih fun m hm => h m (List.mem_cons_of_mem _ hm)⟩

/-! ## A source and a reader -/

/-- A reader at `floor` with undelivered numbers `ns` follows a source that has offered the
numbers up to `offered`. -/
structure Follows (floor : Nat) (ns : List Nat) (offered : Nat) : Prop where
  unskipping : Unskipping floor ns
  reached : offered ≤ reach floor ns

namespace Follows

variable {offered offered' : Nat}

/-- The source delivers the number after those it has offered. -/
theorem offer (h : Follows floor ns offered) :
    Follows floor (ns ++ [offered + 1]) (offered + 1) where
  unskipping := unskipping_concat.mpr ⟨h.unskipping, Nat.succ_le_succ h.reached⟩
  reached := by
    rw [reach_concat]
    exact le_max_right _ _

/-- The source falls back, and offers again what it has offered. -/
theorem fallBack (h : Follows floor ns offered) (hle : offered' ≤ offered) :
    Follows floor ns offered' where
  unskipping := h.unskipping
  reached := le_trans hle h.reached

/-- The reader takes numbers from elsewhere. -/
theorem advance (h : Follows floor ns offered) (hle : floor ≤ floor') :
    Follows floor' ns offered where
  unskipping := h.unskipping.mono hle
  reached := le_trans h.reached (reach_mono hle)

/-- The next number is at most the one that the reader waits for. -/
theorem next_le (h : Follows floor (n :: ns) offered) : n ≤ floor + 1 :=
  h.unskipping.1

/-- The reader reads a number: it takes it or has it. -/
theorem read (h : Follows floor (n :: ns) offered) : Follows (max floor n) ns offered where
  unskipping := h.unskipping.2
  reached := h.reached

/-- A reader that starts with all that was offered follows. -/
theorem start (hns : ∀ n ∈ ns, n ≤ floor) (hoffered : offered ≤ floor) :
    Follows floor ns offered where
  unskipping := .of_le hns
  reached := le_trans hoffered (le_reach floor ns)

/-- With nothing undelivered the reader has all that was offered. -/
theorem offered_le (h : Follows floor [] offered) : offered ≤ floor :=
  h.reached

end Follows

end AgentsAssemble.Foundation.Cursors
