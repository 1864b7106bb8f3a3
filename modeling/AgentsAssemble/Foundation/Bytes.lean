import Mathlib.Algebra.Order.Ring.Nat
import Mathlib.Data.List.Basic
import Mathlib.Tactic.Common

/-!
# Bytes

Little-endian numbers of a fixed width, and reading from a position of a byte
string.  What stands at a position is the rest of the string from there on, so a
reader is told by how that rest begins.
-/

namespace AgentsAssemble.Foundation.Bytes

/-! ## Little-endian numbers -/

def leValue : List UInt8 → Nat
  | [] => 0
  | b :: bs => b.toNat + 256 * leValue bs

def leBytes : Nat → Nat → List UInt8
  | 0, _ => []
  | width + 1, n => UInt8.ofNat (n % 256) :: leBytes width (n / 256)

@[simp] theorem length_leBytes (width n : Nat) : (leBytes width n).length = width := by
  induction width generalizing n with
  | zero => rfl
  | succ width ih => rw [leBytes, List.length_cons, ih]

theorem leValue_lt (bs : List UInt8) : leValue bs < 256 ^ bs.length := by
  induction bs with
  | nil => exact Nat.one_pos
  | cons b bs ih =>
      have hbyte : b.toNat < 256 := b.toNat_lt
      rw [leValue, List.length_cons, Nat.pow_succ]
      omega

/-- A number that fits in the width is read back. -/
theorem leValue_leBytes {width n : Nat} (h : n < 256 ^ width) : leValue (leBytes width n) = n := by
  induction width generalizing n with
  | zero =>
      rw [Nat.pow_zero, Nat.lt_one_iff] at h
      exact h.symm
  | succ width ih =>
      rw [Nat.pow_succ] at h
      have hdigit : (UInt8.ofNat (n % 256)).toNat = n % 256 := by
        rw [UInt8.toNat_ofNat', Nat.mod_mod]
      rw [leBytes, leValue, hdigit, ih (by omega)]
      exact Nat.mod_add_div n 256

/-- Bytes are those of the number they are read as. -/
theorem leBytes_leValue (bs : List UInt8) : leBytes bs.length (leValue bs) = bs := by
  induction bs with
  | nil => rfl
  | cons b bs ih =>
      have hbyte : b.toNat < 256 := b.toNat_lt
      have hlow : (b.toNat + 256 * leValue bs) % 256 = b.toNat := by omega
      have hhigh : (b.toNat + 256 * leValue bs) / 256 = leValue bs := by omega
      rw [List.length_cons, leValue, leBytes, hlow, hhigh, ih, UInt8.ofNat_toNat]

/-! ## Lists of all numbers below a bound -/

/-- The numbers of a list as the bits of one number. -/
def mask (ns : List Nat) : Nat :=
  ns.foldr (fun n bits => bits ||| 1 <<< n) 0

theorem mem_of_testBit_mask {ns : List Nat} {n : Nat} (h : (mask ns).testBit n = true) :
    n ∈ ns := by
  induction ns with
  | nil => simp [mask] at h
  | cons a ns ih =>
      rw [mask, List.foldr_cons, Nat.testBit_or, Bool.or_eq_true] at h
      rcases h with hrest | hbit
      · exact List.mem_cons_of_mem _ (ih hrest)
      · rw [Nat.one_shiftLeft, Nat.testBit_two_pow, decide_eq_true_eq] at hbit
        exact hbit ▸ List.mem_cons_self

theorem mem_of_mask {ns : List Nat} {bound : Nat} (h : mask ns = 2 ^ bound - 1) {n : Nat}
    (hn : n < bound) : n ∈ ns := by
  apply mem_of_testBit_mask
  rw [h, Nat.testBit_two_pow_sub_one, decide_eq_true_eq]
  exact hn

/-! ## Positions -/

variable {α : Type}

/-- `slice::get` with a range. -/
def slice (content : List α) (start stop : Nat) : Option (List α) :=
  if start ≤ stop ∧ stop ≤ content.length then some ((content.drop start).take (stop - start))
  else none

/-- `rest` is what stands in `content` from `offset` on. -/
structure At (content : List α) (offset : Nat) (rest : List α) : Prop where
  inside : offset ≤ content.length
  rest : content.drop offset = rest

theorem at_start (content : List α) : At content 0 content :=
  ⟨Nat.zero_le _, rfl⟩

variable {content rest : List α} {offset : Nat}

theorem At.length (h : At content offset rest) : content.length = offset + rest.length := by
  have hinside := h.inside
  rw [← h.rest, List.length_drop]
  omega

theorem At.advance {read : List α} (h : At content offset (read ++ rest)) :
    At content (offset + read.length) rest := by
  constructor
  · have hlength := h.length
    rw [List.length_append] at hlength
    omega
  · rw [← List.drop_drop, h.rest, List.drop_left]

theorem At.next {a : α} (h : At content offset (a :: rest)) : At content (offset + 1) rest := by
  have hsplit : At content offset ([a] ++ rest) := h
  exact hsplit.advance

theorem At.getElem? (h : At content offset rest) : content[offset]? = rest.head? := by
  rw [← h.rest, List.head?_drop]

/-- A slice from a position is there exactly if that much is left. -/
theorem At.slice_eq_some (h : At content offset rest) {stop : Nat} {read : List α} :
    slice content offset stop = some read ↔
      stop = offset + read.length ∧ ∃ left, rest = read ++ left := by
  have hlength := h.length
  rw [slice, h.rest]
  constructor
  · intro hslice
    split at hslice
    · next hrange =>
        obtain rfl := Option.some.inj hslice
        rw [List.length_take]
        exact ⟨by omega, rest.drop (stop - offset), (List.take_append_drop _ _).symm⟩
    · cases hslice
  · rintro ⟨rfl, left, rfl⟩
    rw [List.length_append] at hlength
    rw [if_pos (by omega), Nat.add_sub_cancel_left, List.take_left]

end AgentsAssemble.Foundation.Bytes
