import Mathlib.Algebra.Order.Ring.Nat
import Mathlib.Data.List.Basic
import Mathlib.Tactic.Common

/-!
# ASCII strings

The characters of a string, read off its bytes when every byte is ASCII.
Decoding UTF-8 takes a step for each earlier byte at every character; reading
bytes one by one does not, so long closed texts are evaluated through it.
-/

namespace AgentsAssemble.Foundation

/-- The characters of bytes that are all ASCII. -/
def asciiChars : List UInt8 → Option (List Char)
  | [] => some []
  | b :: bs => if b.toNat < 128 then (asciiChars bs).map (Char.ofNat b.toNat :: ·) else none

/-- The characters of a string, decoded only if some byte is not ASCII. -/
def charsOf (value : String) : List Char :=
  (asciiChars value.toByteArray.data.toList).getD value.toList

theorem utf8EncodeChar_ascii :
    ∀ n, n < 128 → String.utf8EncodeChar (Char.ofNat n) = [UInt8.ofNat n] := by
  decide

theorem flatMap_asciiChars {bs : List UInt8} {cs : List Char} (h : asciiChars bs = some cs) :
    cs.flatMap String.utf8EncodeChar = bs := by
  induction bs generalizing cs with
  | nil =>
      cases h
      rfl
  | cons b bs ih =>
      rw [asciiChars] at h
      split at h
      · next hascii =>
          obtain ⟨rest, hrest, rfl⟩ := Option.map_eq_some_iff.mp h
          rw [List.flatMap_cons, utf8EncodeChar_ascii _ hascii, ih hrest, UInt8.ofNat_toNat]
          rfl
      · cases h

theorem toList_eq_charsOf (value : String) : value.toList = charsOf value := by
  rw [charsOf]
  cases hascii : asciiChars value.toByteArray.data.toList with
  | none => rfl
  | some cs =>
      have hbytes : cs.utf8Encode = value.toByteArray := by
        rw [List.utf8Encode, flatMap_asciiChars hascii]
        apply ByteArray.ext
        exact Array.ext' (List.data_toByteArray ▸ rfl)
      have hvalue : String.ofList cs = value := String.toByteArray_inj.mp hbytes
      rw [Option.getD_some, ← hvalue, String.toList_ofList]

end AgentsAssemble.Foundation
