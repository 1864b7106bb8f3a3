import AgentsAssemble.Foundation.JsonText
import Mathlib.Algebra.BigOperators.Group.List.Basic
import Mathlib.Algebra.Order.BigOperators.Group.List

/-!
# The size of JSON texts

The number of bytes a document takes in UTF-8, compositionally: what its parts
take, and the brackets, quotes and separators around them.  And the longest
beginning of a text that still fits a budget once it is quoted.
-/

namespace AgentsAssemble.Foundation

/-- The number of bytes of a text in UTF-8. -/
def utf8Length (text : List Char) : Nat :=
  (text.map Char.utf8Size).sum

@[simp] theorem utf8Length_nil : utf8Length [] = 0 :=
  rfl

@[simp] theorem utf8Length_cons (c : Char) (text : List Char) :
    utf8Length (c :: text) = c.utf8Size + utf8Length text := by
  rw [utf8Length, List.map_cons, List.sum_cons, utf8Length]

@[simp] theorem utf8Length_append (text more : List Char) :
    utf8Length (text ++ more) = utf8Length text + utf8Length more := by
  rw [utf8Length, List.map_append, List.sum_append, utf8Length, utf8Length]

theorem length_le_utf8Length (text : List Char) : text.length ≤ utf8Length text := by
  induction text with
  | nil => exact Nat.le_refl 0
  | cons c text ih =>
      have hpos := Char.utf8Size_pos c
      rw [utf8Length_cons, List.length_cons]
      omega

theorem utf8Length_eq_zero {text : List Char} : utf8Length text = 0 ↔ text = [] := by
  constructor
  · intro h
    have hle := length_le_utf8Length text
    exact List.eq_nil_of_length_eq_zero (by omega)
  · rintro rfl
    rfl

namespace JsonText

/-- The number of bytes of a printed document. -/
def size (document : JsonText) : Nat :=
  utf8Length document.print

/-! ## Texts -/

/-- The number of bytes a text takes between its quotes. -/
def escapedSize (text : List Char) : Nat :=
  utf8Length (text.flatMap escape)

theorem escapedSize_cons (c : Char) (text : List Char) :
    escapedSize (c :: text) = utf8Length (escape c) + escapedSize text := by
  rw [escapedSize, List.flatMap_cons, utf8Length_append, escapedSize]

theorem escapedSize_append (text more : List Char) :
    escapedSize (text ++ more) = escapedSize text + escapedSize more := by
  rw [escapedSize, List.flatMap_append, utf8Length_append, escapedSize, escapedSize]

theorem utf8Length_quote (text : List Char) :
    utf8Length (quote text) = escapedSize text + 2 := by
  have hquote : Char.utf8Size '"' = 1 := by decide
  rw [quote, utf8Length_cons, utf8Length_append, utf8Length_cons, hquote, utf8Length_nil,
    escapedSize]
  omega

@[simp] theorem size_string (text : List Char) : (string text).size = escapedSize text + 2 := by
  rw [size, print, utf8Length_quote]

theorem utf8Size_hexDigit {n : Nat} (h : n < 16) : (hexDigit n).utf8Size = 1 := by
  have hall : ∀ n < 16, (hexDigit n).utf8Size = 1 := by decide
  exact hall n h

theorem utf8Length_escape_le (c : Char) : utf8Length (escape c) ≤ 6 := by
  unfold escape
  split_ifs with _ _ _ _ _ _ _ hcontrol
  · decide
  · decide
  · decide
  · decide
  · decide
  · decide
  · decide
  · simp only [utf8Length_cons, utf8Length_nil, utf8Size_hexDigit (show c.toNat / 16 < 16 by omega),
      utf8Size_hexDigit (show c.toNat % 16 < 16 by omega)]
    decide
  · have hle := Char.utf8Size_le_four c
    simp only [utf8Length_cons, utf8Length_nil]
    omega

theorem escapedSize_le (text : List Char) : escapedSize text ≤ 6 * text.length := by
  induction text with
  | nil => exact Nat.le_refl 0
  | cons c text ih =>
      have hle := utf8Length_escape_le c
      rw [escapedSize_cons, List.length_cons]
      omega

/-! ## Numbers -/

/-- A decimal number as a document. -/
def natural (n : Nat) : JsonText :=
  .number (Nat.toDigits 10 n)

theorem utf8Length_of_isDigit {cs : List Char} (h : ∀ c ∈ cs, c.isDigit = true) :
    utf8Length cs = cs.length := by
  induction cs with
  | nil => rfl
  | cons c cs ih =>
      have hdigit := h c List.mem_cons_self
      have hsize : c.utf8Size = 1 := by
        rw [Char.utf8Size_eq_one_iff]
        simp only [Char.isDigit, Bool.and_eq_true, decide_eq_true_eq] at hdigit
        exact UInt32.le_trans hdigit.2 (by decide)
      rw [utf8Length_cons, hsize, ih fun d hd => h d (List.mem_cons_of_mem _ hd), List.length_cons]
      omega

@[simp] theorem size_natural (n : Nat) : (natural n).size = (Nat.toDigits 10 n).length := by
  rw [size, natural, print]
  exact utf8Length_of_isDigit fun c hc =>
    Nat.isDigit_of_mem_toDigits (by decide) (by decide) hc

theorem utf8Length_printItems (items : List JsonText) :
    utf8Length (printItems items) = (items.map fun item => item.size + 1).sum + 1 := by
  have hcomma : Char.utf8Size ',' = 1 := by decide
  have hclose : Char.utf8Size ']' = 1 := by decide
  induction items with
  | nil => simp [printItems, hclose]
  | cons item items ih =>
      rw [printItems, utf8Length_cons, utf8Length_append, ih, List.map_cons, List.sum_cons, hcomma,
        size]
      omega

theorem size_array (items : List JsonText) :
    (array items).size = (items.map size).sum + (items.length - 1) + 2 := by
  have hopen : Char.utf8Size '[' = 1 := by decide
  cases items with
  | nil => decide
  | cons item items =>
      have hsum : (items.map fun item => item.size + 1).sum = (items.map size).sum + items.length := by
        induction items with
        | nil => rfl
        | cons next items ih => simp only [List.map_cons, List.sum_cons, List.length_cons, ih]; omega
      rw [size, print, utf8Length_cons, utf8Length_append, utf8Length_printItems, hsum, hopen,
        List.map_cons, List.sum_cons, List.length_cons, size]
      omega

/-- The size of the members of an object, each with its colon and what follows it. -/
def membersSize : List (List Char × JsonText) → Nat
  | [] => 0
  | (key, value) :: members => escapedSize key + value.size + 4 + membersSize members

theorem utf8Length_printMembers (members : List (List Char × JsonText)) :
    utf8Length (printMembers members) = membersSize members + 1 := by
  have hcomma : Char.utf8Size ',' = 1 := by decide
  have hcolon : Char.utf8Size ':' = 1 := by decide
  have hclose : Char.utf8Size '}' = 1 := by decide
  induction members with
  | nil => simp [printMembers, membersSize, hclose]
  | cons member members ih =>
      rw [printMembers, utf8Length_cons, utf8Length_append, utf8Length_quote, utf8Length_cons,
        utf8Length_append, ih, hcomma, hcolon, membersSize, size]
      omega

theorem size_object (member : List Char × JsonText) (members : List (List Char × JsonText)) :
    (object (member :: members)).size = membersSize (member :: members) + 1 := by
  have hcolon : Char.utf8Size ':' = 1 := by decide
  have hopen : Char.utf8Size '{' = 1 := by decide
  obtain ⟨key, value⟩ := member
  rw [size, print, utf8Length_cons, utf8Length_append, utf8Length_quote, utf8Length_cons,
    utf8Length_append, utf8Length_printMembers, hcolon, hopen, membersSize, size]
  omega

theorem size_bool_le (value : Bool) : (bool value).size ≤ (bool false).size := by
  cases value <;> decide

end JsonText

end AgentsAssemble.Foundation
