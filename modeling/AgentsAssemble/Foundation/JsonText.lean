import Mathlib.Algebra.Order.Ring.Nat
import Mathlib.Data.List.Basic
import Mathlib.Data.List.TakeWhile
import Mathlib.Tactic.Common

/-!
# JSON texts

JSON documents as syntax: compact printing, and a reader of RFC 8259 texts.  A
number is the token that spells it, so that nothing about number formats enters.
The reader gets back exactly the document that was printed, which makes printing
injective.

Texts are character lists.
-/

namespace AgentsAssemble.Foundation

/-- A JSON document, with every number as it is spelled. -/
inductive JsonText
  | null
  | bool (value : Bool)
  | number (token : List Char)
  | string (text : List Char)
  | array (items : List JsonText)
  | object (members : List (List Char × JsonText))
  deriving Repr

namespace JsonText

/-- Induction over a document: arrays from their items, objects from their members. -/
theorem induction {motive : JsonText → Prop} (null : motive .null)
    (bool : ∀ value, motive (.bool value)) (number : ∀ token, motive (.number token))
    (string : ∀ text, motive (.string text))
    (array : ∀ items, (∀ item ∈ items, motive item) → motive (.array items))
    (object : ∀ members, (∀ member ∈ members, motive member.2) → motive (.object members))
    (document : JsonText) : motive document := by
  refine @JsonText.rec motive (fun items => ∀ item ∈ items, motive item)
    (fun members => ∀ member ∈ members, motive member.2) (fun member => motive member.2)
    null bool number string array object ?_ ?_ ?_ ?_ ?_ document
  · simp
  · intro head tail hhead htail item hitem
    rcases List.mem_cons.mp hitem with rfl | hitem
    · exact hhead
    · exact htail item hitem
  · simp
  · intro head tail hhead htail member hmember
    rcases List.mem_cons.mp hmember with rfl | hmember
    · exact hhead
    · exact htail member hmember
  · intro _ _ hvalue
    exact hvalue

/-! ## Printing -/

/-- A hexadecimal digit, in lower case. -/
def hexDigit (n : Nat) : Char :=
  Nat.digitChar n

/-- How a character stands in a quoted string. -/
def escape (c : Char) : List Char :=
  if c = '"' then ['\\', '"']
  else if c = '\\' then ['\\', '\\']
  else if c = '\x08' then ['\\', 'b']
  else if c = '\x0c' then ['\\', 'f']
  else if c = '\n' then ['\\', 'n']
  else if c = '\r' then ['\\', 'r']
  else if c = '\t' then ['\\', 't']
  else if c.toNat ≤ 0x1f then
    ['\\', 'u', '0', '0', hexDigit (c.toNat / 16), hexDigit (c.toNat % 16)]
  else [c]

def quote (text : List Char) : List Char :=
  '"' :: (text.flatMap escape ++ ['"'])

mutual

def print : JsonText → List Char
  | .null => ['n', 'u', 'l', 'l']
  | .bool true => ['t', 'r', 'u', 'e']
  | .bool false => ['f', 'a', 'l', 's', 'e']
  | .number token => token
  | .string text => quote text
  | .array [] => ['[', ']']
  | .array (item :: items) => '[' :: (print item ++ printItems items)
  | .object [] => ['{', '}']
  | .object ((key, value) :: members) =>
      '{' :: (quote key ++ ':' :: (print value ++ printMembers members))

/-- The items after the first, each behind its comma, up to the closing bracket. -/
def printItems : List JsonText → List Char
  | [] => [']']
  | item :: items => ',' :: (print item ++ printItems items)

/-- The members after the first, each behind its comma, up to the closing brace. -/
def printMembers : List (List Char × JsonText) → List Char
  | [] => ['}']
  | (key, value) :: members =>
      ',' :: (quote key ++ ':' :: (print value ++ printMembers members))

end

theorem printItems_eq (items : List JsonText) :
    printItems items = (items.flatMap fun item => ',' :: item.print) ++ [']'] := by
  induction items with
  | nil => rfl
  | cons item items ih => simp [printItems, ih]

theorem printMembers_eq (members : List (List Char × JsonText)) :
    printMembers members = (members.flatMap fun member =>
      ',' :: (quote member.1 ++ ':' :: member.2.print)) ++ ['}'] := by
  induction members with
  | nil => rfl
  | cons member members ih => simp [printMembers, ih]

/-- A separated list is its first part and the others, each behind a separator. -/
theorem intercalate_cons (separator : Char) (first : List Char) (rest : List (List Char)) :
    List.intercalate [separator] (first :: rest) =
      first ++ rest.flatMap fun part => separator :: part := by
  induction rest generalizing first with
  | nil => simp
  | cons next rest ih =>
      rw [List.intercalate_cons_cons, ih]
      simp

/-! ## Number tokens -/

def isDigits (cs : List Char) : Bool :=
  cs != [] && cs.all Char.isDigit

def isExponent : List Char → Bool
  | [] => true
  | c :: rest =>
      (c == 'e' || c == 'E') &&
        (isDigits rest || ((rest.head? == some '+' || rest.head? == some '-') &&
          isDigits rest.tail))

def isFraction : List Char → Bool
  | '.' :: rest =>
      isDigits (rest.takeWhile Char.isDigit) && isExponent (rest.dropWhile Char.isDigit)
  | rest => isExponent rest

def isUnsigned (cs : List Char) : Bool :=
  let whole := cs.takeWhile Char.isDigit
  (whole == ['0'] || (isDigits whole && whole.head? != some '0')) &&
    isFraction (cs.dropWhile Char.isDigit)

/-- `[ minus ] int [ frac ] [ exp ]`. -/
def isNumberToken : List Char → Bool
  | '-' :: rest => isUnsigned rest
  | cs => isUnsigned cs

/-- The characters a number token is made of. -/
def isNumberChar (c : Char) : Bool :=
  c.isDigit || c == '-' || c == '+' || c == '.' || c == 'e' || c == 'E'

/-! ## Reading -/

/-- The insignificant white space between tokens. -/
def isBlank (c : Char) : Bool :=
  c == ' ' || c == '\t' || c == '\n' || c == '\r'

def skipBlank (cs : List Char) : List Char :=
  cs.dropWhile isBlank

/-- What follows a fixed word. -/
def expect (word cs : List Char) : Option (List Char) :=
  if word.isPrefixOf cs then some (cs.drop word.length) else none

def hexValue (c : Char) : Option Nat :=
  if c.isDigit then some (c.toNat - '0'.toNat)
  else if 'a' ≤ c ∧ c ≤ 'f' then some (c.toNat - 'a'.toNat + 10)
  else if 'A' ≤ c ∧ c ≤ 'F' then some (c.toNat - 'A'.toNat + 10)
  else none

def hexUnit (a b c d : Char) : Option Nat := do
  let a ← hexValue a
  let b ← hexValue b
  let c ← hexValue c
  let d ← hexValue d
  some (((a * 16 + b) * 16 + c) * 16 + d)

/-- The character a two-character escape stands for. -/
def simpleEscape (c : Char) : Option Char :=
  if c = '"' ∨ c = '\\' ∨ c = '/' then some c
  else if c = 'b' then some '\x08'
  else if c = 'f' then some '\x0c'
  else if c = 'n' then some '\n'
  else if c = 'r' then some '\r'
  else if c = 't' then some '\t'
  else none

/-- The low half of a surrogate pair, behind its own escape. -/
def readLow (high : Nat) : List Char → Option (Char × List Char)
  | s :: u :: a :: b :: c :: d :: rest => do
      let low ← hexUnit a b c d
      if s = '\\' ∧ u = 'u' ∧ 0xDC00 ≤ low ∧ low < 0xE000 then
        some (Char.ofNat (0x10000 + (high - 0xD800) * 0x400 + (low - 0xDC00)), rest)
      else
        none
  | _ => none

/-- What stands behind the backslash of an escape. -/
def readEscape : List Char → Option (Char × List Char)
  | [] => none
  | e :: rest =>
      if e = 'u' then
        match rest with
        | a :: b :: c :: d :: rest => do
            let unit ← hexUnit a b c d
            if 0xD800 ≤ unit ∧ unit < 0xDC00 then readLow unit rest
            else if 0xDC00 ≤ unit ∧ unit < 0xE000 then none
            else some (Char.ofNat unit, rest)
        | _ => none
      else
        (simpleEscape e).map fun c => (c, rest)

/-- One character of a string, escaped or not. -/
def readChar : List Char → Option (Char × List Char)
  | [] => none
  | c :: rest =>
      if c = '\\' then readEscape rest
      else if c.toNat ≤ 0x1f then none
      else some (c, rest)

/-- The body of a string after its opening quote, and what follows the closing one. -/
def readString : Nat → List Char → Option (List Char × List Char)
  | 0, _ => none
  | fuel + 1, cs =>
      if cs.head? = some '"' then some ([], cs.tail)
      else do
        let (c, rest) ← readChar cs
        let (text, rest) ← readString fuel rest
        some (c :: text, rest)

def readNumber (cs : List Char) : Option (JsonText × List Char) :=
  if isNumberToken (cs.takeWhile isNumberChar) then
    some (.number (cs.takeWhile isNumberChar), cs.dropWhile isNumberChar)
  else
    none

mutual

/-- One value, and what follows it. -/
def readValue : Nat → List Char → Option (JsonText × List Char)
  | 0, _ => none
  | fuel + 1, cs =>
      match skipBlank cs with
      | [] => none
      | c :: rest =>
          if c = '"' then do
            let (text, rest) ← readString (rest.length + 1) rest
            some (.string text, rest)
          else if c = '[' then
            if (skipBlank rest).head? = some ']' then
              some (.array [], (skipBlank rest).tail)
            else do
              let (items, rest) ← readItems fuel rest
              some (.array items, rest)
          else if c = '{' then
            if (skipBlank rest).head? = some '}' then
              some (.object [], (skipBlank rest).tail)
            else do
              let (members, rest) ← readMembers fuel rest
              some (.object members, rest)
          else if c = 'n' then (expect ['u', 'l', 'l'] rest).map fun rest => (.null, rest)
          else if c = 't' then (expect ['r', 'u', 'e'] rest).map fun rest => (.bool true, rest)
          else if c = 'f' then
            (expect ['a', 'l', 's', 'e'] rest).map fun rest => (.bool false, rest)
          else readNumber (c :: rest)

/-- The items up to the closing bracket, one at least. -/
def readItems : Nat → List Char → Option (List JsonText × List Char)
  | 0, _ => none
  | fuel + 1, cs => do
      let (item, rest) ← readValue fuel cs
      match skipBlank rest with
      | [] => none
      | c :: rest =>
          if c = ']' then some ([item], rest)
          else if c = ',' then do
            let (items, rest) ← readItems fuel rest
            some (item :: items, rest)
          else none

/-- The members up to the closing brace, one at least. -/
def readMembers : Nat → List Char → Option (List (List Char × JsonText) × List Char)
  | 0, _ => none
  | fuel + 1, cs => do
      let rest ← expect ['"'] (skipBlank cs)
      let (key, rest) ← readString (rest.length + 1) rest
      let rest ← expect [':'] (skipBlank rest)
      let (value, rest) ← readValue fuel rest
      match skipBlank rest with
      | [] => none
      | c :: rest =>
          if c = '}' then some ([(key, value)], rest)
          else if c = ',' then do
            let (members, rest) ← readMembers fuel rest
            some ((key, value) :: members, rest)
          else none

end

/-- The document a whole text spells, if it spells one. -/
def parse (cs : List Char) : Option JsonText := do
  let (document, rest) ← readValue (cs.length + 1) cs
  if skipBlank rest = [] then some document else none

/-! ## Strings read back -/

theorem hexValue_hexDigit : ∀ n < 16, hexValue (hexDigit n) = some n := by
  decide

theorem readChar_escape (c : Char) (tail : List Char) :
    readChar (escape c ++ tail) = some (c, tail) := by
  unfold escape
  split_ifs with hquote hback hb hf hn hr ht hcontrol
  case pos | pos | pos | pos | pos | pos | pos =>
    subst c
    simp [readChar, readEscape, simpleEscape]
  case pos =>
    have hhigh := hexValue_hexDigit (c.toNat / 16) (by omega)
    have hlow := hexValue_hexDigit (c.toNat % 16) (by omega)
    have hunit : hexUnit '0' '0' (hexDigit (c.toNat / 16)) (hexDigit (c.toNat % 16)) =
        some c.toNat := by
      have hzero : hexValue '0' = some 0 := rfl
      simp only [hexUnit, hzero, hhigh, hlow, Option.bind_eq_bind, Option.bind_some]
      congr 1
      omega
    have hhalf : ¬ (0xD800 ≤ c.toNat ∧ c.toNat < 0xDC00) := by omega
    have hhalf' : ¬ (0xDC00 ≤ c.toNat ∧ c.toNat < 0xE000) := by omega
    simp [readChar, readEscape, hunit, hhalf, hhalf', Char.ofNat_toNat]
  case neg => simp [readChar, hback, hcontrol]

theorem head_escape (c : Char) : (escape c).head? ≠ some '"' := by
  unfold escape
  split_ifs <;> simp_all

theorem escape_ne_nil (c : Char) : escape c ≠ [] := by
  unfold escape
  split_ifs <;> simp

theorem length_flatMap_escape (text : List Char) : text.length ≤ (text.flatMap escape).length := by
  induction text with
  | nil => simp
  | cons c text ih =>
      have hpos := List.length_pos_of_ne_nil (escape_ne_nil c)
      simp only [List.flatMap_cons, List.length_append, List.length_cons]
      omega

theorem readString_quote {fuel : Nat} (text rest : List Char) (hfuel : text.length < fuel) :
    readString fuel (text.flatMap escape ++ '"' :: rest) = some (text, rest) := by
  induction text generalizing fuel with
  | nil =>
      obtain ⟨fuel, rfl⟩ := Nat.exists_eq_add_of_lt hfuel
      simp [readString]
  | cons c text ih =>
      cases fuel with
      | zero => cases hfuel
      | succ fuel =>
          have hhead : (escape c ++ (text.flatMap escape ++ '"' :: rest)).head? ≠ some '"' := by
            rw [List.head?_append_of_ne_nil _ (escape_ne_nil c)]
            exact head_escape c
          rw [List.flatMap_cons, List.append_assoc, readString, if_neg hhead, readChar_escape]
          simp only [Option.bind_eq_bind, Option.bind_some, ih (Nat.lt_of_succ_lt_succ hfuel)]

theorem digitChar_ne_zero : ∀ n < 10, n ≠ 0 → Nat.digitChar n ≠ '0' := by
  decide

/-- A positive number is written without a leading zero. -/
theorem head_toDigits {n : Nat} (hn : n ≠ 0) : (Nat.toDigits 10 n).head? ≠ some '0' := by
  induction n using Nat.strongRecOn with
  | ind n ih =>
      by_cases hsmall : n < 10
      · rw [Nat.toDigits_of_lt_base hsmall]
        simpa using digitChar_ne_zero n hsmall hn
      · rw [Nat.toDigits_of_base_le (by decide) (Nat.le_of_not_lt hsmall),
          List.head?_append_of_ne_nil _ Nat.toDigits_ne_nil]
        exact ih (n / 10) (by omega) (by omega)

/-- A whole number in decimal is a token. -/
theorem isUnsigned_toDigits (n : Nat) : isUnsigned (Nat.toDigits 10 n) = true := by
  have hdigits : ∀ c ∈ Nat.toDigits 10 n, c.isDigit = true :=
    fun c hc => Nat.isDigit_of_mem_toDigits (by decide) (by decide) hc
  have hne : Nat.toDigits 10 n ≠ [] := Nat.toDigits_ne_nil
  rw [isUnsigned, List.takeWhile_eq_self_iff.mpr hdigits, List.dropWhile_eq_nil_iff.mpr hdigits]
  by_cases hn : n = 0
  · subst hn
    decide
  · have hhead := head_toDigits hn
    have hall : isDigits (Nat.toDigits 10 n) = true := by
      simpa [isDigits, hne] using hdigits
    simp [hall, hhead, isFraction, isExponent]

theorem isNumberToken_toDigits (n : Nat) : isNumberToken (Nat.toDigits 10 n) = true := by
  have hunsigned := isUnsigned_toDigits n
  unfold isNumberToken
  split
  · rename_i rest hminus
    have hdigit : '-'.isDigit = true :=
      Nat.isDigit_of_mem_toDigits (b := 10) (n := n) (by decide) (by decide)
        (by rw [hminus]; exact List.mem_cons_self)
    cases hdigit
  · exact hunsigned

theorem isNumberToken_intText (n : Int) : isNumberToken (toString n).toList = true := by
  rw [Int.toString_eq_repr, Int.repr_eq_if]
  split
  · simpa using isNumberToken_toDigits n.toNat
  · simpa [isNumberToken] using isUnsigned_toDigits (-n).toNat

/-! ## Tokens read back -/

theorem all_isDigits {cs : List Char} (h : isDigits cs = true) :
    ∀ c ∈ cs, isNumberChar c = true := by
  rw [isDigits, Bool.and_eq_true, List.all_eq_true] at h
  intro c hc
  simp [isNumberChar, h.2 c hc]

theorem all_isExponent {cs : List Char} (h : isExponent cs = true) :
    ∀ c ∈ cs, isNumberChar c = true := by
  cases cs with
  | nil => simp
  | cons e rest =>
      simp only [isExponent, Bool.and_eq_true, Bool.or_eq_true, beq_iff_eq] at h
      obtain ⟨he, hrest⟩ := h
      intro c hc
      rcases List.mem_cons.mp hc with rfl | hc
      · rcases he with rfl | rfl <;> rfl
      rcases hrest with hdigits | ⟨hsign, hdigits⟩
      · exact all_isDigits hdigits c hc
      · cases rest with
        | nil => cases hc
        | cons s rest =>
            rcases List.mem_cons.mp hc with rfl | hc
            · rcases hsign with hs | hs
              · obtain rfl := Option.some.inj hs
                rfl
              · obtain rfl := Option.some.inj hs
                rfl
            · exact all_isDigits hdigits c hc

theorem all_isFraction {cs : List Char} (h : isFraction cs = true) :
    ∀ c ∈ cs, isNumberChar c = true := by
  unfold isFraction at h
  split at h
  · rename_i rest
    rw [Bool.and_eq_true] at h
    intro c hc
    rcases List.mem_cons.mp hc with rfl | hc
    · rfl
    rw [← List.takeWhile_append_dropWhile (p := Char.isDigit) (l := rest)] at hc
    rcases List.mem_append.mp hc with hc | hc
    · exact all_isDigits h.1 c hc
    · exact all_isExponent h.2 c hc
  · exact all_isExponent h

theorem all_isUnsigned {cs : List Char} (h : isUnsigned cs = true) :
    ∀ c ∈ cs, isNumberChar c = true := by
  rw [isUnsigned, Bool.and_eq_true] at h
  intro c hc
  rw [← List.takeWhile_append_dropWhile (p := Char.isDigit) (l := cs)] at hc
  rcases List.mem_append.mp hc with hc | hc
  · simp [isNumberChar, List.all_eq_true.mp List.all_takeWhile c hc]
  · exact all_isFraction h.2 c hc

theorem all_isNumberToken {cs : List Char} (h : isNumberToken cs = true) :
    ∀ c ∈ cs, isNumberChar c = true := by
  unfold isNumberToken at h
  split at h
  · intro c hc
    rcases List.mem_cons.mp hc with rfl | hc
    · rfl
    · exact all_isUnsigned h c hc
  · exact all_isUnsigned h

theorem isNumberToken_ne_nil {cs : List Char} (h : isNumberToken cs = true) : cs ≠ [] := by
  rintro rfl
  cases h

/-- What may follow a number: nothing that would prolong it. -/
def Ends (rest : List Char) : Prop :=
  ∀ c ∈ rest.head?, isNumberChar c = false

theorem ends_cons {c : Char} (rest : List Char) (h : isNumberChar c = false) :
    Ends (c :: rest) := by
  simpa [Ends] using h

theorem readNumber_append {token rest : List Char} (h : isNumberToken token = true)
    (hends : Ends rest) : readNumber (token ++ rest) = some (.number token, rest) := by
  have hall := all_isNumberToken h
  have htake : rest.takeWhile isNumberChar = [] ∧ rest.dropWhile isNumberChar = rest := by
    cases rest with
    | nil => simp
    | cons c rest => simp [hends c rfl]
  rw [readNumber, List.takeWhile_append_of_pos hall, List.dropWhile_append_of_pos hall,
    htake.1, htake.2, List.append_nil, if_pos h]

/-! ## Documents read back -/

mutual

/-- Every number is spelled by a token. -/
def Valid : JsonText → Prop
  | .number token => isNumberToken token = true
  | .array items => ValidItems items
  | .object members => ValidMembers members
  | _ => True

def ValidItems : List JsonText → Prop
  | [] => True
  | item :: items => Valid item ∧ ValidItems items

def ValidMembers : List (List Char × JsonText) → Prop
  | [] => True
  | (_, value) :: members => Valid value ∧ ValidMembers members

end

@[simp] theorem valid_array {items : List JsonText} :
    Valid (.array items) ↔ ∀ item ∈ items, Valid item := by
  rw [Valid]
  induction items with
  | nil => simp [ValidItems]
  | cons item items ih => simp [ValidItems, ih]

@[simp] theorem valid_object {members : List (List Char × JsonText)} :
    Valid (.object members) ↔ ∀ member ∈ members, Valid member.2 := by
  rw [Valid]
  induction members with
  | nil => simp [ValidMembers]
  | cons member members ih => simp [ValidMembers, ih]

/-- The reader gets back every document that takes less room than its fuel. -/
def ReadsBack (document : JsonText) : Prop :=
  ∀ fuel rest, (print document).length < fuel → Ends rest →
    readValue fuel (print document ++ rest) = some (document, rest)

theorem skipBlank_cons {c : Char} {rest : List Char} (h : isBlank c = false) :
    skipBlank (c :: rest) = c :: rest := by
  simp [skipBlank, h]

theorem readItems_print {item : JsonText} {items : List JsonText} (hitem : ReadsBack item)
    (hitems : ∀ other ∈ items, ReadsBack other) {fuel : Nat} (rest : List Char)
    (hfuel : (print item ++ printItems items).length < fuel) :
    readItems fuel (print item ++ (printItems items ++ rest)) = some (item :: items, rest) := by
  induction items generalizing item fuel with
  | nil =>
      cases fuel with
      | zero => cases hfuel
      | succ fuel =>
          have hread := hitem fuel (']' :: rest)
            (by simp [printItems] at hfuel; omega) (ends_cons rest (by decide))
          have hclose : skipBlank (']' :: rest) = ']' :: rest := skipBlank_cons (by decide)
          simp [readItems, printItems, hread, hclose]
  | cons next items ih =>
      cases fuel with
      | zero => cases hfuel
      | succ fuel =>
          have hlength : (print item).length + (1 + (print next ++ printItems items).length) <
              fuel + 1 := by
            simpa [printItems, Nat.add_comm, Nat.add_left_comm] using hfuel
          have hread := hitem fuel (',' :: (print next ++ (printItems items ++ rest)))
            (by omega) (ends_cons _ (by decide))
          have hmore : readItems fuel (print next ++ (printItems items ++ rest)) =
              some (next :: items, rest) :=
            ih (hitems next List.mem_cons_self)
              (fun other hother => hitems other (List.mem_cons_of_mem _ hother)) (by omega)
          have hcomma : skipBlank (',' :: (print next ++ (printItems items ++ rest))) =
              ',' :: (print next ++ (printItems items ++ rest)) := skipBlank_cons (by decide)
          simp [readItems, printItems, hread, hcomma, hmore]

theorem readString_key (key rest : List Char) :
    readString ((key.flatMap escape ++ '"' :: rest).length + 1)
      (key.flatMap escape ++ '"' :: rest) = some (key, rest) := by
  refine readString_quote key rest ?_
  have hlength := length_flatMap_escape key
  simp only [List.length_append, List.length_cons]
  omega

/-- A member is read up to what follows its value. -/
theorem readMembers_succ {key : List Char} {value : JsonText} (hvalue : ReadsBack value)
    {fuel : Nat} (hfuel : (print value).length < fuel) {tail : List Char} (hends : Ends tail) :
    readMembers (fuel + 1) (quote key ++ ':' :: (print value ++ tail)) =
      match skipBlank tail with
      | [] => none
      | c :: rest =>
          if c = '}' then some ([(key, value)], rest)
          else if c = ',' then
            (readMembers fuel rest).bind fun read => some ((key, value) :: read.1, read.2)
          else none := by
  have hquote : quote key ++ ':' :: (print value ++ tail) =
      '"' :: (key.flatMap escape ++ '"' :: ':' :: (print value ++ tail)) := by
    simp [quote]
  have hopen : ∀ cs, skipBlank ('"' :: cs) = '"' :: cs := fun cs => skipBlank_cons (by decide)
  have hcolon : ∀ cs, skipBlank (':' :: cs) = ':' :: cs := fun cs => skipBlank_cons (by decide)
  have hread := hvalue fuel tail hfuel hends
  rw [hquote, readMembers, hopen]
  simp only [expect, List.isPrefixOf, beq_self_eq_true, Bool.true_and, if_true, List.length_cons,
    List.length_nil, List.drop_succ_cons, List.drop_zero, Option.bind_eq_bind, Option.bind_some]
  rw [readString_key]
  simp only [Option.bind_some, hcolon, List.isPrefixOf, beq_self_eq_true, Bool.true_and, if_true,
    List.drop_succ_cons, List.drop_zero, hread]

theorem readMembers_print {key : List Char} {value : JsonText}
    {members : List (List Char × JsonText)} (hvalue : ReadsBack value)
    (hmembers : ∀ other ∈ members, ReadsBack other.2) {fuel : Nat} (rest : List Char)
    (hfuel : (quote key ++ ':' :: (print value ++ printMembers members)).length < fuel) :
    readMembers fuel (quote key ++ ':' :: (print value ++ (printMembers members ++ rest))) =
      some ((key, value) :: members, rest) := by
  induction members generalizing key value fuel with
  | nil =>
      cases fuel with
      | zero => cases hfuel
      | succ fuel =>
          have hclose : skipBlank ('}' :: rest) = '}' :: rest := skipBlank_cons (by decide)
          simp only [List.length_append, List.length_cons] at hfuel
          rw [printMembers, List.singleton_append, readMembers_succ hvalue (by omega)
            (ends_cons rest (by decide)), hclose]
          rfl
  | cons next members ih =>
      obtain ⟨nextKey, nextValue⟩ := next
      cases fuel with
      | zero => cases hfuel
      | succ fuel =>
          have hcomma : ∀ cs, skipBlank (',' :: cs) = ',' :: cs :=
            fun cs => skipBlank_cons (by decide)
          simp only [printMembers, List.length_append, List.length_cons] at hfuel
          have hmore : readMembers fuel (quote nextKey ++ ':' ::
              (print nextValue ++ (printMembers members ++ rest))) =
                some ((nextKey, nextValue) :: members, rest) :=
            ih (hmembers (nextKey, nextValue) List.mem_cons_self)
              (fun other hother => hmembers other (List.mem_cons_of_mem _ hother))
              (by simp only [List.length_append, List.length_cons]; omega)
          rw [printMembers, List.cons_append, List.append_assoc, List.cons_append,
            List.append_assoc, readMembers_succ hvalue (by omega) (ends_cons _ (by decide)),
            hcomma]
          simp [hmore]

/-- A number begins with a digit or a minus sign. -/
theorem head_isNumberToken {token : List Char} (h : isNumberToken token = true) :
    ∃ c rest, token = c :: rest ∧ (c.isDigit = true ∨ c = '-') := by
  unfold isNumberToken at h
  split at h
  · exact ⟨'-', _, rfl, Or.inr rfl⟩
  · cases token with
    | nil => cases h
    | cons c rest =>
        refine ⟨c, rest, rfl, Or.inl ?_⟩
        by_contra hc
        rw [Bool.not_eq_true] at hc
        simp [isUnsigned, hc, isDigits] at h

/-- Where a value begins, no blank stands and nothing is closed. -/
theorem head_print {document : JsonText} (hvalid : Valid document) :
    ∃ c rest, print document = c :: rest ∧ isBlank c = false ∧ c ≠ ']' ∧ c ≠ '}' := by
  cases document with
  | null => exact ⟨'n', _, rfl, by decide⟩
  | bool value => cases value <;> exact ⟨_, _, rfl, by decide⟩
  | number token =>
      obtain ⟨c, rest, rfl, hc⟩ := head_isNumberToken hvalid
      refine ⟨c, rest, rfl, ?_⟩
      rcases hc with hdigit | rfl
      · refine ⟨?_, ?_, ?_⟩
        · by_contra hblank
          simp only [isBlank, Bool.or_eq_true, beq_iff_eq, Bool.not_eq_false] at hblank
          rcases hblank with ((rfl | rfl) | rfl) | rfl <;> exact absurd hdigit (by decide)
        · rintro rfl
          exact absurd hdigit (by decide)
        · rintro rfl
          exact absurd hdigit (by decide)
      · decide
  | string text => exact ⟨'"', _, rfl, by decide⟩
  | array items => cases items <;> exact ⟨'[', _, by rw [print], by decide⟩
  | object members => cases members <;> exact ⟨'{', _, by rw [print], by decide⟩

theorem skipBlank_print {document : JsonText} (hvalid : Valid document) (rest : List Char) :
    skipBlank (print document ++ rest) = print document ++ rest ∧
      (print document ++ rest).head? ≠ some ']' ∧ (print document ++ rest).head? ≠ some '}' := by
  obtain ⟨c, tail, htail, hblank, hbracket, hbrace⟩ := head_print hvalid
  rw [htail, List.cons_append]
  exact ⟨skipBlank_cons hblank, by simpa using hbracket, by simpa using hbrace⟩

theorem readNumber_value {token : List Char} (h : isNumberToken token = true) {fuel : Nat}
    {rest : List Char} (hends : Ends rest) :
    readValue (fuel + 1) (token ++ rest) = some (.number token, rest) := by
  have hread := readNumber_append h hends
  have hvalid : Valid (.number token) := h
  have hskip := (skipBlank_print hvalid rest).1
  obtain ⟨c, tail, rfl, hc⟩ := head_isNumberToken h
  rw [print] at hskip
  rw [readValue, hskip]
  rw [List.cons_append] at hread ⊢
  have hother : ∀ d, d.isDigit = false → d ≠ '-' → c ≠ d := by
    rintro d hd hminus rfl
    rcases hc with hc | rfl
    · rw [hc] at hd
      cases hd
    · exact hminus rfl
  simp only [hother '"' (by decide) (by decide), hother '[' (by decide) (by decide),
    hother '{' (by decide) (by decide), hother 'n' (by decide) (by decide),
    hother 't' (by decide) (by decide), hother 'f' (by decide) (by decide), if_false]
  exact hread

theorem readsBack_of_valid {document : JsonText} (hvalid : Valid document) :
    ReadsBack document := by
  induction document using JsonText.induction with
  | null =>
      intro fuel rest hfuel _
      obtain ⟨fuel, rfl⟩ := Nat.exists_eq_add_of_lt hfuel
      rfl
  | bool value =>
      intro fuel rest hfuel _
      obtain ⟨fuel, rfl⟩ := Nat.exists_eq_add_of_lt hfuel
      cases value <;> rfl
  | number token =>
      intro fuel rest hfuel hends
      obtain ⟨fuel, rfl⟩ := Nat.exists_eq_add_of_lt hfuel
      exact readNumber_value hvalid hends
  | string text =>
      intro fuel rest hfuel _
      obtain ⟨fuel, rfl⟩ := Nat.exists_eq_add_of_lt hfuel
      have hopen : ∀ cs, skipBlank ('"' :: cs) = '"' :: cs := fun cs => skipBlank_cons (by decide)
      have hquote : quote text ++ rest = '"' :: (text.flatMap escape ++ '"' :: rest) := by
        simp [quote]
      rw [print, hquote, readValue, hopen]
      simp only [if_true]
      rw [readString_key]
      rfl
  | array items ih =>
      intro fuel rest hfuel _
      rw [valid_array] at hvalid
      have hopen : ∀ cs, skipBlank ('[' :: cs) = '[' :: cs := fun cs => skipBlank_cons (by decide)
      cases items with
      | nil =>
          obtain ⟨fuel, rfl⟩ := Nat.exists_eq_add_of_lt hfuel
          rfl
      | cons item items =>
          rw [print, List.length_cons] at hfuel
          cases fuel with
          | zero => cases hfuel
          | succ fuel =>
              have hitems : readItems fuel (print item ++ (printItems items ++ rest)) =
                  some (item :: items, rest) :=
                readItems_print (ih item List.mem_cons_self (hvalid item List.mem_cons_self))
                  (fun other hother => ih other (List.mem_cons_of_mem _ hother)
                    (hvalid other (List.mem_cons_of_mem _ hother))) rest (by omega)
              obtain ⟨hskip, hbracket, -⟩ := skipBlank_print (hvalid item List.mem_cons_self)
                (printItems items ++ rest)
              rw [print, List.cons_append, List.append_assoc, readValue, hopen]
              simp only [if_false, if_true, hskip, hbracket, hitems]
              rfl
  | object members ih =>
      intro fuel rest hfuel _
      rw [valid_object] at hvalid
      have hopen : ∀ cs, skipBlank ('{' :: cs) = '{' :: cs := fun cs => skipBlank_cons (by decide)
      cases members with
      | nil =>
          obtain ⟨fuel, rfl⟩ := Nat.exists_eq_add_of_lt hfuel
          rfl
      | cons member members =>
          obtain ⟨key, value⟩ := member
          rw [print, List.length_cons] at hfuel
          cases fuel with
          | zero => cases hfuel
          | succ fuel =>
              have hmembers : readMembers fuel (quote key ++ ':' ::
                  (print value ++ (printMembers members ++ rest))) =
                    some ((key, value) :: members, rest) :=
                have hvalue : ReadsBack value :=
                  ih (key, value) List.mem_cons_self (hvalid (key, value) List.mem_cons_self)
                readMembers_print hvalue
                  (fun other hother => ih other (List.mem_cons_of_mem _ hother)
                    (hvalid other (List.mem_cons_of_mem _ hother))) rest (by omega)
              have hskip : ∀ cs, skipBlank (quote key ++ cs) = quote key ++ cs :=
                fun cs => skipBlank_cons (by decide)
              have hhead : (quote key).head? = some '"' := rfl
              rw [print, List.cons_append, List.append_assoc, List.cons_append,
                List.append_assoc, readValue, hopen]
              simp [hskip, hhead, hmembers]

/-- Every printed document is read back. -/
theorem parse_print {document : JsonText} (hvalid : Valid document) :
    parse (print document) = some document := by
  have hread := readsBack_of_valid hvalid ((print document).length + 1) []
    (Nat.lt_succ_self _) (by simp [Ends])
  rw [List.append_nil] at hread
  rw [parse, hread]
  rfl

/-- Two documents with one text are one document. -/
theorem print_injective {document other : JsonText} (hvalid : Valid document)
    (hvalid' : Valid other) (h : print document = print other) : document = other := by
  have hread := parse_print hvalid
  rw [h, parse_print hvalid'] at hread
  exact (Option.some.inj hread).symm

end JsonText

end AgentsAssemble.Foundation
