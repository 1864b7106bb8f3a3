import AgentsAssemble.Domain.SingleLine
import AgentsAssemble.Foundation.Json
import AgentsAssemble.Foundation.Result

/-!
# Random requests

Dice rolls and random choices: the notation of dice, the payloads of both
requests, and what is left of a request that is encoded and read again.
-/

namespace AgentsAssemble.Domain

open Foundation

inductive RoomRandomRequest
  | roll (text : String) (count sides : Nat) (modifier : Int) (reason : String)
  | choose (options : List String) (reason : String)
  deriving DecidableEq, Repr

structure RoomRandomError where
  message : String
  deriving DecidableEq, Repr

/-- The decimal digits of `\d`, the general category `Nd`. -/
class DecimalDigits where
  isDecimalDigit : Char → Bool
  ascii : ∀ c, c.toNat < 128 → isDecimalDigit c = c.isDigit
  not_blank : ∀ c, isWhitespace c = true → isDecimalDigit c = false

export DecimalDigits (isDecimalDigit)

/-! ## Numbers -/

/-- An unsigned number may begin with a plus sign. -/
def skipPlus : List Char → List Char
  | '+' :: rest => rest
  | cs => cs

/-- `str::parse::<u32>`. -/
def parseU32 (cs : List Char) : Option Nat :=
  let digits := skipPlus cs
  if digits = [] ∨ digits.any (fun c => !c.isDigit) then
    none
  else
    let n := Nat.ofDigitChars 10 digits 0
    if n < 2 ^ 32 then some n else none

/-- `str::parse::<i32>`. -/
def parseI32 (cs : List Char) : Option Int :=
  let (negative, digits) := match cs with
    | '-' :: rest => (true, rest)
    | '+' :: rest => (false, rest)
    | cs => (false, cs)
  if digits = [] ∨ digits.any (fun c => !c.isDigit) then
    none
  else
    let n : Int := Nat.ofDigitChars 10 digits 0
    if negative then (if n ≤ 2 ^ 31 then some (-n) else none)
    else if n < 2 ^ 31 then some n else none

/-- `{:+}`. -/
def signedText (n : Int) : List Char :=
  (if n < 0 then '-' else '+') :: Nat.toDigits 10 n.natAbs

/-! ## Dice -/

/-- The groups of a match of the dice notation. -/
structure DiceCaptures where
  count : List Char
  sides : List Char
  modifier : Option (List Char)
  deriving DecidableEq, Repr

/-- `([+-]\d{1,5})?\s*$`, over a class of digits. -/
def scanModifier (digit : Char → Bool) : List Char → Option (Option (List Char))
  | [] => some none
  | sign :: rest =>
      if sign = '+' ∨ sign = '-' then
        let digits := rest.takeWhile digit
        if 1 ≤ digits.length ∧ digits.length ≤ 5 ∧ (rest.dropWhile digit).all isWhitespace then
          some (some (sign :: digits))
        else
          none
      else if (sign :: rest).all isWhitespace then
        some none
      else
        none

/-- `(?i)^\s*(\d*)d(\d*)([+-]\d{1,5})?\s*$`, over a class of digits.  No part of it can match what
the next part begins with, so each run of digits is taken whole. -/
def scanDice (digit : Char → Bool) (value : List Char) : Option DiceCaptures :=
  let text := value.dropWhile isWhitespace
  match text.dropWhile digit with
  | [] => none
  | d :: rest =>
      if d = 'd' ∨ d = 'D' then
        (scanModifier digit (rest.dropWhile digit)).map fun modifier =>
          ⟨text.takeWhile digit, rest.takeWhile digit, modifier⟩
      else
        none

section Dice

variable [DecimalDigits]

/-- `(?i)^\s*(\d{0,3})d(\d{1,4})([+-]\d{1,5})?\s*$`. -/
def diceCaptures (value : List Char) : Option DiceCaptures :=
  (scanDice isDecimalDigit value).filter fun captures =>
    captures.count.length ≤ 3 && 1 ≤ captures.sides.length && captures.sides.length ≤ 4

def diceNotation (count sides : Nat) (modifier : Int) : String :=
  String.ofList (Nat.toDigits 10 count ++ 'd' :: (Nat.toDigits 10 sides ++
    if modifier = 0 then [] else signedText modifier))

def parseDice (value : String) (reason : String) : Except RoomRandomError RoomRandomRequest := do
  let captures ← (diceCaptures value.toList).elim
    (.error ⟨"Dice notation must look like d20, 2d6, or 1d20+3."⟩) .ok
  -- the first group always takes part in a match, so it is there even when it is empty
  let count ← (parseU32 captures.count).elim
    (.error ⟨"A dice roll must use between 1 and 100 dice."⟩) .ok
  let sides ← (parseU32 captures.sides).elim
    (.error ⟨"Dice must have between 2 and 1000 sides."⟩) .ok
  let modifier ← (parseI32 (captures.modifier.getD ['0'])).elim
    (.error ⟨"The dice modifier is out of range."⟩) .ok
  if ¬(1 ≤ count ∧ count ≤ 100) then
    throw ⟨"A dice roll must use between 1 and 100 dice."⟩
  if ¬(2 ≤ sides ∧ sides ≤ 1000) then
    throw ⟨"Dice must have between 2 and 1000 sides."⟩
  if ¬(-100000 ≤ modifier ∧ modifier ≤ 100000) then
    throw ⟨"The dice modifier is out of range."⟩
  pure (.roll (diceNotation count sides modifier) count sides modifier reason)

end Dice

/-! ## Requests -/

def requireKeys (object : List (String × Json)) (allowed : List String) :
    Except RoomRandomError Unit :=
  match object.find? fun member => !allowed.contains member.1 with
  | some member => .error ⟨"Unknown room randomness field `" ++ member.1 ++ "`."⟩
  | none => .ok ()

def randomReason (object : List (String × Json)) : Except RoomRandomError String :=
  match Json.get object "reason" with
  | none => .ok ""
  | some (.string value) => .ok (cleanSingleLine value 200)
  | some _ => .error ⟨"Room randomness reason must be text."⟩

def randomOption (value : Json) : Except RoomRandomError String :=
  match (value.asStr.map (cleanSingleLine · 200)).filter fun value =>
      value ≠ "" && hasVisibleText value with
  | some option => .ok option
  | none => .error ⟨"Random choice requires 2 to 50 non-empty options."⟩

def parseChoose (object : List (String × Json)) (reason : String) :
    Except RoomRandomError RoomRandomRequest := do
  requireKeys object ["options", "reason"]
  match (Json.get object "options").bind Json.asArray with
  | none => .error ⟨"Random choice requires a list of options."⟩
  | some values =>
      if ¬(2 ≤ values.length ∧ values.length ≤ 50) then
        .error ⟨"Random choice requires 2 to 50 non-empty options."⟩
      else do
        let options ← values.mapM randomOption
        pure (.choose options reason)

section Parse

variable [DecimalDigits]

def parseRoll (object : List (String × Json)) (reason : String) :
    Except RoomRandomError RoomRandomRequest := do
  requireKeys object ["notation", "reason"]
  match (Json.get object "notation").bind Json.asStr with
  | none => .error ⟨"Dice notation must be text."⟩
  | some value => parseDice value reason

def RoomRandomRequest.parse (action : String) (payload : Json) :
    Except RoomRandomError RoomRandomRequest :=
  match payload.asObject with
  | none => .error ⟨"Room randomness payload must be an object."⟩
  | some object => do
      let reason ← randomReason object
      if action = "room.random.roll" then parseRoll object reason
      else if action = "room.random.choose" then parseChoose object reason
      else .error ⟨"Unsupported room randomness operation."⟩

end Parse

namespace RoomRandomRequest

def roomAction : RoomRandomRequest → String
  | .roll .. => "room.random.roll"
  | .choose .. => "room.random.choose"

def canonicalPayload : RoomRandomRequest → Json
  | .roll text _ _ _ reason => .object [("notation", .string text), ("reason", .string reason)]
  | .choose options reason =>
      .object [("options", .array (options.map .string)), ("reason", .string reason)]

end RoomRandomRequest

/-! ## Scanning -/

/-- What the scan needs of its digits: no part of a notation begins with the next one. -/
structure DigitClass (digit : Char → Bool) : Prop where
  blank : ∀ c, isWhitespace c = true → digit c = false
  letter : ∀ c, c = 'd' ∨ c = 'D' → digit c = false
  sign : ∀ c, c = '+' ∨ c = '-' → digit c = false

theorem digitClass_isDigit : DigitClass Char.isDigit := by
  refine ⟨fun c hc => ?_, ?_, ?_⟩
  · by_contra hdigit
    rw [Bool.not_eq_false, Char.isDigit_iff_toNat] at hdigit
    unfold isWhitespace at hc
    simp only [Bool.or_eq_true, Bool.and_eq_true, decide_eq_true_eq, beq_iff_eq] at hc
    have hzero : '0'.toNat = 48 := rfl
    have hnine : '9'.toNat = 57 := rfl
    omega
  · rintro c (rfl | rfl) <;> rfl
  · rintro c (rfl | rfl) <;> rfl

theorem digitClass_isDecimalDigit [DecimalDigits] : DigitClass isDecimalDigit := by
  refine ⟨DecimalDigits.not_blank, ?_, ?_⟩
  · rintro c (rfl | rfl) <;> exact DecimalDigits.ascii _ (by decide)
  · rintro c (rfl | rfl) <;> exact DecimalDigits.ascii _ (by decide)

theorem span_append {p : Char → Bool} {run rest : List Char} (hrun : ∀ c ∈ run, p c = true)
    (hrest : ∀ c ∈ rest.head?, p c = false) :
    (run ++ rest).takeWhile p = run ∧ (run ++ rest).dropWhile p = rest := by
  rw [List.takeWhile_append_of_pos hrun, List.dropWhile_append_of_pos hrun]
  cases rest with
  | nil => simp
  | cons c rest => simp [hrest c rfl]

/-- A sign and up to five digits. -/
def IsModifier (digit : Char → Bool) (modifier : List Char) : Prop :=
  ∃ sign digits, modifier = sign :: digits ∧ (sign = '+' ∨ sign = '-') ∧
    (∀ c ∈ digits, digit c = true) ∧ 1 ≤ digits.length ∧ digits.length ≤ 5

/-- Blanks, a count, the letter, the sides, a modifier and blanks. -/
def DiceShape (digit : Char → Bool) (value : List Char) (captures : DiceCaptures) : Prop :=
  ∃ before d after,
    value = before ++ (captures.count ++ d :: (captures.sides ++
      (captures.modifier.getD [] ++ after))) ∧
    (∀ c ∈ before, isWhitespace c = true) ∧ (∀ c ∈ captures.count, digit c = true) ∧
    (d = 'd' ∨ d = 'D') ∧ (∀ c ∈ captures.sides, digit c = true) ∧
    (∀ modifier ∈ captures.modifier, IsModifier digit modifier) ∧
    ∀ c ∈ after, isWhitespace c = true

theorem blank_ne_sign {c : Char} (h : isWhitespace c = true) : ¬(c = '+' ∨ c = '-') := by
  rintro (rfl | rfl) <;> exact absurd h (by decide)

theorem head_of_all {p q : Char → Bool} (hpq : ∀ c, p c = true → q c = false) {cs : List Char}
    (h : ∀ c ∈ cs, p c = true) : ∀ c ∈ cs.head?, q c = false :=
  fun c hc => hpq c (h c (List.mem_of_mem_head? hc))

theorem scanModifier_eq_some {digit : Char → Bool} (hdigit : DigitClass digit)
    {rest : List Char} {modifier : Option (List Char)} :
    scanModifier digit rest = some modifier ↔
      ∃ after, rest = modifier.getD [] ++ after ∧ (∀ m ∈ modifier, IsModifier digit m) ∧
        ∀ c ∈ after, isWhitespace c = true := by
  constructor
  · intro h
    cases rest with
    | nil =>
        obtain rfl := Option.some.inj h
        exact ⟨[], rfl, by simp, by simp⟩
    | cons sign rest =>
        rw [scanModifier] at h
        split at h
        · next hsign =>
            dsimp only at h
            split at h
            · next hdigits =>
                obtain rfl := Option.some.inj h
                refine ⟨rest.dropWhile digit, ?_, ?_, List.all_eq_true.mp hdigits.2.2⟩
                · simp [List.takeWhile_append_dropWhile]
                · rintro m hm
                  obtain rfl := Option.some.inj hm
                  exact ⟨sign, _, rfl, hsign, fun c => List.mem_takeWhile_imp, hdigits.1,
                    hdigits.2.1⟩
            · cases h
        · split at h
          · next hblank =>
              obtain rfl := Option.some.inj h
              exact ⟨sign :: rest, rfl, by simp, List.all_eq_true.mp hblank⟩
          · cases h
  · rintro ⟨after, rfl, hmodifier, hafter⟩
    cases modifier with
    | none =>
        cases after with
        | nil => rfl
        | cons c after =>
            rw [Option.getD_none, List.nil_append, scanModifier,
              if_neg (blank_ne_sign (hafter c List.mem_cons_self)),
              if_pos (List.all_eq_true.mpr hafter)]
    | some m =>
        obtain ⟨sign, digits, rfl, hsign, hdigits, hone, hfive⟩ := hmodifier m rfl
        obtain ⟨htake, hdrop⟩ := span_append hdigits (head_of_all hdigit.blank hafter)
        rw [Option.getD_some, List.cons_append, scanModifier, if_pos hsign]
        dsimp only
        rw [htake, hdrop, if_pos ⟨hone, hfive, List.all_eq_true.mpr hafter⟩]

/-- What follows the sides is not a digit. -/
theorem head_modifier {digit : Char → Bool} (hdigit : DigitClass digit)
    {modifier : Option (List Char)} (hmodifier : ∀ m ∈ modifier, IsModifier digit m)
    {after : List Char} (hafter : ∀ c ∈ after, isWhitespace c = true) :
    ∀ c ∈ (modifier.getD [] ++ after).head?, digit c = false := by
  cases modifier with
  | none => exact head_of_all hdigit.blank hafter
  | some m =>
      obtain ⟨sign, digits, rfl, hsign, -⟩ := hmodifier m rfl
      intro c hc
      obtain rfl := Option.some.inj hc
      exact hdigit.sign _ hsign

theorem scanDice_eq_some {digit : Char → Bool} (hdigit : DigitClass digit) {value : List Char}
    {captures : DiceCaptures} :
    scanDice digit value = some captures ↔ DiceShape digit value captures := by
  constructor
  · intro h
    unfold scanDice at h
    dsimp only at h
    split at h
    · cases h
    rename_i d rest hrest
    split at h
    · next hletter =>
        obtain ⟨modifier, hscan, rfl⟩ := Option.map_eq_some_iff.mp h
        obtain ⟨after, hafter, hmodifier, hblank⟩ := (scanModifier_eq_some hdigit).mp hscan
        refine ⟨value.takeWhile isWhitespace, d, after, ?_, fun c => List.mem_takeWhile_imp,
          fun c => List.mem_takeWhile_imp, hletter, fun c => List.mem_takeWhile_imp, hmodifier,
          hblank⟩
        rw [← hafter, List.takeWhile_append_dropWhile, ← hrest, List.takeWhile_append_dropWhile,
          List.takeWhile_append_dropWhile]
    · cases h
  · rintro ⟨before, d, after, rfl, hbefore, hcount, hletter, hsides, hmodifier, hafter⟩
    have hnotblank : ∀ c ∈ (captures.count ++ d :: (captures.sides ++
        (captures.modifier.getD [] ++ after))).head?, isWhitespace c = false := by
      intro c hc
      by_contra hblank
      rw [Bool.not_eq_false] at hblank
      cases hcases : captures.count with
      | nil =>
          rw [hcases] at hc
          obtain rfl := Option.some.inj hc
          rcases hletter with rfl | rfl <;> exact absurd hblank (by decide)
      | cons digit' digits =>
          rw [hcases] at hc hcount
          obtain rfl := Option.some.inj hc
          exact absurd (hcount _ List.mem_cons_self) (by rw [hdigit.blank _ hblank]; decide)
    have htext := (span_append hbefore hnotblank).2
    have hstops : ∀ c ∈ (d :: (captures.sides ++ (captures.modifier.getD [] ++ after))).head?,
        digit c = false := by
      intro c hc
      obtain rfl := Option.some.inj hc
      exact hdigit.letter _ hletter
    obtain ⟨hcountTake, hcountDrop⟩ := span_append hcount hstops
    obtain ⟨hsidesTake, hsidesDrop⟩ := span_append hsides (head_modifier hdigit hmodifier hafter)
    have hscan := (scanModifier_eq_some hdigit).mpr ⟨after, rfl, hmodifier, hafter⟩
    unfold scanDice
    simp only [htext, hcountTake, hcountDrop, if_pos hletter, hsidesTake, hsidesDrop, hscan,
      Option.map_some]

/-! ## Numerals -/

/-- The number that decimal digits spell. -/
def number (digits : List Char) : Nat :=
  Nat.ofDigitChars 10 digits 0

theorem digit_toNat {c : Char} (h : c.isDigit = true) : c.toNat - '0'.toNat < 10 := by
  have hnine : '9'.toNat = '0'.toNat + 9 := rfl
  rw [Char.isDigit_iff_toNat] at h
  omega

theorem number_lt {digits : List Char} (h : ∀ c ∈ digits, c.isDigit = true) :
    number digits < 10 ^ digits.length := by
  induction digits with
  | nil => decide
  | cons c digits ih =>
      have hrest := ih fun d hd => h d (List.mem_cons_of_mem _ hd)
      have hdigit := digit_toNat (h c List.mem_cons_self)
      unfold number at hrest ⊢
      rw [Nat.ofDigitChars_cons, Nat.ofDigitChars_eq_ofDigitChars_zero, List.length_cons,
        Nat.pow_succ, Nat.mul_zero, Nat.zero_add]
      calc 10 ^ digits.length * (c.toNat - '0'.toNat) + Nat.ofDigitChars 10 digits 0
          < 10 ^ digits.length * (c.toNat - '0'.toNat) + 10 ^ digits.length := by omega
        _ = 10 ^ digits.length * (c.toNat - '0'.toNat + 1) := (Nat.mul_succ ..).symm
        _ ≤ 10 ^ digits.length * 10 := Nat.mul_le_mul_left _ hdigit

theorem any_not_digit {digits : List Char} :
    digits.any (fun c => !c.isDigit) = true ↔ ¬ ∀ c ∈ digits, c.isDigit = true := by
  simp

theorem parseU32_eq_some {cs : List Char} (hsign : cs.head? ≠ some '+') {n : Nat} :
    parseU32 cs = some n ↔
      cs ≠ [] ∧ (∀ c ∈ cs, c.isDigit = true) ∧ number cs < 2 ^ 32 ∧ n = number cs := by
  have hdigits : skipPlus cs = cs := by
    unfold skipPlus
    split
    · exact absurd rfl hsign
    · rfl
  unfold parseU32
  simp only [hdigits]
  by_cases hbad : cs = [] ∨ cs.any (fun c => !c.isDigit) = true
  · rw [if_pos hbad]
    rw [any_not_digit] at hbad
    refine iff_of_false (by simp) ?_
    rintro ⟨hne, hall, -⟩
    exact hbad.elim hne fun h => h hall
  · rw [if_neg hbad]
    rw [any_not_digit, not_or, not_not] at hbad
    change (if number cs < 2 ^ 32 then some (number cs) else none) = some n ↔ _
    by_cases hlt : number cs < 2 ^ 32
    · rw [if_pos hlt, Option.some_inj]
      exact ⟨fun h => ⟨hbad.1, hbad.2, hlt, h.symm⟩, fun h => h.2.2.2.symm⟩
    · rw [if_neg hlt]
      exact iff_of_false (by simp) fun h => hlt h.2.2.1

/-- What a sign and digits stand for. -/
def modifierValue : Option (List Char) → Int
  | some ('-' :: digits) => -(number digits : Int)
  | some (_ :: digits) => number digits
  | _ => 0

theorem parseI32_sign {sign : Char} (hsign : sign = '+' ∨ sign = '-') {digits : List Char}
    (hne : 1 ≤ digits.length) (hfive : digits.length ≤ 5) {k : Int} :
    parseI32 (sign :: digits) = some k ↔
      (∀ c ∈ digits, c.isDigit = true) ∧ k = modifierValue (some (sign :: digits)) := by
  have hnonempty : digits ≠ [] := List.ne_nil_of_length_pos hne
  by_cases hall : ∀ c ∈ digits, c.isDigit = true
  · have hbad : ¬(digits = [] ∨ digits.any (fun c => !c.isDigit) = true) := by
      rw [any_not_digit]
      exact fun h => h.elim hnonempty fun h => h hall
    have hbound : number digits < 10 ^ 5 :=
      (number_lt hall).trans_le (Nat.pow_le_pow_right (by decide) hfive)
    unfold number at hbound
    rcases hsign with rfl | rfl
    · simp only [parseI32, if_neg hbad, modifierValue, number]
      rw [if_neg (by decide), if_pos (by omega), Option.some_inj]
      exact ⟨fun h => ⟨hall, h.symm⟩, fun h => h.2.symm⟩
    · simp only [parseI32, if_neg hbad, modifierValue, number]
      rw [if_pos (by decide), if_pos (by omega), Option.some_inj]
      exact ⟨fun h => ⟨hall, h.symm⟩, fun h => h.2.symm⟩
  · have hbad : digits = [] ∨ digits.any (fun c => !c.isDigit) = true :=
      Or.inr (any_not_digit.mpr hall)
    refine iff_of_false (fun hparse => ?_) fun h => hall h.1
    rcases hsign with rfl | rfl
    · simp only [parseI32, if_pos hbad] at hparse
      cases hparse
    · simp only [parseI32, if_pos hbad] at hparse
      cases hparse

/-! ## Dice -/

/-- A dice notation: a count that may be left out, the sides and a modifier, in ASCII digits. -/
structure IsDice (value : String) (captures : DiceCaptures) : Prop where
  shape : DiceShape Char.isDigit value.toList captures
  count : captures.count = [] ∨ (1 ≤ number captures.count ∧ number captures.count ≤ 100)
  sides : 2 ≤ number captures.sides ∧ number captures.sides ≤ 1000

/-- The numbers of a notation; a count that is left out is one. -/
def requestOf (captures : DiceCaptures) (reason : String) : RoomRandomRequest :=
  let count := if captures.count = [] then 1 else number captures.count
  let modifier := modifierValue captures.modifier
  .roll (diceNotation count (number captures.sides) modifier) count (number captures.sides)
    modifier reason

theorem IsDice.unique {value : String} {a b : DiceCaptures} (ha : IsDice value a)
    (hb : IsDice value b) : a = b := by
  have hscan := (scanDice_eq_some digitClass_isDigit).mpr ha.shape
  rw [(scanDice_eq_some digitClass_isDigit).mpr hb.shape] at hscan
  exact (Option.some.inj hscan).symm

theorem DiceShape.mono {digit digit' : Char → Bool} {value : List Char}
    {captures : DiceCaptures} (h : DiceShape digit value captures)
    (hcount : ∀ c ∈ captures.count, digit' c = true)
    (hsides : ∀ c ∈ captures.sides, digit' c = true)
    (hmodifier : ∀ m ∈ captures.modifier, ∀ c ∈ m.tail, digit' c = true) :
    DiceShape digit' value captures := by
  obtain ⟨before, d, after, hvalue, hbefore, -, hletter, -, hmod, hafter⟩ := h
  refine ⟨before, d, after, hvalue, hbefore, hcount, hletter, hsides, fun m hm => ?_, hafter⟩
  obtain ⟨sign, digits, rfl, hsign, -, hlength⟩ := hmod m hm
  exact ⟨sign, digits, rfl, hsign, hmodifier _ hm, hlength⟩

/-- The default of an absent modifier. -/
theorem parseI32_zero : parseI32 ['0'] = some 0 := by
  decide

theorem modifierValue_bounds {modifier : Option (List Char)}
    (h : ∀ m ∈ modifier, IsModifier Char.isDigit m) :
    -100000 ≤ modifierValue modifier ∧ modifierValue modifier ≤ 100000 := by
  cases modifier with
  | none => decide
  | some m =>
      obtain ⟨sign, digits, rfl, hsign, hdigits, -, hfive⟩ := h m rfl
      have hbound : number digits < 10 ^ 5 :=
        (number_lt hdigits).trans_le (Nat.pow_le_pow_right (by decide) hfive)
      rcases hsign with rfl | rfl
      · rw [modifierValue]
        · omega
        · simp
      · rw [modifierValue]
        omega

theorem elim_eq_ok {α : Type} {o : Option α} {e : RoomRandomError} {a : α} :
    o.elim (.error e) (.ok : α → Except RoomRandomError α) = .ok a ↔ o = some a := by
  cases o with
  | none => simp
  | some b => simp

section Parsing

variable [DecimalDigits]

theorem isDecimalDigit_of_isDigit {c : Char} (h : c.isDigit = true) : isDecimalDigit c = true := by
  rw [DecimalDigits.ascii c ?_, h]
  rw [Char.isDigit_iff_toNat] at h
  exact h.2.trans_lt (by decide)

theorem diceCaptures_eq_some {value : List Char} {captures : DiceCaptures} :
    diceCaptures value = some captures ↔ DiceShape isDecimalDigit value captures ∧
      captures.count.length ≤ 3 ∧ 1 ≤ captures.sides.length ∧ captures.sides.length ≤ 4 := by
  rw [diceCaptures, Option.filter_eq_some_iff, scanDice_eq_some digitClass_isDecimalDigit]
  simp [and_assoc]

theorem head_ne_plus {cs : List Char} (h : ∀ c ∈ cs, isDecimalDigit c = true) :
    cs.head? ≠ some '+' := by
  intro hhead
  have hdigit := h '+' (List.mem_of_mem_head? hhead)
  rw [digitClass_isDecimalDigit.sign '+' (Or.inl rfl)] at hdigit
  cases hdigit

theorem IsModifier.parse {modifier : List Char} (h : IsModifier isDecimalDigit modifier) {k : Int} :
    parseI32 modifier = some k ↔
      (∀ c ∈ modifier.tail, c.isDigit = true) ∧ k = modifierValue (some modifier) := by
  obtain ⟨sign, digits, rfl, hsign, -, hone, hfive⟩ := h
  exact parseI32_sign hsign hone hfive

/-- Which notations are accepted: the count has to be there, and numerals have a width. -/
theorem parseDice_eq_ok {value reason : String} {request : RoomRandomRequest} :
    parseDice value reason = .ok request ↔
      ∃ captures, IsDice value captures ∧ captures.count ≠ [] ∧ captures.count.length ≤ 3 ∧
        captures.sides.length ≤ 4 ∧ request = requestOf captures reason := by
  unfold parseDice
  constructor
  · intro h
    obtain ⟨captures, hcaptures, h⟩ := Result.bind_eq_ok.mp h
    obtain ⟨count, hcount, h⟩ := Result.bind_eq_ok.mp h
    obtain ⟨sides, hsides, h⟩ := Result.bind_eq_ok.mp h
    obtain ⟨modifier, hmodifier, h⟩ := Result.bind_eq_ok.mp h
    obtain ⟨hcountRange, h⟩ := Result.check_eq_ok.mp h
    obtain ⟨hsidesRange, h⟩ := Result.check_eq_ok.mp h
    obtain ⟨-, h⟩ := Result.check_eq_ok.mp h
    obtain rfl := Result.pure_eq_ok.mp h
    rw [Decidable.not_not] at hcountRange hsidesRange
    obtain ⟨hshape, hthree, hone, hfour⟩ := diceCaptures_eq_some.mp (elim_eq_ok.mp hcaptures)
    obtain ⟨before, d, after, hvalue, hbefore, hcountDigits, hletter, hsidesDigits, hmod,
      hafter⟩ := hshape
    obtain ⟨hne, hcountAscii, -, rfl⟩ :=
      (parseU32_eq_some (head_ne_plus hcountDigits)).mp (elim_eq_ok.mp hcount)
    obtain ⟨-, hsidesAscii, -, rfl⟩ :=
      (parseU32_eq_some (head_ne_plus hsidesDigits)).mp (elim_eq_ok.mp hsides)
    have hmodValue : (∀ m ∈ captures.modifier, ∀ c ∈ m.tail, c.isDigit = true) ∧
        modifier = modifierValue captures.modifier := by
      have hparse := elim_eq_ok.mp hmodifier
      cases hcases : captures.modifier with
      | none =>
          rw [hcases, Option.getD_none, parseI32_zero] at hparse
          exact ⟨by simp, (Option.some.inj hparse).symm⟩
      | some m =>
          rw [hcases, Option.getD_some, (hmod m hcases).parse] at hparse
          refine ⟨fun m' hm' => ?_, hparse.2⟩
          obtain rfl := Option.some.inj hm'
          exact hparse.1
    obtain ⟨hmodAscii, rfl⟩ := hmodValue
    have hascii : DiceShape Char.isDigit value.toList captures :=
      DiceShape.mono ⟨before, d, after, hvalue, hbefore, hcountDigits, hletter, hsidesDigits, hmod,
        hafter⟩ hcountAscii hsidesAscii hmodAscii
    refine ⟨captures, ⟨hascii, Or.inr hcountRange, hsidesRange⟩, hne, hthree, hfour, ?_⟩
    rw [requestOf, if_neg hne]
  · rintro ⟨captures, hdice, hne, hthree, hfour, rfl⟩
    have hshape := hdice.shape
    obtain ⟨before, d, after, hvalue, hbefore, hcountDigits, hletter, hsidesDigits, hmod,
      hafter⟩ := hshape
    have hcountRange := hdice.count.resolve_left hne
    have hwide : DiceShape isDecimalDigit value.toList captures := by
      refine hdice.shape.mono (fun c hc => isDecimalDigit_of_isDigit (hcountDigits c hc))
        (fun c hc => isDecimalDigit_of_isDigit (hsidesDigits c hc)) fun m hm c hc => ?_
      obtain ⟨sign, digits, rfl, -, hdigits, -⟩ := hmod m hm
      exact isDecimalDigit_of_isDigit (hdigits c hc)
    have hsidesNe : captures.sides ≠ [] := by
      intro hnil
      have htwo := hdice.sides.1
      rw [hnil] at htwo
      exact absurd htwo (by decide)
    have hplus : ∀ {cs : List Char}, (∀ c ∈ cs, c.isDigit = true) → cs.head? ≠ some '+' :=
      fun hall => head_ne_plus fun c hc => isDecimalDigit_of_isDigit (hall c hc)
    have hcaptures : diceCaptures value.toList = some captures :=
      diceCaptures_eq_some.mpr ⟨hwide, hthree, List.length_pos_of_ne_nil hsidesNe, hfour⟩
    have hcount : parseU32 captures.count = some (number captures.count) :=
      (parseU32_eq_some (hplus hcountDigits)).mpr ⟨hne, hcountDigits, by omega, rfl⟩
    have hsides : parseU32 captures.sides = some (number captures.sides) :=
      (parseU32_eq_some (hplus hsidesDigits)).mpr
        ⟨hsidesNe, hsidesDigits, by have := hdice.sides.2; omega, rfl⟩
    have hmodifier : parseI32 (captures.modifier.getD ['0']) =
        some (modifierValue captures.modifier) := by
      cases hcases : captures.modifier with
      | none => exact parseI32_zero
      | some m =>
          obtain ⟨sign, digits, rfl, hsign, hdigits, hlength⟩ := hmod m hcases
          exact (parseI32_sign hsign hlength.1 hlength.2).mpr ⟨hdigits, rfl⟩
    have hbounds := modifierValue_bounds hmod
    rw [hcaptures, requestOf, if_neg hne]
    refine Result.bind_eq_ok.mpr ⟨_, rfl, ?_⟩
    refine Result.bind_eq_ok.mpr ⟨_, elim_eq_ok.mpr hcount, ?_⟩
    refine Result.bind_eq_ok.mpr ⟨_, elim_eq_ok.mpr hsides, ?_⟩
    refine Result.bind_eq_ok.mpr ⟨_, elim_eq_ok.mpr hmodifier, ?_⟩
    refine Result.check_eq_ok.mpr ⟨not_not_intro hcountRange, ?_⟩
    refine Result.check_eq_ok.mpr ⟨not_not_intro hdice.sides, ?_⟩
    exact Result.check_eq_ok.mpr ⟨not_not_intro hbounds, rfl⟩

end Parsing

/-! ## Encoded dice -/

/-- The groups of a canonical notation. -/
def canonicalCaptures (count sides : Nat) (modifier : Int) : DiceCaptures :=
  { count := Nat.toDigits 10 count
    sides := Nat.toDigits 10 sides
    modifier := if modifier = 0 then none else some (signedText modifier) }

theorem number_toDigits (n : Nat) : number (Nat.toDigits 10 n) = n :=
  Nat.ofDigitChars_ten_toDigits

theorem isDigit_toDigits (n : Nat) : ∀ c ∈ Nat.toDigits 10 n, c.isDigit = true :=
  fun _ hc => Nat.isDigit_of_mem_toDigits (by decide) (by decide) hc

theorem modifierValue_signedText (modifier : Int) :
    modifierValue (some (signedText modifier)) = modifier := by
  unfold signedText
  split
  · rw [modifierValue, number_toDigits]
    omega
  · rw [modifierValue, number_toDigits]
    · omega
    · simp

theorem isModifier_signedText {modifier : Int} (h : modifier.natAbs < 100000) :
    IsModifier Char.isDigit (signedText modifier) := by
  refine ⟨_, _, rfl, ?_, isDigit_toDigits _, Nat.length_toDigits_pos, ?_⟩
  · split
    · exact Or.inr rfl
    · exact Or.inl rfl
  · exact (Nat.length_toDigits_le_iff (by decide) (by decide)).mpr h

theorem modifierValue_canonical (count sides : Nat) (modifier : Int) :
    modifierValue (canonicalCaptures count sides modifier).modifier = modifier := by
  unfold canonicalCaptures
  dsimp only
  split
  · next h =>
      rw [h]
      rfl
  · exact modifierValue_signedText modifier

theorem isDice_diceNotation {count sides : Nat} {modifier : Int}
    (hcount : 1 ≤ count ∧ count ≤ 100) (hsides : 2 ≤ sides ∧ sides ≤ 1000)
    (hmodifier : modifier.natAbs < 100000) :
    IsDice (diceNotation count sides modifier) (canonicalCaptures count sides modifier) := by
  refine ⟨⟨[], 'd', [], ?_, by simp, isDigit_toDigits count, Or.inl rfl, isDigit_toDigits sides, ?_,
    by simp⟩, Or.inr ?_, ?_⟩
  · rw [diceNotation, String.toList_ofList]
    unfold canonicalCaptures
    by_cases hzero : modifier = 0
    · simp [hzero]
    · simp [hzero]
  · intro m hm
    unfold canonicalCaptures at hm
    dsimp only at hm
    split at hm
    · cases hm
    · obtain rfl := Option.some.inj hm
      exact isModifier_signedText hmodifier
  · rwa [canonicalCaptures, number_toDigits]
  · rwa [canonicalCaptures, number_toDigits]

/-- What is known of accepted dice. -/
theorem parseDice_bounds [DecimalDigits] {value reason : String} {request : RoomRandomRequest}
    (h : parseDice value reason = .ok request) :
    ∃ count sides modifier, request =
        .roll (diceNotation count sides modifier) count sides modifier reason ∧
      (1 ≤ count ∧ count ≤ 100) ∧ (2 ≤ sides ∧ sides ≤ 1000) ∧ modifier.natAbs < 100000 := by
  obtain ⟨captures, hdice, hne, -, -, rfl⟩ := parseDice_eq_ok.mp h
  refine ⟨_, _, _, rfl, ?_, hdice.sides, ?_⟩
  · rw [if_neg hne]
    exact hdice.count.resolve_left hne
  · obtain ⟨-, -, -, -, -, -, -, -, hmod, -⟩ := hdice.shape
    cases hcases : captures.modifier with
    | none => decide
    | some m =>
        obtain ⟨sign, digits, rfl, hsign, hdigits, -, hfive⟩ := hmod m hcases
        have hbound : number digits < 10 ^ 5 :=
          (number_lt hdigits).trans_le (Nat.pow_le_pow_right (by decide) hfive)
        rcases hsign with rfl | rfl
        · rw [modifierValue]
          · omega
          · simp
        · rw [modifierValue]
          omega

/-- Accepted dice are read back from their canonical notation. -/
theorem parseDice_diceNotation [DecimalDigits] {count sides : Nat} {modifier : Int}
    (hcount : 1 ≤ count ∧ count ≤ 100) (hsides : 2 ≤ sides ∧ sides ≤ 1000)
    (hmodifier : modifier.natAbs < 100000) (reason : String) :
    parseDice (diceNotation count sides modifier) reason =
      .ok (.roll (diceNotation count sides modifier) count sides modifier reason) := by
  refine parseDice_eq_ok.mpr ⟨_, isDice_diceNotation hcount hsides hmodifier, Nat.toDigits_ne_nil,
    (Nat.length_toDigits_le_iff (by decide) (by decide)).mpr (by omega),
    (Nat.length_toDigits_le_iff (by decide) (by decide)).mpr (by omega), ?_⟩
  have hne : (canonicalCaptures count sides modifier).count ≠ [] := Nat.toDigits_ne_nil
  have hcountNumber : number (canonicalCaptures count sides modifier).count = count :=
    number_toDigits count
  have hsidesNumber : number (canonicalCaptures count sides modifier).sides = sides :=
    number_toDigits sides
  rw [requestOf, if_neg hne, hcountNumber, hsidesNumber, modifierValue_canonical]

/-! ## Encoded requests -/

/-- The texts of a request that cleaning can cut. -/
def sentTexts (action : String) (payload : Json) : List String :=
  let object := payload.asObject.getD []
  ((Json.get object "reason").bind Json.asStr).toList ++
    if action = "room.random.choose" then
      (((Json.get object "options").bind Json.asArray).getD []).filterMap Json.asStr
    else
      []

theorem randomReason_eq_ok {object : List (String × Json)} {reason : String} :
    randomReason object = .ok reason ↔
      (Json.get object "reason" = none ∧ reason = "") ∨
        ∃ sent, Json.get object "reason" = some (.string sent) ∧
          reason = cleanSingleLine sent 200 := by
  unfold randomReason
  cases hreason : Json.get object "reason" with
  | none => simp [eq_comm]
  | some value =>
      cases value with
      | string sent => simp [eq_comm]
      | _ => simp

/-- Reading a kept reason again keeps it, unless it was cut behind a word. -/
theorem reason_fixed_iff {object : List (String × Json)} {reason : String}
    (h : randomReason object = .ok reason) :
    cleanSingleLine reason 200 = reason ↔
      ∀ text ∈ ((Json.get object "reason").bind Json.asStr).toList,
        cutAfterWord text 200 = false := by
  rcases randomReason_eq_ok.mp h with ⟨hnone, rfl⟩ | ⟨sent, hsent, rfl⟩
  · rw [hnone]
    refine iff_of_true rfl (by simp)
  · rw [cleanSingleLine_fixed_iff, hsent]
    simp [Json.asStr]

theorem randomOption_eq_ok {value : Json} {option : String} :
    randomOption value = .ok option ↔
      ∃ sent, value = .string sent ∧ option = cleanSingleLine sent 200 ∧ option ≠ "" ∧
        hasVisibleText option = true := by
  unfold randomOption
  cases value with
  | string sent =>
      rw [Json.asStr, Option.map_some, Option.filter_some]
      by_cases hkept : (cleanSingleLine sent 200 ≠ "" &&
          hasVisibleText (cleanSingleLine sent 200)) = true
      · rw [if_pos hkept]
        simp only [Bool.and_eq_true, decide_eq_true_eq] at hkept
        constructor
        · intro h
          obtain rfl := Except.ok.inj h
          exact ⟨sent, rfl, rfl, hkept⟩
        · rintro ⟨sent', heq, rfl, -⟩
          rw [Json.string.inj heq]
      · rw [if_neg hkept]
        simp only [Bool.and_eq_true, decide_eq_true_eq] at hkept
        refine iff_of_false (fun h => nomatch h) ?_
        rintro ⟨sent', heq, rfl, hgood⟩
        rw [← Json.string.inj heq] at hgood
        exact hkept hgood
  | _ => exact iff_of_false (fun h => nomatch h) fun ⟨_, heq, _⟩ => nomatch heq

/-- Reading the kept options again keeps them, unless one was cut behind a word. -/
theorem options_again_iff {values : List Json} {options : List String}
    (h : values.mapM randomOption = .ok options) :
    (options.map Json.string).mapM randomOption = .ok options ↔
      ∀ text ∈ values.filterMap Json.asStr, cutAfterWord text 200 = false := by
  rw [Result.mapM_eq_ok] at h ⊢
  induction h with
  | nil => simp
  | @cons value option values options hvalue _ ih =>
      obtain ⟨sent, rfl, rfl, hne, hvisible⟩ := randomOption_eq_ok.mp hvalue
      have htexts : (Json.string sent :: values).filterMap Json.asStr =
          sent :: values.filterMap Json.asStr := rfl
      rw [List.map_cons, List.forall₂_cons, ih, htexts, List.forall_mem_cons,
        ← cleanSingleLine_fixed_iff]
      refine and_congr_left fun _ => ?_
      rw [randomOption_eq_ok]
      constructor
      · rintro ⟨again, heq, hclean, -⟩
        rw [← Json.string.inj heq] at hclean
        exact hclean.symm
      · intro hfixed
        exact ⟨_, rfl, hfixed.symm, hne, hvisible⟩

theorem parseChoose_eq_ok {object : List (String × Json)} {reason : String}
    {request : RoomRandomRequest} :
    parseChoose object reason = .ok request ↔
      requireKeys object ["options", "reason"] = .ok () ∧
        ∃ values options, (Json.get object "options").bind Json.asArray = some values ∧
          (2 ≤ values.length ∧ values.length ≤ 50) ∧ values.mapM randomOption = .ok options ∧
          request = .choose options reason := by
  unfold parseChoose
  rw [Result.bind_eq_ok]
  constructor
  · rintro ⟨_, hkeys, h⟩
    split at h
    · cases h
    · next values hvalues =>
        split at h
        · cases h
        · next hlength =>
            obtain ⟨options, hoptions, h⟩ := Result.bind_eq_ok.mp h
            exact ⟨hkeys, values, options, hvalues, Decidable.not_not.mp hlength, hoptions,
              (Result.pure_eq_ok.mp h).symm⟩
  · rintro ⟨hkeys, values, options, hvalues, hlength, hoptions, rfl⟩
    refine ⟨(), hkeys, ?_⟩
    rw [hvalues]
    dsimp only
    rw [if_neg (not_not_intro hlength)]
    exact Result.bind_eq_ok.mpr ⟨options, hoptions, rfl⟩

section Requests

variable [DecimalDigits]

open RoomRandomRequest

theorem parse_object_eq_ok {action : String} {object : List (String × Json)}
    {request : RoomRandomRequest} :
    parse action (.object object) = .ok request ↔ ∃ reason, randomReason object = .ok reason ∧
      ((action = "room.random.roll" ∧ parseRoll object reason = .ok request) ∨
        (action = "room.random.choose" ∧ parseChoose object reason = .ok request)) := by
  unfold parse
  simp only [Json.asObject]
  rw [Result.bind_eq_ok]
  refine exists_congr fun reason => and_congr_right fun _ => ?_
  by_cases hroll : action = "room.random.roll"
  · subst hroll
    simp
  · by_cases hchoose : action = "room.random.choose"
    · subst hchoose
      simp
    · simp [hroll, hchoose]

theorem parseRoll_eq_ok {object : List (String × Json)} {reason : String}
    {request : RoomRandomRequest} :
    parseRoll object reason = .ok request ↔
      requireKeys object ["notation", "reason"] = .ok () ∧
        ∃ value, (Json.get object "notation").bind Json.asStr = some value ∧
          parseDice value reason = .ok request := by
  unfold parseRoll
  rw [Result.bind_eq_ok]
  constructor
  · rintro ⟨_, hkeys, h⟩
    split at h
    · cases h
    · next value hvalue => exact ⟨hkeys, value, hvalue, h⟩
  · rintro ⟨hkeys, value, hvalue, h⟩
    refine ⟨(), hkeys, ?_⟩
    rw [hvalue]
    exact h

/-- An accepted roll is read back exactly when its reason is. -/
theorem roll_again_iff {value reason : String} {request : RoomRandomRequest}
    (h : parseDice value reason = .ok request) :
    parse request.roomAction request.canonicalPayload = .ok request ↔
      cleanSingleLine reason 200 = reason := by
  obtain ⟨count, sides, modifier, rfl, hcount, hsides, hmodifier⟩ := parseDice_bounds h
  have hdice := parseDice_diceNotation hcount hsides hmodifier (cleanSingleLine reason 200)
  have hparsed : parse "room.random.roll" (.object [("notation",
        .string (diceNotation count sides modifier)), ("reason", .string reason)]) =
      .ok (.roll (diceNotation count sides modifier) count sides modifier
        (cleanSingleLine reason 200)) :=
    parse_object_eq_ok.mpr ⟨_, rfl, Or.inl ⟨rfl, parseRoll_eq_ok.mpr ⟨rfl, _, rfl, hdice⟩⟩⟩
  rw [roomAction, canonicalPayload, hparsed]
  constructor
  · intro heq
    injection Except.ok.inj heq
  · intro hfixed
    rw [hfixed]

/-- Accepted options are read back exactly when none of them and the reason was cut. -/
theorem choose_again_iff {values : List Json} {options : List String} {reason : String}
    (hlength : 2 ≤ values.length ∧ values.length ≤ 50)
    (h : values.mapM randomOption = .ok options) :
    parse (RoomRandomRequest.choose options reason).roomAction
        (RoomRandomRequest.choose options reason).canonicalPayload =
          .ok (.choose options reason) ↔
      cleanSingleLine reason 200 = reason ∧
        (options.map Json.string).mapM randomOption = .ok options := by
  have hsame : values.length = options.length := (Result.mapM_eq_ok.mp h).length_eq
  rw [roomAction, canonicalPayload, parse_object_eq_ok]
  constructor
  · rintro ⟨again, hreason, ⟨hroll, -⟩ | ⟨-, hchoose⟩⟩
    · exact absurd hroll (by decide)
    · obtain ⟨-, values', options', hvalues, -, hoptions, heq⟩ := parseChoose_eq_ok.mp hchoose
      obtain rfl : options.map Json.string = values' := Option.some.inj hvalues
      injection heq with hoptionsEq hreasonEq
      subst hoptionsEq hreasonEq
      exact ⟨Except.ok.inj hreason, hoptions⟩
  · rintro ⟨hreason, hoptions⟩
    refine ⟨reason, congrArg Except.ok hreason, Or.inr ⟨rfl, parseChoose_eq_ok.mpr
      ⟨rfl, _, options, rfl, ?_, hoptions, rfl⟩⟩⟩
    rwa [List.length_map, ← hsame]

/-- A request is read back exactly when none of its texts was cut behind a word. -/
theorem parse_again_iff {action : String} {payload : Json} {request : RoomRandomRequest}
    (h : parse action payload = .ok request) :
    parse request.roomAction request.canonicalPayload = .ok request ↔
      ∀ text ∈ sentTexts action payload, cutAfterWord text 200 = false := by
  cases payload with
  | object object =>
      obtain ⟨reason, hreason, ⟨rfl, hroll⟩ | ⟨rfl, hchoose⟩⟩ := parse_object_eq_ok.mp h
      · obtain ⟨-, value, -, hdice⟩ := parseRoll_eq_ok.mp hroll
        rw [roll_again_iff hdice, reason_fixed_iff hreason, sentTexts, if_neg (by decide),
          List.append_nil]
        rfl
      · obtain ⟨-, values, options, hvalues, hlength, hoptions, rfl⟩ :=
          parseChoose_eq_ok.mp hchoose
        rw [choose_again_iff hlength hoptions, reason_fixed_iff hreason,
          options_again_iff hoptions, sentTexts, if_pos rfl, List.forall_mem_append]
        simp only [Json.asObject, Option.getD_some, hvalues]
  | _ => exact nomatch h

/-- A payload of a roll, with the notation and the reason it sends. -/
structure RollPayload (object : List (String × Json)) (value reason : String) : Prop where
  keys : requireKeys object ["notation", "reason"] = .ok ()
  sent : (Json.get object "notation").bind Json.asStr = some value
  reason : randomReason object = .ok reason

/-- A roll is accepted with the numbers of its notation, and with those only. -/
def ReadsDice (object : List (String × Json)) (value reason : String) : Prop :=
  ∀ request, parse "room.random.roll" (.object object) = .ok request ↔
    ∃ captures, IsDice value captures ∧ request = requestOf captures reason

theorem parse_roll_iff {object : List (String × Json)} {value reason : String}
    (h : RollPayload object value reason) {request : RoomRandomRequest} :
    parse "room.random.roll" (.object object) = .ok request ↔
      parseDice value reason = .ok request := by
  rw [parse_object_eq_ok]
  constructor
  · rintro ⟨reason', hreason, ⟨-, hroll⟩ | ⟨hchoose, -⟩⟩
    · obtain rfl := Except.ok.inj (hreason.symm.trans h.reason)
      obtain ⟨-, value', hvalue, hdice⟩ := parseRoll_eq_ok.mp hroll
      obtain rfl := Option.some.inj (hvalue.symm.trans h.sent)
      exact hdice
    · exact absurd hchoose (by decide)
  · intro hdice
    exact ⟨reason, h.reason, Or.inl ⟨rfl, parseRoll_eq_ok.mpr ⟨h.keys, value, h.sent, hdice⟩⟩⟩

/-- A notation that leaves the count out, or pads a number with zeros beyond its width. -/
def Unread (captures : DiceCaptures) : Prop :=
  captures.count = [] ∨ 3 < captures.count.length ∨ 4 < captures.sides.length

/-- Dice are read as written unless the count is left out or a number is padded, and a request is
read back unless one of its texts was cut behind a word. -/
theorem random_requests_iff :
    (∀ object value reason, RollPayload object value reason →
      (ReadsDice object value reason ↔ ¬ ∃ captures, IsDice value captures ∧ Unread captures)) ∧
    ∀ action payload request, parse action payload = .ok request →
      (parse request.roomAction request.canonicalPayload = .ok request ↔
        ∀ text ∈ sentTexts action payload, cutAfterWord text 200 = false) := by
  refine ⟨fun object value reason h => ⟨?_, ?_⟩, fun _ _ _ h => parse_again_iff h⟩
  · rintro hreads ⟨captures, hdice, hunread⟩
    have hparsed := (parse_roll_iff h).mp ((hreads _).mpr ⟨captures, hdice, rfl⟩)
    obtain ⟨captures', hdice', hne, hthree, hfour, -⟩ := parseDice_eq_ok.mp hparsed
    obtain rfl := hdice.unique hdice'
    rcases hunread with hnil | hlong | hlong
    · exact hne hnil
    · omega
    · omega
  · intro hnone request
    rw [parse_roll_iff h, parseDice_eq_ok]
    constructor
    · rintro ⟨captures, hdice, -, -, -, rfl⟩
      exact ⟨captures, hdice, rfl⟩
    · rintro ⟨captures, hdice, rfl⟩
      have hread : ¬ Unread captures := fun hunread => hnone ⟨captures, hdice, hunread⟩
      rw [Unread, not_or, not_or, Nat.not_lt, Nat.not_lt] at hread
      exact ⟨captures, hdice, hread.1, hread.2.1, hread.2.2, rfl⟩

end Requests

/-- The digits of ASCII texts. -/
@[reducible] def asciiDigits : DecimalDigits where
  isDecimalDigit c := c.isDigit
  ascii := fun _ _ => rfl
  not_blank := digitClass_isDigit.blank

theorem isDice_of_scan {value : String} {captures : DiceCaptures}
    (hscan : scanDice Char.isDigit value.toList = some captures)
    (hcount : captures.count = [] ∨ (1 ≤ number captures.count ∧ number captures.count ≤ 100))
    (hsides : 2 ≤ number captures.sides ∧ number captures.sides ≤ 1000) :
    IsDice value captures :=
  ⟨(scanDice_eq_some digitClass_isDigit).mp hscan, hcount, hsides⟩

/-- `2d6` is read with its numbers. -/
theorem two_dice_read : @ReadsDice asciiDigits [("notation", .string "2d6")] "2d6" "" := by
  refine ((@random_requests_iff asciiDigits).1 _ _ _ ⟨rfl, rfl, rfl⟩).mpr ?_
  rintro ⟨captures, hdice, hunread⟩
  have htwo : IsDice "2d6" ⟨['2'], ['6'], none⟩ :=
    isDice_of_scan (by decide) (by decide) (by decide)
  obtain rfl := hdice.unique htwo
  revert hunread
  unfold Unread
  decide

/-- A reason whose two hundredth character is the space before its last word. -/
def cutReasonChars : List Char :=
  List.replicate 199 'a' ++ [' ', 'b']

def cutReason : String :=
  String.ofList cutReasonChars

theorem cutAfterWord_cutReason : cutAfterWord cutReason 200 = true := by
  have hchars : cutReason.toList = cutReasonChars := String.toList_ofList
  simp only [cutAfterWord, singleLine, hchars]
  decide +kernel

/-- `d20` is promised by the error text and refused, and a roll whose reason is cut behind a word is
not read back. -/
theorem single_die_refused :
    ¬ @ReadsDice asciiDigits [("notation", .string "d20")] "d20" "" ∧
      ∃ request, @RoomRandomRequest.parse asciiDigits "room.random.roll"
          (.object [("notation", .string "2d6"), ("reason", .string cutReason)]) = .ok request ∧
        @RoomRandomRequest.parse asciiDigits request.roomAction request.canonicalPayload ≠
          .ok request := by
  let _ := asciiDigits
  refine ⟨fun hreads => ?_, ?_⟩
  · have hdice : IsDice "d20" ⟨[], ['2', '0'], none⟩ :=
      isDice_of_scan (by decide) (by decide) (by decide)
    have hparsed := (parse_roll_iff ⟨rfl, rfl, rfl⟩).mp ((hreads _).mpr ⟨_, hdice, rfl⟩)
    obtain ⟨captures, hcaptures, hne, -⟩ := parseDice_eq_ok.mp hparsed
    obtain rfl := hdice.unique hcaptures
    exact hne rfl
  · have hdice : parseDice (diceNotation 2 6 0) (cleanSingleLine cutReason 200) =
        .ok (.roll (diceNotation 2 6 0) 2 6 0 (cleanSingleLine cutReason 200)) :=
      parseDice_diceNotation (by decide) (by decide) (by decide) _
    have htext : diceNotation 2 6 0 = "2d6" := by decide
    rw [htext] at hdice
    have hreason : randomReason [("notation", .string "2d6"), ("reason", .string cutReason)] =
        .ok (cleanSingleLine cutReason 200) :=
      randomReason_eq_ok.mpr (Or.inr ⟨cutReason, rfl, rfl⟩)
    have hkeys : requireKeys [("notation", .string "2d6"), ("reason", .string cutReason)]
        ["notation", "reason"] = .ok () := rfl
    have hsent : (Json.get [("notation", .string "2d6"), ("reason", .string cutReason)]
        "notation").bind Json.asStr = some "2d6" := rfl
    have hroll := parseRoll_eq_ok.mpr ⟨hkeys, "2d6", hsent, hdice⟩
    have hparsed := parse_object_eq_ok.mpr ⟨_, hreason, Or.inl ⟨rfl, hroll⟩⟩
    refine ⟨_, hparsed, fun hagain => ?_⟩
    have hkept := (parse_again_iff hparsed).mp hagain cutReason List.mem_cons_self
    rw [cutAfterWord_cutReason] at hkept
    cases hkept

end AgentsAssemble.Domain
