import Mathlib.Algebra.Order.Ring.Nat
import Mathlib.Data.List.DropRight
import Mathlib.Data.List.Basic

/-!
# Message text

Character classes and the cleaning applied to every message before it is
stored.  Strings are handled through their character lists, which is what
`chars()` iterates over in the source.
-/

namespace AgentsAssemble.Domain

/-- `char::is_whitespace`, the Unicode `White_Space` property. -/
def isWhitespace (c : Char) : Bool :=
  let n := c.toNat
  (9 ≤ n && n ≤ 13) || n == 32 || n == 0x85 || n == 0xA0 || n == 0x1680 ||
    (0x2000 ≤ n && n ≤ 0x200A) || n == 0x2028 || n == 0x2029 || n == 0x202F ||
    n == 0x205F || n == 0x3000

/-- `char::is_control`, the general category `Cc`. -/
def isControl (c : Char) : Bool :=
  let n := c.toNat
  n ≤ 0x1F || (0x7F ≤ n && n ≤ 0x9F)

/-- The general category `Cf`. -/
def isFormat (c : Char) : Bool :=
  let n := c.toNat
  n == 0xAD || (0x600 ≤ n && n ≤ 0x605) || n == 0x61C || n == 0x6DD || n == 0x70F ||
    n == 0x890 || n == 0x891 || n == 0x8E2 || n == 0x180E ||
    (0x200B ≤ n && n ≤ 0x200F) || (0x202A ≤ n && n ≤ 0x202E) ||
    (0x2060 ≤ n && n ≤ 0x2064) || (0x2066 ≤ n && n ≤ 0x206F) || n == 0xFEFF ||
    (0xFFF9 ≤ n && n ≤ 0xFFFB) || n == 0x110BD || n == 0x110CD ||
    (0x13430 ≤ n && n ≤ 0x1343F) || (0x1BCA0 ≤ n && n ≤ 0x1BCA3) ||
    (0x1D173 ≤ n && n ≤ 0x1D17A) || n == 0xE0001 || (0xE0020 ≤ n && n ≤ 0xE007F)

/-- A character a reader can see. -/
def isVisible (c : Char) : Bool :=
  !isWhitespace c && !(isControl c || isFormat c)

/-- At least one visible character. -/
def hasVisibleText (value : String) : Bool :=
  value.toList.any isVisible

/-- `str::trim_matches` for a character class. -/
def trimMatches (p : Char → Bool) (cs : List Char) : List Char :=
  (cs.dropWhile p).rdropWhile p

/-- `str::trim`. -/
def trim (value : String) : String :=
  String.ofList (trimMatches isWhitespace value.toList)

/-- Both line-ending replacements of `clean_message`. -/
def normalizeNewlines : List Char → List Char
  | [] => []
  | '\r' :: '\n' :: cs => '\n' :: normalizeNewlines cs
  | c :: cs => (if c = '\r' then '\n' else c) :: normalizeNewlines cs

def cleanMessage (value : String) (limit : Nat) : String :=
  String.ofList ((trimMatches isWhitespace
    (normalizeNewlines (value.toList.filter (· ≠ '\x00')))).take limit)

def maxMessageCharacters : Nat := 12000

/-! ## What cleaning keeps -/

theorem not_isVisible_of_isWhitespace {c : Char} (h : isWhitespace c = true) :
    isVisible c = false := by
  simp [isVisible, h]

theorem any_dropWhile_of_disjoint {p q : Char → Bool}
    (hpq : ∀ c, p c = true → q c = false) (cs : List Char) :
    (cs.dropWhile p).any q = cs.any q := by
  induction cs with
  | nil => rfl
  | cons c cs ih =>
      by_cases hc : p c = true
      · rw [List.dropWhile_cons_of_pos hc, ih, List.any_cons, hpq c hc, Bool.false_or]
      · rw [List.dropWhile_cons_of_neg hc]

theorem any_trimMatches {p q : Char → Bool} (hpq : ∀ c, p c = true → q c = false)
    (cs : List Char) : (trimMatches p cs).any q = cs.any q := by
  rw [trimMatches, List.rdropWhile, List.any_reverse, any_dropWhile_of_disjoint hpq,
    List.any_reverse, any_dropWhile_of_disjoint hpq]

theorem any_isVisible_normalizeNewlines (cs : List Char) :
    (normalizeNewlines cs).any isVisible = cs.any isVisible := by
  induction cs using normalizeNewlines.induct with
  | case1 => rfl
  | case2 cs ih =>
      have hcr : isVisible '\r' = false := by decide
      simp [normalizeNewlines, ih, hcr]
  | case3 c cs hne ih =>
      rw [normalizeNewlines.eq_3 c cs hne]
      have hcr : isVisible '\r' = isVisible '\n' := by decide
      by_cases hc : c = '\r'
      · simp [hc, ih, hcr]
      · simp [hc, ih]

theorem any_isVisible_filter_nul (cs : List Char) :
    (cs.filter (· ≠ '\x00')).any isVisible = cs.any isVisible := by
  induction cs with
  | nil => rfl
  | cons c cs ih =>
      have hnul : isVisible '\x00' = false := by decide
      by_cases hc : c = '\x00'
      · simp only [hc, List.any_cons, hnul, Bool.false_or, ← ih]
        simp
      · simp only [List.any_cons, ← ih]
        simp [hc]

theorem length_normalizeNewlines_le (cs : List Char) :
    (normalizeNewlines cs).length ≤ cs.length := by
  induction cs using normalizeNewlines.induct with
  | case1 => simp [normalizeNewlines]
  | case2 cs ih =>
      simp only [normalizeNewlines, List.length_cons]
      omega
  | case3 c cs hne ih =>
      rw [normalizeNewlines.eq_3 c cs hne]
      simp only [List.length_cons]
      omega

theorem length_trimMatches_le (p : Char → Bool) (cs : List Char) :
    (trimMatches p cs).length ≤ cs.length := by
  calc (trimMatches p cs).length
      ≤ (cs.dropWhile p).length := (List.rdropWhile_prefix p _).length_le
    _ ≤ cs.length := (List.dropWhile_suffix p).length_le

theorem length_cleanMessage_le (value : String) (limit : Nat) :
    (cleanMessage value limit).toList.length ≤ limit := by
  rw [cleanMessage, String.toList_ofList]
  exact List.length_take_le _ _

/-- Cleaning a text that already fits keeps whether a reader sees anything. -/
theorem hasVisibleText_cleanMessage {value : String} {limit : Nat}
    (h : value.toList.length ≤ limit) :
    hasVisibleText (cleanMessage value limit) = hasVisibleText value := by
  have hfit : (trimMatches isWhitespace
      (normalizeNewlines (value.toList.filter (· ≠ '\x00')))).length ≤ limit :=
    (length_trimMatches_le _ _).trans
      ((length_normalizeNewlines_le _).trans ((List.length_filter_le _ _).trans h))
  rw [hasVisibleText, hasVisibleText, cleanMessage, String.toList_ofList,
    List.take_of_length_le hfit,
    any_trimMatches (fun _ => not_isVisible_of_isWhitespace),
    any_isVisible_normalizeNewlines, any_isVisible_filter_nul]

end AgentsAssemble.Domain
