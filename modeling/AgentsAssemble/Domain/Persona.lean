import AgentsAssemble.Domain.CanonicalJson
import AgentsAssemble.Domain.Vote
import AgentsAssemble.Foundation.Selection
import Mathlib.Data.Fintype.Basic
import Mathlib.Data.List.FinRange
import Mathlib.Data.List.Sort
import Mathlib.Data.Prod.Lex

/-!
# Persona lore

The lorebook of a persona card: how an entry is matched against the recent
room text, how the scan feeds what it selected back into that text, and how
the selected entries are fitted into a budget of characters.
-/

namespace AgentsAssemble.Domain

open Foundation
open CanonicalJson (Sha256 bytesOf)

/-! ## Card text -/

def isCardLineBoundary (c : Char) : Bool :=
  c = '\n' || c = '\r' || c = '\x0b' || c = '\x0c' || c = '\x1c' || c = '\x1d' || c = '\x1e' ||
    c = '\u0085' || c = '\u2028' || c = '\u2029'

/-- The lines of a card text.  A text that ends in a separator has no empty last line. -/
def cardLines : List Char → List (List Char)
  | [] => []
  | '\r' :: '\n' :: rest => [] :: cardLines rest
  | c :: rest =>
      if isCardLineBoundary c then
        [] :: cardLines rest
      else
        match cardLines rest with
        | [] => [[c]]
        | line :: lines => (c :: line) :: lines

def trimPersonaCardText (value : List Char) : List Char :=
  trimMatches isPythonWhitespace value

def personaCardKeywords (value : List Char) : List (List Char) :=
  ((value.splitOnP fun c => c = ',' || c = ';' || c = '\n').map trimPersonaCardText).filter
    (· ≠ [])

def cardWords (value : List Char) : List (List Char) :=
  (value.splitOnP isPythonWhitespace).filter (· ≠ [])

/-! ## Cards -/

structure PersonaLoreEntry where
  key : String
  content : String
  secondaryKey : String
  alwaysActive : Bool
  selective : Bool
  useRegex : Bool
  insertOrder : Int
  enabled : Bool
  caseSensitive : Bool
  priority : Int
  deriving DecidableEq, Repr

structure PersonaLoreSettings where
  scanDepth : Nat
  recursiveScanning : Bool
  fullWordMatching : Bool
  deriving DecidableEq, Repr

/-- A card that is in memory: the characters of its lore can be counted in a `usize`. -/
structure PersonaCard where
  lorebook : List PersonaLoreEntry
  loreSettings : PersonaLoreSettings
  resident : (lorebook.map fun entry => entry.content.toList.length).sum < 2 ^ 64

/-- `visible_lore_content`: the content below its leading decorator lines. -/
def visibleLoreContent (entry : PersonaLoreEntry) : List Char :=
  List.intercalate ['\n'] ((cardLines entry.content.toList).dropWhile fun line =>
    ['@', '@'].isPrefixOf (trimPersonaCardText line))

/-! ## Decorators -/

/-- `str::parse::<i64>`. -/
def parseI64 (cs : List Char) : Option Int :=
  let (negative, digits) := match cs with
    | '-' :: rest => (true, rest)
    | '+' :: rest => (false, rest)
    | cs => (false, cs)
  if digits = [] ∨ digits.any (fun c => !c.isDigit) then
    none
  else
    let n : Int := Nat.ofDigitChars 10 digits 0
    if negative then (if n ≤ 2 ^ 63 then some (-n) else none)
    else if n < 2 ^ 63 then some n else none

structure LoreDecorators where
  activateOnlyAfter : Option Nat := none
  activateOnlyEvery : Option Nat := none
  matchFullWord : Bool := false
  matchPartialWord : Bool := false
  probability : Option Int := none
  deriving DecidableEq, Repr

/-- One decorator line, without its `@@`, as words. -/
def LoreDecorators.read (decorators : LoreDecorators) (parts : List (List Char)) : LoreDecorators :=
  let value := parts[1]?
  match String.ofList (parts.headD []) with
  | "activate_only_after" =>
      { decorators with activateOnlyAfter := value.bind fun cs => parseUsize (String.ofList cs) }
  | "activate_only_every" =>
      { decorators with activateOnlyEvery := value.bind fun cs => parseUsize (String.ofList cs) }
  | "match_full_word" => { decorators with matchFullWord := true }
  | "match_partial_word" => { decorators with matchPartialWord := true }
  | "probability" => { decorators with probability := value.bind parseI64 }
  | _ => decorators

def LoreDecorators.parseLines (decorators : LoreDecorators) : List (List Char) → LoreDecorators
  | [] => decorators
  | line :: lines =>
      match trimPersonaCardText line with
      | '@' :: '@' :: body => (decorators.read (cardWords body)).parseLines lines
      | _ => decorators

def LoreDecorators.parse (content : List Char) : LoreDecorators :=
  ({} : LoreDecorators).parseLines (cardLines content)

/-! ## Literal matches -/

inductive GeneralCategory
  | uppercaseLetter | lowercaseLetter | titlecaseLetter | modifierLetter | otherLetter
  | nonspacingMark | spacingMark | enclosingMark
  | decimalNumber | letterNumber | otherNumber
  | connectorPunctuation | dashPunctuation | openPunctuation | closePunctuation
  | initialPunctuation | finalPunctuation | otherPunctuation
  | mathSymbol | currencySymbol | modifierSymbol | otherSymbol
  | spaceSeparator | lineSeparator | paragraphSeparator
  | control | format | surrogate | privateUse | unassigned
  deriving DecidableEq, Repr

/-- The Unicode tables of the `unicode-general-category` crate. -/
class GeneralCategories where
  getGeneralCategory : Char → GeneralCategory

/-- The first place a text occurs in another, counted in characters. -/
def find (needle : List Char) : List Char → Option Nat
  | [] => if needle.isEmpty then some 0 else none
  | c :: rest => if needle.isPrefixOf (c :: rest) then some 0 else (find needle rest).map (· + 1)

/-- How far a folded text goes along with another; a dotless `ı` and an `i` are the same. -/
def pythonIgnorecasePrefixLen : List Char → List Char → Option Nat
  | _, [] => some 0
  | [], _ :: _ => none
  | actual :: haystack, expected :: needle =>
      if actual ≠ expected ∧
          ¬ ((actual = 'i' ∧ expected = 'ı') ∨ (actual = 'ı' ∧ expected = 'i')) then
        none
      else
        (pythonIgnorecasePrefixLen haystack needle).map (· + 1)

section Matching

variable [GeneralCategories]

def isPythonWordCharacter (value : Char) : Bool :=
  value = '_' ||
    match GeneralCategories.getGeneralCategory value with
    | .uppercaseLetter | .lowercaseLetter | .titlecaseLetter | .modifierLetter | .otherLetter
    | .decimalNumber | .letterNumber | .otherNumber => true
    | _ => false

def hasPythonWordBoundaries (haystack : List Char) (start stop : Nat) : Bool :=
  (haystack.take start).getLast?.all (fun value => !isPythonWordCharacter value) &&
    (haystack.drop stop).head?.all (fun value => !isPythonWordCharacter value)

/-- The occurrences of a text one after the other, until one stands alone.  The next search
begins one character further, so there are at most `fuel` of them. -/
def wordOccurs (haystack needle : List Char) : Nat → Nat → Bool
  | 0, _ => false
  | fuel + 1, searchFrom =>
      match find needle (haystack.drop searchFrom) with
      | none => false
      | some relativeStart =>
          let start := searchFrom + relativeStart
          if hasPythonWordBoundaries haystack start (start + needle.length) then
            true
          else
            wordOccurs haystack needle fuel (start + 1)

variable [CaseFold]

def literalMatch (context foldedContext keyword : List Char) (caseSensitive fullWord : Bool) :
    Bool :=
  if keyword.isEmpty then
    false
  else
    let (haystack, needle) :=
      if caseSensitive then (context, keyword)
      else (foldedContext, (defaultCaseFoldStr (String.ofList keyword)).toList)
    if !fullWord then
      (find needle haystack).isSome
    else if !caseSensitive then
      (List.range haystack.length).any fun start =>
        match pythonIgnorecasePrefixLen (haystack.drop start) needle with
        | none => false
        | some matchedLen => hasPythonWordBoundaries haystack start (start + matchedLen)
    else
      wordOccurs haystack needle (haystack.length + 1) 0

/-! ## Entries -/

variable [Sha256]

/-- The draw of an entry that is activated with a probability: the same on every scan. -/
def loreDraw (entry : PersonaLoreEntry) (index : Nat) : Nat :=
  let seed := entry.key ++ "\n" ++ entry.content ++ "\n" ++ toString index
  let digest := Sha256.digest (bytesOf seed)
  (digest.take 4).foldl (fun draw byte => 256 * draw + byte.toNat) 0 % 100

def loreMatches (entry : PersonaLoreEntry) (context foldedContext : List Char)
    (hasRecentMessage defaultFullWord : Bool) (index : Nat) : Bool :=
  if !entry.enabled || entry.content.isEmpty || entry.useRegex then
    false
  else
    let decorators := LoreDecorators.parse entry.content.toList
    if decorators.activateOnlyAfter.any (fun after => hasRecentMessage.toNat < after) ||
        decorators.activateOnlyEvery.any
          (fun every => every = 0 || hasRecentMessage.toNat % every ≠ 0) then
      false
    else if decorators.probability.any (fun (probability : Int) =>
        probability ≤ 0 || (probability < 100 && probability ≤ (loreDraw entry index : Int))) then
      false
    else if entry.alwaysActive then
      true
    else
      let fullWord :=
        if decorators.matchFullWord then true
        else if decorators.matchPartialWord then false
        else defaultFullWord
      let primary := personaCardKeywords entry.key.toList
      let secondary := personaCardKeywords entry.secondaryKey.toList
      if primary.isEmpty && secondary.isEmpty then
        false
      else
        let found := fun keyword =>
          literalMatch context foldedContext keyword entry.caseSensitive fullWord
        let primaryMatch := primary.any found
        let secondaryMatch := secondary.any found
        if entry.selective && !secondary.isEmpty then
          primaryMatch && secondaryMatch
        else
          primaryMatch || secondaryMatch

/-! ## The scan -/

/-- The members of a set of positions in ascending order, as a `BTreeSet` is iterated. -/
def ascending {n : Nat} (positions : Finset (Fin n)) : List (Fin n) :=
  (List.finRange n).filter (· ∈ positions)

def maxRecursiveScanDepth : Nat := 8

def PersonaLoreSettings.rounds (settings : PersonaLoreSettings) : Nat :=
  if settings.recursiveScanning then
    max 1 (min settings.scanDepth maxRecursiveScanDepth)
  else
    1

/-- The recent text followed by what was selected so far. -/
def loreSearchText (card : PersonaCard) (recentRoomContext : String)
    (selected : Finset (Fin card.lorebook.length)) : List Char :=
  recentRoomContext.toList ++
    (ascending selected).flatMap fun index => '\n' :: visibleLoreContent (card.lorebook.get index)

def loreScan (card : PersonaCard) (recentRoomContext : String) :
    Nat → Finset (Fin card.lorebook.length) → List Char → Finset (Fin card.lorebook.length)
  | 0, selected, _ => selected
  | rounds + 1, selected, searchText =>
      let foldedSearchText := (defaultCaseFoldStr (String.ofList searchText)).toList
      let (selected, added) := (List.finRange card.lorebook.length).foldl
        (fun (selected, added) index =>
          if index ∉ selected ∧
              loreMatches (card.lorebook.get index) searchText foldedSearchText
                (!recentRoomContext.isEmpty) card.loreSettings.fullWordMatching index then
            (insert index selected, true)
          else
            (selected, added))
        (selected, false)
      if !added then
        selected
      else
        loreScan card recentRoomContext rounds selected
          (loreSearchText card recentRoomContext selected)

def selectedLore (card : PersonaCard) (recentRoomContext : String) :
    Finset (Fin card.lorebook.length) :=
  loreScan card recentRoomContext card.loreSettings.rounds ∅ recentRoomContext.toList

/-- The order of insertion: by `insert_order`, then by place in the lorebook. -/
def insertKey (card : PersonaCard) (index : Fin card.lorebook.length) : ℤ ×ₗ ℕ :=
  toLex ((card.lorebook.get index).insertOrder, index)

def orderedLore (card : PersonaCard) (recentRoomContext : String) :
    List (Fin card.lorebook.length) :=
  (ascending (selectedLore card recentRoomContext)).insertionSort
    fun index other => insertKey card index ≤ insertKey card other

end Matching

/-! ## The budget -/

structure VisibleLore where
  entry : PersonaLoreEntry
  content : List Char
  deriving DecidableEq, Repr

/-- `usize::saturating_add`. -/
def usizeSaturatingAdd (a b : Nat) : Nat :=
  min (a + b) (2 ^ 64 - 1)

/-- The rank of a selected entry: the highest priority first, then the order it stands in. -/
def loreRank (entries : List VisibleLore) (position : Fin entries.length) : ℤᵒᵈ ×ₗ ℤ ×ₗ ℕ :=
  toLex (OrderDual.toDual (entries.get position).entry.priority,
    toLex ((entries.get position).entry.insertOrder, position.val))

/-- What the loop over the ranked entries keeps track of. -/
structure LoreFit (n : Nat) where
  acceptedPositions : Finset (Fin n)
  used : Nat
  fallback : Option (Fin n)
  deriving DecidableEq

def LoreFit.consider {n : Nat} (length : Fin n → Nat) (charBudget : Nat) (fit : LoreFit n)
    (position : Fin n) : LoreFit n :=
  if usizeSaturatingAdd fit.used (length position) ≤ charBudget then
    { fit with
      acceptedPositions := insert position fit.acceptedPositions
      used := fit.used + length position }
  else if fit.fallback.isNone then
    { fit with fallback := some position }
  else
    fit

def fitLoreBudget (entries : List VisibleLore) (charBudget : Nat) : List VisibleLore :=
  if charBudget = 0 then
    []
  else
    let byPriority := (List.finRange entries.length).insertionSort
      fun position other => loreRank entries position ≤ loreRank entries other
    let fit := byPriority.foldl
      (LoreFit.consider (fun position => (entries.get position).content.length) charBudget) ⟨∅, 0, none⟩
    if fit.acceptedPositions = ∅ then
      match fit.fallback with
      | none => []
      | some fallback =>
          (List.finRange entries.length).filterMap fun position =>
            if position ≠ fallback then
              none
            else
              some { entries.get position with content := (entries.get position).content.take charBudget }
    else
      ((List.finRange entries.length).filter (· ∈ fit.acceptedPositions)).map entries.get

def visibleLore (entry : PersonaLoreEntry) : VisibleLore :=
  ⟨entry, visibleLoreContent entry⟩

/-- `active_lore`. -/
def activeLore [GeneralCategories] [CaseFold] [Sha256] (card : PersonaCard)
    (recentRoomContext : String) (charBudget : Nat) : List VisibleLore :=
  fitLoreBudget ((orderedLore card recentRoomContext).map fun index =>
    visibleLore (card.lorebook.get index)) charBudget

end AgentsAssemble.Domain
