import AgentsAssemble.Domain.Text
import AgentsAssemble.Foundation.JsonSize
import Mathlib.Data.List.Infix

/-!
# Workspace files

The reading file operations of the builtin tools: one page of a file, the files
of a directory tree, and the lines of these files that contain a text.  Every
result is cut to the size its JSON text may have.

Texts are character lists, and a path is the list of its components.  What the
file system answers is a parameter, as are the clock and the cancellation.  The size
of a document is the length of its serialized text.
-/

namespace AgentsAssemble.Provider

open Domain Foundation

structure IoError where
  text : String
  deriving DecidableEq, Repr

def invalid : IoError :=
  ⟨"workspace file operation rejected"⟩

/-! ## The workspace -/

abbrev FilePath := List (List Char)

inductive FileType
  | directory
  | file
  | other
  deriving DecidableEq, Repr

/-- A directory entry: its name if that is Unicode, and its type if it can be told. -/
structure DirEntry where
  name : Option (List Char)
  fileType : Except IoError FileType

/-- What a regular file holds: a text, or bytes that are not UTF-8. -/
inductive FileBytes
  | text (content : List Char)
  | binary (size : Nat)
  deriving DecidableEq, Repr

/-- The tree below the selected directory, opened without following links. -/
structure Workspace where
  entries : FilePath → Except IoError (List (Except IoError DirEntry))
  file : FilePath → Except IoError FileBytes

/-- Whether an operation is cancelled before it starts, and when its walk is cancelled and
when its time is over, by the entries seen. -/
structure Interruption where
  beforehand : Bool
  cancelled : Nat → Bool
  expired : Nat → Bool

/-! ## Sizes -/

def fileBytes : Nat := 1000000
def readBytes : Nat := 2000000
def resultBytes : Nat := 128 * 1024
def usizeMax : Nat := 2 ^ 64 - 1

def saturatingAdd (a b : Nat) : Nat :=
  min (a + b) usizeMax

/-! ## Lines -/

/-- `split_inclusive('\n')`. -/
def splitInclusive : List Char → List (List Char)
  | [] => []
  | c :: text =>
      if c = '\n' then
        [c] :: splitInclusive text
      else
        match splitInclusive text with
        | [] => [[c]]
        | line :: lines => (c :: line) :: lines

/-- A line without its ending, as `str::lines` gives it. -/
def stripEnding (line : List Char) : List Char :=
  if line.getLast? = some '\n' then
    if line.dropLast.getLast? = some '\r' then line.dropLast.dropLast else line.dropLast
  else
    line

def lines (text : List Char) : List (List Char) :=
  (splitInclusive text).map stripEnding

/-! ## Paths -/

def writeLock : List Char := ".agentsassemble-write.lock".toList

def blockedNames : List (List Char) :=
  [".git".toList, ".hg".toList, ".svn".toList, writeLock]

/-- A normal component that is not blocked in any case of its letters. -/
def component (name : List Char) : Option (List Char) :=
  if name = ['.', '.'] || blockedNames.contains (name.map Char.toLower) then none else some name

/-- The components of a relative path that stays inside the selected directory. -/
def relative (path : List Char) : Option FilePath :=
  if path = [] || 1000 < utf8Length path || path.any (fun c => c = '\\' || c = ':') ||
      path.any isControl || path.head? = some '/' then
    none
  else
    ((path.splitOn '/').filter fun part => part ≠ [] && part ≠ ['.']).mapM component

/-- `Path::to_str`. -/
def pathText (path : FilePath) : List Char :=
  ['/'].intercalate path

def read (ws : Workspace) (path : List Char) (maximum : Nat) : Except IoError (List Char) :=
  match relative path with
  | none => .error invalid
  | some [] => .error invalid
  | some components => do
      match ← ws.file components with
      | .binary _ => throw invalid
      | .text content => if maximum < utf8Length content then throw invalid else return content

/-! ## Results -/

/-- The length a character has in a JSON string. -/
def characterCost (character : Char) : Nat :=
  if character = '"' || character = '\\' || character = '\n' || character = '\r' ||
      character = '\t' || character = '\x08' || character = '\x0c' then
    2
  else if character.toNat ≤ 0x1f then 6
  else character.utf8Size

def jsonTextPrefix.go (budget bytes : Nat) : List Char → List Char
  | [] => []
  | character :: text =>
      if budget < bytes + characterCost character then []
      else character :: jsonTextPrefix.go budget (bytes + characterCost character) text

/-- The longest beginning of a text whose JSON text fits the budget. -/
def jsonTextPrefix (text : List Char) (budget maximumChars : Nat) : List Char :=
  jsonTextPrefix.go budget 0 (text.take maximumChars)

/-- A page of a file. -/
structure ReadResult where
  path : List Char
  startLine : Nat
  endLine : Nat
  truncated : Bool
  content : List Char
  nextOffset : Option Nat
  deriving DecidableEq, Repr

def ReadResult.document (result : ReadResult) : JsonText :=
  .object [("content".toList, .string result.content),
    ("end_line".toList, JsonText.natural result.endLine),
    ("next_offset".toList, result.nextOffset.elim .null JsonText.natural),
    ("path".toList, .string result.path),
    ("start_line".toList, JsonText.natural result.startLine),
    ("truncated".toList, .bool result.truncated)]

/-- What a walk found: the items of its list under `key`. -/
structure Found where
  key : String
  items : List JsonText
  truncated : Bool

def Found.document (found : Found) : JsonText :=
  .object [(found.key.toList, .array found.items), ("truncated".toList, .bool found.truncated)]

/-! ## Reading -/

structure ReadRequest where
  path : List Char
  startLine : UInt64
  endLine : Option UInt64
  offset : UInt64

/-- What `validate` checks of a reading operation. -/
def ReadRequest.validate (request : ReadRequest) : Bool :=
  (relative request.path).any (· ≠ []) && 0 < request.startLine &&
    request.endLine.all (request.startLine ≤ ·)

def ReadRequest.lastLine (request : ReadRequest) : Nat :=
  (request.endLine.map UInt64.toNat).getD (saturatingAdd request.startLine.toNat 399)

/-- The lines the request selects, each with its ending. -/
def ReadRequest.selected (request : ReadRequest) (text : List Char) : List (List Char) :=
  ((splitInclusive text).drop (request.startLine.toNat - 1)).take
    (saturatingAdd (request.lastLine - request.startLine.toNat) 1)

def ReadRequest.page (request : ReadRequest) (text : List Char) : Except IoError ReadResult :=
  let selected := (request.selected text).flatten
  let remaining := selected.drop request.offset.toNat
  let result : ReadResult := {
    path := request.path
    startLine := request.startLine.toNat
    endLine := saturatingAdd request.startLine.toNat (request.selected text).length - 1
    truncated := false
    content := []
    nextOffset := some (saturatingAdd request.offset.toNat remaining.length)
  }
  -- the envelope is reserved with the largest continuation offset
  if resultBytes < result.document.size then
    .error invalid
  else
    let content := jsonTextPrefix remaining (resultBytes - result.document.size) 100000
    let more := decide (utf8Length content < utf8Length remaining)
    .ok { result with
      nextOffset :=
        if more then some (saturatingAdd request.offset.toNat content.length) else none
      truncated := more || decide (request.lastLine < (lines text).length)
      content := content }

def readWorkspaceFile (ws : Workspace) (request : ReadRequest) : Except IoError ReadResult := do
  let text ← read ws request.path readBytes
  request.page text

/-! ## Walking -/

/-- The variables of the walk. -/
structure Walk where
  items : List JsonText
  bytes : Nat
  entriesSeen : Nat
  bytesRead : Nat
  truncated : Bool

def Walk.cut (s : Walk) : Walk :=
  { s with truncated := true }

/-- How a piece of the walk ends: it goes on, or the walk is broken off. -/
inductive Flow (σ : Type)
  | next (s : σ)
  | stop (s : Walk)

/-- The matching line of a file as an item of the result. -/
def matchItem (path : List Char) (line : List Char × Nat) : JsonText :=
  .object [("line".toList, JsonText.natural (line.2 + 1)), ("path".toList, .string path),
    ("text".toList, .string (line.1.take 500))]

def matchItems (path query text : List Char) : List JsonText :=
  ((lines text).zipIdx.filter fun line => decide (query <:+: line.1)).map (matchItem path)

def resultKey (query : Option (List Char)) : String :=
  if query.isSome then "matches" else "files"

/-- The walk before its first directory. -/
def Walk.start (query : Option (List Char)) : Walk :=
  ⟨[], (Found.document ⟨resultKey query, [], false⟩).size, 0, 0, false⟩

end AgentsAssemble.Provider
