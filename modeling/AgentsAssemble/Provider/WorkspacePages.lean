import AgentsAssemble.Foundation.Result
import AgentsAssemble.Provider.WorkspaceFiles
import Mathlib.Algebra.Order.Group.Nat

/-!
# The pages of a file

A page is the longest beginning of what is left of the selected lines that fits
the result.  It is never empty before the end, so following the continuation
offsets reads every selected line exactly once.
-/

namespace AgentsAssemble.Provider

open Domain Foundation
open Foundation.JsonText (escape escapedSize escapedSize_cons escapedSize_le natural)
open Foundation.Result (bind_eq_ok)

/-! ## Budgets -/

theorem saturatingAdd_le (a b : Nat) : saturatingAdd a b ≤ usizeMax :=
  Nat.min_le_right _ _

theorem saturatingAdd_eq {a b : Nat} (h : a + b ≤ usizeMax) : saturatingAdd a b = a + b :=
  Nat.min_eq_left h

def ReadRequest.remaining (request : ReadRequest) (text : List Char) : List Char :=
  (request.selected text).flatten.drop request.offset.toNat

/-- The envelope whose size is reserved before the content is cut. -/
def ReadRequest.envelope (request : ReadRequest) (text : List Char) : ReadResult where
  path := request.path
  startLine := request.startLine.toNat
  endLine := saturatingAdd request.startLine.toNat (request.selected text).length - 1
  truncated := false
  content := []
  nextOffset := some (saturatingAdd request.offset.toNat (request.remaining text).length)

/-- The content of a page, cut to what the envelope leaves. -/
def ReadRequest.content (request : ReadRequest) (text : List Char) : List Char :=
  jsonTextPrefix (request.remaining text) (resultBytes - (request.envelope text).document.size)
    100000

/-- What comes after a page: the rest of the selected lines and the lines after them. -/
def ReadRequest.after (request : ReadRequest) (text : List Char) (r : ReadResult) : List Char :=
  (request.remaining text).drop r.content.length ++
    ((splitInclusive text).drop request.lastLine).flatten

/-- The request for the page at another offset. -/
def ReadRequest.from (request : ReadRequest) (offset : Nat) : ReadRequest :=
  { request with offset := UInt64.ofNat offset }

/-- The contents of the pages from an offset on, each read at the offset the page before
it gave, up to the page that gives none. -/
inductive PagesFrom (ws : Workspace) (request : ReadRequest) : Nat → List (List Char) → Prop
  | last {offset : Nat} {r : ReadResult} : readWorkspaceFile ws (request.from offset) = .ok r →
      r.nextOffset = none → PagesFrom ws request offset [r.content]
  | more {offset next : Nat} {r : ReadResult} {pages : List (List Char)} :
      readWorkspaceFile ws (request.from offset) = .ok r → r.nextOffset = some next →
      PagesFrom ws request next pages → PagesFrom ws request offset (r.content :: pages)

theorem PagesFrom.unique {ws : Workspace} {request : ReadRequest} {offset : Nat}
    {pages others : List (List Char)} (h : PagesFrom ws request offset pages)
    (hothers : PagesFrom ws request offset others) : pages = others := by
  induction h generalizing others with
  | last hread hnext =>
      cases hothers with
      | last hread' _ =>
          obtain rfl := Except.ok.inj (hread.symm.trans hread')
          rfl
      | more hread' hnext' _ =>
          obtain rfl := Except.ok.inj (hread.symm.trans hread')
          exact absurd (hnext.symm.trans hnext') nofun
  | more hread hnext _ ih =>
      cases hothers with
      | last hread' hnext' =>
          obtain rfl := Except.ok.inj (hread.symm.trans hread')
          exact absurd (hnext.symm.trans hnext') nofun
      | more hread' hnext' hlater =>
          obtain rfl := Except.ok.inj (hread.symm.trans hread')
          obtain rfl := Option.some.inj (hnext.symm.trans hnext')
          rw [ih hlater]

end AgentsAssemble.Provider
