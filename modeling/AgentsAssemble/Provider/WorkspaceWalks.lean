import AgentsAssemble.Provider.WorkspacePages

/-!
# The walk over a workspace

What a walk lists: only files and lines of the tree that match, within the size
of a result, and all of them unless the result says that it is truncated.  The
walk is a loop over a stack of directories; its invariant says that whatever the
tree still holds lies below a directory of the stack.
-/

namespace AgentsAssemble.Provider

open Domain Foundation
open Foundation.Result (bind_eq_ok pure_eq_ok)

/-! ## What matches -/

section Tree

variable (ws : Workspace) (initial : FilePath) (query : Option (List Char))

/-- The directory at `path` has an entry of this name and type that may be named. -/
def HasEntry (path : FilePath) (name : List Char) (fileType : FileType) : Prop :=
  (relative (pathText (path ++ [name]))).isSome ∧
    ∃ entries entry, ws.entries path = .ok entries ∧ .ok entry ∈ entries ∧
      entry.name = some name ∧ entry.fileType = .ok fileType

/-- The directories below the initial one. -/
inductive Reaches : FilePath → Prop
  | start : Reaches initial
  | enter {path : FilePath} {name : List Char} : Reaches path →
      HasEntry ws path name .directory → Reaches (path ++ [name])

/-- What a file adds to the result. -/
def fileItems (encoded : List Char) : List JsonText :=
  match query with
  | none => [.string encoded]
  | some query =>
      match read ws encoded fileBytes with
      | .error _ => []
      | .ok text => matchItems encoded query text

/-- The items that belong to the result: those of the files of the tree. -/
def Matched (item : JsonText) : Prop :=
  ∃ path name, Reaches ws initial path ∧ HasEntry ws path name .file ∧
    item ∈ fileItems ws query (pathText (path ++ [name]))

/-- The tree holds a name that is not Unicode, or a file that cannot be searched. -/
def Unreadable : Prop :=
  ∃ path, Reaches ws initial path ∧
    ((∃ entries entry, ws.entries path = .ok entries ∧ .ok entry ∈ entries ∧ entry.name = none) ∨
      ∃ name e, HasEntry ws path name .file ∧ query.isSome ∧
        read ws (pathText (path ++ [name])) fileBytes = .error e)

end Tree

/-- The most items a result holds. -/
def itemLimit (query : Option (List Char)) : Nat :=
  if query.isSome then 200 else 500

/-- Why a walk may have left something out: a limit was reached, an item that matched did
not fit, or a part of the tree could not be read. -/
inductive Incomplete (ws : Workspace) (interruption : Interruption) (initial : FilePath)
    (query : Option (List Char)) (s : Walk) : Prop
  | entries : 5000 < s.entriesSeen → Incomplete ws interruption initial query s
  | time : interruption.expired s.entriesSeen = true → Incomplete ws interruption initial query s
  | bytes : 10000000 < s.bytesRead → Incomplete ws interruption initial query s
  | count : itemLimit query ≤ s.items.length → Incomplete ws interruption initial query s
  | size {item : JsonText} : Matched ws initial query item →
      resultBytes < (Found.document ⟨resultKey query, s.items ++ [item], false⟩).size →
      Incomplete ws interruption initial query s
  | unreadable : Unreadable ws initial query → Incomplete ws interruption initial query s

/-! ## Sizes -/

/-- The counter of the walk is the size of the result, which fits. -/
structure Sized (query : Option (List Char)) (s : Walk) : Prop where
  exact : s.bytes = (Found.document ⟨resultKey query, s.items, false⟩).size
  fits : s.bytes ≤ resultBytes

theorem size_found (found : Found) :
    found.document.size = JsonText.escapedSize found.key.toList +
      (JsonText.array found.items).size + (JsonText.bool found.truncated).size + 18 := by
  have htruncated : JsonText.escapedSize "truncated".toList = 9 := by decide
  rw [Found.document, JsonText.size_object]
  simp only [JsonText.membersSize, htruncated]
  omega

/-- Either flag fits where the longer one was counted. -/
theorem Sized.result {query : Option (List Char)} {s : Walk} (h : Sized query s) :
    (Found.document ⟨resultKey query, s.items, s.truncated⟩).size ≤ resultBytes := by
  have hbool := JsonText.size_bool_le s.truncated
  have hexact := h.exact
  have hfits := h.fits
  rw [size_found] at hexact ⊢
  dsimp only at hexact ⊢
  omega

section Walking

variable {ws : Workspace} {interruption : Interruption} {initial : FilePath}
  {query : Option (List Char)}

/-- An entry is accounted for: a directory is known, and a file has its items listed. -/
def Covered (ws : Workspace) (query : Option (List Char)) (s : Walk) (known : List FilePath)
    (path : FilePath) (name : List Char) (fileType : FileType) : Prop :=
  (fileType = .directory → path ++ [name] ∈ known) ∧
    (fileType = .file → fileItems ws query (pathText (path ++ [name])) ⊆ s.items)

/-- The walk between two directories. -/
structure Walks (ws : Workspace) (initial : FilePath) (query : Option (List Char)) (s : Walk)
    (visited pending : List FilePath) : Prop where
  sized : Sized query s
  sound : ∀ item ∈ s.items, Matched ws initial query item
  reached : ∀ path ∈ pending, Reaches ws initial path
  excused : s.truncated = true → Unreadable ws initial query
  started : initial ∈ visited ++ pending
  closed : s.truncated = false → ∀ path ∈ visited, ∀ name fileType,
    HasEntry ws path name fileType → Covered ws query s (visited ++ pending) path name fileType

/-- The walk at its end. -/
structure Walked (ws : Workspace) (interruption : Interruption) (initial : FilePath)
    (query : Option (List Char)) (s : Walk) : Prop where
  sized : Sized query s
  sound : ∀ item ∈ s.items, Matched ws initial query item
  complete : s.truncated = false → ∀ item, Matched ws initial query item → item ∈ s.items
  excused : s.truncated = true → Incomplete ws interruption initial query s

/-- With an empty stack everything reached was visited. -/
theorem Walks.done {s : Walk} {visited : List FilePath} (h : Walks ws initial query s visited []) :
    Walked ws interruption initial query s := by
  refine ⟨h.sized, h.sound, fun htruncated => ?_, fun htruncated => .unreadable (h.excused htruncated)⟩
  have hvisited : ∀ path, Reaches ws initial path → path ∈ visited := by
    intro path hpath
    induction hpath with
    | start => simpa using h.started
    | enter _ hentry ih => simpa using (h.closed htruncated _ ih _ _ hentry).1 rfl
  rintro item ⟨path, name, hpath, hentry, hitem⟩
  exact (h.closed htruncated path (hvisited path hpath) name .file hentry).2 rfl hitem

theorem Covered.mono {s s' : Walk} {known known' : List FilePath} {path : FilePath}
    {name : List Char} {fileType : FileType}
    (h : Covered ws query s known path name fileType) (hitems : s.items ⊆ s'.items)
    (hknown : known ⊆ known') : Covered ws query s' known' path name fileType :=
  ⟨fun hd => hknown (h.1 hd), fun hf => List.Subset.trans (h.2 hf) hitems⟩

/-- What a part of the walk keeps: the items, the stack, and what it was excused for. -/
structure Later (s s' : Walk) (pending pending' : List FilePath) : Prop where
  items : s.items ⊆ s'.items
  pending : pending ⊆ pending'
  truncated : s'.truncated = false → s.truncated = false

theorem Later.refl (s : Walk) (pending : List FilePath) : Later s s pending pending :=
  ⟨List.Subset.refl _, List.Subset.refl _, fun h => h⟩

theorem Later.trans {s s' s'' : Walk} {pending pending' pending'' : List FilePath}
    (h : Later s s' pending pending') (h' : Later s' s'' pending' pending'') :
    Later s s'' pending pending'' :=
  ⟨List.Subset.trans h.items h'.items, List.Subset.trans h.pending h'.pending,
    fun hfalse => h.truncated (h'.truncated hfalse)⟩

/-- The invariant after a part of the walk that lists sound items, pushes reached
directories and is excused for what it skips. -/
theorem Walks.later {s s' : Walk} {visited pending pending' : List FilePath}
    (h : Walks ws initial query s visited pending) (hlater : Later s s' pending pending')
    (hsized : Sized query s') (hsound : ∀ item ∈ s'.items, Matched ws initial query item)
    (hreached : ∀ path ∈ pending', Reaches ws initial path)
    (hexcused : s'.truncated = true → Unreadable ws initial query) :
    Walks ws initial query s' visited pending' := by
  have hknown : visited ++ pending ⊆ visited ++ pending' :=
    List.append_subset.mpr ⟨List.subset_append_left _ _,
      List.Subset.trans hlater.pending (List.subset_append_right _ _)⟩
  refine ⟨hsized, hsound, hreached, hexcused, hknown h.started, ?_⟩
  intro htruncated path hpath name fileType hentry
  exact (h.closed (hlater.truncated htruncated) path hpath name fileType hentry).mono hlater.items
    hknown

/-- The walk with one more entry seen. -/
def Walk.seen (s : Walk) : Walk :=
  { s with entriesSeen := s.entriesSeen + 1 }

/-- How far a walk still is from its end: the directories of the stack, and those that
the entries it may still see can add. -/
def Walk.left (s : Walk) (pending : List FilePath) : Nat :=
  pending.length + (5001 - s.entriesSeen)

/-- What an entry of a reached directory is accounted for by a part of the walk. -/
def Accounts (ws : Workspace) (query : Option (List Char)) (path : FilePath)
    (entry : Except IoError DirEntry) (s : Walk) (pending : List FilePath) : Prop :=
  s.truncated = false → ∀ e name fileType, entry = .ok e → e.name = some name →
    e.fileType = .ok fileType → (relative (pathText (path ++ [name]))).isSome →
    Covered ws query s pending path name fileType

/-- What holds where a part of the walk goes on, and where it is broken off. -/
def Flow.Meets (next : Walk → List FilePath → Prop) (stop : Walk → Prop) :
    Flow (Walk × List FilePath) → Prop
  | .next (s, pending) => next s pending
  | .stop s => stop s

theorem Accounts.mono {path : FilePath} {entry : Except IoError DirEntry} {s s' : Walk}
    {pending pending' : List FilePath} (h : Accounts ws query path entry s pending)
    (hlater : Later s s' pending pending') : Accounts ws query path entry s' pending' :=
  fun hfalse e name fileType he hname htype hsome =>
    (h (hlater.truncated hfalse) e name fileType he hname htype hsome).mono hlater.items
      hlater.pending

/-- A directory whose entries were all visited is visited. -/
theorem Walks.visited {s : Walk} {visited pending : List FilePath} {path : FilePath}
    {entries : List (Except IoError DirEntry)}
    (h : Walks ws initial query s visited (path :: pending))
    (hentries : ws.entries path = .ok entries)
    (hall : ∀ entry ∈ entries, Accounts ws query path entry s pending) :
    Walks ws initial query s (path :: visited) pending := by
  have hknown : visited ++ path :: pending ⊆ path :: visited ++ pending := by
    intro other hother
    simp only [List.mem_append, List.mem_cons] at hother ⊢
    tauto
  refine ⟨h.sized, h.sound, fun other hother => h.reached other (List.mem_cons_of_mem _ hother),
    h.excused, hknown h.started, fun hfalse other hother name fileType hhas => ?_⟩
  rcases List.mem_cons.mp hother with rfl | hother
  · obtain ⟨hsome, entries', e, hentries', hmem, hname, htype⟩ := hhas
    obtain rfl := Except.ok.inj (hentries.symm.trans hentries')
    exact (hall _ hmem hfalse e name fileType rfl hname htype hsome).mono (List.Subset.refl _)
      (List.subset_append_right _ _)
  · exact (h.closed hfalse other hother name fileType hhas).mono (List.Subset.refl _) hknown

end Walking

/-! ## Results -/

end AgentsAssemble.Provider
