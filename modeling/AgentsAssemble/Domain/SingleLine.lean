import AgentsAssemble.Domain.Text

/-!
# Single-line text

`clean_single_line` joins the words of a text by single spaces and truncates
the line.  The line of a line is itself, unless the truncation left a space at
its end.
-/

namespace AgentsAssemble.Domain

/-! ## Words and lines -/

/-- `str::split_whitespace`. -/
def splitWhitespace (cs : List Char) : List (List Char) :=
  (cs.splitOnP isWhitespace).filter (· ≠ [])

/-- `join(" ")`. -/
def joinWords : List (List Char) → List Char
  | [] => []
  | [word] => word
  | word :: words => word ++ ' ' :: joinWords words

/-- The replacement of line breaks and tabs. -/
def spaced (c : Char) : Char :=
  if c = '\r' ∨ c = '\n' ∨ c = '\t' then ' ' else c

/-- The line of a text, before it is truncated. -/
def singleLine (value : String) : List Char :=
  joinWords (splitWhitespace (value.toList.map spaced))

def cleanSingleLine (value : String) (limit : Nat) : String :=
  String.ofList ((singleLine value).take limit)

/-- A nonempty text without whitespace. -/
def IsWord (word : List Char) : Prop :=
  word ≠ [] ∧ ∀ c ∈ word, isWhitespace c = false

theorem not_mem_of_mem_splitOnP {p : Char → Bool} {cs word : List Char}
    (h : word ∈ cs.splitOnP p) : ∀ c ∈ word, p c = false := by
  induction cs generalizing word with
  | nil =>
      rw [List.splitOnP_nil, List.mem_singleton] at h
      subst h
      intro c hc
      cases hc
  | cons d cs ih =>
      rw [List.splitOnP_cons_eq_if_modifyHead] at h
      by_cases hd : p d = true
      · rw [if_pos hd] at h
        rcases List.mem_cons.mp h with rfl | h
        · intro c hc
          cases hc
        · exact ih h
      · rw [if_neg hd] at h
        obtain ⟨first, rest, hsplit⟩ := List.exists_cons_of_ne_nil (List.splitOnP_ne_nil p cs)
        rw [hsplit] at h ih
        rcases List.mem_cons.mp h with rfl | h
        · intro c hc
          rcases List.mem_cons.mp hc with rfl | hc
          · simpa using hd
          · exact ih List.mem_cons_self c hc
        · exact ih (List.mem_cons_of_mem _ h)

theorem isWord_of_mem_splitWhitespace {cs word : List Char} (h : word ∈ splitWhitespace cs) :
    IsWord word := by
  obtain ⟨hmem, hne⟩ := List.mem_filter.mp h
  exact ⟨by simpa using hne, not_mem_of_mem_splitOnP hmem⟩

/-- The words of joined words are these words. -/
theorem splitWhitespace_joinWords {words : List (List Char)} (h : ∀ word ∈ words, IsWord word) :
    splitWhitespace (joinWords words) = words := by
  induction words with
  | nil =>
      rw [joinWords, splitWhitespace, List.splitOnP_nil]
      rfl
  | cons word words ih =>
      obtain ⟨hne, hword⟩ := h word List.mem_cons_self
      have hrest := ih fun other hmem => h other (List.mem_cons_of_mem _ hmem)
      cases words with
      | nil =>
          rw [joinWords, splitWhitespace, List.splitOnP_eq_singleton hword]
          simp [hne]
      | cons next words =>
          have hspace : isWhitespace ' ' = true := by decide
          rw [joinWords, splitWhitespace,
            List.splitOnP_append_cons_of_forall_mem hword ' ' hspace,
            List.filter_cons_of_pos (by simpa using hne)]
          · exact congrArg (word :: ·) hrest
          · simp

theorem map_spaced_word {word : List Char} (h : ∀ c ∈ word, isWhitespace c = false) :
    word.map spaced = word := by
  refine (List.map_congr_left fun c hc => ?_).trans (List.map_id word)
  unfold spaced
  rw [if_neg]
  · rfl
  · rintro (rfl | rfl | rfl) <;> exact absurd (h _ hc) (by decide)

theorem map_spaced_joinWords {words : List (List Char)} (h : ∀ word ∈ words, IsWord word) :
    (joinWords words).map spaced = joinWords words := by
  induction words with
  | nil => rfl
  | cons word words ih =>
      have hword := map_spaced_word (h word List.mem_cons_self).2
      have hrest := ih fun other hmem => h other (List.mem_cons_of_mem _ hmem)
      cases words with
      | nil => exact hword
      | cons next words =>
          rw [joinWords, List.map_append, List.map_cons, hword, hrest]
          · rfl
          · simp

theorem singleLine_joinWords {words : List (List Char)} (h : ∀ word ∈ words, IsWord word) :
    singleLine (String.ofList (joinWords words)) = joinWords words := by
  rw [singleLine, String.toList_ofList, map_spaced_joinWords h, splitWhitespace_joinWords h]

/-- The line of a text consists of its words. -/
theorem singleLine_words (value : String) :
    ∃ words : List (List Char), (∀ word ∈ words, IsWord word) ∧ singleLine value = joinWords words :=
  ⟨splitWhitespace (value.toList.map spaced), fun _ => isWord_of_mem_splitWhitespace, rfl⟩

/-! ## Truncated lines -/

theorem joinWords_cons {word : List Char} {words : List (List Char)} (h : words ≠ []) :
    joinWords (word :: words) = word ++ ' ' :: joinWords words := by
  cases words with
  | nil => exact absurd rfl h
  | cons next words => rfl

theorem joinWords_ne_nil {words : List (List Char)} (h : ∀ word ∈ words, IsWord word)
    (hne : words ≠ []) : joinWords words ≠ [] := by
  intro hnil
  have hsplit := splitWhitespace_joinWords h
  rw [hnil, splitWhitespace, List.splitOnP_nil] at hsplit
  exact hne hsplit.symm

/-- A line does not end in a space. -/
theorem getLast_joinWords {words : List (List Char)} (h : ∀ word ∈ words, IsWord word) {c : Char}
    (hlast : (joinWords words).getLast? = some c) : isWhitespace c = false := by
  induction words with
  | nil => cases hlast
  | cons word words ih =>
      have hrest : ∀ other ∈ words, IsWord other :=
        fun other hmem => h other (List.mem_cons_of_mem _ hmem)
      by_cases hwords : words = []
      · subst hwords
        exact (h word List.mem_cons_self).2 c (List.mem_of_getLast? hlast)
      · have hne := joinWords_ne_nil hrest hwords
        rw [joinWords_cons hwords, ← List.singleton_append, ← List.append_assoc,
          List.getLast?_append_of_ne_nil _ hne] at hlast
        exact ih hrest hlast

/-- A prefix of a line is a line, possibly followed by one space. -/
theorem take_joinWords {words : List (List Char)} (h : ∀ word ∈ words, IsWord word) (n : Nat) :
    ∃ kept : List (List Char), (∀ word ∈ kept, IsWord word) ∧
      ((joinWords words).take n = joinWords kept ∨
        (kept ≠ [] ∧ (joinWords words).take n = joinWords kept ++ [' '])) := by
  have hpre : ∀ word, IsWord word → ∀ n, ∃ kept : List (List Char),
      (∀ other ∈ kept, IsWord other) ∧ word.take n = joinWords kept := by
    intro word hword n
    by_cases hempty : word.take n = []
    · exact ⟨[], fun other hmem => absurd hmem List.not_mem_nil, hempty⟩
    · refine ⟨[word.take n], fun other hmem => ?_, rfl⟩
      rw [List.mem_singleton.mp hmem]
      exact ⟨hempty, fun c hc => hword.2 c (List.mem_of_mem_take hc)⟩
  induction words generalizing n with
  | nil => exact ⟨[], h, Or.inl (List.take_nil)⟩
  | cons word words ih =>
      have hword := h word List.mem_cons_self
      have hrest : ∀ other ∈ words, IsWord other :=
        fun other hmem => h other (List.mem_cons_of_mem _ hmem)
      by_cases hwords : words = []
      · subst hwords
        obtain ⟨kept, hkept, htake⟩ := hpre word hword n
        exact ⟨kept, hkept, Or.inl htake⟩
      rw [joinWords_cons hwords]
      by_cases hn : n ≤ word.length
      · -- the cut falls into the first word
        obtain ⟨kept, hkept, htake⟩ := hpre word hword n
        exact ⟨kept, hkept, Or.inl ((List.take_append_of_le_length hn).trans htake)⟩
      · obtain ⟨m, rfl⟩ : ∃ m, n = word.length + (m + 1) := ⟨n - word.length - 1, by omega⟩
        obtain ⟨kept, hkept, htake⟩ := ih hrest m
        have hall : ∀ other ∈ word :: kept, IsWord other := by
          intro other hmem
          rcases List.mem_cons.mp hmem with rfl | hmem
          · exact hword
          · exact hkept other hmem
        rw [List.take_length_add_append, List.take_succ_cons]
        rcases htake with htake | ⟨hne, htake⟩
        · by_cases hkeptnil : kept = []
          · -- the cut falls right behind the space
            subst hkeptnil
            refine ⟨[word], hall, Or.inr ⟨List.cons_ne_nil _ _, ?_⟩⟩
            rw [htake]
            rfl
          · refine ⟨word :: kept, hall, Or.inl ?_⟩
            rw [htake, joinWords_cons hkeptnil]
        · refine ⟨word :: kept, hall, Or.inr ⟨List.cons_ne_nil _ _, ?_⟩⟩
          rw [htake, joinWords_cons hne, List.append_assoc, List.cons_append]

/-! ## Lengths -/

theorem sum_length_splitOnP (p : Char → Bool) (cs : List Char) :
    ((cs.splitOnP p).map fun piece => piece.length + 1).sum = cs.length + 1 := by
  induction cs with
  | nil => simp [List.splitOnP_nil]
  | cons c cs ih =>
      obtain ⟨first, rest, hsplit⟩ := List.exists_cons_of_ne_nil (List.splitOnP_ne_nil p cs)
      rw [hsplit, List.map_cons, List.sum_cons] at ih
      rw [List.splitOnP_cons_eq_if_modifyHead]
      by_cases hc : p c = true
      · rw [if_pos hc, hsplit]
        simp only [List.map_cons, List.sum_cons, List.length_nil, List.length_cons]
        omega
      · rw [if_neg hc, hsplit]
        simp only [List.modifyHead_cons, List.map_cons, List.sum_cons, List.length_cons]
        omega

theorem sum_length_filter_le (q : List Char → Bool) (pieces : List (List Char)) :
    ((pieces.filter q).map fun piece => piece.length + 1).sum ≤
      (pieces.map fun piece => piece.length + 1).sum := by
  induction pieces with
  | nil => exact Nat.le_refl _
  | cons piece pieces ih =>
      by_cases hq : q piece = true
      · rw [List.filter_cons_of_pos hq]
        simp only [List.map_cons, List.sum_cons]
        omega
      · rw [List.filter_cons_of_neg hq]
        simp only [List.map_cons, List.sum_cons]
        omega

theorem length_joinWords_le (words : List (List Char)) :
    (joinWords words).length ≤ (words.map fun word => word.length + 1).sum - 1 := by
  induction words with
  | nil => exact Nat.zero_le _
  | cons word words ih =>
      by_cases hwords : words = []
      · subst hwords
        simp [joinWords]
      · obtain ⟨next, rest, rfl⟩ := List.exists_cons_of_ne_nil hwords
        rw [joinWords_cons hwords]
        simp only [List.length_append, List.length_cons, List.map_cons, List.sum_cons] at ih ⊢
        omega

theorem length_singleLine_le (value : String) :
    (singleLine value).length ≤ value.toList.length := by
  have hsum := sum_length_splitOnP isWhitespace (value.toList.map spaced)
  rw [List.length_map] at hsum
  have hsub := sum_length_filter_le (· ≠ []) ((value.toList.map spaced).splitOnP isWhitespace)
  have hjoin := length_joinWords_le (splitWhitespace (value.toList.map spaced))
  unfold splitWhitespace at hjoin
  unfold singleLine splitWhitespace
  omega

theorem length_cleanSingleLine_le (value : String) (limit : Nat) :
    (cleanSingleLine value limit).toList.length ≤ limit := by
  rw [cleanSingleLine, String.toList_ofList]
  exact List.length_take_le _ _

/-! ## Cleaning a line -/

/-- The limit cuts the line of the text right after a space. -/
def cutAfterWord (value : String) (limit : Nat) : Bool :=
  ((singleLine value).take limit).getLast? == some ' '

/-- A line is clean exactly when the limit did not cut it after a space. -/
theorem cleanSingleLine_fixed_iff (value : String) (limit : Nat) :
    cleanSingleLine (cleanSingleLine value limit) limit = cleanSingleLine value limit ↔
      cutAfterWord value limit = false := by
  obtain ⟨words, hwords, hline⟩ := singleLine_words value
  obtain ⟨kept, hkept, htake⟩ := take_joinWords hwords limit
  have hlast : ∀ {c : Char}, (joinWords kept).getLast? = some c → c ≠ ' ' := by
    rintro c hc rfl
    exact absurd (getLast_joinWords hkept hc) (by decide)
  have hlength : ((singleLine value).take limit).length ≤ limit := List.length_take_le _ _
  rw [cutAfterWord, hline]
  rw [hline] at hlength
  rcases htake with htake | ⟨hne, htake⟩
  · rw [htake] at hlength ⊢
    have hclean : cleanSingleLine value limit = String.ofList (joinWords kept) := by
      rw [cleanSingleLine, hline, htake]
    have hagain : cleanSingleLine (String.ofList (joinWords kept)) limit =
        String.ofList (joinWords kept) := by
      rw [cleanSingleLine, singleLine_joinWords hkept, List.take_of_length_le hlength]
    rw [hclean]
    refine iff_of_true hagain ?_
    rw [beq_eq_false_iff_ne]
    intro heq
    exact hlast heq rfl
  · rw [htake] at hlength ⊢
    have hclean : cleanSingleLine value limit = String.ofList (joinWords kept ++ [' ']) := by
      rw [cleanSingleLine, hline, htake]
    rw [hclean]
    refine iff_of_false ?_ (by simp)
    -- cleaning again would give a line that ends in a space
    intro hagain
    obtain ⟨again, hagainWords, hagainLine⟩ :=
      singleLine_words (String.ofList (joinWords kept ++ [' ']))
    have hshort := length_singleLine_le (String.ofList (joinWords kept ++ [' ']))
    rw [String.toList_ofList] at hshort
    rw [cleanSingleLine, List.take_of_length_le (hshort.trans hlength), String.ofList_inj,
      hagainLine] at hagain
    have hend : (joinWords again).getLast? = some ' ' := by
      rw [hagain]
      simp
    exact absurd (getLast_joinWords hagainWords hend) (by decide)

/-- The line of a short text is clean. -/
theorem cleanSingleLine_clean {value : String} {limit : Nat}
    (h : value.toList.length ≤ limit) :
    cleanSingleLine (cleanSingleLine value limit) limit = cleanSingleLine value limit := by
  rw [cleanSingleLine_fixed_iff, cutAfterWord,
    List.take_of_length_le ((length_singleLine_le value).trans h), beq_eq_false_iff_ne]
  intro hend
  obtain ⟨words, hwords, hline⟩ := singleLine_words value
  rw [hline] at hend
  exact absurd (getLast_joinWords hwords hend) (by decide)

end AgentsAssemble.Domain
