import AgentsAssemble.Domain.Cleaning
import AgentsAssemble.Domain.Vote

/-!
# Case folding

Full case folding replaces each character by itself or by a few letters.  The
characters it never touches are the ones a text is cleaned and numbered by, so
a text that folds like a clean one is clean, and only a number folds like a
number.
-/

namespace AgentsAssemble.Domain

/-- A character that folding neither changes nor produces: a digit, or one nobody sees. -/
def isPlain (c : Char) : Bool :=
  !isVisible c || c.isDigit

theorem isPlain_of_isWhitespace {c : Char} (h : isWhitespace c = true) : isPlain c = true := by
  simp [isPlain, not_isVisible_of_isWhitespace h]

/-- Full case folding goes character by character and leaves the plain ones alone. -/
class LawfulCaseFold [CaseFold] where
  foldChar : Char → List Char
  fold_eq : ∀ text, (defaultCaseFoldStr text).toList = text.toList.flatMap foldChar
  foldChar_ne_nil : ∀ c, foldChar c ≠ []
  foldChar_plain : ∀ c, isPlain c = true → foldChar c = [c]
  plain_of_mem : ∀ c d, d ∈ foldChar c → isPlain d = true → c = d

section Laws

variable [CaseFold] [LawfulCaseFold]

open LawfulCaseFold (foldChar)

theorem fold_eq_iff {text other : String} :
    defaultCaseFoldStr text = defaultCaseFoldStr other ↔
      text.toList.flatMap foldChar = other.toList.flatMap foldChar := by
  rw [← String.toList_inj, LawfulCaseFold.fold_eq, LawfulCaseFold.fold_eq]

theorem mem_fold_iff {cs : List Char} {d : Char} (hd : isPlain d = true) :
    d ∈ cs.flatMap foldChar ↔ d ∈ cs := by
  rw [List.mem_flatMap]
  constructor
  · rintro ⟨c, hc, hmem⟩
    rwa [← LawfulCaseFold.plain_of_mem c d hmem hd]
  · intro hmem
    refine ⟨d, hmem, ?_⟩
    rw [LawfulCaseFold.foldChar_plain d hd]
    exact List.mem_singleton_self d

theorem head_fold_iff {cs : List Char} {d : Char} (hd : isPlain d = true) :
    (cs.flatMap foldChar).head? = some d ↔ cs.head? = some d := by
  cases cs with
  | nil => simp
  | cons c cs =>
      have hne := LawfulCaseFold.foldChar_ne_nil c
      rw [List.flatMap_cons, List.head?_append_of_ne_nil _ hne, List.head?_cons, Option.some_inj]
      constructor
      · intro h
        exact LawfulCaseFold.plain_of_mem c d (List.mem_of_mem_head? h) hd
      · rintro rfl
        rw [LawfulCaseFold.foldChar_plain c hd]
        rfl

theorem getLast_fold_iff {cs : List Char} {d : Char} (hd : isPlain d = true) :
    (cs.flatMap foldChar).getLast? = some d ↔ cs.getLast? = some d := by
  rcases List.eq_nil_or_concat cs with rfl | ⟨cs, c, rfl⟩
  · simp
  · have hne := LawfulCaseFold.foldChar_ne_nil c
    rw [List.concat_eq_append, List.flatMap_append, List.flatMap_singleton, List.getLast?_append_of_ne_nil _ hne,
      List.getLast?_concat, Option.some_inj]
    constructor
    · intro h
      exact LawfulCaseFold.plain_of_mem c d (List.mem_of_getLast? h) hd
    · rintro rfl
      rw [LawfulCaseFold.foldChar_plain c hd]
      rfl

theorem fold_plain {cs : List Char} (h : ∀ c ∈ cs, isPlain c = true) :
    cs.flatMap foldChar = cs := by
  induction cs with
  | nil => rfl
  | cons c cs ih =>
      rw [List.flatMap_cons, LawfulCaseFold.foldChar_plain c (h c List.mem_cons_self),
        ih fun d hd => h d (List.mem_cons_of_mem _ hd)]
      rfl

/-- A text whose folding is plain was not changed by it. -/
theorem plain_of_fold {cs : List Char} (h : ∀ d ∈ cs.flatMap foldChar, isPlain d = true) :
    ∀ c ∈ cs, isPlain c = true := by
  intro c hc
  obtain ⟨d, hd⟩ := List.exists_mem_of_ne_nil _ (LawfulCaseFold.foldChar_ne_nil c)
  have hplain := h d (List.mem_flatMap.mpr ⟨c, hc, hd⟩)
  rwa [LawfulCaseFold.plain_of_mem c d hd hplain]

/-- Only a plain text itself folds like it. -/
theorem eq_of_fold_plain {cs ds : List Char} (hplain : ∀ d ∈ ds, isPlain d = true)
    (h : cs.flatMap foldChar = ds.flatMap foldChar) : cs = ds := by
  rw [fold_plain hplain] at h
  have hcs : ∀ c ∈ cs, isPlain c = true := plain_of_fold (h ▸ hplain)
  rwa [fold_plain hcs] at h

/-- A text that folds like a clean one is clean. -/
theorem CleanText.of_fold {cs ds : List Char} (hds : CleanText ds)
    (h : cs.flatMap foldChar = ds.flatMap foldChar) : CleanText cs := by
  refine ⟨fun hmem => hds.noNul ?_, fun hmem => hds.noReturn ?_, fun c hc => ?_, fun c hc => ?_⟩
  · rwa [← mem_fold_iff (by decide), ← h, mem_fold_iff (by decide)]
  · rwa [← mem_fold_iff (by decide), ← h, mem_fold_iff (by decide)]
  · by_contra hblank
    rw [Bool.not_eq_false] at hblank
    have hplain := isPlain_of_isWhitespace hblank
    have hhead := (head_fold_iff hplain).mpr hc
    rw [h, head_fold_iff hplain] at hhead
    exact absurd (hds.first c hhead) (by rw [hblank]; decide)
  · by_contra hblank
    rw [Bool.not_eq_false] at hblank
    have hplain := isPlain_of_isWhitespace hblank
    have hlast := (getLast_fold_iff hplain).mpr hc
    rw [h, getLast_fold_iff hplain] at hlast
    exact absurd (hds.last c hlast) (by rw [hblank]; decide)

theorem any_isVisible_of_fold {cs ds : List Char} (hds : ds.any isVisible = true)
    (h : cs.flatMap foldChar = ds.flatMap foldChar) : cs.any isVisible = true := by
  by_contra hnone
  rw [Bool.not_eq_true, List.any_eq_false] at hnone
  have hplain : ∀ c ∈ cs, isPlain c = true := fun c hc => by
    simp [isPlain, hnone c hc]
  -- nothing in the text is visible, so the other one is that text
  rw [← eq_of_fold_plain hplain h.symm] at hnone
  obtain ⟨c, hc, hvisible⟩ := List.any_eq_true.mp hds
  exact hnone c hc hvisible

end Laws

end AgentsAssemble.Domain
