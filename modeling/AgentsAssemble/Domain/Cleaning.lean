import AgentsAssemble.Domain.Text

/-!
# Cleaning a cleaned text

`clean_message` trims before it truncates, so its result can end in whitespace
that a second run removes.  A text is a fixed point exactly when it does not,
and that depends on one character of the trimmed input: the last one kept.
-/

namespace AgentsAssemble.Domain

/-! ## Trimming -/

theorem head_dropWhile {p : Char → Bool} {cs : List Char} {c : Char}
    (h : (cs.dropWhile p).head? = some c) : p c = false := by
  induction cs with
  | nil => cases h
  | cons d cs ih =>
      by_cases hd : p d = true
      · rw [List.dropWhile_cons_of_pos hd] at h
        exact ih h
      · rw [List.dropWhile_cons_of_neg hd] at h
        obtain rfl := Option.some.inj h
        simpa using hd

theorem head_trimMatches {p : Char → Bool} {cs : List Char} {c : Char}
    (h : (trimMatches p cs).head? = some c) : p c = false := by
  obtain ⟨rest, hrest⟩ := List.rdropWhile_prefix p (cs.dropWhile p)
  have hfirst : (cs.dropWhile p).head? = some c := by
    rw [← hrest]
    unfold trimMatches at h
    cases hkept : (cs.dropWhile p).rdropWhile p with
    | nil =>
        rw [hkept] at h
        cases h
    | cons d ds =>
        rw [hkept] at h
        exact h
  exact head_dropWhile hfirst

/-- The last character of a trimmed text is not in the class. -/
theorem getLast_trimMatches {p : Char → Bool} {cs : List Char} {c : Char}
    (h : (trimMatches p cs).getLast? = some c) : p c = false := by
  unfold trimMatches List.rdropWhile at h
  rw [List.getLast?_reverse] at h
  exact head_dropWhile h

theorem trimMatches_of_head {p : Char → Bool} {cs : List Char}
    (h : ∀ c, cs.head? = some c → p c = false) :
    trimMatches p cs = cs.rdropWhile p := by
  cases cs with
  | nil => rfl
  | cons c cs =>
      rw [trimMatches, List.dropWhile_cons_of_neg]
      simp [h c rfl]

/-! ## Line endings and NULs -/

theorem normalizeNewlines_of_no_cr {cs : List Char} (h : '\r' ∉ cs) :
    normalizeNewlines cs = cs := by
  induction cs using normalizeNewlines.induct with
  | case1 => rfl
  | case2 cs _ => exact absurd List.mem_cons_self h
  | case3 c cs hne ih =>
      rw [normalizeNewlines.eq_3 c cs hne, ih fun hmem => h (List.mem_cons_of_mem _ hmem)]
      rw [if_neg]
      rintro rfl
      exact h List.mem_cons_self

theorem not_mem_cr_normalizeNewlines (cs : List Char) : '\r' ∉ normalizeNewlines cs := by
  induction cs using normalizeNewlines.induct with
  | case1 => exact List.not_mem_nil
  | case2 cs ih =>
      intro hmem
      rcases List.mem_cons.mp hmem with hcr | hmem
      · exact absurd hcr (by decide)
      · exact ih hmem
  | case3 c cs hne ih =>
      rw [normalizeNewlines.eq_3 c cs hne]
      intro hmem
      rcases List.mem_cons.mp hmem with hcr | hmem
      · by_cases hc : c = '\r'
        · rw [if_pos hc] at hcr
          exact absurd hcr (by decide)
        · rw [if_neg hc] at hcr
          exact hc hcr.symm
      · exact ih hmem

theorem mem_normalizeNewlines {cs : List Char} {d : Char} (h : d ∈ normalizeNewlines cs) :
    d = '\n' ∨ d ∈ cs := by
  induction cs using normalizeNewlines.induct with
  | case1 => cases h
  | case2 cs ih =>
      rcases List.mem_cons.mp h with hd | hmem
      · exact Or.inl hd
      · rcases ih hmem with hd | hd
        · exact Or.inl hd
        · exact Or.inr (List.mem_cons_of_mem _ (List.mem_cons_of_mem _ hd))
  | case3 c cs hne ih =>
      rw [normalizeNewlines.eq_3 c cs hne] at h
      rcases List.mem_cons.mp h with hd | hmem
      · by_cases hc : c = '\r'
        · rw [if_pos hc] at hd
          exact Or.inl hd
        · rw [if_neg hc] at hd
          exact Or.inr (hd ▸ List.mem_cons_self)
      · rcases ih hmem with hd | hd
        · exact Or.inl hd
        · exact Or.inr (List.mem_cons_of_mem _ hd)

theorem trimMatches_subset (p : Char → Bool) (cs : List Char) : trimMatches p cs ⊆ cs :=
  ((List.rdropWhile_prefix p _).sublist.trans (List.dropWhile_suffix p).sublist).subset

/-! ## Cleaning twice -/

/-- The text `clean_message` truncates. -/
def trimmedMessage (value : String) : List Char :=
  trimMatches isWhitespace (normalizeNewlines (value.toList.filter (· ≠ '\x00')))

/-- The limit cuts the trimmed text right after a whitespace character. -/
def cutAfterSpace (value : String) (limit : Nat) : Bool :=
  0 < limit && (trimmedMessage value)[limit - 1]?.any isWhitespace

theorem cleanMessage_eq (value : String) (limit : Nat) :
    cleanMessage value limit = String.ofList ((trimmedMessage value).take limit) :=
  rfl

theorem toList_cleanMessage (value : String) (limit : Nat) :
    (cleanMessage value limit).toList = (trimmedMessage value).take limit :=
  String.toList_ofList

/-- Only whitespace at the end keeps a cleaned text from being clean. -/
theorem cleanMessage_cleanMessage (value : String) (limit : Nat) :
    cleanMessage (cleanMessage value limit) limit =
      String.ofList (((trimmedMessage value).take limit).rdropWhile isWhitespace) := by
  have hsub : (trimmedMessage value).take limit ⊆ trimmedMessage value := List.take_subset _ _
  have hcr : '\r' ∉ (trimmedMessage value).take limit := fun hmem =>
    not_mem_cr_normalizeNewlines _ (trimMatches_subset _ _ (hsub hmem))
  have hnul : ((trimmedMessage value).take limit).filter (· ≠ '\x00') =
      (trimmedMessage value).take limit := by
    refine List.filter_eq_self.mpr fun c hc => ?_
    rcases mem_normalizeNewlines (trimMatches_subset _ _ (hsub hc)) with rfl | hmem
    · decide
    · exact (List.mem_filter.mp hmem).2
  have hhead : ∀ c, ((trimmedMessage value).take limit).head? = some c →
      isWhitespace c = false := by
    intro c hc
    have hfirst : (trimmedMessage value).head? = some c := by
      cases limit with
      | zero =>
          rw [List.take_zero] at hc
          cases hc
      | succ limit => rwa [List.head?_take, if_neg (Nat.succ_ne_zero limit)] at hc
    exact head_trimMatches hfirst
  have hfits : (((trimmedMessage value).take limit).rdropWhile isWhitespace).length ≤ limit :=
    (List.rdropWhile_prefix _ _).length_le.trans (List.length_take_le _ _)
  rw [cleanMessage, toList_cleanMessage, hnul, normalizeNewlines_of_no_cr hcr, trimMatches_of_head hhead,
    List.take_of_length_le hfits]

theorem getLast_take_trimmedMessage {value : String} {limit : Nat} {c : Char}
    (hlast : ((trimmedMessage value).take limit).getLast? = some c) :
    isWhitespace c = cutAfterSpace value limit := by
  unfold cutAfterSpace
  by_cases hlong : limit ≤ (trimmedMessage value).length
  · -- the last character kept is the one at the limit
    rw [List.getLast?_eq_getElem?, List.length_take, Nat.min_eq_left hlong] at hlast
    cases limit with
    | zero =>
        rw [List.take_zero] at hlast
        cases hlast
    | succ limit =>
        rw [List.getElem?_take_of_lt (Nat.sub_one_lt (Nat.succ_ne_zero limit))] at hlast
        rw [hlast]
        simp
  · -- nothing is cut, and a trimmed text does not end in whitespace
    rw [List.take_of_length_le (by omega)] at hlast
    rw [getLast_trimMatches hlast, List.getElem?_eq_none (by omega)]
    simp

/-- Cleaning keeps a cleaned text exactly when the limit did not cut it after a space. -/
theorem cleanMessage_fixed_iff (value : String) (limit : Nat) :
    cleanMessage (cleanMessage value limit) limit = cleanMessage value limit ↔
      cutAfterSpace value limit = false := by
  rw [cleanMessage_cleanMessage, cleanMessage_eq, String.ofList_inj, List.rdropWhile_eq_self_iff]
  constructor
  · intro hfixed
    cases hkept : (trimmedMessage value).take limit with
    | nil =>
        unfold cutAfterSpace
        rcases List.take_eq_nil_iff.mp hkept with rfl | hnil
        · rfl
        · simp [hnil]
    | cons c cs =>
        have hne : (trimmedMessage value).take limit ≠ [] := by simp [hkept]
        rw [← getLast_take_trimmedMessage (List.getLast?_eq_some_getLast hne)]
        simpa using hfixed hne
  · intro hcut hne
    rw [getLast_take_trimmedMessage (List.getLast?_eq_some_getLast hne), hcut]
    decide

/-! ## Clean texts -/

/-- What cleaning leaves alone, up to the limit. -/
structure CleanText (cs : List Char) : Prop where
  noNul : '\x00' ∉ cs
  noReturn : '\r' ∉ cs
  first : ∀ c ∈ cs.head?, isWhitespace c = false
  last : ∀ c ∈ cs.getLast?, isWhitespace c = false

theorem CleanText.trimmedMessage_eq {value : String} (h : CleanText value.toList) :
    trimmedMessage value = value.toList := by
  have hnul : value.toList.filter (· ≠ '\x00') = value.toList := by
    refine List.filter_eq_self.mpr fun c hc => ?_
    rw [decide_eq_true_eq]
    rintro rfl
    exact h.noNul hc
  rw [trimmedMessage, hnul, normalizeNewlines_of_no_cr h.noReturn, trimMatches_of_head h.first,
    List.rdropWhile_eq_self_iff]
  intro hne
  simp [h.last _ (List.getLast?_eq_some_getLast hne)]

theorem cleanMessage_eq_self_iff {value : String} {limit : Nat} :
    cleanMessage value limit = value ↔
      CleanText value.toList ∧ value.toList.length ≤ limit := by
  constructor
  · intro h
    have htext : value.toList = (trimmedMessage value).take limit := by
      rw [← toList_cleanMessage, h]
    have hsub : value.toList ⊆ trimmedMessage value := by
      rw [htext]
      exact List.take_subset _ _
    have htwice : value.toList.rdropWhile isWhitespace = value.toList := by
      have hagain := cleanMessage_cleanMessage value limit
      rw [h, h, ← htext] at hagain
      exact (congrArg String.toList hagain).trans String.toList_ofList |>.symm
    refine ⟨⟨fun hmem => ?_, fun hmem => ?_, fun c hc => ?_, fun c hc => ?_⟩, ?_⟩
    · rcases mem_normalizeNewlines (trimMatches_subset _ _ (hsub hmem)) with hnl | hfilter
      · exact absurd hnl (by decide)
      · exact absurd (List.mem_filter.mp hfilter).2 (by decide)
    · exact not_mem_cr_normalizeNewlines _ (trimMatches_subset _ _ (hsub hmem))
    · rw [htext, List.head?_take] at hc
      split at hc
      · cases hc
      · exact head_trimMatches hc
    · rw [List.rdropWhile_eq_self_iff] at htwice
      have hne : value.toList ≠ [] := by
        intro hnil
        rw [hnil] at hc
        cases hc
      obtain rfl := Option.some.inj ((List.getLast?_eq_some_getLast hne).symm.trans hc)
      simpa using htwice hne
    · rw [htext]
      exact List.length_take_le _ _
  · rintro ⟨hclean, hfits⟩
    rw [cleanMessage_eq, hclean.trimmedMessage_eq, List.take_of_length_le hfits,
      String.ofList_toList]

end AgentsAssemble.Domain
