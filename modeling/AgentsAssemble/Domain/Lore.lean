import AgentsAssemble.Domain.Persona
import Mathlib.Algebra.BigOperators.Group.Finset.Basic
import Mathlib.Data.Finset.Max

/-!
# Selected lore

What a reader sees of an entry is never longer than the entry, so the loop over
the ranked entries is the greedy choice and its counter does not saturate.  The
scan is a run of rounds that only add.
-/

namespace AgentsAssemble.Domain

open Foundation
open CanonicalJson (Sha256)

/-! ## Visible text -/

theorem sum_cardLines_le (cs : List Char) :
    ((cardLines cs).map fun line => line.length + 1).sum ≤ cs.length + 1 := by
  induction cs using cardLines.induct with
  | case1 => simp [cardLines]
  | case2 rest ih =>
      simp only [cardLines, List.map_cons, List.sum_cons, List.length_cons, List.length_nil]
      omega
  | case3 c rest hcrlf hboundary ih =>
      rw [cardLines.eq_3 c rest hcrlf, if_pos hboundary]
      simp only [List.map_cons, List.sum_cons, List.length_cons, List.length_nil]
      omega
  | case4 c rest hcrlf hboundary hlines =>
      rw [cardLines.eq_3 c rest hcrlf, if_neg hboundary, hlines]
      simp
  | case5 c rest hcrlf hboundary line lines hlines ih =>
      rw [cardLines.eq_3 c rest hcrlf, if_neg hboundary, hlines]
      rw [hlines] at ih
      simp only [List.map_cons, List.sum_cons, List.length_cons] at ih ⊢
      omega

theorem length_intercalate_lt (separator : Char) (line : List Char) (lines : List (List Char)) :
    (List.intercalate [separator] (line :: lines)).length <
      ((line :: lines).map fun line => line.length + 1).sum := by
  induction lines generalizing line with
  | nil => simp [List.intercalate]
  | cons next lines ih =>
      have hnext := ih next
      rw [List.intercalate_cons_cons, List.length_append, List.length_append, List.map_cons,
        List.sum_cons, List.length_singleton]
      omega

/-- What a reader sees of an entry is no longer than what is stored. -/
theorem length_visibleLoreContent_le (entry : PersonaLoreEntry) :
    (visibleLoreContent entry).length ≤ entry.content.toList.length := by
  have hlines := sum_cardLines_le entry.content.toList
  have hsuffix := List.dropWhile_suffix (l := cardLines entry.content.toList)
    fun line => ['@', '@'].isPrefixOf (trimPersonaCardText line)
  have hsum := (hsuffix.sublist.map fun line => line.length + 1).sum_le_sum fun _ _ => Nat.zero_le _
  unfold visibleLoreContent
  cases hdrop : (cardLines entry.content.toList).dropWhile fun line =>
      ['@', '@'].isPrefixOf (trimPersonaCardText line) with
  | nil => exact Nat.zero_le _
  | cons line lines =>
      rw [hdrop] at hsum
      have hlength := length_intercalate_lt '\n' line lines
      omega

/-! ## Occurrences -/

theorem find_eq_none {needle cs : List Char} (h : find needle cs = none) (start : Nat) :
    ¬ needle <+: cs.drop start := by
  induction cs generalizing start with
  | nil =>
      rw [find] at h
      split at h
      · cases h
      · next hneedle =>
          rw [List.drop_nil, List.prefix_nil]
          rintro rfl
          exact hneedle rfl
  | cons c rest ih =>
      rw [find] at h
      split at h
      · cases h
      · next hhere =>
          cases start with
          | zero => exact fun hpre => hhere (List.isPrefixOf_iff_prefix.mpr hpre)
          | succ start => exact ih (Option.map_eq_none_iff.mp h) start

theorem find_eq_some {needle cs : List Char} {first : Nat} (h : find needle cs = some first) :
    needle <+: cs.drop first ∧ ∀ start < first, ¬ needle <+: cs.drop start := by
  induction cs generalizing first with
  | nil =>
      rw [find] at h
      split at h
      · next hneedle =>
          obtain rfl := Option.some.inj h
          rw [List.isEmpty_iff.mp hneedle]
          exact ⟨List.nil_prefix, fun _ hlt => absurd hlt (Nat.not_lt_zero _)⟩
      · cases h
  | cons c rest ih =>
      rw [find] at h
      split at h
      · next hhere =>
          obtain rfl := Option.some.inj h
          exact ⟨List.isPrefixOf_iff_prefix.mp hhere, fun _ hlt => absurd hlt (Nat.not_lt_zero _)⟩
      · next hhere =>
          obtain ⟨later, hlater, rfl⟩ := Option.map_eq_some_iff.mp h
          obtain ⟨hfound, hfirst⟩ := ih hlater
          refine ⟨hfound, fun start hlt => ?_⟩
          cases start with
          | zero => exact fun hpre => hhere (List.isPrefixOf_iff_prefix.mpr hpre)
          | succ start => exact hfirst start (Nat.lt_of_succ_lt_succ hlt)

/-- The loop finds an occurrence that stands alone if there is one, overlapping ones included. -/
theorem wordOccurs_iff [GeneralCategories] {haystack needle : List Char} (hneedle : needle ≠ [])
    {fuel searchFrom : Nat} (hfuel : haystack.length < searchFrom + fuel) :
    wordOccurs haystack needle fuel searchFrom = true ↔
      ∃ start, searchFrom ≤ start ∧ needle <+: haystack.drop start ∧
        hasPythonWordBoundaries haystack start (start + needle.length) = true := by
  induction fuel generalizing searchFrom with
  | zero =>
      refine ⟨fun h => (by cases h), ?_⟩
      rintro ⟨start, hstart, hoccurs, -⟩
      rw [List.drop_eq_nil_of_le (by omega), List.prefix_nil] at hoccurs
      exact absurd hoccurs hneedle
  | succ fuel ih =>
      rw [wordOccurs]
      split
      · next hfind =>
          refine ⟨fun h => (by cases h), ?_⟩
          rintro ⟨start, hstart, hoccurs, -⟩
          refine absurd hoccurs ?_
          have hnone := find_eq_none hfind (start - searchFrom)
          rwa [List.drop_drop, Nat.add_sub_cancel' hstart] at hnone
      · next relativeStart hfind =>
          obtain ⟨hfound, hfirst⟩ := find_eq_some hfind
          rw [List.drop_drop] at hfound
          dsimp only
          split
          · next halone =>
              exact ⟨fun _ => ⟨_, Nat.le_add_right _ _, hfound, halone⟩, fun _ => rfl⟩
          · next hjoined =>
              rw [ih (by omega)]
              constructor
              · rintro ⟨start, hstart, hoccurs⟩
                exact ⟨start, by omega, hoccurs⟩
              · rintro ⟨start, hstart, hoccurs, halone⟩
                refine ⟨start, ?_, hoccurs, halone⟩
                -- An earlier start is no occurrence, and the one just found does not stand alone.
                by_contra hearly
                rcases Nat.lt_or_ge start (searchFrom + relativeStart) with hlt | hge
                · refine hfirst (start - searchFrom) (by omega) ?_
                  rwa [List.drop_drop, Nat.add_sub_cancel' hstart]
                · obtain rfl : start = searchFrom + relativeStart := by omega
                  exact hjoined halone

/-! ## Positions -/

section Positions

variable {n : Nat}

theorem mem_ascending {positions : Finset (Fin n)} {position : Fin n} :
    position ∈ ascending positions ↔ position ∈ positions := by
  simp [ascending]

theorem pairwise_ascending (positions : Finset (Fin n)) :
    (ascending positions).Pairwise (· < ·) :=
  (List.pairwise_lt_finRange n).filter _

theorem nodup_ascending (positions : Finset (Fin n)) : (ascending positions).Nodup :=
  (List.nodup_finRange n).filter _

@[simp] theorem ascending_empty : ascending (∅ : Finset (Fin n)) = [] := by
  simp [ascending]

theorem sum_ascending (positions : Finset (Fin n)) (f : Fin n → Nat) :
    ((ascending positions).map f).sum = ∑ position ∈ positions, f position := by
  have hset : (ascending positions).toFinset = positions := by
    ext position
    rw [List.mem_toFinset, mem_ascending]
  rw [← List.sum_toFinset f (nodup_ascending positions), hset]

theorem filterMap_only {α : Type*} (fallback : Fin n) (f : Fin n → α) :
    ((List.finRange n).filterMap fun position =>
      if position ≠ fallback then none else some (f position)) = [f fallback] := by
  have honly : ∀ positions : List (Fin n), positions.filterMap (fun position =>
      if position ≠ fallback then none else some (f position)) =
        List.replicate (positions.count fallback) (f fallback) := by
    intro positions
    induction positions with
    | nil => rfl
    | cons position positions ih =>
        rw [List.filterMap_cons, ih]
        by_cases h : position = fallback
        · rw [if_neg (not_not_intro h), h, List.count_cons_self, List.replicate_succ]
        · rw [if_pos h, List.count_cons_of_ne h]
  rw [honly, List.count_eq_one_of_mem (List.nodup_finRange n) (List.mem_finRange fallback),
    List.replicate_one]

end Positions

/-! ## The budget -/

section Budget

variable {n : Nat} {length : Fin n → Nat} {charBudget : Nat}

theorem consider_of_fits {fit : LoreFit n} {position : Fin n}
    (hfits : fit.used + length position ≤ charBudget) :
    fit.consider length charBudget position =
      ⟨insert position fit.acceptedPositions, fit.used + length position, fit.fallback⟩ :=
  if_pos ((Nat.min_le_left _ _).trans hfits)

theorem consider_of_not_fits {fit : LoreFit n} {position : Fin n}
    (hcount : fit.used + length position < 2 ^ 64)
    (hfits : ¬ fit.used + length position ≤ charBudget) :
    fit.consider length charBudget position =
      { fit with fallback := fit.fallback.or (some position) } := by
  have hover : ¬ usizeSaturatingAdd fit.used (length position) ≤ charBudget := by
    rw [usizeSaturatingAdd, Nat.min_eq_left (Nat.le_sub_one_of_lt hcount)]
    exact hfits
  rw [LoreFit.consider, if_neg hover]
  cases hfallback : fit.fallback with
  | none => rfl
  | some fallback =>
      obtain ⟨accepted, used, fallback⟩ := fit
      obtain rfl := hfallback
      rfl

/-- The loop over the ranked entries is the greedy choice. -/
theorem foldl_consider (order : List (Fin n)) (fit : LoreFit n) (hused : fit.used ≤ charBudget)
    (hcount : fit.used + (order.map length).sum < 2 ^ 64) :
    (order.foldl (LoreFit.consider length charBudget) fit).acceptedPositions =
      fit.acceptedPositions ∪ (greedy length (charBudget - fit.used) order).toFinset := by
  induction order generalizing fit with
  | nil => simp [greedy]
  | cons position order ih =>
      rw [List.map_cons, List.sum_cons] at hcount
      rw [List.foldl_cons, greedy]
      by_cases hfits : fit.used + length position ≤ charBudget
      · rw [consider_of_fits hfits, ih _ hfits (by dsimp only; omega),
          if_pos (by omega : length position ≤ charBudget - fit.used), List.toFinset_cons,
          Finset.insert_union, Finset.union_insert, Nat.sub_sub]
      · have hrest := ih { fit with fallback := fit.fallback.or (some position) } hused
          (show fit.used + _ < _ by omega)
        rw [consider_of_not_fits (by omega) hfits, hrest,
          if_neg (by omega : ¬ length position ≤ charBudget - fit.used)]

/-- When nothing fits, the fallback is the entry considered first. -/
theorem fallback_foldl_consider (order : List (Fin n)) (fit : LoreFit n)
    (hcount : fit.used + (order.map length).sum < 2 ^ 64)
    (hnone : ∀ position ∈ order, charBudget < fit.used + length position) :
    (order.foldl (LoreFit.consider length charBudget) fit).fallback =
      fit.fallback.or order.head? := by
  induction order generalizing fit with
  | nil => simp
  | cons position order ih =>
      rw [List.map_cons, List.sum_cons] at hcount
      have hover := hnone position List.mem_cons_self
      have hrest := ih { fit with fallback := fit.fallback.or (some position) }
        (show fit.used + _ < _ by omega)
        fun other hother => hnone other (List.mem_cons_of_mem _ hother)
      rw [List.foldl_cons, consider_of_not_fits (by omega) (Nat.not_le.mpr hover), hrest,
        List.head?_cons]
      cases fit.fallback <;> rfl

end Budget

/-- The length of what is shown of an entry. -/
def shownLength (entries : List VisibleLore) (position : Fin entries.length) : Nat :=
  (entries.get position).content.length

/-- What fitting does to the selected entries: which are accepted, and what is returned. -/
structure Fitted (entries : List VisibleLore) (charBudget : Nat)
    (accepted : Finset (Fin entries.length)) (result : List VisibleLore) : Prop where
  within : ∑ position ∈ accepted, shownLength entries position ≤ charBudget
  rejected : ∀ position ∉ accepted, charBudget <
    (∑ other ∈ accepted with loreRank entries other < loreRank entries position,
      shownLength entries other) + shownLength entries position
  whole : accepted.Nonempty → result = (ascending accepted).map entries.get
  cut : accepted = ∅ → ∀ top, (∀ position, loreRank entries top ≤ loreRank entries position) →
    result = [{ entries.get top with content := (entries.get top).content.take charBudget }]

section Fitting

variable (entries : List VisibleLore)

def byPriority : List (Fin entries.length) :=
  (List.finRange entries.length).insertionSort
    fun position other => loreRank entries position ≤ loreRank entries other

theorem loreRank_injective : Function.Injective (loreRank entries) := by
  intro position other h
  have hplace := congrArg (fun rank => (ofLex (ofLex rank).2).2) h
  exact Fin.ext hplace

theorem perm_byPriority : (byPriority entries).Perm (List.finRange entries.length) :=
  List.perm_insertionSort _ _

theorem mem_byPriority (position : Fin entries.length) : position ∈ byPriority entries :=
  (perm_byPriority entries).mem_iff.mpr (List.mem_finRange position)

theorem nodup_byPriority : (byPriority entries).Nodup :=
  (perm_byPriority entries).nodup_iff.mpr (List.nodup_finRange _)

theorem pairwise_byPriority : (byPriority entries).Pairwise
    fun position other => loreRank entries position < loreRank entries other := by
  have hsorted := List.pairwise_insertionSort
    (fun position other => loreRank entries position ≤ loreRank entries other)
    (List.finRange entries.length)
  exact (hsorted.and (nodup_byPriority entries)).imp fun ⟨hle, hne⟩ =>
    lt_of_le_of_ne hle fun heq => hne (loreRank_injective entries heq)

theorem head_byPriority {top : Fin entries.length}
    (htop : ∀ position, loreRank entries top ≤ loreRank entries position) :
    (byPriority entries).head? = some top := by
  have hsorted := pairwise_byPriority entries
  have hmem := mem_byPriority entries top
  cases horder : byPriority entries with
  | nil =>
      rw [horder] at hmem
      cases hmem
  | cons first rest =>
      rw [horder] at hsorted hmem
      rcases List.mem_cons.mp hmem with rfl | hrest
      · rfl
      · exact absurd ((List.pairwise_cons.mp hsorted).1 top hrest) (not_lt_of_ge (htop first))

/-- Some entry ranks first, unless there is none. -/
theorem exists_top : entries = [] ∨
    ∃ top, ∀ position, loreRank entries top ≤ loreRank entries position := by
  cases hlength : entries with
  | nil => exact Or.inl rfl
  | cons first rest =>
      obtain ⟨top, -, htop⟩ := Finset.exists_min_image Finset.univ (loreRank (first :: rest))
        ⟨⟨0, Nat.zero_lt_succ _⟩, Finset.mem_univ _⟩
      exact Or.inr ⟨top, fun position => htop position (Finset.mem_univ position)⟩

theorem fitLoreBudget_nil (charBudget : Nat) : fitLoreBudget [] charBudget = [] := by
  simp [fitLoreBudget]

theorem fitLoreBudget_zero : fitLoreBudget entries 0 = [] :=
  if_pos rfl

theorem sum_byPriority : ((byPriority entries).map (shownLength entries)).sum =
    (entries.map fun lore => lore.content.length).sum := by
  rw [((perm_byPriority entries).map _).sum_eq]
  calc ((List.finRange entries.length).map (shownLength entries)).sum
      = (((List.finRange entries.length).map entries.get).map
          fun lore => lore.content.length).sum := by rw [List.map_map]; rfl
    _ = (entries.map fun lore => lore.content.length).sum := by rw [List.map_get_finRange]

/-- The state of the loop after the last entry. -/
def loreFit (charBudget : Nat) : LoreFit entries.length :=
  (byPriority entries).foldl (LoreFit.consider (shownLength entries) charBudget) ⟨∅, 0, none⟩

variable {entries} {charBudget : Nat}

theorem fitLoreBudget_pos (hbudget : 0 < charBudget) : fitLoreBudget entries charBudget =
    if (loreFit entries charBudget).acceptedPositions = ∅ then
      match (loreFit entries charBudget).fallback with
      | none => []
      | some fallback =>
          (List.finRange entries.length).filterMap fun position =>
            if position ≠ fallback then
              none
            else
              some { entries.get position with
                content := (entries.get position).content.take charBudget }
    else
      (ascending (loreFit entries charBudget).acceptedPositions).map entries.get :=
  if_neg (Nat.ne_of_gt hbudget)

section Counted

variable (hcount : (entries.map fun lore => lore.content.length).sum < 2 ^ 64)

include hcount

theorem acceptedPositions_loreFit : (loreFit entries charBudget).acceptedPositions =
    (greedy (shownLength entries) charBudget (byPriority entries)).toFinset := by
  refine (foldl_consider (byPriority entries) ⟨∅, 0, none⟩ (Nat.zero_le _)
    (by rwa [Nat.zero_add, sum_byPriority])).trans ?_
  exact Finset.empty_union _

theorem fallback_loreFit
    (hnone : greedy (shownLength entries) charBudget (byPriority entries) = []) :
    (loreFit entries charBudget).fallback = (byPriority entries).head? := by
  refine (fallback_foldl_consider (byPriority entries) ⟨∅, 0, none⟩
    (by rwa [Nat.zero_add, sum_byPriority]) fun position hposition => ?_).trans Option.none_or
  rw [Nat.zero_add]
  exact lt_of_greedy_eq_nil hnone hposition

theorem fitLoreBudget_fitted (hbudget : 0 < charBudget) :
    ∃ accepted, Fitted entries charBudget accepted (fitLoreBudget entries charBudget) := by
  have hnodup : (greedy (shownLength entries) charBudget (byPriority entries)).Nodup :=
    (greedy_sublist _ _).nodup (nodup_byPriority entries)
  refine ⟨(loreFit entries charBudget).acceptedPositions, ⟨?_, ?_, ?_, ?_⟩⟩
  · have hspent := sum_greedy_le (shownLength entries) charBudget (byPriority entries)
    rwa [← List.sum_toFinset _ hnodup, ← acceptedPositions_loreFit hcount] at hspent
  · intro position hposition
    rw [acceptedPositions_loreFit hcount, List.mem_toFinset] at hposition
    have hover := lt_of_not_mem_greedy (pairwise_byPriority entries)
      (mem_byPriority entries position) hposition
    rw [← List.sum_toFinset _ (hnodup.filter _), List.toFinset_filter,
      ← acceptedPositions_loreFit hcount] at hover
    simpa only [decide_eq_true_eq] using hover
  · intro hsome
    rw [fitLoreBudget_pos hbudget, if_neg hsome.ne_empty]
  · intro hnone top htop
    have hempty : greedy (shownLength entries) charBudget (byPriority entries) = [] := by
      rwa [acceptedPositions_loreFit hcount, List.toFinset_eq_empty_iff] at hnone
    rw [fitLoreBudget_pos hbudget, if_pos hnone, fallback_loreFit hcount hempty,
      head_byPriority entries htop]
    exact filterMap_only top fun position =>
      { entries.get position with content := (entries.get position).content.take charBudget }

theorem length_fitLoreBudget_le :
    ((fitLoreBudget entries charBudget).map fun lore => lore.content.length).sum ≤ charBudget := by
  rcases Nat.eq_zero_or_pos charBudget with rfl | hbudget
  · rw [fitLoreBudget_zero]
    exact Nat.le_refl 0
  obtain ⟨accepted, hfitted⟩ := fitLoreBudget_fitted hcount hbudget
  rcases accepted.eq_empty_or_nonempty with hnone | hsome
  · obtain rfl | ⟨top, htop⟩ := exists_top entries
    · rw [fitLoreBudget_nil]
      exact Nat.zero_le _
    · rw [hfitted.cut hnone top htop]
      simp
  · rw [hfitted.whole hsome, List.map_map]
    exact (sum_ascending accepted (shownLength entries)).trans_le hfitted.within

theorem fitLoreBudget_ne_nil (hbudget : 0 < charBudget) (hne : entries ≠ []) :
    fitLoreBudget entries charBudget ≠ [] := by
  obtain ⟨accepted, hfitted⟩ := fitLoreBudget_fitted hcount hbudget
  rcases accepted.eq_empty_or_nonempty with hnone | hsome
  · obtain ⟨top, htop⟩ := (exists_top entries).resolve_left hne
    rw [hfitted.cut hnone top htop]
    exact List.cons_ne_nil _ _
  · obtain ⟨position, hposition⟩ := hsome
    rw [hfitted.whole ⟨position, hposition⟩]
    exact List.ne_nil_of_mem (List.mem_map_of_mem (mem_ascending.mpr hposition))

/-- Fitting leaves entries out and never moves them. -/
theorem fitLoreBudget_sublist (charBudget : Nat) : ((fitLoreBudget entries charBudget).map VisibleLore.entry).Sublist
    (entries.map VisibleLore.entry) := by
  rcases Nat.eq_zero_or_pos charBudget with rfl | hbudget
  · rw [fitLoreBudget_zero]
    exact List.nil_sublist _
  obtain ⟨accepted, hfitted⟩ := fitLoreBudget_fitted hcount hbudget
  rcases accepted.eq_empty_or_nonempty with hnone | hsome
  · obtain rfl | ⟨top, htop⟩ := exists_top entries
    · rw [fitLoreBudget_nil]
    · rw [hfitted.cut hnone top htop]
      refine List.singleton_sublist.mpr (List.mem_map.mpr ⟨entries.get top, ?_, rfl⟩)
      exact List.getElem_mem top.isLt
  · rw [hfitted.whole hsome]
    refine List.Sublist.map _ ?_
    have hsub := (List.filter_sublist (p := (· ∈ accepted)) (l := List.finRange entries.length)).map
      entries.get
    rwa [List.map_get_finRange] at hsub

end Counted

end Fitting

/-! ## The scan -/

section Scan

theorem enabled_of_loreMatches [GeneralCategories] [CaseFold] [Sha256] {entry : PersonaLoreEntry}
    {context foldedContext : List Char} {hasRecentMessage defaultFullWord : Bool} {index : Nat}
    (h : loreMatches entry context foldedContext hasRecentMessage defaultFullWord index = true) :
    entry.enabled = true := by
  unfold loreMatches at h
  split at h
  · cases h
  · next hguard =>
      refine Bool.of_not_eq_false fun hdisabled => hguard ?_
      rw [hdisabled]
      rfl

variable [GeneralCategories] [CaseFold] [Sha256] (card : PersonaCard) (recentRoomContext : String)

/-- An entry matches the recent text together with what was selected so far. -/
def LoreMatched (selected : Finset (Fin card.lorebook.length))
    (index : Fin card.lorebook.length) : Prop :=
  let searchText := loreSearchText card recentRoomContext selected
  loreMatches (card.lorebook.get index) searchText (defaultCaseFoldStr (String.ofList searchText)).toList
    (!recentRoomContext.isEmpty) card.loreSettings.fullWordMatching index = true

instance (selected : Finset (Fin card.lorebook.length)) :
    DecidablePred (LoreMatched card recentRoomContext selected) :=
  fun _ => inferInstanceAs (Decidable (_ = true))

/-- One round: everything that matches is selected as well. -/
def growLore (selected : Finset (Fin card.lorebook.length)) : Finset (Fin card.lorebook.length) :=
  selected ∪ Finset.univ.filter (LoreMatched card recentRoomContext selected)

theorem subset_growLore (selected : Finset (Fin card.lorebook.length)) :
    selected ⊆ growLore card recentRoomContext selected :=
  Finset.subset_union_left

omit [GeneralCategories] [CaseFold] [Sha256] in
theorem loreSearchText_empty : loreSearchText card recentRoomContext ∅ = recentRoomContext.toList := by
  simp [loreSearchText]

omit [GeneralCategories] [CaseFold] [Sha256] in
theorem foldl_round {n : Nat} (hit : Fin n → Bool) (indexes : List (Fin n))
    (selected : Finset (Fin n)) (added : Bool) :
    indexes.foldl
      (fun (selected, added) index =>
        if index ∉ selected ∧ hit index then (insert index selected, true) else (selected, added))
      (selected, added) =
      (selected ∪ indexes.toFinset.filter (hit ·),
        added || decide (selected ∪ indexes.toFinset.filter (hit ·) ≠ selected)) := by
  induction indexes generalizing selected added with
  | nil => simp
  | cons index indexes ih =>
      rw [List.foldl_cons, List.toFinset_cons, Finset.filter_insert]
      by_cases hnew : index ∉ selected ∧ hit index
      · have hmore : selected ∪ insert index (indexes.toFinset.filter (hit ·)) ≠ selected := by
          intro hsame
          refine hnew.1 (hsame ▸ ?_)
          exact Finset.mem_union_right _ (Finset.mem_insert_self _ _)
        dsimp only
        rw [if_pos hnew, ih, if_pos hnew.2, Finset.insert_union, ← Finset.union_insert,
          Bool.true_or, decide_eq_true hmore, Bool.or_true]
      · have hold : selected ∪ (if hit index = true then
            insert index (indexes.toFinset.filter (hit ·)) else indexes.toFinset.filter (hit ·)) =
            selected ∪ indexes.toFinset.filter (hit ·) := by
          split
          · next hhit =>
              have hmem : index ∈ selected := by
                by_contra hmem
                exact hnew ⟨hmem, hhit⟩
              rw [Finset.union_insert, Finset.insert_eq_of_mem (Finset.mem_union_left _ hmem)]
          · rfl
        dsimp only
        rw [if_neg hnew, ih, hold]

/-- What a round of the loop adds to, entry by entry. -/
theorem union_matching (selected : Finset (Fin card.lorebook.length)) :
    selected ∪ ((List.finRange card.lorebook.length).toFinset.filter fun index =>
      loreMatches (card.lorebook.get index) (loreSearchText card recentRoomContext selected)
        (defaultCaseFoldStr
          (String.ofList (loreSearchText card recentRoomContext selected))).toList
        (!recentRoomContext.isEmpty) card.loreSettings.fullWordMatching index = true) =
      growLore card recentRoomContext selected := by
  ext index
  simp [growLore, LoreMatched]

/-- The scan is a run of rounds. -/
theorem loreScan_eq_saturate (rounds : Nat) (selected : Finset (Fin card.lorebook.length)) :
    loreScan card recentRoomContext rounds selected
        (loreSearchText card recentRoomContext selected) =
      saturate (growLore card recentRoomContext) rounds selected := by
  induction rounds generalizing selected with
  | zero => rfl
  | succ rounds ih =>
      rw [loreScan, saturate]
      dsimp only
      rw [foldl_round, union_matching]
      dsimp only
      rw [Bool.false_or]
      by_cases hfixed : growLore card recentRoomContext selected = selected
      · rw [if_pos hfixed, if_pos (by simp [hfixed]), hfixed]
      · rw [if_neg hfixed, if_neg (by simp [hfixed]), ih]

theorem selectedLore_eq_saturate : selectedLore card recentRoomContext =
    saturate (growLore card recentRoomContext) card.loreSettings.rounds ∅ := by
  rw [← loreScan_eq_saturate, loreSearchText_empty]
  rfl

/-! ## Order -/

theorem perm_orderedLore : (orderedLore card recentRoomContext).Perm
    (ascending (selectedLore card recentRoomContext)) :=
  List.perm_insertionSort _ _

theorem mem_orderedLore {index : Fin card.lorebook.length} :
    index ∈ orderedLore card recentRoomContext ↔ index ∈ selectedLore card recentRoomContext := by
  rw [(perm_orderedLore card recentRoomContext).mem_iff, mem_ascending]

omit [GeneralCategories] [CaseFold] [Sha256] in
theorem insertKey_injective : Function.Injective (insertKey card) := by
  intro index other h
  have hplace := congrArg (fun key => (ofLex key).2) h
  exact Fin.ext hplace

theorem pairwise_orderedLore : (orderedLore card recentRoomContext).Pairwise
    fun index other => insertKey card index < insertKey card other := by
  have hsorted := List.pairwise_insertionSort
    (fun index other => insertKey card index ≤ insertKey card other)
    (ascending (selectedLore card recentRoomContext))
  have hnodup : (orderedLore card recentRoomContext).Nodup :=
    (perm_orderedLore card recentRoomContext).nodup_iff.mpr (nodup_ascending _)
  exact (hsorted.and hnodup).imp fun ⟨hle, hne⟩ =>
    lt_of_le_of_ne hle fun heq => hne (insertKey_injective card heq)

/-- The selected entries as they are shown, before the budget. -/
def visibleEntries : List VisibleLore :=
  (orderedLore card recentRoomContext).map fun index => visibleLore (card.lorebook.get index)

/-- The shown characters of a card in memory can be counted. -/
theorem sum_visibleEntries_lt :
    ((visibleEntries card recentRoomContext).map fun lore => lore.content.length).sum < 2 ^ 64 := by
  let stored := fun index : Fin card.lorebook.length => (card.lorebook.get index).content.toList.length
  have hall : (List.finRange card.lorebook.length).map stored =
      card.lorebook.map fun entry => entry.content.toList.length := by
    conv_rhs => rw [← List.map_get_finRange card.lorebook, List.map_map]
    rfl
  calc ((visibleEntries card recentRoomContext).map fun lore => lore.content.length).sum
      = ((orderedLore card recentRoomContext).map fun index =>
          (visibleLoreContent (card.lorebook.get index)).length).sum := by
        rw [visibleEntries, List.map_map]
        rfl
    _ ≤ ((orderedLore card recentRoomContext).map stored).sum :=
        List.sum_le_sum fun index _ => length_visibleLoreContent_le (card.lorebook.get index)
    _ = ((ascending (selectedLore card recentRoomContext)).map stored).sum :=
        ((perm_orderedLore card recentRoomContext).map stored).sum_eq
    _ ≤ ((List.finRange card.lorebook.length).map stored).sum :=
        (List.filter_sublist.map stored).sum_le_sum fun _ _ => Nat.zero_le _
    _ < 2 ^ 64 := hall ▸ card.resident

/-- The same card with another scan depth. -/
abbrev withScanDepth (scanDepth : Nat) : PersonaCard :=
  { card with loreSettings := { card.loreSettings with scanDepth } }

/-- A scan that may go deeper selects no less. -/
theorem selectedLore_mono {few many : Nat} (h : few ≤ many) :
    selectedLore (withScanDepth card few) recentRoomContext ⊆
      selectedLore (withScanDepth card many) recentRoomContext := by
  have hrounds : (withScanDepth card few).loreSettings.rounds ≤
      (withScanDepth card many).loreSettings.rounds := by
    unfold PersonaLoreSettings.rounds
    dsimp only
    split
    · omega
    · exact Nat.le_refl _
  rw [selectedLore_eq_saturate, selectedLore_eq_saturate]
  exact saturate_mono (subset_growLore _ recentRoomContext) hrounds ∅

omit [GeneralCategories] [CaseFold] [Sha256] in
theorem rounds_le (settings : PersonaLoreSettings) : settings.rounds ≤ maxRecursiveScanDepth := by
  unfold PersonaLoreSettings.rounds maxRecursiveScanDepth
  split <;> omega

/-- Lore selection: what is shown stands in order and once, fits, and was refused only for want
of room; the scan only adds and stops by itself or at its depth. -/
theorem active_lore_selected (charBudget : Nat) :
    (∃ shown : List (Fin card.lorebook.length),
      (activeLore card recentRoomContext charBudget).map VisibleLore.entry =
        shown.map card.lorebook.get ∧
      shown.Pairwise (fun index other => insertKey card index < insertKey card other) ∧
      ∀ index ∈ shown, (card.lorebook.get index).enabled = true ∧
        ∃ before ⊆ selectedLore card recentRoomContext,
          index ∉ before ∧ LoreMatched card recentRoomContext before index) ∧
    ((activeLore card recentRoomContext charBudget).map fun lore => lore.content.length).sum ≤
      charBudget ∧
    (charBudget = 0 → activeLore card recentRoomContext charBudget = []) ∧
    (0 < charBudget → ∃ accepted, Fitted (visibleEntries card recentRoomContext) charBudget accepted
      (activeLore card recentRoomContext charBudget)) ∧
    (0 < charBudget → (selectedLore card recentRoomContext).Nonempty →
      activeLore card recentRoomContext charBudget ≠ []) ∧
    (∀ few many, few ≤ many → selectedLore (withScanDepth card few) recentRoomContext ⊆
      selectedLore (withScanDepth card many) recentRoomContext) ∧
    ∃ rounds ≤ card.loreSettings.rounds, card.loreSettings.rounds ≤ maxRecursiveScanDepth ∧
      Grows (growLore card recentRoomContext) ∅ rounds (selectedLore card recentRoomContext) ∧
      (rounds < card.loreSettings.rounds → ∀ index,
        LoreMatched card recentRoomContext (selectedLore card recentRoomContext) index →
          index ∈ selectedLore card recentRoomContext) := by
  have hcount := sum_visibleEntries_lt card recentRoomContext
  obtain ⟨rounds, hrounds, hgrows, hfixed⟩ :=
    saturate_grows (growLore card recentRoomContext) card.loreSettings.rounds ∅
  rw [← selectedLore_eq_saturate] at hgrows hfixed
  refine ⟨?_, length_fitLoreBudget_le hcount, fun hnone => hnone ▸ fitLoreBudget_zero _,
    fitLoreBudget_fitted hcount,
    fun hbudget hsome => fitLoreBudget_ne_nil hcount hbudget ?_,
    fun few many h => selectedLore_mono card recentRoomContext h,
    rounds, hrounds, rounds_le _, hgrows, fun hearly index hmatched => ?_⟩
  · have hsub := fitLoreBudget_sublist hcount charBudget
    rw [visibleEntries, List.map_map] at hsub
    obtain ⟨shown, hshown, hentries⟩ := List.sublist_map_iff.mp hsub
    refine ⟨shown, hentries, (pairwise_orderedLore card recentRoomContext).sublist hshown,
      fun index hindex => ?_⟩
    have hselected := (mem_orderedLore card recentRoomContext).mp (hshown.subset hindex)
    obtain hempty | ⟨before, hbefore, hnew, hadded⟩ :=
      hgrows.added (subset_growLore card recentRoomContext) hselected
    · cases hempty
    · have hmatched : LoreMatched card recentRoomContext before index := by
        simpa [growLore, hnew] using hadded
      exact ⟨enabled_of_loreMatches hmatched, before, hbefore, hnew, hmatched⟩
  · obtain ⟨index, hindex⟩ := hsome
    have hmem := (mem_orderedLore card recentRoomContext).mpr hindex
    exact List.ne_nil_of_mem (List.mem_map_of_mem hmem)
  · rw [← hfixed hearly]
    exact Finset.mem_union_right _ (Finset.mem_filter.mpr ⟨Finset.mem_univ _, hmatched⟩)

end Scan

namespace HarborSample

/-- Tables for ASCII texts. -/
scoped instance : GeneralCategories where
  getGeneralCategory c :=
    if c.isUpper then .uppercaseLetter
    else if c.isLower then .lowercaseLetter
    else if c.isDigit then .decimalNumber
    else .otherPunctuation

scoped instance : CaseFold where
  defaultCaseFoldStr text := String.ofList (text.toList.map Char.toLower)

/-- No entry of the card below is drawn. -/
scoped instance : Sha256 where
  digest _ := List.replicate 32 0

def lore (key content : String) : PersonaLoreEntry :=
  { key, content
    secondaryKey := ""
    alwaysActive := false
    selective := false
    useRegex := false
    insertOrder := 0
    enabled := true
    caseSensitive := false
    priority := 0 }

/-- The content of the first entry names the second. -/
def harborCard : PersonaCard where
  lorebook := [lore "harbor" "A silver key is visible.", lore "silver key" "The vault opens."]
  loreSettings := ⟨2, true, false⟩
  resident := by decide

end HarborSample

open HarborSample in
theorem harbor_lore_selected :
    activeLore harborCard "harbor" 3600 ≠ [] ∧
      selectedLore (withScanDepth harborCard 1) "harbor" ⊆
        selectedLore (withScanDepth harborCard 2) "harbor" := by
  obtain ⟨-, -, -, -, hne, hmono, -⟩ := active_lore_selected harborCard "harbor" 3600
  exact ⟨hne (by decide) ⟨⟨0, by decide⟩, by decide +kernel⟩, hmono 1 2 (by decide)⟩

open HarborSample in
example : (selectedLore (withScanDepth harborCard 1) "harbor").card = 1 ∧
    (selectedLore harborCard "harbor").card = 2 := by
  decide +kernel

end AgentsAssemble.Domain
