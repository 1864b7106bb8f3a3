import AgentsAssemble.Domain.Folding
import AgentsAssemble.System.Polls
import AgentsAssemble.Wire.VotePayloads

/-!
# Ballot choices

A ballot names an option by its text, up to case, or by its number.  The options
of a stored poll are clean and fold to different texts, which is what keeps the
two readings apart.
-/

namespace AgentsAssemble.System

open Foundation Domain Persistence

/-- The numbers a poll can have are clean texts that read back. -/
theorem number_text : ∀ n < maxVoteOptions + 1, cleanMessage (toString n) 200 = toString n ∧
    hasVisibleText (toString n) = true ∧ parseUsize (toString n) = some n ∧
    (toString n).toList.all isPlain = true := by
  decide +kernel

section Choices

variable [CaseFold]

/-- What `pollDefinition` accepts: the options as the decoder keeps them, and clean already. -/
structure StoredOptions (options : List String) : Prop where
  distinct : Wire.DistinctOptions options
  clean : ∀ option ∈ options, cleanMessage option voteOptionCharacterLimit = option

theorem storedOptions_of_pollDefinition {event : RoomEvent} {definition : VoteDefinition}
    (h : pollDefinition event = .ok definition) : StoredOptions definition.options := by
  unfold pollDefinition at h
  split at h
  · cases h
  split at h
  · rename_i question options duration deadline _ _ _ _
    split at h
    · cases h
    · rename_i poll hpoll
      dsimp only at h
      split at h
      · cases h
      · next hsame =>
          simp only [not_or, Decidable.not_not] at hsame
          obtain rfl := Except.ok.inj h
          have hparsed := (Wire.domain_parseCreate_ok hpoll).2
          rw [← hsame.2.1] at hparsed
          have hempty : Wire.DistinctOptions [] :=
            ⟨fun option hmem => absurd hmem List.not_mem_nil, List.nodup_nil, Nat.zero_le _⟩
          have hdistinct := Wire.parseOptions_go_distinct hempty hparsed
          exact ⟨hdistinct, (Wire.parseOptions_fixed_iff hdistinct).mp hparsed⟩
  · cases h

/-- Clean options that fold differently make a poll, whatever else it says. -/
theorem StoredOptions.cleanText {options : List String} (h : StoredOptions options)
    {option : String} (hoption : option ∈ options) :
    CleanText option.toList ∧ option.toList.length ≤ voteOptionCharacterLimit :=
  cleanMessage_eq_self_iff.mp (h.clean option hoption)

/-- A clean visible text is looked up as it stands. -/
theorem resolveVoteChoice_of_clean {text : String} {options : List String}
    (hclean : cleanMessage text 200 = text) (hvisible : hasVisibleText text = true) :
    resolveVoteChoice text options =
      match options.find? fun option => defaultCaseFoldStr option == defaultCaseFoldStr text with
      | some option => some option
      | none =>
          match parseUsize text with
          | none => none
          | some 0 => none
          | some (index + 1) => options[index]? := by
  unfold resolveVoteChoice
  simp only [hclean, hvisible]
  rfl

/-- A ballot is read by its cleaned text. -/
theorem resolveVoteChoice_congr {text other : String} (options : List String)
    (h : cleanMessage text 200 = cleanMessage other 200) :
    resolveVoteChoice text options = resolveVoteChoice other options := by
  unfold resolveVoteChoice
  rw [h]

/-- The option found by its folding is the only one with that folding. -/
theorem find_folded {options : List String} (hdistinct : (options.map defaultCaseFoldStr).Nodup)
    {option text : String} (hoption : option ∈ options)
    (hfold : defaultCaseFoldStr text = defaultCaseFoldStr option) :
    options.find? (fun other => defaultCaseFoldStr other == defaultCaseFoldStr text) =
      some option := by
  cases hfind : options.find? fun other => defaultCaseFoldStr other == defaultCaseFoldStr text with
  | none =>
      have hnone := List.find?_eq_none.mp hfind option hoption
      simp [hfold] at hnone
  | some other =>
      have hsame : defaultCaseFoldStr other = defaultCaseFoldStr text := by
        simpa using List.find?_some hfind
      have hmem := List.mem_of_find?_eq_some hfind
      rw [List.inj_on_of_nodup_map hdistinct hmem hoption (hsame.trans hfold)]

theorem resolveVoteChoice_mem {text option : String} {options : List String}
    (h : resolveVoteChoice text options = some option) : option ∈ options := by
  unfold resolveVoteChoice at h
  dsimp only at h
  split at h
  · cases h
  split at h
  · rename_i found hfound
    obtain rfl := Option.some.inj h
    exact List.mem_of_find?_eq_some hfound
  · split at h
    · cases h
    · cases h
    · exact List.mem_of_getElem? h

/-- The place of an option that a ballot names, in the poll and in its tallies. -/
theorem resolved_index {s : Store} {voteId : String} {stored : StoredVote}
    (hstored : storedVoteOf s voteId = .ok stored) {text option : String}
    (h : resolveVoteChoice text stored.definition.options = some option) :
    ∃ index, stored.definition.options.findIdx? (· == option) = some index ∧
      index < stored.tallies.length := by
  obtain ⟨row, hread⟩ := storedVoteOf_ok hstored
  have hmem := resolveVoteChoice_mem h
  cases hindex : stored.definition.options.findIdx? (· == option) with
  | none =>
      have hnone := List.findIdx?_eq_none_iff.mp hindex option hmem
      simp at hnone
  | some index =>
      obtain ⟨hlt, -⟩ := List.findIdx?_eq_some_iff_getElem.mp hindex
      refine ⟨index, rfl, ?_⟩
      rwa [hread.tallies, hread.options]

theorem ballot_index {s : Store} {voteId participantId : String} {stored : StoredVote}
    (hstored : storedVoteOf s voteId = .ok stored) {index : Nat}
    (h : ballotOf s participantId stored = .ok (some index)) :
    index < stored.tallies.length := by
  obtain ⟨row, hread⟩ := storedVoteOf_ok hstored
  unfold ballotOf at h
  split at h
  · cases h
  split at h
  · next hlt =>
      obtain rfl := Option.some.inj (Except.ok.inj h)
      rwa [hread.tallies, hread.options]
  · cases h

section Folding

variable [LawfulCaseFold]

/-- A text that folds like an option and is not cut names that option. -/
theorem StoredOptions.resolve_folded {options : List String} (h : StoredOptions options)
    {option text : String} (hoption : option ∈ options)
    (hfold : defaultCaseFoldStr text = defaultCaseFoldStr option)
    (hlength : text.toList.length ≤ 200) : resolveVoteChoice text options = some option := by
  have hchars := fold_eq_iff.mp hfold
  have hclean : cleanMessage text 200 = text :=
    cleanMessage_eq_self_iff.mpr ⟨(h.cleanText hoption).1.of_fold hchars, hlength⟩
  have hvisible : hasVisibleText text = true :=
    any_isVisible_of_fold (h.distinct.visible option hoption) hchars
  rw [resolveVoteChoice_of_clean hclean hvisible, find_folded h.distinct.distinct hoption hfold]

theorem StoredOptions.resolve_option {options : List String} (h : StoredOptions options)
    {option : String} (hoption : option ∈ options) :
    resolveVoteChoice option options = some option := by
  refine h.resolve_folded hoption rfl ((h.cleanText hoption).2.trans ?_)
  decide

/-- A number that no option spells names the option at its place. -/
theorem StoredOptions.resolve_number {options : List String} (h : StoredOptions options)
    {index : Nat} {option : String} (hoption : options[index]? = some option)
    (hspelled : toString (index + 1) ∉ options) :
    resolveVoteChoice (toString (index + 1)) options = some option := by
  have hindex : index < options.length := (List.getElem?_eq_some_iff.mp hoption).1
  obtain ⟨hclean, hvisible, hparse, hplain⟩ := number_text (index + 1)
    (Nat.succ_lt_succ (hindex.trans_le h.distinct.bounded))
  rw [List.all_eq_true] at hplain
  have hnone : options.find? (fun other =>
      defaultCaseFoldStr other == defaultCaseFoldStr (toString (index + 1))) = none := by
    refine List.find?_eq_none.mpr fun other hother hsame => hspelled ?_
    have hchars := fold_eq_iff.mp (eq_of_beq hsame)
    rwa [← String.toList_inj.mp (eq_of_fold_plain hplain hchars)]
  rw [resolveVoteChoice_of_clean hclean hvisible, hnone, hparse]
  exact hoption

/-- Every option, every uncut text that folds like it and every number no option spells name the
option they should; whatever a ballot names is an option, with a place in the tallies. -/
theorem stored_poll_choices {event : RoomEvent} {definition : VoteDefinition}
    (h : pollDefinition event = .ok definition) :
    (∀ option ∈ definition.options,
      resolveVoteChoice option definition.options = some option) ∧
    (∀ option ∈ definition.options, ∀ text,
      defaultCaseFoldStr text = defaultCaseFoldStr option → text.toList.length ≤ 200 →
        resolveVoteChoice text definition.options = some option) ∧
    (∀ n option, 1 ≤ n → definition.options[n - 1]? = some option →
      toString n ∉ definition.options →
        resolveVoteChoice (toString n) definition.options = some option) ∧
    (∀ text option, resolveVoteChoice text definition.options = some option →
      option ∈ definition.options) ∧
    ∀ s voteId stored, storedVoteOf s voteId = .ok stored → stored.definition = definition →
      (∀ text option, resolveVoteChoice text definition.options = some option →
        ∃ index, definition.options.findIdx? (· == option) = some index ∧
          index < stored.tallies.length) ∧
      ∀ participantId index, ballotOf s participantId stored = .ok (some index) →
        index < stored.tallies.length := by
  have hoptions := storedOptions_of_pollDefinition h
  refine ⟨fun option hoption => hoptions.resolve_option hoption,
    fun option hoption text hfold hlength => hoptions.resolve_folded hoption hfold hlength,
    fun n option hn hoption hspelled => ?_, fun text option => resolveVoteChoice_mem, ?_⟩
  · obtain ⟨index, rfl⟩ := Nat.exists_eq_add_of_le' hn
    exact hoptions.resolve_number hoption hspelled
  · rintro s voteId stored hstored rfl
    exact ⟨fun text option hresolved => resolved_index hstored hresolved,
      fun participantId index hballot => ballot_index hstored hballot⟩

end Folding

end Choices

/-! ## A text that is cut -/

/-- The folding of the letters in these texts. -/
def greekFoldChar (c : Char) : List Char :=
  if c = '\u0390' then ['\u03B9', '\u0308', '\u0301'] else [c]

@[reducible] def greekFold : CaseFold where
  defaultCaseFoldStr text := String.ofList (text.toList.flatMap greekFoldChar)

@[reducible] def lawfulGreekFold : @LawfulCaseFold greekFold :=
  let _ := greekFold
  { foldChar := greekFoldChar
    fold_eq := fun text => String.toList_ofList
    foldChar_ne_nil := fun c => by
      unfold greekFoldChar
      split <;> simp
    foldChar_plain := fun c hc => by
      unfold greekFoldChar
      split
      · next h => rw [h] at hc; exact absurd hc (by decide)
      · rfl
    plain_of_mem := fun c d hd hplain => by
      unfold greekFoldChar at hd
      split at hd
      · simp only [List.mem_cons, List.not_mem_nil, or_false] at hd
        rcases hd with rfl | rfl | rfl <;> exact absurd hplain (by decide)
      · exact (List.mem_singleton.mp hd).symm }

/-- The event of an open-ended poll. -/
def pollEvent (options : List String) : RoomEvent :=
  { id := "poll"
    seq := 1
    createdAt := 0
    eventType := "message_final"
    actor := ⟨"owner", "human"⟩
    messageKind := some "vote"
    extra :=
      { voteQuestion := some "Now?"
        voteOptions := some options
        voteDurationSeconds := some 0
        voteDeadlineAt := some none } }

theorem numbered_choice_resolved :
    @resolveVoteChoice greekFold "2" ["Yes", "No"] = some "No" :=
  (@stored_poll_choices greekFold lawfulGreekFold (pollEvent ["Yes", "No"])
    ⟨"Now?", ["Yes", "No"], 0, none⟩ (by decide)).2.2.1 2 "No" (by decide) rfl (by decide)

/-- Clean options that fold differently make a poll. -/
theorem pollDefinition_pollEvent [CaseFold] {options : List String} (h : StoredOptions options)
    (henough : minVoteOptions ≤ options.length) :
    pollDefinition (pollEvent options) = .ok ⟨"Now?", options, 0, none⟩ := by
  have hvisible : hasVisibleText "Now?" = true := by decide
  have hclean : cleanMessage "Now?" RoomEvent.voteQuestionCharacterLimit = "Now?" := by decide
  have hpoll : Wire.DecodedPoll ⟨"Now?", options, 0, []⟩ :=
    ⟨hvisible, h.distinct, henough, Or.inl rfl, rfl⟩
  have hsent : Domain.parseAttachmentIds none = .ok [] := rfl
  have hparsed := Wire.parseCreate_of_cleanPoll hpoll ⟨hclean, h.clean⟩ hsent
  unfold pollDefinition pollEvent
  simp only [hparsed]
  simp [voteDeadlineAt]

/-- Sixty-seven letters that fold to three each. -/
def longChars : List Char :=
  List.replicate 67 '\u0390'

/-- The same, with the last letter spelled out and its second accent missing. -/
def cutChars : List Char :=
  List.replicate 66 '\u0390' ++ ['\u03B9', '\u0308']

/-- The first one with every letter spelled out, one character more than a ballot keeps. -/
def spelledChars : List Char :=
  (List.replicate 67 ['\u03B9', '\u0308', '\u0301']).flatten

/-- A text of these letters has nothing to clean. -/
theorem cleanText_of_letters {cs : List Char}
    (h : ∀ c ∈ cs, c ∈ ['\u0390', '\u03B9', '\u0308', '\u0301']) : CleanText cs := by
  have hletters : ∀ c ∈ ['\u0390', '\u03B9', '\u0308', '\u0301'],
      c ≠ '\x00' ∧ c ≠ '\r' ∧ isWhitespace c = false := by
    simp only [List.forall_mem_cons]
    exact ⟨by decide, by decide, by decide, by decide, by simp⟩
  exact ⟨fun hnul => (hletters _ (h _ hnul)).1 rfl, fun hcr => (hletters _ (h _ hcr)).2.1 rfl,
    fun c hc => (hletters c (h c (List.mem_of_mem_head? hc))).2.2,
    fun c hc => (hletters c (h c (List.mem_of_mem_getLast? hc))).2.2⟩

theorem cleanText_samples :
    CleanText longChars ∧ CleanText cutChars ∧ CleanText spelledChars ∧
      CleanText (spelledChars.take 200) := by
  have hspelled : ∀ c ∈ spelledChars, c ∈ ['\u0390', '\u03B9', '\u0308', '\u0301'] := by
    intro c hc
    obtain ⟨letters, hletters, hmem⟩ := List.mem_flatten.mp hc
    rw [List.eq_of_mem_replicate hletters] at hmem
    exact List.mem_cons_of_mem _ hmem
  refine ⟨cleanText_of_letters fun c hc => ?_, cleanText_of_letters fun c hc => ?_,
    cleanText_of_letters hspelled,
    cleanText_of_letters fun c hc => hspelled c (List.mem_of_mem_take hc)⟩
  · rw [List.eq_of_mem_replicate hc]
    exact List.mem_cons_self
  · rcases List.mem_append.mp hc with hfront | hback
    · rw [List.eq_of_mem_replicate hfront]
      exact List.mem_cons_self
    · have hsub : ['\u03B9', '\u0308'].Sublist ['\u0390', '\u03B9', '\u0308', '\u0301'] := by
        decide
      exact hsub.subset hback

theorem storedOptions_long_cut :
    @StoredOptions greekFold [String.ofList longChars, String.ofList cutChars] := by
  let _ := greekFold
  let _ := lawfulGreekFold
  refine ⟨⟨?_, ?_, by decide⟩, ?_⟩
  · simp only [List.forall_mem_cons, hasVisibleText, String.toList_ofList]
    exact ⟨by decide +kernel, by decide +kernel, by simp⟩
  · simp only [List.map_cons, List.map_nil, List.nodup_cons, List.mem_singleton, fold_eq_iff,
      String.toList_ofList]
    decide +kernel
  · simp only [List.forall_mem_cons, cleanMessage_eq_self_iff, String.toList_ofList]
    exact ⟨⟨cleanText_samples.1, by decide +kernel⟩,
      ⟨cleanText_samples.2.1, by decide +kernel⟩, by simp⟩

/-- A text that folds like the first option is cut into one that folds like the second. -/
theorem folded_text_names_other_option :
    @pollDefinition greekFold
          (pollEvent [String.ofList longChars, String.ofList cutChars]) =
        .ok ⟨"Now?", [String.ofList longChars, String.ofList cutChars], 0, none⟩ ∧
      @defaultCaseFoldStr greekFold (String.ofList spelledChars) =
        @defaultCaseFoldStr greekFold (String.ofList longChars) ∧
      @resolveVoteChoice greekFold (String.ofList spelledChars)
          [String.ofList longChars, String.ofList cutChars] = some (String.ofList cutChars) ∧
      String.ofList cutChars ≠ String.ofList longChars := by
  let _ := greekFold
  let _ := lawfulGreekFold
  have hoptions := storedOptions_long_cut
  refine ⟨pollDefinition_pollEvent hoptions (by decide), ?_, ?_, ?_⟩
  · simp only [fold_eq_iff, String.toList_ofList]
    decide +kernel
  · have hspelled : CleanText (String.ofList spelledChars).toList := by
      rw [String.toList_ofList]
      exact cleanText_samples.2.2.1
    have hkept : cleanMessage (String.ofList (spelledChars.take 200)) 200 =
        String.ofList (spelledChars.take 200) := by
      rw [cleanMessage_eq_self_iff, String.toList_ofList]
      exact ⟨cleanText_samples.2.2.2, List.length_take_le _ _⟩
    have hcut : cleanMessage (String.ofList spelledChars) 200 =
        cleanMessage (String.ofList (spelledChars.take 200)) 200 := by
      rw [hkept, cleanMessage_eq, hspelled.trimmedMessage_eq, String.toList_ofList]
    rw [resolveVoteChoice_congr _ hcut]
    refine hoptions.resolve_folded (List.mem_cons_of_mem _ List.mem_cons_self) ?_ ?_
    · simp only [fold_eq_iff, String.toList_ofList]
      decide +kernel
    · rw [String.toList_ofList]
      exact List.length_take_le _ _
  · rw [ne_eq, String.ofList_inj]
    decide +kernel

end AgentsAssemble.System
