import AgentsAssemble.Persistence.Routing
import Mathlib.Data.List.Infix
import Mathlib.Data.String.Basic

/-!
# Direct mentions

What `lastDirectTarget` finds, told without its scan: the places of a text where
an alias is mentioned, the sessions that own an alias alone, and the latest
mention of such an alias.  Several aliases can be mentioned at one `@`, and the
target is then chosen by rank, not by the length of the alias.
-/

namespace AgentsAssemble.Persistence

open Foundation Domain

/-! ## Blanks -/

theorem dropWhile_blanks {blanks rest : List Char} (hblanks : ∀ c ∈ blanks, isWhitespace c = true)
    (hrest : ∀ c ∈ rest.head?, isWhitespace c = false) :
    (blanks ++ rest).dropWhile isWhitespace = rest := by
  rw [List.dropWhile_append_of_pos hblanks]
  cases rest with
  | nil => rfl
  | cons c rest => rw [List.dropWhile_cons_of_neg (by simpa using hrest c rfl)]

theorem head_dropWhile_blanks (cs : List Char) :
    ∀ c ∈ (cs.dropWhile isWhitespace).head?, isWhitespace c = false := by
  intro c hc
  have h := List.head?_dropWhile_not isWhitespace cs
  rw [Option.mem_def.mp hc] at h
  simpa using h

/-! ## Mentions of an alias -/

/-- `<@ name >` stands at position `p`, with any blanks around the name. -/
def BracketedAt (content name : List Char) (p : Nat) : Prop :=
  ∃ before blanks blanks' after,
    content = before ++ '<' :: '@' :: (blanks ++ (name ++ (blanks' ++ '>' :: after))) ∧
      before.length = p ∧ (∀ c ∈ blanks, isWhitespace c = true) ∧
      (∀ c ∈ (name ++ (blanks' ++ '>' :: after)).head?, isWhitespace c = false) ∧
      ∀ c ∈ blanks', isWhitespace c = true

theorem bracketedMentionAt_iff {before rest name : List Char} :
    bracketedMentionAt rest name = true ↔ BracketedAt (before ++ rest) name before.length := by
  constructor
  · intro h
    unfold bracketedMentionAt at h
    split at h
    · rename_i tail
      rw [Bool.and_eq_true, List.isPrefixOf_iff_prefix] at h
      obtain ⟨⟨body, hbody⟩, hclose⟩ := h
      rw [← hbody, List.drop_left] at hclose
      have hhead := head_dropWhile_blanks tail
      obtain ⟨after, hafter⟩ : ∃ after, body.dropWhile isWhitespace = '>' :: after := by
        cases hcases : body.dropWhile isWhitespace with
        | nil => rw [hcases] at hclose; cases hclose
        | cons c after =>
            rw [hcases] at hclose
            exact ⟨after, by rw [show c = '>' by simpa using hclose]⟩
      have hsplit : body = body.takeWhile isWhitespace ++ '>' :: after := by
        rw [← hafter, List.takeWhile_append_dropWhile]
      refine ⟨before, tail.takeWhile isWhitespace, body.takeWhile isWhitespace, after, ?_, rfl,
        fun c => List.mem_takeWhile_imp, ?_, fun c => List.mem_takeWhile_imp⟩
      · rw [← hsplit, hbody, List.takeWhile_append_dropWhile]
      · rwa [← hsplit, hbody]
    · cases h
  · rintro ⟨before', blanks, blanks', after, hcontent, hlength, hblanks, hhead, hblanks'⟩
    obtain ⟨rfl, rfl⟩ := List.append_inj hcontent hlength.symm
    have hclose : (blanks' ++ '>' :: after).dropWhile isWhitespace = '>' :: after :=
      dropWhile_blanks hblanks' fun c hc => by
        obtain rfl := Option.some.inj hc
        rfl
    simp only [bracketedMentionAt, dropWhile_blanks hblanks hhead]
    rw [Bool.and_eq_true, List.isPrefixOf_iff_prefix, List.drop_left, hclose]
    exact ⟨List.prefix_append _ _, rfl⟩

theorem bracketedAt_get {content name : List Char} {i : Nat} (h : BracketedAt content name i) :
    content[i]? = some '<' := by
  obtain ⟨before, blanks, blanks', after, rfl, rfl, -⟩ := h
  simp

/-- Where the `@` of a mention found at an index stands. -/
def atSign (content : List Char) (i : Nat) : Nat :=
  if content[i]? = some '@' then i else i + 1

theorem le_atSign (content : List Char) (i : Nat) :
    i ≤ atSign content i ∧ atSign content i ≤ i + 1 := by
  rw [atSign]
  split <;> omega

theorem atSign_mono {content : List Char} {i j : Nat} (h : i ≤ j) :
    atSign content i ≤ atSign content j := by
  rcases Nat.eq_or_lt_of_le h with rfl | hlt
  · exact Nat.le_refl _
  · have hi := le_atSign content i
    have hj := le_atSign content j
    omega

section Positions

variable [TextServices]

/-- `@name` stands at position `p`, and no mention word touches it. -/
def PlainAt (content name : List Char) (p : Nat) : Prop :=
  ∃ before after, content = before ++ '@' :: (name ++ after) ∧ before.length = p ∧
    (∀ c ∈ before.getLast?, mentionWord c = false) ∧ ∀ c ∈ after.head?, mentionWord c = false

/-- The name is mentioned by the `@` at position `p`. -/
def MentionedAt (content name : List Char) (p : Nat) : Prop :=
  PlainAt content name p ∨ ∃ q, p = q + 1 ∧ BracketedAt content name q

theorem any_mentionWord_iff {o : Option Char} :
    (!o.any mentionWord) = true ↔ ∀ c ∈ o, mentionWord c = false := by
  cases o with
  | none => simp
  | some c => simp

theorem plainMentionAt_iff {before rest name : List Char} :
    plainMentionAt before.getLast? rest ('@' :: name) = true ↔
      PlainAt (before ++ rest) name before.length := by
  rw [plainMentionAt, Bool.and_eq_true, Bool.and_eq_true, List.isPrefixOf_iff_prefix,
    any_mentionWord_iff, any_mentionWord_iff]
  constructor
  · rintro ⟨⟨⟨after, rfl⟩, hbefore⟩, hafter⟩
    rw [List.drop_left] at hafter
    exact ⟨before, after, rfl, rfl, hbefore, hafter⟩
  · rintro ⟨before', after, hcontent, hlength, hbefore, hafter⟩
    obtain ⟨rfl, rfl⟩ := List.append_inj hcontent hlength.symm
    refine ⟨⟨⟨after, rfl⟩, hbefore⟩, ?_⟩
    rwa [← List.cons_append, List.drop_left]

/-! ## The latest mention -/

/-- The index the scan records: the `@` of a plain mention, the `<` of a bracketed one. -/
def FoundAt (content name : List Char) (i : Nat) : Prop :=
  PlainAt content name i ∨ BracketedAt content name i

/-- What the scan has found below a bound. -/
def LatestBelow (content name : List Char) (bound : Nat) : Option Nat → Prop
  | none => ∀ i < bound, ¬ FoundAt content name i
  | some found => found < bound ∧ FoundAt content name found ∧
      ∀ i < bound, FoundAt content name i → i ≤ found

theorem latestBelow_succ {content name : List Char} {bound : Nat} {found : Option Nat}
    (h : LatestBelow content name bound found) :
    (FoundAt content name bound → LatestBelow content name (bound + 1) (some bound)) ∧
      (¬ FoundAt content name bound → LatestBelow content name (bound + 1) found) := by
  refine ⟨fun hhere => ⟨Nat.lt_succ_self _, hhere, fun i hi _ => Nat.le_of_lt_succ hi⟩,
    fun hhere => ?_⟩
  cases found with
  | none =>
      intro i hi hat
      rcases Nat.lt_succ_iff_lt_or_eq.mp hi with hlt | rfl
      · exact h i hlt hat
      · exact hhere hat
  | some found =>
      refine ⟨Nat.lt_succ_of_lt h.1, h.2.1, fun i hi hat => ?_⟩
      rcases Nat.lt_succ_iff_lt_or_eq.mp hi with hlt | rfl
      · exact h.2.2 i hlt hat
      · exact absurd hat hhere

theorem latestBelow_go {before rest name : List Char} {found : Option Nat}
    (h : LatestBelow (before ++ rest) name before.length found) :
    LatestBelow (before ++ rest) name (before ++ rest).length
      (lastMentionPosition.go name before.getLast? before.length found rest) := by
  induction rest generalizing before found with
  | nil => simpa [lastMentionPosition.go] using h
  | cons c rest ih =>
      have hhere : (plainMentionAt before.getLast? (c :: rest) ('@' :: name) ||
          bracketedMentionAt (c :: rest) name) = true ↔
            FoundAt (before ++ c :: rest) name before.length := by
        rw [Bool.or_eq_true, plainMentionAt_iff, bracketedMentionAt_iff, FoundAt]
      have hstep := latestBelow_succ h
      have hnext : LatestBelow (before ++ c :: rest) name (before.length + 1)
          (if plainMentionAt before.getLast? (c :: rest) ('@' :: name) ||
            bracketedMentionAt (c :: rest) name then some before.length else found) := by
        split
        · next hit => exact hstep.1 (hhere.mp hit)
        · next hmiss => exact hstep.2 (mt hhere.mpr hmiss)
      have hsplit : before ++ c :: rest = (before ++ [c]) ++ rest := by simp
      have hlast : (before ++ [c]).getLast? = some c := List.getLast?_concat ..
      have hlength : (before ++ [c]).length = before.length + 1 := List.length_append
      rw [hsplit, ← hlength] at hnext
      rw [lastMentionPosition.go, hsplit]
      simpa only [hlast, hlength, ← hsplit] using ih hnext

theorem foundAt_lt {content name : List Char} {i : Nat} (h : FoundAt content name i) :
    i < content.length := by
  rcases h with ⟨before, after, rfl, rfl, -⟩ | ⟨before, blanks, blanks', after, rfl, rfl, -⟩
  · simp
  · simp

theorem lastMentionPosition_latest (content name : List Char) :
    LatestBelow content name content.length (lastMentionPosition content name) := by
  have hfresh : LatestBelow ([] ++ content) name ([] : List Char).length none :=
    fun i hi => absurd hi (Nat.not_lt_zero i)
  exact latestBelow_go hfresh

theorem lastMentionPosition_eq_none {content name : List Char} :
    lastMentionPosition content name = none ↔ ∀ i, ¬ FoundAt content name i := by
  have hlatest := lastMentionPosition_latest content name
  constructor
  · intro h i hi
    rw [h] at hlatest
    exact hlatest i (foundAt_lt hi) hi
  · intro h
    cases hfound : lastMentionPosition content name with
    | none => rfl
    | some i =>
        rw [hfound] at hlatest
        exact absurd hlatest.2.1 (h i)

theorem lastMentionPosition_eq_some {content name : List Char} {i : Nat}
    (h : lastMentionPosition content name = some i) :
    FoundAt content name i ∧ ∀ j, FoundAt content name j → j ≤ i := by
  have hlatest := lastMentionPosition_latest content name
  rw [h] at hlatest
  exact ⟨hlatest.2.1, fun j hj => hlatest.2.2 j (foundAt_lt hj) hj⟩

/-! ## The sign of a mention -/

theorem plainAt_get {content name : List Char} {i : Nat} (h : PlainAt content name i) :
    content[i]? = some '@' := by
  obtain ⟨before, after, rfl, rfl, -⟩ := h
  simp

theorem mentionedAt_iff {content name : List Char} {p : Nat} :
    MentionedAt content name p ↔ ∃ i, FoundAt content name i ∧ atSign content i = p := by
  constructor
  · rintro (hplain | ⟨q, rfl, hbracketed⟩)
    · exact ⟨p, Or.inl hplain, if_pos (plainAt_get hplain)⟩
    · exact ⟨q, Or.inr hbracketed, if_neg (by rw [bracketedAt_get hbracketed]; decide)⟩
  · rintro ⟨i, hplain | hbracketed, rfl⟩
    · rw [atSign, if_pos (plainAt_get hplain)]
      exact Or.inl hplain
    · rw [atSign, if_neg (by rw [bracketedAt_get hbracketed]; decide)]
      exact Or.inr ⟨i, rfl, hbracketed⟩

theorem mentionedAt_get {content name : List Char} {p : Nat} (h : MentionedAt content name p) :
    content[p]? = some '@' := by
  rcases h with hplain | ⟨q, rfl, before, blanks, blanks', after, rfl, rfl, -⟩
  · exact plainAt_get hplain
  · simp

/-- The scan ends at the last `@` that mentions the alias, on the sign itself when the mention is
a plain one. -/
theorem lastMentionPosition_of_latest {content name : List Char} {p : Nat}
    (hp : MentionedAt content name p) (hlast : ∀ q, MentionedAt content name q → q ≤ p) :
    ∃ i, lastMentionPosition content name = some i ∧ atSign content i = p ∧
      (i = p ↔ PlainAt content name p) := by
  obtain ⟨j, hj, hjp⟩ := mentionedAt_iff.mp hp
  obtain ⟨i, hi⟩ := Option.ne_none_iff_exists'.mp
    (mt lastMentionPosition_eq_none.mp fun hnone => hnone j hj)
  obtain ⟨hfound, hmax⟩ := lastMentionPosition_eq_some hi
  have hsign : atSign content i = p := by
    have hle := hlast _ (mentionedAt_iff.mpr ⟨i, hfound, rfl⟩)
    have hge : atSign content j ≤ atSign content i := atSign_mono (hmax j hj)
    omega
  refine ⟨i, hi, hsign, fun hip => ?_, fun hplain => ?_⟩
  · rcases hfound with hplain | hbracketed
    · rwa [← hip]
    · rw [atSign, if_neg (by rw [bracketedAt_get hbracketed]; decide)] at hsign
      omega
  · have hge := hmax p (Or.inl hplain)
    have hle := (le_atSign content i).1
    omega

end Positions

/-! ## Owners -/

section Owners

variable [TextServices]

/-- One session claims the alias and no other one does. -/
def UniquelyOwned (sessions : List DurableAgentSession) (name : List Char) (owner : String) :
    Prop :=
  (∃ session ∈ sessions, session.sessionId = owner ∧ name ∈ aliasesOf session) ∧
    ∀ session ∈ sessions, name ∈ aliasesOf session → session.sessionId = owner

theorem mem_uniqueAliases {sessions : List DurableAgentSession} {name : List Char}
    {owner : String} :
    (name, some owner) ∈ uniqueAliases sessions ↔ UniquelyOwned sessions name owner := by
  have hclaims : ∀ claim : List Char × String,
      (claim ∈ sessions.flatMap fun session =>
        (aliasesOf session).map fun name => (name, session.sessionId)) ↔
        ∃ session ∈ sessions, claim.1 ∈ aliasesOf session ∧ session.sessionId = claim.2 := by
    rintro ⟨name, owner⟩
    simp
  simp only [uniqueAliases, List.mem_map, hclaims]
  constructor
  · rintro ⟨⟨name', owner'⟩, ⟨session, hsession, hname, howner⟩, heq⟩
    obtain ⟨rfl, hall⟩ := Prod.mk.inj heq
    split at hall
    · next hunique =>
        obtain rfl := Option.some.inj hall
        refine ⟨⟨session, hsession, howner, hname⟩, fun other hother hclaim => ?_⟩
        have hsame := List.all_eq_true.mp hunique (name', other.sessionId)
          ((hclaims _).mpr ⟨other, hother, hclaim, rfl⟩)
        simpa using hsame
    · cases hall
  · rintro ⟨⟨session, hsession, rfl, hname⟩, honly⟩
    refine ⟨(name, session.sessionId), ⟨session, hsession, hname, rfl⟩, ?_⟩
    rw [if_pos]
    rw [List.all_eq_true]
    rintro ⟨name', owner'⟩ hmem
    obtain ⟨other, hother, hclaim, rfl⟩ := (hclaims _).mp hmem
    by_cases hsame : name' = name
    · subst hsame
      simp [honly other hother hclaim]
    · simp [hsame]

end Owners

/-! ## The ranking of mentions -/

/-- The order of `max` on pairs. -/
def NotAfter (a b : Nat × String) : Prop :=
  a.1 < b.1 ∨ a.1 = b.1 ∧ a.2 ≤ b.2

theorem NotAfter.refl (a : Nat × String) : NotAfter a a :=
  Or.inr ⟨rfl, le_refl _⟩

theorem NotAfter.trans {a b c : Nat × String} (hab : NotAfter a b) (hbc : NotAfter b c) :
    NotAfter a c := by
  rcases hab with hab | ⟨hab, howner⟩
  · rcases hbc with hbc | ⟨hbc, -⟩
    · exact Or.inl (hab.trans hbc)
    · exact Or.inl (hbc ▸ hab)
  · rcases hbc with hbc | ⟨hbc, howner'⟩
    · exact Or.inl (hab ▸ hbc)
    · exact Or.inr ⟨hab.trans hbc, howner.trans howner'⟩

theorem NotAfter.antisymm {a b : Nat × String} (hab : NotAfter a b) (hba : NotAfter b a) :
    a = b := by
  rcases hab with hab | ⟨hab, howner⟩
  · rcases hba with hba | ⟨hba, -⟩
    · exact absurd hba hab.asymm
    · exact absurd hab (hba ▸ lt_irrefl _)
  · rcases hba with hba | ⟨-, howner'⟩
    · exact absurd hba (hab ▸ lt_irrefl _)
    · exact Prod.ext hab (le_antisymm howner howner')

theorem notAfter_laterMention (a b : Nat × String) :
    NotAfter a (laterMention a b) ∧ NotAfter b (laterMention a b) := by
  rw [laterMention]
  split
  · next h => exact ⟨h, .refl b⟩
  · next h =>
      refine ⟨.refl a, ?_⟩
      rw [not_or, not_and_or, not_lt, not_le] at h
      rcases Nat.lt_or_eq_of_le h.1 with hlt | heq
      · exact Or.inl hlt
      · exact Or.inr ⟨heq, (h.2.resolve_left (not_not_intro heq.symm)).le⟩

theorem notAfter_foldl (rest : List (Nat × String)) (first : Nat × String) :
    ∀ mention ∈ first :: rest, NotAfter mention (rest.foldl laterMention first) := by
  induction rest generalizing first with
  | nil =>
      intro mention hmention
      obtain rfl := List.mem_singleton.mp hmention
      exact .refl _
  | cons next rest ih =>
      intro mention hmention
      have hlater := notAfter_laterMention first next
      have hbest := ih (laterMention first next) _ List.mem_cons_self
      rcases List.mem_cons.mp hmention with rfl | hmention
      · exact hlater.1.trans hbest
      · rcases List.mem_cons.mp hmention with rfl | hmention
        · exact hlater.2.trans hbest
        · exact ih _ _ (List.mem_cons_of_mem _ hmention)

theorem laterMention_cases (a b : Nat × String) : laterMention a b = a ∨ laterMention a b = b := by
  rw [laterMention]
  split
  · exact Or.inr rfl
  · exact Or.inl rfl

theorem foldl_laterMention_mem (rest : List (Nat × String)) (first : Nat × String) :
    rest.foldl laterMention first ∈ first :: rest := by
  induction rest generalizing first with
  | nil => exact List.mem_singleton.mpr rfl
  | cons next rest ih =>
      rw [List.foldl_cons]
      rcases List.mem_cons.mp (ih (laterMention first next)) with h | h
      · rw [h]
        rcases laterMention_cases first next with hfirst | hnext
        · rw [hfirst]
          exact List.mem_cons_self
        · rw [hnext]
          exact List.mem_cons_of_mem _ List.mem_cons_self
      · exact List.mem_cons_of_mem _ (List.mem_cons_of_mem _ h)

/-! ## The direct target -/

section Targets

variable [TextServices]

/-- The lower-cased text the mentions are looked up in. -/
def loweredText (content : String) : List Char :=
  (toLowercase content).toList

/-- The mentions that `lastDirectTarget` compares. -/
def foundMentions (content : String) (sessions : List DurableAgentSession) :
    List (Nat × String) :=
  (uniqueAliases sessions).filterMap fun entry =>
    entry.2.bind fun owner =>
      (lastMentionPosition (loweredText content) entry.1).map fun position => (position, owner)

theorem mem_foundMentions {content : String} {sessions : List DurableAgentSession} {i : Nat}
    {owner : String} :
    (i, owner) ∈ foundMentions content sessions ↔
      ∃ name, UniquelyOwned sessions name owner ∧
        lastMentionPosition (loweredText content) name = some i := by
  rw [foundMentions, List.mem_filterMap]
  constructor
  · rintro ⟨⟨name, entry⟩, hentry, hbind⟩
    obtain ⟨owner', rfl, hposition⟩ := Option.bind_eq_some_iff.mp hbind
    obtain ⟨i', hi, hpair⟩ := Option.map_eq_some_iff.mp hposition
    obtain ⟨rfl, rfl⟩ := Prod.mk.inj hpair
    exact ⟨name, mem_uniqueAliases.mp hentry, hi⟩
  · rintro ⟨name, howned, hi⟩
    exact ⟨(name, some owner), mem_uniqueAliases.mpr howned, by simp [hi]⟩

theorem lastDirectTarget_of_nil {content : String} {sessions : List DurableAgentSession}
    (h : foundMentions content sessions = []) : lastDirectTarget content sessions = none := by
  unfold foundMentions loweredText at h
  simp only [lastDirectTarget, h]

theorem lastDirectTarget_of_cons {content : String} {sessions : List DurableAgentSession}
    {first : Nat × String} {rest : List (Nat × String)}
    (h : foundMentions content sessions = first :: rest) :
    lastDirectTarget content sessions = some (rest.foldl laterMention first).2 := by
  unfold foundMentions loweredText at h
  simp only [lastDirectTarget, h]

theorem lastDirectTarget_eq_none {content : String} {sessions : List DurableAgentSession} :
    lastDirectTarget content sessions = none ↔ foundMentions content sessions = [] := by
  cases hfound : foundMentions content sessions with
  | nil => simp [lastDirectTarget_of_nil hfound]
  | cons first rest => simp [lastDirectTarget_of_cons hfound]

/-- The target owns a found mention that no other one comes after. -/
theorem lastDirectTarget_eq_some {content : String} {sessions : List DurableAgentSession}
    {target : String} (h : lastDirectTarget content sessions = some target) :
    ∃ i, (i, target) ∈ foundMentions content sessions ∧
      ∀ mention ∈ foundMentions content sessions, NotAfter mention (i, target) := by
  cases hfound : foundMentions content sessions with
  | nil =>
      rw [lastDirectTarget_of_nil hfound] at h
      cases h
  | cons first rest =>
      rw [lastDirectTarget_of_cons hfound] at h
      obtain rfl := Option.some.inj h
      exact ⟨_, foldl_laterMention_mem rest first, notAfter_foldl rest first⟩

/-- The `@` at position `p` mentions an alias that one session owns alone. -/
structure Mention (content : String) (sessions : List DurableAgentSession) (p : Nat)
    (name : List Char) (owner : String) : Prop where
  owned : UniquelyOwned sessions name owner
  mentioned : MentionedAt (loweredText content) name p

/-- A mention by the last `@` that mentions any such alias. -/
structure LatestMention (content : String) (sessions : List DurableAgentSession) (p : Nat)
    (name : List Char) (owner : String) : Prop where
  mention : Mention content sessions p name owner
  latest : ∀ q name' owner', Mention content sessions q name' owner' → q ≤ p

theorem foundMentions_eq_nil {content : String} {sessions : List DurableAgentSession} :
    foundMentions content sessions = [] ↔
      ∀ p name owner, ¬ Mention content sessions p name owner := by
  rw [List.eq_nil_iff_forall_not_mem]
  constructor
  · rintro hnone p name owner ⟨howned, hmentioned⟩
    obtain ⟨i, hi, -⟩ := mentionedAt_iff.mp hmentioned
    obtain ⟨last, hlast⟩ := Option.ne_none_iff_exists'.mp
      (mt lastMentionPosition_eq_none.mp fun hno => hno i hi)
    exact hnone (last, owner) (mem_foundMentions.mpr ⟨name, howned, hlast⟩)
  · rintro hnone ⟨i, owner⟩ hmem
    obtain ⟨name, howned, hi⟩ := mem_foundMentions.mp hmem
    exact hnone _ name owner
      ⟨howned, mentionedAt_iff.mpr ⟨i, (lastMentionPosition_eq_some hi).1, rfl⟩⟩

/-- A mention found last is a latest mention. -/
theorem latestMention_of_notAfter {content : String} {sessions : List DurableAgentSession}
    {i : Nat} {owner : String} (hmem : (i, owner) ∈ foundMentions content sessions)
    (hlast : ∀ mention ∈ foundMentions content sessions, NotAfter mention (i, owner)) :
    ∃ name, LatestMention content sessions (atSign (loweredText content) i) name owner ∧
      lastMentionPosition (loweredText content) name = some i := by
  obtain ⟨name, howned, hi⟩ := mem_foundMentions.mp hmem
  refine ⟨name, ⟨⟨howned, ?_⟩, ?_⟩, hi⟩
  · exact mentionedAt_iff.mpr ⟨i, (lastMentionPosition_eq_some hi).1, rfl⟩
  · rintro q name' owner' ⟨howned', hmentioned'⟩
    obtain ⟨j, hj, rfl⟩ := mentionedAt_iff.mp hmentioned'
    obtain ⟨last, hfound⟩ := Option.ne_none_iff_exists'.mp
      (mt lastMentionPosition_eq_none.mp fun hno => hno j hj)
    have hle := (lastMentionPosition_eq_some hfound).2 j hj
    refine atSign_mono (hle.trans ?_)
    rcases hlast (last, owner') (mem_foundMentions.mpr ⟨name', howned', hfound⟩) with hlt | ⟨heq, -⟩
    · exact hlt.le
    · exact heq.le

/-- What a latest mention is compared by. -/
theorem LatestMention.found {content : String} {sessions : List DurableAgentSession} {p : Nat}
    {name : List Char} {owner : String} (h : LatestMention content sessions p name owner) :
    ∃ i, (i, owner) ∈ foundMentions content sessions ∧
      lastMentionPosition (loweredText content) name = some i ∧
      atSign (loweredText content) i = p ∧ (i = p ↔ PlainAt (loweredText content) name p) := by
  obtain ⟨i, hi, hsign, hplain⟩ := lastMentionPosition_of_latest h.mention.mentioned
    fun q hq => h.latest q name owner ⟨h.mention.owned, hq⟩
  exact ⟨i, mem_foundMentions.mpr ⟨name, h.mention.owned, hi⟩, hi, hsign, hplain⟩

/-- At one `@` the alias that stands right behind it goes before the one set off by blanks, and
then the greater session id goes first. -/
def Outranks (content : List Char) (p : Nat) (mention other : List Char × String) : Prop :=
  (PlainAt content mention.1 p ∧ ¬ PlainAt content other.1 p) ∨
    ((PlainAt content mention.1 p ↔ PlainAt content other.1 p) ∧ other.2 < mention.2)

/-- The session of a longest alias mentioned by the last `@` also owns an alias there that no
other one outranks. -/
def LongestRanksFirst (content : String) (sessions : List DurableAgentSession) : Prop :=
  ∀ p name owner, LatestMention content sessions p name owner →
    ∃ longest first target, LatestMention content sessions p longest target ∧
      (∀ name' owner', LatestMention content sessions p name' owner' →
        name'.length ≤ longest.length) ∧
      LatestMention content sessions p first target ∧
      ∀ name' owner', LatestMention content sessions p name' owner' →
        ¬ Outranks (loweredText content) p (name', owner') (first, target)

/-- The target owns a longest alias that the last `@` mentions, and there is one whenever there is
a mention. -/
def RoutesToLongest (content : String) (sessions : List DurableAgentSession) : Prop :=
  (lastDirectTarget content sessions = none ↔
      ∀ p name owner, ¬ Mention content sessions p name owner) ∧
    ∀ target, lastDirectTarget content sessions = some target →
      ∃ p name, LatestMention content sessions p name target ∧
        ∀ name' owner', LatestMention content sessions p name' owner' →
          name'.length ≤ name.length

theorem LatestMention.position_eq {content : String} {sessions : List DurableAgentSession}
    {p q : Nat} {name name' : List Char} {owner owner' : String}
    (h : LatestMention content sessions p name owner)
    (h' : LatestMention content sessions q name' owner') : p = q :=
  le_antisymm (h'.latest p name owner h.mention) (h.latest q name' owner' h'.mention)

/-- Ranking at the last `@` is what the scan compares by. -/
theorem not_outranks_iff {content : List Char} {p i j : Nat} {name name' : List Char}
    {owner owner' : String} (hi : atSign content i = p) (hplain : i = p ↔ PlainAt content name p)
    (hj : atSign content j = p) (hplain' : j = p ↔ PlainAt content name' p) :
    ¬ Outranks content p (name', owner') (name, owner) ↔ NotAfter (j, owner') (i, owner) := by
  have hlei := le_atSign content i
  have hlej := le_atSign content j
  simp only [Outranks, NotAfter, ← hplain, ← hplain', not_or, not_and, not_not, not_lt]
  constructor
  · rintro ⟨hsign, howner⟩
    by_cases hsame : j = i
    · exact Or.inr ⟨hsame, howner (by rw [hsame])⟩
    · exact Or.inl (by omega)
  · rintro (hlt | ⟨heq, howner⟩)
    · exact ⟨fun h => by omega, fun h => by omega⟩
    · exact ⟨fun h => by omega, fun _ => howner⟩

theorem lastDirectTarget_eq_none_iff {content : String} {sessions : List DurableAgentSession} :
    lastDirectTarget content sessions = none ↔
      ∀ p name owner, ¬ Mention content sessions p name owner :=
  lastDirectTarget_eq_none.trans foundMentions_eq_nil

/-- The target owns an alias mentioned by the last `@`, one that nothing there outranks. -/
theorem lastDirectTarget_first {content : String} {sessions : List DurableAgentSession}
    {target : String} (h : lastDirectTarget content sessions = some target) :
    ∃ p first, LatestMention content sessions p first target ∧
      ∀ name' owner', LatestMention content sessions p name' owner' →
        ¬ Outranks (loweredText content) p (name', owner') (first, target) := by
  obtain ⟨i, hmem, hlast⟩ := lastDirectTarget_eq_some h
  obtain ⟨first, hfirst, hi⟩ := latestMention_of_notAfter hmem hlast
  refine ⟨_, first, hfirst, fun name' owner' hother => ?_⟩
  obtain ⟨i', -, hi', hsign, hplain⟩ := hfirst.found
  obtain rfl := Option.some.inj (hi.symm.trans hi')
  obtain ⟨j, hj, -, hsign', hplain'⟩ := hother.found
  exact (not_outranks_iff hsign hplain hsign' hplain').mpr (hlast _ hj)

/-- The direct target owns an alias mentioned by the last `@` that mentions a uniquely owned one;
it owns a longest such alias exactly when that session ranks first there. -/
theorem direct_target_longest_iff (content : String) (sessions : List DurableAgentSession) :
    (lastDirectTarget content sessions = none ↔
      ∀ p name owner, ¬ Mention content sessions p name owner) ∧
    (∀ target, lastDirectTarget content sessions = some target →
      ∃ p name, LatestMention content sessions p name target) ∧
    (RoutesToLongest content sessions ↔ LongestRanksFirst content sessions) := by
  refine ⟨lastDirectTarget_eq_none_iff, fun target htarget => ?_, fun hroutes => ?_, fun hfirst => ?_⟩
  · obtain ⟨p, first, hlatest, -⟩ := lastDirectTarget_first htarget
    exact ⟨p, first, hlatest⟩
  · intro p name owner hmention
    obtain ⟨target, htarget⟩ := Option.ne_none_iff_exists'.mp
      (mt hroutes.1.mp fun hnone => hnone p name owner hmention.mention)
    obtain ⟨q, longest, hlongest, hmax⟩ := hroutes.2 target htarget
    obtain rfl := hmention.position_eq hlongest
    obtain ⟨q, first, hlatest, hranks⟩ := lastDirectTarget_first htarget
    obtain rfl := hmention.position_eq hlatest
    exact ⟨longest, first, target, hlongest, hmax, hlatest, hranks⟩
  · refine ⟨lastDirectTarget_eq_none_iff, fun target htarget => ?_⟩
    obtain ⟨p, name, hname, hranks⟩ := lastDirectTarget_first htarget
    obtain ⟨longest, first, target', hlongest, hmax, hlatest, hranks'⟩ := hfirst p name target hname
    -- neither session outranks the other, so they are the same one
    obtain ⟨i, -, -, hsign, hplain⟩ := hname.found
    obtain ⟨j, -, -, hsign', hplain'⟩ := hlatest.found
    have hle := (not_outranks_iff hsign' hplain' hsign hplain).mp (hranks' name target hname)
    have hge := (not_outranks_iff hsign hplain hsign' hplain').mp (hranks first target' hlatest)
    obtain ⟨-, rfl⟩ := Prod.mk.inj (hle.antisymm hge)
    exact ⟨p, longest, hlongest, hmax⟩

end Targets

/-- Texts that are lower-case ASCII already. -/
@[reducible] def asciiTexts : TextServices where
  redactPersistedDiagnosticText text _ := text
  renderPersonaContext card _ := card
  toLowercase text := text
  isAlphanumeric c := c.isAlphanum

def namedSession (id name : String) : DurableAgentSession :=
  { sessionId := id
    participantId := id
    displayName := name
    runtimeKind := "test"
    runtimeProfileKey := "test"
    runtimeProfileVersion := 1 }

/-- `@gpt-5.6` spells one session in full and goes to the session called `gpt-5`. -/
theorem full_alias_routed_to_its_prefix :
    @lastDirectTarget asciiTexts "@gpt-5.6 recap that"
        [namedSession "one" "gpt-5.6", namedSession "two" "gpt-5"] = some "two" ∧
      ¬ @RoutesToLongest asciiTexts "@gpt-5.6 recap that"
        [namedSession "one" "gpt-5.6", namedSession "two" "gpt-5"] := by
  let services := asciiTexts
  have htarget : lastDirectTarget "@gpt-5.6 recap that"
      [namedSession "one" "gpt-5.6", namedSession "two" "gpt-5"] = some "two" := by decide
  refine ⟨htarget, fun hroutes => ?_⟩
  obtain ⟨p, name, hname, hlongest⟩ := hroutes.2 "two" htarget
  have hshort : ∀ name ∈ aliasesOf (namedSession "two" "gpt-5"), name.length ≤ 5 := by decide
  have hsigns : ∀ p < 19, (loweredText "@gpt-5.6 recap that")[p]? = some '@' → p = 0 := by decide
  obtain ⟨session, hsession, hid, halias⟩ := hname.mention.owned.1
  have hlength : name.length ≤ 5 := by
    rcases List.mem_pair.mp hsession with rfl | rfl
    · exact absurd hid (by decide)
    · exact hshort name halias
  -- the only `@` is the first character
  have hat := mentionedAt_get hname.mention.mentioned
  have hbound : p < 19 := (List.getElem?_eq_some_iff.mp hat).1.trans_eq (by decide)
  obtain rfl : p = 0 := hsigns p hbound hat
  have hfull : LatestMention "@gpt-5.6 recap that"
      [namedSession "one" "gpt-5.6", namedSession "two" "gpt-5"] 0 "gpt-5.6".toList "one" := by
    refine ⟨⟨?_, Or.inl ⟨[], " recap that".toList, by decide, rfl, ?_, ?_⟩⟩, hname.latest⟩
    · unfold UniquelyOwned
      decide
    · simp
    · exact any_mentionWord_iff.mp (by decide +kernel)
  have hseven : "gpt-5.6".toList.length = 7 := by decide
  have hmax := hlongest _ _ hfull
  omega

end AgentsAssemble.Persistence
