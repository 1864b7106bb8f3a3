import AgentsAssemble.Domain.Text
import Mathlib.Data.List.Dedup
import Mathlib.Data.List.Perm.Subperm
import Mathlib.Data.List.Sort
import Mathlib.Data.String.Basic
import Mathlib.Order.Basic

/-!
# Provider requests

What a provider asks its owner, what the owner answers, and the projection of
the answer that may be stored: the answers to secret questions are left out of
it, and only the questions are named.
-/

namespace AgentsAssemble.Domain

abbrev Uuid := BitVec 128

inductive ProviderRequestKind
  | permission
  | userInput
  | externalAction
  deriving DecidableEq, Repr

structure ProviderRequestOption where
  id : String
  label : String
  kind : String
  description : String
  deriving DecidableEq, Repr

structure ProviderRequestQuestion where
  id : String
  header : String
  question : String
  options : List ProviderRequestOption
  multiple : Bool
  isOther : Bool
  isSecret : Bool
  deriving DecidableEq, Repr

inductive ProviderRequestPrompt
  | option (options : List ProviderRequestOption)
  | answers (questions : List ProviderRequestQuestion)
  | acknowledge (actionUrl : Option String)
  deriving DecidableEq, Repr

structure ProviderRequest where
  providerRequestId : Uuid
  requestKind : ProviderRequestKind
  title : String
  description : String
  timeoutSeconds : Nat
  prompt : ProviderRequestPrompt
  deriving DecidableEq, Repr

/-- The parts of a parsed URL that are looked at. -/
structure Url where
  scheme : String
  hostStr : Option String
  username : String
  password : Option String

/-- `url::Url::parse`. -/
class UrlParser where
  parseUrl : String → Option Url

export UrlParser (parseUrl)

/-! ## Answers -/

/-- A `BTreeMap` from question ids to the values that answer them. -/
structure AnswerMap where
  entries : List (String × List String)
  sorted : entries.Pairwise fun a b => a.1 < b.1

namespace AnswerMap

instance : DecidableEq AnswerMap := fun a b =>
  decidable_of_iff (a.entries = b.entries) ⟨fun h => by cases a; cases b; cases h; rfl,
    fun h => h ▸ rfl⟩

def get (answers : AnswerMap) (id : String) : Option (List String) :=
  (answers.entries.find? fun entry => entry.1 == id).map Prod.snd

def keys (answers : AnswerMap) : List String :=
  answers.entries.map Prod.fst

def filter (answers : AnswerMap) (p : String → Bool) : AnswerMap :=
  ⟨answers.entries.filter fun entry => p entry.1, answers.sorted.filter _⟩

theorem mem_entries {answers : AnswerMap} {id : String} {values : List String} :
    (id, values) ∈ answers.entries ↔ answers.get id = some values := by
  obtain ⟨entries, hsorted⟩ := answers
  unfold get
  dsimp only
  induction entries with
  | nil => simp
  | cons entry entries ih =>
      rw [List.pairwise_cons] at hsorted
      by_cases hkey : entry.1 = id
      · rw [List.find?_cons_of_pos (by simpa using hkey), Option.map_some, Option.some_inj,
          List.mem_cons]
        constructor
        · rintro (heq | hmem)
          · rw [← heq]
          · exact absurd (hsorted.1 _ hmem) (by rw [hkey]; exact lt_irrefl _)
        · rintro rfl
          exact Or.inl (Prod.ext hkey.symm rfl)
      · rw [List.find?_cons_of_neg (by simpa using hkey), ← ih hsorted.2, List.mem_cons]
        refine or_iff_right ?_
        rintro rfl
        exact hkey rfl

theorem mem_keys {answers : AnswerMap} {id : String} :
    id ∈ answers.keys ↔ ∃ values, answers.get id = some values := by
  rw [keys, List.mem_map]
  constructor
  · rintro ⟨⟨id', values⟩, hmem, rfl⟩
    exact ⟨values, mem_entries.mp hmem⟩
  · rintro ⟨values, hget⟩
    exact ⟨(id, values), mem_entries.mpr hget, rfl⟩

theorem nodup_keys (answers : AnswerMap) : answers.keys.Nodup :=
  List.Pairwise.map _ (fun _ _ hlt => ne_of_lt hlt) answers.sorted

/-- Maps are told apart by what they hold. -/
theorem ext_get {answers others : AnswerMap} (h : ∀ id, answers.get id = others.get id) :
    answers = others := by
  have hmem : ∀ entry, entry ∈ answers.entries ↔ entry ∈ others.entries := by
    rintro ⟨id, values⟩
    rw [mem_entries, mem_entries, h]
  have hperm : answers.entries.Perm others.entries :=
    (List.perm_ext_iff_of_nodup answers.nodup_keys.of_map others.nodup_keys.of_map).mpr hmem
  have heq : answers.entries = others.entries :=
    hperm.eq_of_pairwise (fun a b _ _ hab hba => absurd hba hab.asymm) answers.sorted
      others.sorted
  cases answers
  cases others
  cases heq
  rfl

theorem get_filter (answers : AnswerMap) (p : String → Bool) (id : String) :
    (answers.filter p).get id = if p id then answers.get id else none := by
  refine Option.ext fun values => ?_
  rw [← mem_entries, filter, List.mem_filter, mem_entries]
  by_cases hp : p id = true
  · simp [hp]
  · simp [hp]

end AnswerMap

inductive ProviderRequestResolution
  | option (optionId : String)
  | answers (answers : AnswerMap)
  | acknowledge
  deriving DecidableEq

inductive DurableProviderResolution
  | option (optionId : String)
  | answers (answers : AnswerMap) (secretAnsweredQuestionIds : List String)
  | acknowledge
  deriving DecidableEq

/-! ## Validation -/

/-- Every value is new to the set of the values before it. -/
def unique (values : List String) : Bool :=
  go [] values
where
  go (seen : List String) : List String → Bool
    | [] => true
    | value :: values => !seen.contains value && go (value :: seen) values

def text (value : String) (limit : Nat) : Bool :=
  value.toList.length ≤ limit && !value.toList.any isControl

def requiredText (value : String) (limit : Nat) : Bool :=
  trim value != "" && text value limit

def validOptions (options : List ProviderRequestOption) : Bool :=
  options.length ≤ 12 && unique (options.map ProviderRequestOption.id) &&
    options.all fun option =>
      requiredText option.id 128 && requiredText option.label 240 && text option.kind 64 &&
        text option.description 400

def validQuestion (question : ProviderRequestQuestion) : Bool :=
  requiredText question.id 128 && text question.header 120 &&
    requiredText question.question 800 && validOptions question.options &&
    unique (question.options.map ProviderRequestOption.label)

namespace ProviderRequest

variable [UrlParser]

def isValid (request : ProviderRequest) : Bool :=
  request.providerRequestId != 0 && requiredText request.title 160 &&
    text request.description 1200 &&
    (15 ≤ request.timeoutSeconds && request.timeoutSeconds ≤ 900) &&
    match request.requestKind, request.prompt with
    | .permission, .option options => options != [] && validOptions options
    | .userInput, .answers questions =>
        (1 ≤ questions.length && questions.length ≤ 3) &&
          unique (questions.map ProviderRequestQuestion.id) && questions.all validQuestion
    | .externalAction, .acknowledge actionUrl =>
        actionUrl.all fun actionUrl =>
          requiredText actionUrl 2000 &&
            (parseUrl actionUrl).any fun url =>
              url.scheme == "https" && url.hostStr.isSome && url.username == "" &&
                url.password.isNone
    | _, _ => false

/-- The values answer the question. -/
def allowedAnswer (question : ProviderRequestQuestion) (values : List String) : Bool :=
  (1 ≤ values.length && values.length ≤ if question.multiple then 4 else 1) && unique values &&
    values.all fun value =>
      requiredText value 1000 &&
        (question.isOther || question.options == [] ||
          question.options.any fun option => option.label == value)

/-- The set of the secret questions, in order. -/
def secretIds (questions : List ProviderRequestQuestion) : List String :=
  ((questions.filter ProviderRequestQuestion.isSecret).map
    ProviderRequestQuestion.id).dedup.insertionSort (· ≤ ·)

def durableResolution (request : ProviderRequest) (resolution : ProviderRequestResolution) :
    Option DurableProviderResolution :=
  if !request.isValid then
    none
  else
    match request.prompt, resolution with
    | .option options, .option optionId =>
        if options.any fun option => option.id == optionId then some (.option optionId) else none
    | .answers questions, .answers answers =>
        if answers.entries.length != questions.length || !questions.all fun question =>
            (answers.get question.id).any (allowedAnswer question) then
          none
        else
          let secret := secretIds questions
          some (.answers (answers.filter fun id => !secret.contains id) secret)
    | .acknowledge _, .acknowledge => some .acknowledge
    | _, _ => none

end ProviderRequest

/-! ## Which resolutions are accepted -/

theorem unique_go_iff {seen values : List String} :
    unique.go seen values = true ↔ values.Nodup ∧ ∀ value ∈ values, value ∉ seen := by
  induction values generalizing seen with
  | nil => simp [unique.go]
  | cons value values ih =>
      rw [unique.go, Bool.and_eq_true, ih, List.nodup_cons]
      simp only [Bool.not_eq_true', List.contains_eq_mem, decide_eq_false_iff_not, List.mem_cons,
        not_or, forall_eq_or_imp]
      constructor
      · rintro ⟨hnew, hnodup, hrest⟩
        exact ⟨⟨fun hmem => (hrest value hmem).1 rfl, hnodup⟩, hnew,
          fun other hother => (hrest other hother).2⟩
      · rintro ⟨⟨hfresh, hnodup⟩, hnew, hrest⟩
        exact ⟨hnew, hnodup, fun other hother =>
          ⟨fun heq => hfresh (heq ▸ hother), hrest other hother⟩⟩

theorem unique_iff {values : List String} : unique values = true ↔ values.Nodup := by
  rw [unique, unique_go_iff]
  simp

/-- The values answer the question: one, or up to four, distinct texts, from its options unless it
takes any text. -/
structure Answers (question : ProviderRequestQuestion) (values : List String) : Prop where
  some_value : values ≠ []
  bounded : values.length ≤ if question.multiple then 4 else 1
  distinct : values.Nodup
  texts : ∀ value ∈ values, requiredText value 1000 = true
  offered : ∀ value ∈ values, question.isOther = true ∨ question.options = [] ∨
    ∃ option ∈ question.options, option.label = value

/-- The resolution answers every question of the prompt, and nothing else. -/
inductive Resolves : ProviderRequestPrompt → ProviderRequestResolution → Prop
  | option {options : List ProviderRequestOption} {option : ProviderRequestOption} :
      option ∈ options → Resolves (.option options) (.option option.id)
  | answers {questions : List ProviderRequestQuestion} {answers : AnswerMap} :
      (∀ question ∈ questions, ∃ values, answers.get question.id = some values ∧
        Answers question values) →
      (∀ id ∈ answers.keys, ∃ question ∈ questions, question.id = id) →
      Resolves (.answers questions) (.answers answers)
  | acknowledge (actionUrl : Option String) : Resolves (.acknowledge actionUrl) .acknowledge

theorem allowedAnswer_iff {question : ProviderRequestQuestion} {values : List String} :
    ProviderRequest.allowedAnswer question values = true ↔ Answers question values := by
  unfold ProviderRequest.allowedAnswer
  simp only [Bool.and_eq_true, decide_eq_true_eq, unique_iff, List.all_eq_true, Bool.or_eq_true,
    beq_iff_eq, List.any_eq_true]
  constructor
  · rintro ⟨⟨⟨hone, hbound⟩, hdistinct⟩, hvalues⟩
    exact ⟨List.ne_nil_of_length_pos hone, hbound, hdistinct, fun value hv => (hvalues value hv).1,
      fun value hv => or_assoc.mp (hvalues value hv).2⟩
  · rintro ⟨hsome, hbound, hdistinct, htexts, hoffered⟩
    exact ⟨⟨⟨List.length_pos_of_ne_nil hsome, hbound⟩, hdistinct⟩,
      fun value hv => ⟨htexts value hv, or_assoc.mpr (hoffered value hv)⟩⟩

/-- As many answers as questions, one for each: the keys are the questions. -/
theorem mem_keys_of_length {questions : List ProviderRequestQuestion} {answers : AnswerMap}
    (hdistinct : (questions.map ProviderRequestQuestion.id).Nodup)
    (hlength : answers.entries.length = questions.length)
    (hall : ∀ question ∈ questions, question.id ∈ answers.keys) :
    ∀ id ∈ answers.keys, ∃ question ∈ questions, question.id = id := by
  have hsub : (questions.map ProviderRequestQuestion.id).Subperm answers.keys := by
    refine List.subperm_of_subset hdistinct fun id hid => ?_
    obtain ⟨question, hquestion, rfl⟩ := List.mem_map.mp hid
    exact hall question hquestion
  have hperm : (questions.map ProviderRequestQuestion.id).Perm answers.keys := by
    refine hsub.perm_of_length_le ?_
    rw [AnswerMap.keys, List.length_map, List.length_map, hlength]
  intro id hid
  obtain ⟨question, hquestion, hquestionId⟩ := List.mem_map.mp (hperm.mem_iff.mpr hid)
  exact ⟨question, hquestion, hquestionId⟩

theorem length_of_resolves {questions : List ProviderRequestQuestion} {answers : AnswerMap}
    (hdistinct : (questions.map ProviderRequestQuestion.id).Nodup)
    (hall : ∀ question ∈ questions, question.id ∈ answers.keys)
    (hkeys : ∀ id ∈ answers.keys, ∃ question ∈ questions, question.id = id) :
    answers.entries.length = questions.length := by
  have hperm : answers.keys.Perm (questions.map ProviderRequestQuestion.id) := by
    refine (List.perm_ext_iff_of_nodup answers.nodup_keys hdistinct).mpr fun id => ?_
    rw [List.mem_map]
    refine ⟨hkeys id, ?_⟩
    rintro ⟨question, hquestion, rfl⟩
    exact hall question hquestion
  simpa [AnswerMap.keys] using hperm.length_eq

/-- What is stored of a resolution. -/
def projection : ProviderRequestPrompt → ProviderRequestResolution → DurableProviderResolution
  | .answers questions, .answers answers =>
      .answers (answers.filter fun id => !(ProviderRequest.secretIds questions).contains id)
        (ProviderRequest.secretIds questions)
  | _, .option optionId => .option optionId
  | _, _ => .acknowledge

theorem all_answered_iff {questions : List ProviderRequestQuestion} {answers : AnswerMap} :
    (questions.all fun question =>
      (answers.get question.id).any (ProviderRequest.allowedAnswer question)) = true ↔
      ∀ question ∈ questions, ∃ values, answers.get question.id = some values ∧
        Answers question values := by
  rw [List.all_eq_true]
  refine forall₂_congr fun question _ => ?_
  cases answers.get question.id with
  | none => simp
  | some values => simp [allowedAnswer_iff]

section Resolutions

variable [UrlParser]

/-- The questions of a valid prompt have different ids. -/
theorem nodup_questionIds {request : ProviderRequest} (h : request.isValid = true)
    {questions : List ProviderRequestQuestion} (hprompt : request.prompt = .answers questions) :
    (questions.map ProviderRequestQuestion.id).Nodup := by
  unfold ProviderRequest.isValid at h
  rw [Bool.and_eq_true] at h
  have hkind := h.2
  rw [hprompt] at hkind
  cases hrequested : request.requestKind with
  | userInput =>
      rw [hrequested] at hkind
      simp only [Bool.and_eq_true] at hkind
      exact unique_iff.mp hkind.1.2
  | permission => rw [hrequested] at hkind; cases hkind
  | externalAction => rw [hrequested] at hkind; cases hkind

/-- A valid request accepts exactly what resolves its prompt, and stores the projection of it. -/
theorem durableResolution_eq_some {request : ProviderRequest}
    {resolution : ProviderRequestResolution} {durable : DurableProviderResolution} :
    request.durableResolution resolution = some durable ↔
      request.isValid = true ∧ Resolves request.prompt resolution ∧
        durable = projection request.prompt resolution := by
  by_cases hvalid : request.isValid = true
  · unfold ProviderRequest.durableResolution
    rw [hvalid, Bool.not_true, if_neg (by decide)]
    have hids := @nodup_questionIds _ request hvalid
    generalize request.prompt = prompt at hids ⊢
    cases prompt with
    | option options =>
        cases resolution with
        | option optionId =>
            dsimp only
            constructor
            · intro h
              split at h
              · next hany =>
                  obtain ⟨option, hoption, heq⟩ := List.any_eq_true.mp hany
                  obtain rfl := eq_of_beq heq
                  exact ⟨rfl, .option hoption, (Option.some.inj h).symm⟩
              · cases h
            · rintro ⟨-, hresolves, rfl⟩
              cases hresolves with
              | option hoption =>
                  rw [if_pos (List.any_eq_true.mpr ⟨_, hoption, by simp⟩)]
                  rfl
        | answers _ => exact iff_of_false (fun h => nomatch h) fun h => nomatch h.2.1
        | acknowledge => exact iff_of_false (fun h => nomatch h) fun h => nomatch h.2.1
    | answers questions =>
        cases resolution with
        | answers answers =>
            dsimp only
            have hdistinct := hids rfl
            constructor
            · intro h
              split at h
              · cases h
              · next hgood =>
                  simp only [Bool.or_eq_true, bne_iff_ne, ne_eq, Bool.not_eq_true', not_or,
                    Decidable.not_not, Bool.not_eq_false, all_answered_iff] at hgood
                  have hkeys : ∀ question ∈ questions, question.id ∈ answers.keys :=
                    fun question hquestion => AnswerMap.mem_keys.mpr
                      ((hgood.2 question hquestion).imp fun _ => And.left)
                  exact ⟨rfl, .answers hgood.2 (mem_keys_of_length hdistinct hgood.1 hkeys),
                    (Option.some.inj h).symm⟩
            · rintro ⟨-, hresolves, rfl⟩
              cases hresolves with
              | answers hall hkeys =>
                  have hmem : ∀ question ∈ questions, question.id ∈ answers.keys :=
                    fun question hquestion => AnswerMap.mem_keys.mpr
                      ((hall question hquestion).imp fun _ => And.left)
                  have hlength := length_of_resolves hdistinct hmem hkeys
                  rw [if_neg]
                  · rfl
                  · rw [Bool.or_eq_true, not_or, all_answered_iff.mpr hall, hlength]
                    simp
        | option _ => exact iff_of_false (fun h => nomatch h) fun h => nomatch h.2.1
        | acknowledge => exact iff_of_false (fun h => nomatch h) fun h => nomatch h.2.1
    | acknowledge actionUrl =>
        cases resolution with
        | acknowledge =>
            refine ⟨fun h => ⟨rfl, .acknowledge actionUrl, (Option.some.inj h).symm⟩, ?_⟩
            rintro ⟨-, -, rfl⟩
            rfl
        | option _ => exact iff_of_false (fun h => nomatch h) fun h => nomatch h.2.1
        | answers _ => exact iff_of_false (fun h => nomatch h) fun h => nomatch h.2.1
  · refine iff_of_false ?_ fun h => hvalid h.1
    unfold ProviderRequest.durableResolution
    simp [hvalid]

end Resolutions

/-! ## Secrets -/

/-- The resolutions differ at most in the answers to secret questions. -/
def SameButSecrets (prompt : ProviderRequestPrompt)
    (resolution other : ProviderRequestResolution) : Prop :=
  match prompt, resolution, other with
  | .answers questions, .answers answers, .answers others =>
      ∀ id, (∀ question ∈ questions, question.id = id → question.isSecret = false) →
        answers.get id = others.get id
  | _, _, _ => resolution = other

theorem mem_secretIds {questions : List ProviderRequestQuestion} {id : String} :
    id ∈ ProviderRequest.secretIds questions ↔
      ∃ question ∈ questions, question.isSecret = true ∧ question.id = id := by
  rw [ProviderRequest.secretIds, List.mem_insertionSort, List.mem_dedup, List.mem_map]
  simp only [List.mem_filter, and_assoc]

/-- What is stored does not depend on the answers to secret questions. -/
theorem projection_eq {prompt : ProviderRequestPrompt}
    {resolution other : ProviderRequestResolution} (h : SameButSecrets prompt resolution other) :
    projection prompt resolution = projection prompt other := by
  unfold SameButSecrets at h
  split at h
  · next questions answers others =>
      have hkept : (answers.filter fun id =>
          !(ProviderRequest.secretIds questions).contains id) =
          others.filter fun id => !(ProviderRequest.secretIds questions).contains id := by
        refine AnswerMap.ext_get fun id => ?_
        rw [AnswerMap.get_filter, AnswerMap.get_filter]
        by_cases hsecret : id ∈ ProviderRequest.secretIds questions
        · simp [hsecret]
        · rw [h id]
          intro question hquestion hid
          by_contra hopen
          exact hsecret (mem_secretIds.mpr
            ⟨question, hquestion, by simpa using hopen, hid⟩)
      rw [projection, projection, hkept]
  · rw [h]

theorem durableResolution_same [UrlParser] {request : ProviderRequest}
    {resolution other : ProviderRequestResolution}
    (hsame : SameButSecrets request.prompt resolution other)
    (h : (request.durableResolution resolution).isSome)
    (h' : (request.durableResolution other).isSome) :
    request.durableResolution resolution = request.durableResolution other := by
  obtain ⟨durable, hdurable⟩ := Option.isSome_iff_exists.mp h
  obtain ⟨durable', hdurable'⟩ := Option.isSome_iff_exists.mp h'
  obtain ⟨-, -, rfl⟩ := durableResolution_eq_some.mp hdurable
  obtain ⟨-, -, rfl⟩ := durableResolution_eq_some.mp hdurable'
  rw [hdurable, hdurable', projection_eq hsame]

end AgentsAssemble.Domain
