import AgentsAssemble.Foundation.Json
import AgentsAssemble.Foundation.Result
import AgentsAssemble.Domain.Cleaning
import AgentsAssemble.Persistence.Votes

/-!
# Vote payloads

The JSON objects of the vote commands, their decoder and their encoder.  A
stored poll is read back through the same decoder, so a definition is usable
only when decoding it again changes nothing.
-/

namespace AgentsAssemble.Wire

open Foundation Domain Persistence

abbrev Members := List (String × Json)

/-! ## Decoding -/

def requireExactKeys (object : Members) (required optional : List String) (kind : String) :
    Except CommandRejection Unit :=
  if (required.any fun key => !Json.containsKey object key) ||
      object.any fun m => !required.contains m.1 && !optional.contains m.1 then
    .error ⟨"bad_request", "message.send " ++ kind ++ " payload has an invalid shape."⟩
  else
    .ok ()

def parseVoteId : Option Json → Except CommandRejection String
  | some (.string value) => validateVoteId value
  | _ => .error ⟨"invalid_vote", "vote_id must be a string."⟩

/-- The `u32` durations a poll may have: none, or between the two bounds. -/
def parseDuration : Option Json → Except CommandRejection Nat
  | none => .ok 0
  | some value =>
      match value.asU64 with
      | none => .error invalidVoteDuration
      | some seconds =>
          if seconds < 2 ^ 32 ∧ (seconds = 0 ∨
              (minVoteDurationSeconds ≤ seconds ∧ seconds ≤ maxVoteDurationSeconds)) then
            .ok seconds
          else
            .error invalidVoteDuration

def parseAttachmentIds : Option Json → Except CommandRejection (List String)
  | none => .ok []
  | some value =>
      match value.asArray with
      | none => .error ⟨"bad_request", "attachment_ids must be an array."⟩
      | some values =>
          if values.length > maxMessageAttachmentsPerEvent then
            .error ⟨"bad_request", "At most 8 attachments are allowed."⟩
          else
            go [] values
where
  go (seen : List String) : List Json → Except CommandRejection (List String)
    | [] => .ok seen
    | value :: values =>
        match value.asStr with
        | none => .error ⟨"bad_request", "attachment_ids entries must be strings."⟩
        | some attachmentId =>
            if !isMessageAttachmentId attachmentId then
              .error ⟨"bad_request", "Message attachment id is invalid."⟩
            else if attachmentId ∈ seen then
              .error ⟨"bad_request", "Message attachment ids must be distinct."⟩
            else
              go (seen ++ [attachmentId]) values

def parseReference (object : Members) (kind : String) :
    Except CommandRejection VoteReference := do
  requireExactKeys object ["kind", "vote_id"] [] kind
  let voteId ← parseVoteId (Json.get object "vote_id")
  pure { voteId }

def parseCast (object : Members) : Except CommandRejection VoteCast := do
  requireExactKeys object ["kind", "vote_id", "vote_choice"] [] "vote_cast"
  let voteId ← parseVoteId (Json.get object "vote_id")
  match (((Json.get object "vote_choice").bind Json.asStr).map (cleanMessage · 200)).filter
      hasVisibleText with
  | none => throw ⟨"invalid_vote_choice", "vote_choice is required."⟩
  | some choice => pure { voteId, choice }

section Decode

variable [CaseFold]

/-- Cleans the options in order, skipping invisible ones and case duplicates. -/
def parseOptions (options : List String) : List Json → Except CommandRejection (List String)
  | [] => .ok options
  | value :: values =>
      match value.asStr with
      | none => .error ⟨"invalid_vote", "Every vote option must be text."⟩
      | some value =>
          let option := cleanMessage value voteOptionCharacterLimit
          if !hasVisibleText option ||
              (options.map defaultCaseFoldStr).contains (defaultCaseFoldStr option) then
            parseOptions options values
          else if (options ++ [option]).length > maxVoteOptions then
            .error ⟨"invalid_vote", "A vote supports at most 10 options."⟩
          else
            parseOptions (options ++ [option]) values

def parseCreate (object : Members) : Except CommandRejection VoteCreate := do
  requireExactKeys object ["kind", "vote_question", "vote_options"]
    ["vote_duration_seconds", "attachment_ids"] "vote"
  match (((Json.get object "vote_question").bind Json.asStr).map
      (cleanMessage · RoomEvent.voteQuestionCharacterLimit)).filter hasVisibleText with
  | none => throw ⟨"invalid_vote", "vote_question is required."⟩
  | some question =>
      match (Json.get object "vote_options").bind Json.asArray with
      | none => throw ⟨"invalid_vote", "vote_options must be an array."⟩
      | some values =>
          let options ← parseOptions [] values
          if options.length < minVoteOptions then
            throw ⟨"invalid_vote", "A vote requires at least two distinct options."⟩
          let durationSeconds ← parseDuration (Json.get object "vote_duration_seconds")
          let attachmentIds ← parseAttachmentIds (Json.get object "attachment_ids")
          pure { question, options, durationSeconds, attachmentIds }

def fromPayload (payload : Json) : Except CommandRejection VoteCommand :=
  match payload.asObject with
  | none => .error ⟨"bad_request", "payload must be an object."⟩
  | some object =>
      match (Json.get object "kind").bind Json.asStr with
      | none => .error ⟨"bad_request", "A canonical vote kind is required."⟩
      | some kind =>
          if kind = "vote" then .create <$> parseCreate object
          else if kind = "vote_cast" then .cast <$> parseCast object
          else if kind = "vote_withdraw" then .withdraw <$> parseReference object "vote_withdraw"
          else if kind = "vote_close" then .close <$> parseReference object "vote_close"
          else .error ⟨"invalid_message_kind", "Room message kind is unsupported."⟩

/-- `Deserialize for VoteCommand`. -/
def deserialize (value : Json) : Except String VoteCommand :=
  (fromPayload value).mapError fun _ => "invalid vote command"

end Decode

/-! ## Encoding -/

def texts (values : List String) : Json := .array (values.map .string)

def number (n : Nat) : Json := .number (.posInt (UInt64.ofNat n))

def toPayload (command : VoteCommand) : Json :=
  let payload := match command with
    | .create poll =>
        [("vote_question", .string poll.question), ("vote_options", texts poll.options),
          ("vote_duration_seconds", number poll.durationSeconds),
          ("attachment_ids", texts poll.attachmentIds)]
    | .cast ballot => [("vote_id", .string ballot.voteId), ("vote_choice", .string ballot.choice)]
    | .withdraw reference | .close reference => [("vote_id", .string reference.voteId)]
  .object (payload ++ [("kind", .string command.messageKind)])

/-- `Serialize for VoteCommand`. -/
def serialize (command : VoteCommand) : Json := toPayload command

/-! ## Options that were already cleaned -/

/-- Options as the decoder keeps them: visible, told apart by their folding, at most ten. -/
structure DistinctOptions [CaseFold] (options : List String) : Prop where
  visible : ∀ option ∈ options, hasVisibleText option = true
  distinct : (options.map defaultCaseFoldStr).Nodup
  bounded : options.length ≤ maxVoteOptions

section Options

variable [CaseFold]

/-- The texts among the options that the decoder keeps, as they were sent. -/
def keptOptions (seen : List String) : List String → List String
  | [] => []
  | value :: values =>
      let option := cleanMessage value voteOptionCharacterLimit
      if !hasVisibleText option || seen.contains (defaultCaseFoldStr option) then
        keptOptions seen values
      else
        value :: keptOptions (seen ++ [defaultCaseFoldStr option]) values

theorem keptOptions_sublist (seen values : List String) :
    (keptOptions seen values).Sublist values := by
  induction values generalizing seen with
  | nil => exact List.Sublist.refl _
  | cons value values ih =>
      unfold keptOptions
      dsimp only
      split
      · exact (ih _).cons _
      · exact (ih _).cons_cons _

theorem parseOptions_go_eq {options values result : List String}
    (h : Domain.parseOptions.go options values = .ok result) :
    result = options ++ (keptOptions (options.map defaultCaseFoldStr) values).map
      (cleanMessage · voteOptionCharacterLimit) := by
  induction values generalizing options with
  | nil =>
      rw [Domain.parseOptions.go] at h
      obtain rfl := Except.ok.inj h
      simp [keptOptions]
  | cons value values ih =>
      unfold Domain.parseOptions.go at h
      unfold keptOptions
      dsimp only at h ⊢
      split at h
      case isTrue hskip =>
        rw [if_pos hskip]
        exact ih h
      case isFalse hkeep =>
        rw [if_neg hkeep]
        split at h
        · cases h
        · rw [ih h]
          simp

theorem parseOptions_go_distinct {options values result : List String}
    (hoptions : DistinctOptions options)
    (h : Domain.parseOptions.go options values = .ok result) : DistinctOptions result := by
  induction values generalizing options with
  | nil =>
      rw [Domain.parseOptions.go] at h
      exact Except.ok.inj h ▸ hoptions
  | cons value values ih =>
      unfold Domain.parseOptions.go at h
      dsimp only at h
      split at h
      case isTrue => exact ih hoptions h
      case isFalse hkeep =>
        split at h
        case isTrue => cases h
        case isFalse hroom =>
          simp only [Bool.or_eq_true, Bool.not_eq_eq_eq_not, Bool.not_true, not_or,
            Bool.not_eq_false, List.contains_iff_mem] at hkeep
          refine ih ⟨?_, ?_, Nat.le_of_not_lt hroom⟩ h
          · intro option hmem
            rcases List.mem_append.mp hmem with hmem | hmem
            · exact hoptions.visible option hmem
            · obtain rfl := List.mem_singleton.mp hmem
              exact hkeep.1
          · rw [List.map_append, List.map_singleton, List.nodup_append]
            refine ⟨hoptions.distinct, List.nodup_singleton _, ?_⟩
            intro folded hfolded other hother
            obtain rfl := List.mem_singleton.mp hother
            rintro rfl
            exact hkeep.2 hfolded

/-- Options that cleaning keeps are read back in full. -/
theorem parseOptions_go_fixed {options values : List String}
    (hdistinct : DistinctOptions (options ++ values))
    (hfixed : ∀ value ∈ values, cleanMessage value voteOptionCharacterLimit = value) :
    Domain.parseOptions.go options values = .ok (options ++ values) := by
  induction values generalizing options with
  | nil => rw [Domain.parseOptions.go, List.append_nil]
  | cons value values ih =>
      have happ : options ++ value :: values = (options ++ [value]) ++ values := by simp
      have hnodup := hdistinct.distinct
      rw [List.map_append, List.map_cons, List.nodup_append] at hnodup
      have hnew : ¬ (!hasVisibleText value ||
          (options.map defaultCaseFoldStr).contains (defaultCaseFoldStr value)) = true := by
        rw [hdistinct.visible value (List.mem_append_right _ List.mem_cons_self)]
        simp only [Bool.not_true, Bool.false_or, List.contains_iff_mem]
        intro hmem
        exact hnodup.2.2 _ hmem _ List.mem_cons_self rfl
      have hroom : ¬ (options ++ [value]).length > maxVoteOptions := by
        have hbounded := hdistinct.bounded
        rw [happ, List.length_append] at hbounded
        omega
      unfold Domain.parseOptions.go
      dsimp only
      rw [hfixed value List.mem_cons_self, if_neg hnew, if_neg hroom, happ]
      rw [happ] at hdistinct
      exact ih hdistinct fun other hmem => hfixed other (List.mem_cons_of_mem _ hmem)

/-- Reading the kept options back gives them again only when cleaning keeps each of them. -/
theorem parseOptions_fixed_iff {options : List String} (hdistinct : DistinctOptions options) :
    Domain.parseOptions options = .ok options ↔
      ∀ option ∈ options, cleanMessage option voteOptionCharacterLimit = option := by
  constructor
  · intro h
    have hkept := parseOptions_go_eq h
    rw [List.nil_append, List.map_nil] at hkept
    -- nothing was skipped, so every option was replaced by its cleaned text
    have hall : keptOptions [] options = options := by
      refine (keptOptions_sublist [] options).eq_of_length ?_
      conv => rhs; rw [hkept]
      rw [List.length_map]
    rw [hall] at hkept
    intro option hmem
    obtain ⟨index, hindex, rfl⟩ := List.mem_iff_getElem.mp hmem
    have hat : options[index]? =
        (options.map (cleanMessage · voteOptionCharacterLimit))[index]? := by rw [← hkept]
    rw [List.getElem?_map, List.getElem?_eq_getElem hindex] at hat
    exact (Option.some.inj hat).symm
  · intro hfixed
    have hread : Domain.parseOptions.go [] options = .ok ([] ++ options) :=
      parseOptions_go_fixed hdistinct hfixed
    exact hread

theorem parseOptions_texts (options values : List String) :
    parseOptions options (values.map .string) = Domain.parseOptions.go options values := by
  induction values generalizing options with
  | nil => rfl
  | cons value values ih =>
      unfold Domain.parseOptions.go
      rw [List.map_cons, parseOptions]
      simp only [Json.asStr, ih]

theorem parseOptions_ok {options result : List String} {values : List Json}
    (h : parseOptions options values = .ok result) :
    ∃ raw : List String, values = raw.map .string := by
  induction values generalizing options with
  | nil => exact ⟨[], rfl⟩
  | cons value values ih =>
      unfold parseOptions at h
      cases value with
      | string value =>
          simp only [Json.asStr] at h
          obtain ⟨raw, rfl⟩ : ∃ raw : List String, values = raw.map .string := by
            split at h
            · exact ih h
            · split at h
              · cases h
              · exact ih h
          exact ⟨value :: raw, rfl⟩
      | null | bool | number | array | object => cases h

end Options

/-! ## The other fields -/

theorem validateVoteId_ok {value voteId : String} (h : validateVoteId value = .ok voteId) :
    voteId = value := by
  unfold validateVoteId at h
  dsimp only at h
  split at h
  · cases h
  · rename_i hcanonical
    rw [← Except.ok.inj h]
    exact not_not.mp (not_or.mp hcanonical).1

theorem parseVoteId_again {value : Option Json} {voteId : String}
    (h : parseVoteId value = .ok voteId) : validateVoteId voteId = .ok voteId := by
  unfold parseVoteId at h
  split at h
  · obtain rfl := validateVoteId_ok h
    exact h
  · cases h

theorem parseAttachmentIds_go_texts (seen ids : List String) :
    parseAttachmentIds.go seen (ids.map .string) = Domain.parseAttachmentIds.go seen ids := by
  induction ids generalizing seen with
  | nil => rfl
  | cons id ids ih =>
      unfold Domain.parseAttachmentIds.go
      rw [List.map_cons, parseAttachmentIds.go]
      simp only [Json.asStr, ih]

theorem parseAttachmentIds_texts (ids : List String) :
    parseAttachmentIds (some (texts ids)) = Domain.parseAttachmentIds (some ids) := by
  unfold parseAttachmentIds Domain.parseAttachmentIds texts
  simp only [Json.asArray, List.length_map, parseAttachmentIds_go_texts]

theorem parseAttachmentIds_go_eq {seen result : List String} {values : List Json}
    (h : parseAttachmentIds.go seen values = .ok result) :
    ∃ ids : List String, values = ids.map .string ∧ result = seen ++ ids := by
  induction values generalizing seen with
  | nil =>
      rw [parseAttachmentIds.go] at h
      exact ⟨[], rfl, by rw [← Except.ok.inj h, List.append_nil]⟩
  | cons value values ih =>
      unfold parseAttachmentIds.go at h
      cases value with
      | string id =>
          simp only [Json.asStr] at h
          split at h
          · cases h
          · split at h
            · cases h
            · obtain ⟨ids, rfl, rfl⟩ := ih h
              exact ⟨id :: ids, rfl, by simp⟩
      | null | bool | number | array | object => cases h

/-- The decoded ids are the sent ones, so they are accepted again. -/
theorem parseAttachmentIds_again {value : Option Json} {ids : List String}
    (h : parseAttachmentIds value = .ok ids) :
    Domain.parseAttachmentIds (some ids) = .ok ids := by
  cases value with
  | none =>
      rw [parseAttachmentIds] at h
      obtain rfl := Except.ok.inj h
      rfl
  | some value =>
      cases value with
      | array values =>
          have hgo := h
          simp only [parseAttachmentIds, Json.asArray] at hgo
          split at hgo
          · cases hgo
          · obtain ⟨sent, rfl, rfl⟩ := parseAttachmentIds_go_eq hgo
            rw [← parseAttachmentIds_texts]
            exact h
      | null | bool | number | string | object => cases h

theorem parseDuration_ok {value : Option Json} {seconds : Nat}
    (h : parseDuration value = .ok seconds) :
    seconds = 0 ∨ (minVoteDurationSeconds ≤ seconds ∧ seconds ≤ maxVoteDurationSeconds) := by
  cases value with
  | none => exact Or.inl (Except.ok.inj h).symm
  | some value =>
      unfold parseDuration at h
      dsimp only at h
      split at h
      · cases h
      · split at h
        case isTrue hallowed =>
          obtain rfl := Except.ok.inj h
          exact hallowed.2
        case isFalse => cases h

theorem toNat_number {n : Nat} (h : n < 2 ^ 64) : (number n).asU64 = some n := by
  simp only [number, Json.asU64]
  rw [UInt64.toNat_ofNat_of_lt' h]

theorem parseDuration_number {seconds : Nat} (h : seconds = 0 ∨
    (minVoteDurationSeconds ≤ seconds ∧ seconds ≤ maxVoteDurationSeconds)) :
    parseDuration (some (number seconds)) = .ok seconds := by
  have hsmall : seconds < 2 ^ 32 := by
    have hmax : maxVoteDurationSeconds < 2 ^ 32 := by decide
    omega
  unfold parseDuration
  dsimp only
  rw [toNat_number (by omega)]
  exact if_pos ⟨hsmall, h⟩

theorem textOf_eq_some {value : Option Json} {limit : Nat} {text : String}
    (h : ((value.bind Json.asStr).map (cleanMessage · limit)).filter hasVisibleText = some text) :
    hasVisibleText text = true ∧
      ∃ sent, value.bind Json.asStr = some sent ∧ text = cleanMessage sent limit := by
  rw [Option.filter_eq_some_iff] at h
  obtain ⟨hmap, hvisible⟩ := h
  obtain ⟨sent, hsent, rfl⟩ := Option.map_eq_some_iff.mp hmap
  exact ⟨hvisible, sent, hsent, rfl⟩

theorem parseCast_ok {object : Members} {ballot : VoteCast} (h : parseCast object = .ok ballot) :
    validateVoteId ballot.voteId = .ok ballot.voteId ∧ hasVisibleText ballot.choice = true ∧
      ∃ choice, (Json.get object "vote_choice").bind Json.asStr = some choice ∧
        ballot.choice = cleanMessage choice 200 := by
  unfold parseCast at h
  obtain ⟨-, -, h⟩ := Result.bind_eq_ok.mp h
  obtain ⟨voteId, hvoteId, h⟩ := Result.bind_eq_ok.mp h
  split at h
  · cases h
  rename_i choice hchoice
  obtain rfl := Result.pure_eq_ok.mp h
  obtain ⟨hvisible, sent, hsent, rfl⟩ := textOf_eq_some hchoice
  exact ⟨parseVoteId_again hvoteId, hvisible, sent, hsent, rfl⟩

theorem parseReference_ok {object : Members} {kind : String} {reference : VoteReference}
    (h : parseReference object kind = .ok reference) :
    validateVoteId reference.voteId = .ok reference.voteId := by
  unfold parseReference at h
  obtain ⟨-, -, h⟩ := Result.bind_eq_ok.mp h
  obtain ⟨voteId, hvoteId, h⟩ := Result.bind_eq_ok.mp h
  obtain rfl := Result.pure_eq_ok.mp h
  exact parseVoteId_again hvoteId

theorem get_of_requireExactKeys {object : Members} {required optional : List String}
    {kind key : String} (h : requireExactKeys object required optional kind = .ok ())
    (hkey : key ∉ required ++ optional) : Json.get object key = none := by
  unfold requireExactKeys at h
  split at h
  · cases h
  rename_i hshape
  simp only [Bool.or_eq_true, not_or, List.any_eq_true, not_exists, not_and] at hshape
  unfold Json.get
  rw [Option.map_eq_none_iff, List.find?_eq_none]
  intro member hmember hsame
  refine hshape.2 member hmember ?_
  rw [List.mem_append, not_or] at hkey
  rw [beq_iff_eq.mp hsame]
  simp [hkey.1, hkey.2]

theorem parseCast_members {ballot : VoteCast}
    (hvoteId : validateVoteId ballot.voteId = .ok ballot.voteId) :
    parseCast [("vote_id", .string ballot.voteId), ("vote_choice", .string ballot.choice),
        ("kind", .string "vote_cast")] =
      match (some (cleanMessage ballot.choice 200)).filter hasVisibleText with
      | none => .error ⟨"invalid_vote_choice", "vote_choice is required."⟩
      | some choice => .ok ⟨ballot.voteId, choice⟩ := by
  have hshape : requireExactKeys [("vote_id", .string ballot.voteId),
      ("vote_choice", .string ballot.choice), ("kind", .string "vote_cast")]
      ["kind", "vote_id", "vote_choice"] [] "vote_cast" = .ok () := rfl
  have hid : Json.get [("vote_id", .string ballot.voteId),
      ("vote_choice", .string ballot.choice), ("kind", .string "vote_cast")] "vote_id" =
      some (.string ballot.voteId) := rfl
  have hchoice : Json.get [("vote_id", .string ballot.voteId),
      ("vote_choice", .string ballot.choice), ("kind", .string "vote_cast")] "vote_choice" =
      some (.string ballot.choice) := rfl
  unfold parseCast
  rw [hshape, hid, hchoice, parseVoteId, hvoteId]
  simp only [Option.bind_some, Json.asStr, Option.map_some]
  cases (some (cleanMessage ballot.choice 200)).filter hasVisibleText with
  | none => rfl
  | some choice => rfl

theorem parseReference_members {reference : VoteReference} {kind : String} {member : Json}
    (hvoteId : validateVoteId reference.voteId = .ok reference.voteId)
    (hmember : member = .string kind) :
    parseReference [("vote_id", .string reference.voteId), ("kind", member)] kind =
      .ok reference := by
  subst hmember
  have hshape : requireExactKeys [("vote_id", .string reference.voteId), ("kind", .string kind)]
      ["kind", "vote_id"] [] kind = .ok () := rfl
  have hid : Json.get [("vote_id", .string reference.voteId), ("kind", .string kind)] "vote_id" =
      some (.string reference.voteId) := rfl
  unfold parseReference
  rw [hshape, hid, parseVoteId, hvoteId]
  rfl

/-! ## Polls that were already decoded -/

section Polls

variable [CaseFold]

/-- What the decoder establishes of a poll. -/
structure DecodedPoll (poll : VoteCreate) : Prop where
  question : hasVisibleText poll.question = true
  options : DistinctOptions poll.options
  enough : minVoteOptions ≤ poll.options.length
  duration : poll.durationSeconds = 0 ∨ (minVoteDurationSeconds ≤ poll.durationSeconds ∧
    poll.durationSeconds ≤ maxVoteDurationSeconds)
  attachments : Domain.parseAttachmentIds (some poll.attachmentIds) = .ok poll.attachmentIds

/-- Cleaning keeps the question and every option of the poll. -/
def CleanPoll (poll : VoteCreate) : Prop :=
  cleanMessage poll.question RoomEvent.voteQuestionCharacterLimit = poll.question ∧
    ∀ option ∈ poll.options, cleanMessage option voteOptionCharacterLimit = option

theorem domain_parseCreate_ok {question : String} {values : List String}
    {duration : Option Nat} {sent : Option (List String)} {poll : VoteCreate}
    (h : Domain.parseCreate question values duration sent = .ok poll) :
    poll.question = cleanMessage question RoomEvent.voteQuestionCharacterLimit ∧
      Domain.parseOptions values = .ok poll.options := by
  unfold Domain.parseCreate at h
  obtain ⟨-, h⟩ := Result.check_eq_ok.mp h
  obtain ⟨options, hoptions, h⟩ := Result.bind_eq_ok.mp h
  obtain ⟨-, h⟩ := Result.check_eq_ok.mp h
  dsimp only at h
  have hrest : ∃ seconds, (do
      let attachmentIds ← Domain.parseAttachmentIds sent
      pure { question := cleanMessage question RoomEvent.voteQuestionCharacterLimit, options,
             durationSeconds := seconds, attachmentIds }) =
        (.ok poll : Except CommandRejection VoteCreate) := by
    cases duration with
    | none => exact ⟨0, h⟩
    | some seconds =>
        dsimp only at h
        split at h
        · exact ⟨seconds, h⟩
        · cases h
  obtain ⟨seconds, h⟩ := hrest
  obtain ⟨ids, -, h⟩ := Result.bind_eq_ok.mp h
  obtain rfl := Result.pure_eq_ok.mp h
  exact ⟨rfl, hoptions⟩

/-- Reading a poll back gives its question and options only if cleaning keeps them. -/
theorem cleanPoll_of_parseCreate {poll again : VoteCreate} {duration : Option Nat}
    {sent : Option (List String)} (hpoll : DecodedPoll poll)
    (h : Domain.parseCreate poll.question poll.options duration sent = .ok again)
    (hquestion : again.question = poll.question) (hoptions : again.options = poll.options) :
    CleanPoll poll := by
  obtain ⟨hcleaned, hparsed⟩ := domain_parseCreate_ok h
  rw [hoptions] at hparsed
  exact ⟨hcleaned.symm.trans hquestion, (parseOptions_fixed_iff hpoll.options).mp hparsed⟩

theorem parseCreate_of_cleanPoll {poll : VoteCreate} (hpoll : DecodedPoll poll)
    (hclean : CleanPoll poll) {sent : Option (List String)} {ids : List String}
    (hsent : Domain.parseAttachmentIds sent = .ok ids) :
    Domain.parseCreate poll.question poll.options (some poll.durationSeconds) sent =
      .ok { poll with attachmentIds := ids } := by
  unfold Domain.parseCreate
  rw [Result.check_eq_ok]
  refine ⟨by simp [hclean.1, hpoll.question], ?_⟩
  refine Result.bind_eq_ok.mpr ⟨poll.options, (parseOptions_fixed_iff hpoll.options).mpr hclean.2,
    Result.check_eq_ok.mpr ⟨Nat.not_lt.mpr hpoll.enough, ?_⟩⟩
  dsimp only
  rw [if_pos hpoll.duration]
  refine Result.bind_eq_ok.mpr ⟨poll.durationSeconds, rfl, ?_⟩
  refine Result.bind_eq_ok.mpr ⟨ids, hsent, ?_⟩
  rw [hclean.1]
  rfl

/-- The decoded poll, and the texts it was cleaned from. -/
theorem parseCreate_ok {object : Members} {poll : VoteCreate}
    (h : parseCreate object = .ok poll) :
    DecodedPoll poll ∧
      (∃ question, (Json.get object "vote_question").bind Json.asStr = some question ∧
        poll.question = cleanMessage question RoomEvent.voteQuestionCharacterLimit) ∧
      ∃ raw : List String,
        (Json.get object "vote_options").bind Json.asArray = some (raw.map .string) ∧
        poll.options = (keptOptions [] raw).map (cleanMessage · voteOptionCharacterLimit) := by
  unfold parseCreate at h
  obtain ⟨-, -, h⟩ := Result.bind_eq_ok.mp h
  split at h
  · cases h
  rename_i question hquestion
  split at h
  · cases h
  rename_i values hvalues
  obtain ⟨options, hoptions, h⟩ := Result.bind_eq_ok.mp h
  obtain ⟨henough, h⟩ := Result.check_eq_ok.mp h
  obtain ⟨duration, hduration, h⟩ := Result.bind_eq_ok.mp h
  obtain ⟨ids, hids, h⟩ := Result.bind_eq_ok.mp h
  obtain rfl := Result.pure_eq_ok.mp h
  obtain ⟨hvisible, sent, hsent, rfl⟩ := textOf_eq_some hquestion
  obtain ⟨raw, rfl⟩ := parseOptions_ok hoptions
  rw [parseOptions_texts] at hoptions
  have hempty : DistinctOptions [] :=
    ⟨fun option hmem => absurd hmem List.not_mem_nil, List.nodup_nil, Nat.zero_le _⟩
  have hdecoded : DecodedPoll ⟨cleanMessage sent RoomEvent.voteQuestionCharacterLimit, options,
      duration, ids⟩ :=
    ⟨hvisible, parseOptions_go_distinct hempty hoptions, Nat.le_of_not_lt henough,
      parseDuration_ok hduration, parseAttachmentIds_again hids⟩
  exact ⟨hdecoded, ⟨sent, hsent, rfl⟩, raw, hvalues, parseOptions_go_eq hoptions⟩

/-! ## Decoding what was encoded -/

/-- The members of an encoded poll. -/
def pollMembers (poll : VoteCreate) : Members :=
  [("vote_question", .string poll.question), ("vote_options", texts poll.options),
    ("vote_duration_seconds", number poll.durationSeconds),
    ("attachment_ids", texts poll.attachmentIds), ("kind", .string "vote")]

theorem parseCreate_pollMembers {poll : VoteCreate} (hpoll : DecodedPoll poll) :
    parseCreate (pollMembers poll) =
      Domain.parseCreate poll.question poll.options (some poll.durationSeconds)
        (some poll.attachmentIds) := by
  have hshape : requireExactKeys (pollMembers poll) ["kind", "vote_question", "vote_options"]
      ["vote_duration_seconds", "attachment_ids"] "vote" = .ok () := rfl
  have hquestion : Json.get (pollMembers poll) "vote_question" =
      some (.string poll.question) := rfl
  have hoptions : Json.get (pollMembers poll) "vote_options" = some (texts poll.options) := rfl
  have hduration : Json.get (pollMembers poll) "vote_duration_seconds" =
      some (number poll.durationSeconds) := rfl
  have hids : Json.get (pollMembers poll) "attachment_ids" =
      some (texts poll.attachmentIds) := rfl
  unfold parseCreate Domain.parseCreate
  rw [hshape, hquestion, hoptions, hduration, hids, parseDuration_number hpoll.duration,
    parseAttachmentIds_texts]
  simp only [Option.bind_some, Json.asStr, Option.map_some, texts, Json.asArray,
    parseOptions_texts, if_pos hpoll.duration]
  by_cases hvisible : hasVisibleText
      (cleanMessage poll.question RoomEvent.voteQuestionCharacterLimit) = true
  · simp only [Option.filter_some, hvisible]
    rfl
  · simp only [Option.filter_some, hvisible]
    rfl

/-- The member `kind` chooses the decoder. -/
theorem fromPayload_kind {object : Members} {kind : String}
    (h : Json.get object "kind" = some (.string kind)) :
    fromPayload (.object object) =
      if kind = "vote" then .create <$> parseCreate object
      else if kind = "vote_cast" then .cast <$> parseCast object
      else if kind = "vote_withdraw" then .withdraw <$> parseReference object "vote_withdraw"
      else if kind = "vote_close" then .close <$> parseReference object "vote_close"
      else .error ⟨"invalid_message_kind", "Room message kind is unsupported."⟩ := by
  simp only [fromPayload, Json.asObject, h, Option.bind_some, Json.asStr]

theorem fromPayload_create_again {poll : VoteCreate} (hpoll : DecodedPoll poll) :
    fromPayload (toPayload (.create poll)) = .ok (.create poll) ↔ CleanPoll poll := by
  have hparse : fromPayload (toPayload (.create poll)) =
      VoteCommand.create <$> parseCreate (pollMembers poll) :=
    (fromPayload_kind rfl).trans (if_pos rfl)
  rw [hparse, parseCreate_pollMembers hpoll]
  constructor
  · intro h
    obtain ⟨again, hagain, heq⟩ := Result.map_eq_ok.mp h
    obtain rfl := VoteCommand.create.inj heq
    exact cleanPoll_of_parseCreate hpoll hagain rfl rfl
  · intro hclean
    rw [parseCreate_of_cleanPoll hpoll hclean hpoll.attachments]
    rfl

theorem fromPayload_cast {ballot : VoteCast}
    (hvoteId : validateVoteId ballot.voteId = .ok ballot.voteId) :
    fromPayload (toPayload (.cast ballot)) = VoteCommand.cast <$>
      if hasVisibleText (cleanMessage ballot.choice 200) then
        .ok ⟨ballot.voteId, cleanMessage ballot.choice 200⟩
      else
        .error ⟨"invalid_vote_choice", "vote_choice is required."⟩ := by
  have hkind : fromPayload (toPayload (.cast ballot)) = VoteCommand.cast <$> parseCast
      [("vote_id", .string ballot.voteId), ("vote_choice", .string ballot.choice),
        ("kind", .string "vote_cast")] :=
    (fromPayload_kind rfl).trans ((if_neg (by decide)).trans (if_pos rfl))
  rw [hkind, parseCast_members hvoteId, Option.filter_some]
  by_cases hvisible : hasVisibleText (cleanMessage ballot.choice 200) = true
  · rw [if_pos hvisible, if_pos hvisible]
  · rw [if_neg hvisible, if_neg hvisible]

theorem fromPayload_cast_again {ballot : VoteCast}
    (hvoteId : validateVoteId ballot.voteId = .ok ballot.voteId)
    (hvisible : hasVisibleText ballot.choice = true) :
    fromPayload (toPayload (.cast ballot)) = .ok (.cast ballot) ↔
      cleanMessage ballot.choice 200 = ballot.choice := by
  rw [fromPayload_cast hvoteId]
  constructor
  · intro h
    obtain ⟨again, hagain, heq⟩ := Result.map_eq_ok.mp h
    obtain rfl := VoteCommand.cast.inj heq
    split at hagain
    · exact congrArg VoteCast.choice (Except.ok.inj hagain)
    · cases hagain
  · intro hclean
    rw [hclean, if_pos hvisible]
    rfl

theorem fromPayload_withdraw_again {reference : VoteReference}
    (hvoteId : validateVoteId reference.voteId = .ok reference.voteId) :
    fromPayload (toPayload (.withdraw reference)) = .ok (.withdraw reference) := by
  have hkind : fromPayload (toPayload (.withdraw reference)) = VoteCommand.withdraw <$>
      parseReference [("vote_id", .string reference.voteId), ("kind", .string "vote_withdraw")]
        "vote_withdraw" :=
    (fromPayload_kind rfl).trans
      ((if_neg (by decide)).trans ((if_neg (by decide)).trans (if_pos rfl)))
  rw [hkind, parseReference_members hvoteId rfl]
  rfl

theorem fromPayload_close_again {reference : VoteReference}
    (hvoteId : validateVoteId reference.voteId = .ok reference.voteId) :
    fromPayload (toPayload (.close reference)) = .ok (.close reference) := by
  have hkind : fromPayload (toPayload (.close reference)) = VoteCommand.close <$>
      parseReference [("vote_id", .string reference.voteId), ("kind", .string "vote_close")]
        "vote_close" :=
    (fromPayload_kind rfl).trans ((if_neg (by decide)).trans
      ((if_neg (by decide)).trans ((if_neg (by decide)).trans (if_pos rfl))))
  rw [hkind, parseReference_members hvoteId rfl]
  rfl

/-! ## The stored definition -/

/-- The definition the event of a poll stands for. -/
def definitionOf (poll : VoteCreate) (now : Nat) : VoteDefinition :=
  { question := poll.question
    options := poll.options
    durationSeconds := poll.durationSeconds
    deadlineAt := voteDeadlineAt now poll.durationSeconds }

theorem pollDefinition_prepared_iff {poll : VoteCreate} (hpoll : DecodedPoll poll) {id : String}
    {principal : AuthenticatedPrincipal} {participant : Participant} {sequence now : Nat}
    {event : Domain.RoomEvent}
    (h : prepareVoteEvent id principal participant (.create poll) sequence now = .ok event) :
    pollDefinition event = .ok (definitionOf poll now) ↔ CleanPoll poll := by
  have hnone : Domain.parseAttachmentIds none = .ok [] := rfl
  unfold prepareVoteEvent at h
  obtain ⟨-, -, h⟩ := Result.bind_eq_ok.mp h
  unfold prepareAuthorizedParticipantMessageEvent at h
  split at h
  · cases h
  obtain rfl := Except.ok.inj h
  have hkind : (VoteCommand.create poll).messageKind = "vote" := rfl
  unfold pollDefinition
  rw [if_neg (by simp [hkind])]
  dsimp only [VoteCommand.eventExtra]
  constructor
  · intro h
    split at h
    · cases h
    rename_i definition hdefinition
    split at h
    · cases h
    rename_i hsame
    simp only [not_or, not_not] at hsame
    exact cleanPoll_of_parseCreate hpoll hdefinition hsame.1 hsame.2.1
  · intro hclean
    rw [parseCreate_of_cleanPoll hpoll hclean hnone]
    simp [definitionOf]

/-! ## Round trips -/

/-- No text the decoder keeps is cut by its limit right after a space. -/
def keepsTexts (payload : Json) : Bool :=
  match payload.asObject with
  | none => true
  | some object =>
      let question := (Json.get object "vote_question").bind Json.asStr
      let options := ((Json.get object "vote_options").bind Json.asArray).getD []
      let choice := (Json.get object "vote_choice").bind Json.asStr
      question.all (fun text => !cutAfterSpace text RoomEvent.voteQuestionCharacterLimit) &&
        (keptOptions [] (options.filterMap Json.asStr)).all
          (fun text => !cutAfterSpace text voteOptionCharacterLimit) &&
        choice.all fun text => !cutAfterSpace text 200

theorem keepsTexts_create {object : Members} {poll : VoteCreate}
    (h : parseCreate object = .ok poll) :
    CleanPoll poll ↔ keepsTexts (.object object) = true := by
  obtain ⟨-, ⟨question, hquestion, hpoll⟩, raw, hraw, hoptions⟩ := parseCreate_ok h
  obtain ⟨_, hshape, -⟩ := Result.bind_eq_ok.mp h
  have hchoice := get_of_requireExactKeys hshape (show "vote_choice" ∉ _ by decide)
  have htexts : (raw.map Json.string).filterMap Json.asStr = raw := by
    rw [List.filterMap_map]
    exact List.filterMap_some
  unfold CleanPoll
  rw [hpoll, hoptions, cleanMessage_fixed_iff]
  simp [keepsTexts, Json.asObject, hquestion, hraw, hchoice, htexts, cleanMessage_fixed_iff]

theorem keepsTexts_cast {object : Members} {ballot : VoteCast}
    (h : parseCast object = .ok ballot) :
    cleanMessage ballot.choice 200 = ballot.choice ↔ keepsTexts (.object object) = true := by
  obtain ⟨-, -, choice, hchoice, hballot⟩ := parseCast_ok h
  obtain ⟨_, hshape, -⟩ := Result.bind_eq_ok.mp h
  have hquestion := get_of_requireExactKeys hshape (show "vote_question" ∉ _ by decide)
  have hoptions := get_of_requireExactKeys hshape (show "vote_options" ∉ _ by decide)
  rw [hballot, cleanMessage_fixed_iff]
  simp [keepsTexts, Json.asObject, hquestion, hoptions, hchoice, keptOptions]

theorem keepsTexts_reference {object : Members} {kind : String} {reference : VoteReference}
    (h : parseReference object kind = .ok reference) :
    keepsTexts (.object object) = true := by
  obtain ⟨_, hshape, -⟩ := Result.bind_eq_ok.mp h
  have hquestion := get_of_requireExactKeys hshape (show "vote_question" ∉ _ by decide)
  have hoptions := get_of_requireExactKeys hshape (show "vote_options" ∉ _ by decide)
  have hchoice := get_of_requireExactKeys hshape (show "vote_choice" ∉ _ by decide)
  simp [keepsTexts, Json.asObject, hquestion, hoptions, hchoice, keptOptions]

/-- The command decodes from its encoding, and the event of a poll stores its definition. -/
def RoundTrips (command : VoteCommand) : Prop :=
  fromPayload (toPayload command) = .ok command ∧
    deserialize (serialize command) = .ok command ∧
    ∀ poll, command = .create poll →
      ∀ id principal participant sequence now event,
        prepareVoteEvent id principal participant command sequence now = .ok event →
        pollDefinition event = .ok (definitionOf poll now)

/-- A command that is no poll round trips when it decodes from its encoding. -/
theorem roundTrips_iff {command : VoteCommand} (hpoll : ∀ poll, command ≠ .create poll) :
    RoundTrips command ↔ fromPayload (toPayload command) = .ok command := by
  constructor
  · intro h
    exact h.1
  · intro h
    exact ⟨h, Result.mapError_eq_ok.mpr h, fun poll heq => absurd heq (hpoll poll)⟩

/-- A decoded vote command round trips, and the definition of a decoded poll is read back
from its event, exactly when no text of the payload is cut right after a space. -/
theorem decoded_vote_round_trips_iff {payload : Json} {command : VoteCommand}
    (h : fromPayload payload = .ok command) :
    RoundTrips command ↔ keepsTexts payload = true := by
  cases payload with
  | object object =>
      simp only [fromPayload, Json.asObject] at h
      split at h
      · cases h
      split at h
      case isTrue =>
        obtain ⟨poll, hcreate, rfl⟩ := Result.map_eq_ok.mp h
        obtain ⟨hdecoded, -⟩ := parseCreate_ok hcreate
        rw [← keepsTexts_create hcreate]
        constructor
        · intro hround
          exact (fromPayload_create_again hdecoded).mp hround.1
        · intro hclean
          have hagain := (fromPayload_create_again hdecoded).mpr hclean
          refine ⟨hagain, Result.mapError_eq_ok.mpr hagain, ?_⟩
          rintro other heq id principal participant sequence now event hevent
          obtain rfl := VoteCommand.create.inj heq
          exact (pollDefinition_prepared_iff hdecoded hevent).mpr hclean
      case isFalse =>
        split at h
        case isTrue =>
          obtain ⟨ballot, hcast, rfl⟩ := Result.map_eq_ok.mp h
          obtain ⟨hvoteId, hvisible, -⟩ := parseCast_ok hcast
          have hround : RoundTrips (.cast ballot) ↔ _ := roundTrips_iff nofun
          rw [hround, fromPayload_cast_again hvoteId hvisible, keepsTexts_cast hcast]
        case isFalse =>
          split at h
          case isTrue =>
            obtain ⟨reference, hreference, rfl⟩ := Result.map_eq_ok.mp h
            have hround : RoundTrips (.withdraw reference) ↔ _ := roundTrips_iff nofun
            rw [hround, keepsTexts_reference hreference]
            simp [fromPayload_withdraw_again (parseReference_ok hreference)]
          case isFalse =>
            split at h
            case isTrue =>
              obtain ⟨reference, hreference, rfl⟩ := Result.map_eq_ok.mp h
              have hround : RoundTrips (.close reference) ↔ _ := roundTrips_iff nofun
              rw [hround, keepsTexts_reference hreference]
              simp [fromPayload_close_again (parseReference_ok hreference)]
            case isFalse => cases h
  | null | bool | number | string | array => cases h

end Polls

namespace Sample

/-- Case folding of ASCII text. -/
scoped instance : CaseFold where
  defaultCaseFoldStr text := String.ofList (text.toList.map Char.toLower)

/-- 199 letters and a space. -/
def spacedLetters : List Char := List.replicate 199 'a' ++ [' ']

end Sample

open Sample in
/-- A poll with short texts round trips. -/
theorem short_poll_round_trips :
    RoundTrips (.create ⟨"Ship it?", ["Yes", "No"], 30, []⟩) := by
  have hdecoded : fromPayload (.object [("kind", .string "vote"),
      ("vote_question", .string "  Ship it? "), ("vote_options", texts [" Yes ", "YES", "No"]),
      ("vote_duration_seconds", number 30)]) =
        .ok (.create ⟨"Ship it?", ["Yes", "No"], 30, []⟩) := by
    decide +kernel
  exact (decoded_vote_round_trips_iff hdecoded).mpr (by decide +kernel)

open Sample in
/-- A choice cut after its last space is decoded, and its encoding decodes to another one. -/
theorem spaced_choice_breaks_round_trip :
    ¬ ∀ payload command, fromPayload payload = .ok command → RoundTrips command := by
  intro hclaim
  have hvoteId : validateVoteId "poll-1" = .ok "poll-1" := by decide +kernel
  have hcut : cleanMessage (String.ofList (spacedLetters ++ ['b'])) 200 =
      String.ofList spacedLetters := by
    rw [cleanMessage, String.toList_ofList]
    exact congrArg String.ofList (by decide +kernel)
  have hvisible : hasVisibleText (String.ofList spacedLetters) = true := by
    rw [hasVisibleText, String.toList_ofList]
    decide +kernel
  have hvalid : ∀ choice, validateVoteId (VoteCast.mk "poll-1" choice).voteId =
      .ok (VoteCast.mk "poll-1" choice).voteId := fun _ => hvoteId
  have hdecoded := fromPayload_cast (hvalid (String.ofList (spacedLetters ++ ['b'])))
  rw [hcut, if_pos hvisible] at hdecoded
  have hround := hclaim _ _ hdecoded
  have hagain := fromPayload_cast_again (hvalid (String.ofList spacedLetters)) hvisible
  have hkept : cleanMessage (String.ofList spacedLetters) 200 = String.ofList spacedLetters :=
    hagain.mp hround.1
  rw [cleanMessage, String.toList_ofList, String.ofList_inj] at hkept
  exact absurd hkept (by decide +kernel)

end AgentsAssemble.Wire
