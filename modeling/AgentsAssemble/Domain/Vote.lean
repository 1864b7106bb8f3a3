import AgentsAssemble.Domain.Command

/-!
# Votes

Vote commands, their normalization and the events they publish.
-/

namespace AgentsAssemble.Domain

def minVoteDurationSeconds : Nat := 30
def maxVoteDurationSeconds : Nat := 86400
def voteOptionCharacterLimit : Nat := 100
def minVoteOptions : Nat := 2
def maxVoteOptions : Nat := 10
def maxVoteBallotsPerPoll : Nat := 192

/-- Full Unicode case folding, as the `caseless` crate computes it. -/
class CaseFold where
  defaultCaseFoldStr : String → String

export CaseFold (defaultCaseFoldStr)

structure VoteCreate where
  question : String
  options : List String
  durationSeconds : Nat
  attachmentIds : List String
  deriving DecidableEq, Repr

structure VoteCast where
  voteId : String
  choice : String
  deriving DecidableEq, Repr

structure VoteReference where
  voteId : String
  deriving DecidableEq, Repr

inductive VoteCommand
  | create (poll : VoteCreate)
  | cast (ballot : VoteCast)
  | withdraw (reference : VoteReference)
  | close (reference : VoteReference)
  deriving DecidableEq, Repr

/-- The payload object of a vote command, by its `kind`. -/
inductive VotePayload
  | vote (question : String) (options : List String) (durationSeconds : Option Nat)
      (attachmentIds : Option (List String))
  | voteCast (voteId choice : String)
  | voteWithdraw (voteId : String)
  | voteClose (voteId : String)
  deriving DecidableEq, Repr

def VoteCommand.messageKind : VoteCommand → String
  | .create _ => "vote"
  | .cast _ => "vote_cast"
  | .withdraw _ => "vote_withdraw"
  | .close _ => "vote_close"

/-! ## Normalization -/

def isPythonWhitespace (c : Char) : Bool :=
  isWhitespace c || (0x1C ≤ c.toNat && c.toNat ≤ 0x1F)

def cleanTrimmedCrlfText (value : String) (limit : Nat) : String :=
  let replaced := value.toList.map fun c => if c = '\r' ∨ c = '\n' then ' ' else c
  String.ofList (trimMatches isPythonWhitespace
    ((trimMatches isPythonWhitespace replaced).take limit))

def cleanIdentifier (value : String) (limit : Nat) : String :=
  cleanTrimmedCrlfText value limit

def validateVoteId (value : String) : Except CommandRejection String :=
  let canonical := cleanIdentifier value 128
  if canonical ≠ value ∨ ¬ isMessageEventId canonical then
    .error ⟨"invalid_vote", "vote_id is invalid."⟩
  else
    .ok canonical

def invalidVoteDuration : CommandRejection :=
  ⟨"invalid_vote_duration", "vote_duration_seconds must be 0 or between 30 and 86400."⟩

section Parse

variable [CaseFold]

/-- Cleans the options in order, skipping invisible ones and case duplicates. -/
def parseOptions (values : List String) : Except CommandRejection (List String) :=
  go [] values
where
  go (options : List String) : List String → Except CommandRejection (List String)
    | [] => .ok options
    | value :: values =>
        let option := cleanMessage value voteOptionCharacterLimit
        if !hasVisibleText option ||
            (options.map defaultCaseFoldStr).contains (defaultCaseFoldStr option) then
          go options values
        else if (options ++ [option]).length > maxVoteOptions then
          .error ⟨"invalid_vote", "A vote supports at most 10 options."⟩
        else
          go (options ++ [option]) values

def parseCreate (question : String) (values : List String) (durationSeconds : Option Nat)
    (attachmentIds : Option (List String)) : Except CommandRejection VoteCreate := do
  let question := cleanMessage question RoomEvent.voteQuestionCharacterLimit
  if !hasVisibleText question then
    throw ⟨"invalid_vote", "vote_question is required."⟩
  let options ← parseOptions values
  if options.length < minVoteOptions then
    throw ⟨"invalid_vote", "A vote requires at least two distinct options."⟩
  let durationSeconds ← match durationSeconds with
    | none => pure 0
    | some value =>
        if value = 0 ∨ (minVoteDurationSeconds ≤ value ∧ value ≤ maxVoteDurationSeconds) then
          pure value
        else
          throw invalidVoteDuration
  let attachmentIds ← parseAttachmentIds attachmentIds
  pure { question, options, durationSeconds, attachmentIds }

def parseCast (voteId choice : String) : Except CommandRejection VoteCast := do
  let voteId ← validateVoteId voteId
  let choice := cleanMessage choice 200
  if !hasVisibleText choice then
    throw ⟨"invalid_vote_choice", "vote_choice is required."⟩
  pure { voteId, choice }

def parseReference (voteId : String) : Except CommandRejection VoteReference := do
  let voteId ← validateVoteId voteId
  pure { voteId }

def VoteCommand.fromPayload : VotePayload → Except CommandRejection VoteCommand
  | .vote question options durationSeconds attachmentIds =>
      VoteCommand.create <$> parseCreate question options durationSeconds attachmentIds
  | .voteCast voteId choice => VoteCommand.cast <$> parseCast voteId choice
  | .voteWithdraw voteId => VoteCommand.withdraw <$> parseReference voteId
  | .voteClose voteId => VoteCommand.close <$> parseReference voteId

/-! ## Choices -/

/-- `str::parse::<usize>` on a 64-bit target. -/
def parseUsize (value : String) : Option Nat :=
  let digits := match value.toList with
    | '+' :: rest => rest
    | cs => cs
  if digits = [] ∨ digits.any (fun c => !c.isDigit) then
    none
  else
    let n := digits.foldl (fun n c => 10 * n + (c.toNat - '0'.toNat)) 0
    if n < 2 ^ 64 then some n else none

/-- The option a choice names, by its folded text or by its one-based number. -/
def resolveVoteChoice (choice : String) (options : List String) : Option String :=
  let choice := cleanMessage choice 200
  if !hasVisibleText choice then
    none
  else
    match options.find? fun option =>
        defaultCaseFoldStr option == defaultCaseFoldStr choice with
    | some option => some option
    | none =>
        match parseUsize choice with
        | none => none
        | some 0 => none
        | some (index + 1) => options[index]?

end Parse

/-! ## Events -/

/-- `DateTime + Duration::seconds`, absent for an open-ended vote. -/
def voteDeadlineAt (now durationSeconds : Nat) : Option Nat :=
  if 0 < durationSeconds then some (now + durationSeconds * 1000000000) else none

def requireVoteWriteAuthority (principal : AuthenticatedPrincipal)
    (participant : Participant) : Except CommandRejection Unit :=
  let allowed := match principal.clientKind with
    | .browser | .roomConnector => principal.capabilities.messageSend
    | .agentBridge => principal.capabilities.bridgePublish
  if !allowed then
    .error ⟨"permission_denied", "This room session cannot publish votes."⟩
  else
    requireActiveWriteParticipant principal participant

def VoteCommand.eventExtra (command : VoteCommand) (now : Nat) : EventExtra :=
  match command with
  | .create poll =>
      { voteQuestion := some poll.question
        voteOptions := some poll.options
        voteDurationSeconds := some poll.durationSeconds
        voteDeadlineAt := some (voteDeadlineAt now poll.durationSeconds) }
  | .cast ballot => { voteId := some ballot.voteId, voteChoice := some ballot.choice }
  | .withdraw reference | .close reference => { voteId := some reference.voteId }

def prepareVoteEvent (id : String) (principal : AuthenticatedPrincipal)
    (participant : Participant) (command : VoteCommand) (sequence now : Nat) :
    Except CommandRejection RoomEvent := do
  requireVoteWriteAuthority principal participant
  prepareAuthorizedParticipantMessageEvent id participant sequence now ""
    command.messageKind (command.eventExtra now)

/-- Ballot transitions are stored without their author. -/
def privacyMinimizedVoteTransition (event : RoomEvent) : RoomEvent :=
  if event.messageKind = some "vote_cast" ∨ event.messageKind = some "vote_withdraw" ∨
      event.messageKind = some "vote_close" then
    { event with
      actor := ⟨"", ""⟩
      participantId := none
      participantType := none
      actorId := none
      actorType := none
      displayName := none
      content := some ""
      extra := { voteId := event.extra.voteId } }
  else
    event

end AgentsAssemble.Domain
