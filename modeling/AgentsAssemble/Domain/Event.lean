import AgentsAssemble.Domain.Text
import AgentsAssemble.Domain.Session

/-!
# Room events

Events as they are stored in the room log.  The open JSON map of an event is a
record with one optional field for each key that the commands of this
development write or read.

Instants are nanoseconds since the epoch.
-/

namespace AgentsAssemble.Domain

structure Actor where
  participantId : String
  participantType : String
  deriving DecidableEq, Repr

/-! ## Message attachments -/

structure MessageAttachmentMetadata where
  id : String
  filename : String
  contentType : String
  size : Nat
  isImage : Bool
  url : String
  downloadUrl : String
  deriving DecidableEq, Repr

def maxMessageAttachmentsPerEvent : Nat := 8
def maxMessageAttachmentFilenameCharacters : Nat := 120
def maxMessageAttachmentContentTypeBytes : Nat := 127
def maxAttachmentBytes : Nat := 10 * 1024 * 1024

def isLowerHex (c : Char) : Bool :=
  c.isDigit || ('a' ≤ c && c ≤ 'f')

def isMessageAttachmentId (attachmentId : String) : Bool :=
  match attachmentId.toList with
  | 'm' :: 'a' :: '_' :: hex => hex.length == 32 && hex.all isLowerHex
  | _ => false

def canonicalMessageAttachmentFilename (value : String) : String :=
  let normalized := value.toList.map fun c => if c = '\\' then '/' else c
  let name := (normalized.reverse.takeWhile (· ≠ '/')).reverse
  let kept := name.filter fun c => !isControl c && c != '/' && c != '\\'
  let truncated := (trimMatches isWhitespace kept).take maxMessageAttachmentFilenameCharacters
  let trimmed := String.ofList (trimMatches isWhitespace truncated)
  if trimmed = "" ∨ trimmed = "." ∨ trimmed = ".." then "attachment.bin" else trimmed

def validContentTypeChar (c : Char) : Bool :=
  ('a' ≤ c && c ≤ 'z') || c.isDigit || c == '.' || c == '+' || c == '-'

def validContentType (value : String) : Bool :=
  let top := value.toList.takeWhile (· ≠ '/')
  match value.toList.dropWhile (· ≠ '/') with
  | '/' :: subtype => top != [] && subtype != [] && (top ++ subtype).all validContentTypeChar
  | _ => false

def isSafeRasterContentType (contentType : String) : Bool :=
  let essence := String.ofList
    ((trimMatches isWhitespace (contentType.toList.takeWhile (· ≠ ';'))).map Char.toLower)
  essence == "image/png" || essence == "image/jpeg" || essence == "image/gif" ||
    essence == "image/webp"

def messageAttachmentMetadata (id filename contentType : String) (size : Nat)
    (isImage : Bool) : MessageAttachmentMetadata :=
  { id, filename, contentType, size, isImage
    url := "/api/attachments/" ++ id ++ "?view=1"
    downloadUrl := "/api/attachments/" ++ id ++ "?download=1" }

def canonicalMetadata (attachment : MessageAttachmentMetadata) : Bool :=
  isMessageAttachmentId attachment.id &&
    canonicalMessageAttachmentFilename attachment.filename == attachment.filename &&
    decide (attachment.contentType.utf8ByteSize ≤ maxMessageAttachmentContentTypeBytes) &&
    validContentType attachment.contentType &&
    decide (1 ≤ attachment.size ∧ attachment.size ≤ maxAttachmentBytes) &&
    attachment.isImage == isSafeRasterContentType attachment.contentType &&
    attachment.url == "/api/attachments/" ++ attachment.id ++ "?view=1" &&
    attachment.downloadUrl == "/api/attachments/" ++ attachment.id ++ "?download=1"

/-! ## Events -/

structure EventExtra where
  attachments : Option (List MessageAttachmentMetadata) := none
  messageDeleted : Option Bool := none
  editedAt : Option Nat := none
  deletedAt : Option Nat := none
  targetEventId : Option String := none
  targetSeq : Option Nat := none
  messageSource : Option String := none
  targetAgentId : Option String := none
  sessionId : Option String := none
  turnId : Option String := none
  providerTurnId : Option String := none
  sourceEventId : Option String := none
  providerContextUpToSeq : Option Nat := none
  phase : Option AgentTurnPhase := none
  runtimeStatus : Option AgentRuntimeStatus := none
  status : Option String := none
  reasonCode : Option String := none
  errorCode : Option String := none
  reason : Option String := none
  muted : Option Bool := none
  voteId : Option String := none
  voteChoice : Option String := none
  voteQuestion : Option String := none
  voteOptions : Option (List String) := none
  voteDurationSeconds : Option Nat := none
  voteDeadlineAt : Option (Option Nat) := none
  deriving DecidableEq, Repr

structure RoomEvent where
  id : String
  seq : Nat
  createdAt : Nat
  eventType : String
  actor : Actor
  participantId : Option String := none
  participantType : Option String := none
  actorId : Option String := none
  actorType : Option String := none
  displayName : Option String := none
  content : Option String := none
  messageKind : Option String := none
  extra : EventExtra := {}
  deriving DecidableEq, Repr

/-- Why a stored message cannot be read. -/
inductive MessageStateError
  | invalidAttachments
  | invalidMessage
  deriving DecidableEq, Repr

namespace RoomEvent

def isDeleted (event : RoomEvent) : Bool :=
  event.extra.messageDeleted == some true

def messageAttachments (event : RoomEvent) :
    Except MessageStateError (List MessageAttachmentMetadata) :=
  match event.extra.attachments with
  | none => .ok []
  | some attachments =>
      if attachments.length ≤ maxMessageAttachmentsPerEvent ∧
          (attachments.map MessageAttachmentMetadata.id).Nodup ∧
          attachments.all canonicalMetadata then
        .ok attachments
      else
        .error .invalidAttachments

def voteQuestionCharacterLimit : Nat := 300

def messageVisibleText (event : RoomEvent) : Except MessageStateError String :=
  let content := cleanMessage (event.content.getD "") maxMessageCharacters
  if hasVisibleText content then
    .ok content
  else if event.messageKind ≠ some "vote" then
    .ok ""
  else
    match event.extra.voteQuestion with
    | none => .error .invalidMessage
    | some question =>
        let canonical := cleanMessage question voteQuestionCharacterLimit
        if canonical ≠ question ∨ ¬ hasVisibleText canonical then
          .error .invalidMessage
        else
          .ok canonical

def messageHasVisiblePayload (event : RoomEvent) : Except MessageStateError Bool := do
  let attachments ← event.messageAttachments
  let text ← event.messageVisibleText
  pure (hasVisibleText text || attachments != [])

/-- The attachments listed by several events, each id once, in order. -/
def messageAttachmentIdsFromEvents (events : List RoomEvent) :
    Except MessageStateError (List String) :=
  go [] events
where
  go (ids : List String) : List RoomEvent → Except MessageStateError (List String)
    | [] => .ok ids
    | event :: events =>
        match event.messageAttachments with
        | .error e => .error e
        | .ok attachments =>
            go (attachments.foldl
              (fun ids attachment =>
                if attachment.id ∈ ids then ids else ids ++ [attachment.id]) ids) events

end RoomEvent

/-! ## Principals and participants -/

inductive ParticipantStatus
  | joined
  | left
  | kicked
  | exported
  | detached
  deriving DecidableEq, Repr

inductive ParticipantRole
  | human
  | director
  | implementer
  | reviewer
  | agent
  deriving DecidableEq, Repr

structure Participant where
  participantId : String
  displayName : String
  participantType : String
  status : ParticipantStatus
  role : ParticipantRole
  ownerId : String
  muted : Bool
  deriving DecidableEq, Repr

/-- Runtime cleanup cannot undo a committed membership removal. -/
def Participant.detachRuntime (participant : Participant) : Participant :=
  if participant.status = .joined ∨ participant.status = .detached then
    { participant with status := .detached }
  else
    participant

inductive ClientKind
  | browser
  | roomConnector
  | agentBridge
  deriving DecidableEq, Repr

structure CapabilitySet where
  messageSend : Bool
  messageModify : Bool
  bridgePublish : Bool
  participantMute : Bool
  agentControl : Bool
  deriving DecidableEq, Repr

structure AuthenticatedPrincipal where
  principalId : String
  participantId : String
  displayName : String
  clientKind : ClientKind
  isOperator : Bool
  capabilities : CapabilitySet
  deriving DecidableEq, Repr

/-- A rejected command: its code and its message. -/
structure CommandRejection where
  code : String
  message : String
  deriving DecidableEq, Repr

end AgentsAssemble.Domain
