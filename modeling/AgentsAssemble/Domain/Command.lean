import AgentsAssemble.Domain.Event

/-!
# Message commands

Sending, editing and deleting a lobby message, and the checks on the author and
on the stored message each command makes.  Payload objects enter as records of
the fields they carry; decoding JSON text into those fields is left to serde.
-/

namespace AgentsAssemble.Domain

/-! ## Sending -/

structure MessageSend where
  content : String
  attachmentIds : List String
  deriving DecidableEq, Repr

/-- The payload of `message.send` without a `kind`. -/
structure MessageSendPayload where
  content : String
  attachmentIds : Option (List String)
  deriving DecidableEq, Repr

def parseAttachmentIds (value : Option (List String)) :
    Except CommandRejection (List String) :=
  match value with
  | none => .ok []
  | some values =>
      if values.length > maxMessageAttachmentsPerEvent then
        .error ⟨"bad_request", "At most 8 attachments are allowed."⟩
      else
        go [] values
where
  go (seen : List String) : List String → Except CommandRejection (List String)
    | [] => .ok seen
    | attachmentId :: values =>
        if !isMessageAttachmentId attachmentId then
          .error ⟨"bad_request", "Message attachment id is invalid."⟩
        else if attachmentId ∈ seen then
          .error ⟨"bad_request", "Message attachment ids must be distinct."⟩
        else
          go (seen ++ [attachmentId]) values

def MessageSend.fromPayload (payload : MessageSendPayload) :
    Except CommandRejection MessageSend := do
  let content := cleanMessage payload.content maxMessageCharacters
  let attachmentIds ← parseAttachmentIds payload.attachmentIds
  if !hasVisibleText content && attachmentIds == [] then
    throw ⟨"empty", "Message content or an attachment is required."⟩
  pure { content, attachmentIds }

def requireActiveWriteParticipant (principal : AuthenticatedPrincipal)
    (participant : Participant) : Except CommandRejection Unit :=
  if principal.participantId ≠ participant.participantId ∨ participant.status ≠ .joined then
    .error ⟨"session_revoked", "This room session has ended."⟩
  else if participant.muted then
    .error ⟨"muted", "This participant is muted."⟩
  else
    .ok ()

def requireMessageWriteAuthority (principal : AuthenticatedPrincipal)
    (participant : Participant) : Except CommandRejection Unit :=
  if principal.clientKind = .agentBridge ∨ principal.capabilities.messageSend = false then
    .error ⟨"permission_denied", "This room session cannot send messages."⟩
  else
    requireActiveWriteParticipant principal participant

/-- The event of an authorized participant message, under the given fresh id. -/
def prepareAuthorizedParticipantMessageEvent (id : String) (participant : Participant)
    (sequence now : Nat) (content messageKind : String) (extra : EventExtra) :
    Except CommandRejection RoomEvent :=
  if sequence = 0 then
    .error ⟨"invalid_state", "Room event sequence must be positive."⟩
  else
    .ok
      { id
        seq := sequence
        createdAt := now
        eventType := "message_final"
        actor := ⟨participant.participantId, participant.participantType⟩
        participantId := some participant.participantId
        participantType := some participant.participantType
        actorId := some participant.participantId
        actorType := some participant.participantType
        displayName := some participant.displayName
        content := some content
        messageKind := some messageKind
        extra }

def prepareMessageEvent (id : String) (principal : AuthenticatedPrincipal)
    (participant : Participant) (command : MessageSend) (sequence now : Nat) :
    Except CommandRejection RoomEvent := do
  requireMessageWriteAuthority principal participant
  prepareAuthorizedParticipantMessageEvent id participant sequence now command.content
    "message" {}

/-! ## Editing and deleting -/

structure MessageEdit where
  eventId : String
  content : String
  deriving DecidableEq, Repr

structure MessageDelete where
  eventId : String
  deriving DecidableEq, Repr

def maxMessageEventIdBytes : Nat := 128

def isMessageEventId (value : String) : Bool :=
  value != "" && decide (value.utf8ByteSize ≤ maxMessageEventIdBytes) &&
    !value.toList.contains '\x00'

def exactEventId (eventId : String) : Except CommandRejection String :=
  if isMessageEventId eventId then .ok eventId
  else .error ⟨"bad_request", "event_id must be a valid message identifier."⟩

def MessageEdit.fromPayload (eventId content : String) :
    Except CommandRejection MessageEdit := do
  let eventId ← exactEventId eventId
  pure { eventId, content := cleanMessage content maxMessageCharacters }

def MessageDelete.fromPayload (eventId : String) : Except CommandRejection MessageDelete := do
  let eventId ← exactEventId eventId
  pure { eventId }

inductive MutableMessageKind
  | message
  | vote
  deriving DecidableEq, Repr

/-- The actor columns of a stored message agree with its actor. -/
def RoomEvent.HasCanonicalActor (event : RoomEvent) : Prop :=
  event.actor.participantId ≠ "" ∧
    (event.actor.participantType = "human" ∨ event.actor.participantType = "agent") ∧
    event.participantId = some event.actor.participantId ∧
    event.participantType = some event.actor.participantType ∧
    event.actorId = some event.actor.participantId ∧
    event.actorType = some event.actor.participantType

instance (event : RoomEvent) : Decidable event.HasCanonicalActor :=
  inferInstanceAs (Decidable (_ ∧ _ ∧ _ ∧ _ ∧ _ ∧ _))

def requireMutableMessage (event : RoomEvent) :
    Except CommandRejection MutableMessageKind := do
  if event.eventType ≠ "message_final" then
    throw ⟨"message_not_found", "Message was not found."⟩
  if event.isDeleted then
    throw ⟨"message_deleted", "Message was already deleted."⟩
  let kind ←
    if event.messageKind = some "message" then pure MutableMessageKind.message
    else if event.messageKind = some "vote" then pure MutableMessageKind.vote
    else throw ⟨"unsupported_message_type", "This message type cannot be changed here."⟩
  if ¬ event.HasCanonicalActor then
    throw ⟨"invalid_state", "Stored message actor authority is inconsistent."⟩
  pure kind

def requireModifyCapability (principal : AuthenticatedPrincipal) :
    Except CommandRejection Unit :=
  if principal.clientKind = .agentBridge ∨ principal.capabilities.messageModify = false then
    .error ⟨"permission_denied", "This room session cannot modify messages."⟩
  else
    .ok ()

def authorizeMessageEdit (principal : AuthenticatedPrincipal) (event : RoomEvent) :
    Except CommandRejection Unit := do
  requireModifyCapability principal
  let kind ← requireMutableMessage event
  if kind ≠ .message ∨ event.actor.participantType ≠ "human" ∨
      event.actor.participantId ≠ principal.participantId then
    throw ⟨"permission_denied", "Only the author can edit this message."⟩

def authorizeMessageDelete (principal : AuthenticatedPrincipal) (event : RoomEvent)
    (author : Participant) : Except CommandRejection MutableMessageKind := do
  requireModifyCapability principal
  let kind ← requireMutableMessage event
  if author.participantId ≠ event.actor.participantId ∨
      author.participantType ≠ event.actor.participantType then
    throw ⟨"invalid_state", "Stored message author authority is inconsistent."⟩
  let ownHuman := author.participantType == "human" &&
    author.participantId == principal.participantId
  let ownedAgent := author.participantType == "agent" &&
    author.ownerId == principal.participantId
  if !principal.isOperator && !ownHuman && !ownedAgent then
    throw ⟨"permission_denied", "You cannot delete this message."⟩
  pure kind

def prepareUpdatedMessage (target : RoomEvent) (content : String) (editedAt : Nat) :
    RoomEvent :=
  { target with
    content := some content
    extra := { target.extra with editedAt := some editedAt } }

/-- The tombstone of a deleted message; a poll also loses its definition. -/
def prepareDeletedMessage (target : RoomEvent) (kind : MutableMessageKind)
    (deletedAt : Nat) : RoomEvent :=
  let extra :=
    { target.extra with
      targetAgentId := none
      attachments := some []
      messageDeleted := some true
      deletedAt := some deletedAt }
  { target with
    content := some ""
    extra := match kind with
      | .message => extra
      | .vote =>
          { extra with
            voteQuestion := some ""
            voteOptions := some []
            voteDurationSeconds := none
            voteDeadlineAt := some none } }

def mutationEvent (id : String) (principal : AuthenticatedPrincipal) (target : RoomEvent)
    (eventType : String) (sequence createdAt : Nat) (content : Option String)
    (extra : EventExtra) : RoomEvent :=
  { id
    seq := sequence
    createdAt
    eventType
    actor := ⟨principal.participantId, "human"⟩
    participantId := some principal.participantId
    participantType := some "human"
    actorId := some principal.participantId
    actorType := some "human"
    displayName := some principal.displayName
    content
    extra := { extra with
      targetEventId := some target.id
      targetSeq := some target.seq } }

def prepareMessageUpdatedEvent (id : String) (principal : AuthenticatedPrincipal)
    (target : RoomEvent) (content : String) (sequence editedAt : Nat) : RoomEvent :=
  mutationEvent id principal target "message_updated" sequence editedAt (some content)
    { editedAt := some editedAt }

def prepareMessageDeletedEvent (id : String) (principal : AuthenticatedPrincipal)
    (target : RoomEvent) (sequence deletedAt : Nat) : RoomEvent :=
  mutationEvent id principal target "message_deleted" sequence deletedAt none
    { deletedAt := some deletedAt }

end AgentsAssemble.Domain
