import AgentsAssemble.Persistence.Scheduler
import AgentsAssemble.Persistence.Votes

/-!
# Room messages

The commands of a human member: sending a message or a vote, which also moves
the floor, and editing or deleting a stored message.
-/

namespace AgentsAssemble.Persistence

open Foundation Domain Tx

/-! ## Sending -/

/-- The payload of `message.send`; the `kind` key makes it a vote. -/
inductive RoomMessagePayload
  | message (payload : MessageSendPayload)
  | vote (payload : VotePayload)
  deriving DecidableEq, Repr

section Send

variable [UuidSource] [CaseFold]

def executeMessageSend (principal : AuthenticatedPrincipal) (participant : Participant)
    (command : MessageSend) (sequence now : Nat) : RoomTx RoomEvent := do
  let attachments ← each (prepareMessageAttachmentBinding principal now) command.attachmentIds
  let id ← drawUuid
  let prepared ← ofResult
    ((prepareMessageEvent id principal participant command sequence now).mapError rejection)
  let event := withAttachments prepared attachments
  insertEvent event
  let _ ← each (bindMessageAttachment principal sequence now) command.attachmentIds
  pure event

/-- Publishes the message or vote; the flag says whether the floor is routed to. -/
def prepareHumanMessageEvent (principal : AuthenticatedPrincipal) (participant : Participant)
    (payload : RoomMessagePayload) (sequence now : Nat) : RoomTx (RoomEvent × Bool) :=
  match payload with
  | .vote payload => do
      let command ← ofResult ((VoteCommand.fromPayload payload).mapError rejection)
      let event ← applyVoteCommand principal participant command sequence now
      pure (event, match command with
        | .create _ => true
        | _ => false)
  | .message payload => do
      let command ← ofResult ((MessageSend.fromPayload payload).mapError rejection)
      let event ← executeMessageSend principal participant command sequence now
      pure (event, true)

variable [TextServices]

/-- Commits a room message together with its queueing and assignments. -/
def executeMessageIn (principal : AuthenticatedPrincipal) (payload : RoomMessagePayload)
    (seed now : Nat) : RoomTx AgentTurnCommit := do
  let (room, settings) ← loadActiveRoom
  let participant ← loadParticipant principal.participantId
  let sequence ← nextSequence
  let (event, routeToFloor) ← prepareHumanMessageEvent principal participant payload
    sequence now
  if routeToFloor then do
    routeMessage settings event seed
    let commit ← assignPendingIn room settings now
    pure { commit with events := event :: commit.events }
  else
    pure { events := [event], nextAssignments := [] }

end Send

/-! ## Editing and deleting -/

def invalidAttachmentState : PersistenceError :=
  messageStateRejection .invalidAttachments

/-- The attachments bound to the event, by ascending id. -/
def boundAttachmentIds (s : Store) (event : RoomEvent) : List String :=
  ((s.attachments.sorted (· ≤ ·)).filter fun entry =>
    entry.2.pendingOwnerUserId == none && entry.2.eventSeq == some event.seq).map Prod.fst

def deleteBoundMessageAttachments (event : RoomEvent) : RoomTx Unit := do
  let attachments ← ofResult (readable event.messageAttachments)
  let expected := (attachments.map MessageAttachmentMetadata.id).insertionSort (· ≤ ·)
  let stored ← read fun s => boundAttachmentIds s event
  require (stored = expected) invalidAttachmentState
  write fun s => { s with attachments := s.attachments.eraseWhere expected.contains }

inductive MessageMutation
  | edit (command : MessageEdit)
  | delete (command : MessageDelete)
  deriving DecidableEq, Repr

/-- The payload of `message.edit` or `message.delete`. -/
inductive MessageMutationPayload
  | edit (eventId content : String)
  | delete (eventId : String)
  deriving DecidableEq, Repr

def MessageMutation.fromPayload :
    MessageMutationPayload → Except CommandRejection MessageMutation
  | .edit eventId content => MessageMutation.edit <$> MessageEdit.fromPayload eventId content
  | .delete eventId => MessageMutation.delete <$> MessageDelete.fromPayload eventId

def MessageMutation.targetId : MessageMutation → String
  | .edit command => command.eventId
  | .delete command => command.eventId

section Mutation

variable [UuidSource]

def editMessage (principal : AuthenticatedPrincipal) (target : RoomEvent)
    (edit : MessageEdit) (sequence now : Nat) : RoomTx RoomEvent := do
  ofResult ((authorizeMessageEdit principal target).mapError rejection)
  if hasVisibleText edit.content = false then do
    let attachments ← ofResult (readable target.messageAttachments)
    require (attachments ≠ [])
      (rejected "empty" "Message content or an attachment is required.")
  replaceEvent (prepareUpdatedMessage target edit.content now)
  let id ← drawUuid
  pure (prepareMessageUpdatedEvent id principal target edit.content sequence now)

def deleteMessage (principal : AuthenticatedPrincipal) (target : RoomEvent)
    (sequence now : Nat) : RoomTx RoomEvent := do
  let author ← loadParticipant target.actor.participantId
  let kind ← ofResult ((authorizeMessageDelete principal target author).mapError rejection)
  deleteBoundMessageAttachments target
  if kind = .vote then
    deleteVoteProjection target.id target.seq
  removePendingInputReference target.id
  replaceEvent (prepareDeletedMessage target kind now)
  let id ← drawUuid
  pure (prepareMessageDeletedEvent id principal target sequence now)

/-- Commits one edit or deletion of a stored message. -/
def executeMessageMutationIn (principal : AuthenticatedPrincipal) 
    (payload : MessageMutationPayload) (now : Nat) : RoomTx AgentTurnCommit := do
  let _ ← loadActiveParticipant principal.participantId
  let mutation ← ofResult ((MessageMutation.fromPayload payload).mapError rejection)
  let found ← loadEvent mutation.targetId
  let target ← orReject found (rejected "message_not_found" "Message was not found.")
  let sequence ← nextSequence
  let published ← match mutation with
    | .edit edit => editMessage principal target edit sequence now
    | .delete _ => deleteMessage principal target sequence now
  insertEvent published
  pure { events := [published], nextAssignments := [] }

end Mutation

end AgentsAssemble.Persistence
