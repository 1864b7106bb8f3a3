import AgentsAssemble.Persistence.Context

/-!
# Polls

The ballot projection of a poll: one state row with the tallies, one ballot row
for each participant, and the poll event that defines the options.
-/

namespace AgentsAssemble.Persistence

open Foundation Domain Tx

/-! ## Attachment custody -/

def attachmentUnavailable : PersistenceError :=
  rejected "attachment_unavailable"
    "A message attachment is unavailable or no longer pending."

/-- The row can still be bound by this principal. -/
def AttachmentRow.isBindable (row : AttachmentRow) (principal : AuthenticatedPrincipal)
    (nowSeconds : Nat) : Bool :=
  row.pendingOwnerUserId == some principal.principalId && row.eventSeq == none &&
    row.expiresAt.any fun expiresAt => nowSeconds < expiresAt

def secondsOf (now : Nat) : Nat := now / 1000000000

def prepareMessageAttachmentBinding (principal : AuthenticatedPrincipal) (now : Nat)
    (attachmentId : String) : RoomTx MessageAttachmentMetadata := do
  let attachments ← read Store.attachments
  let row ← orReject ((attachments.lookup attachmentId).filter fun row =>
    row.isBindable principal (secondsOf now)) attachmentUnavailable
  pure (messageAttachmentMetadata attachmentId row.filename row.contentType row.size
    row.isSafeImage)

def bindMessageAttachment (principal : AuthenticatedPrincipal) (eventSeq now : Nat)
    (attachmentId : String) : RoomTx Unit := do
  let attachments ← read Store.attachments
  let row ← orReject ((attachments.lookup attachmentId).filter fun row =>
    row.isBindable principal (secondsOf now)) attachmentUnavailable
  write fun s => { s with
    attachments := s.attachments.insert attachmentId
      { row with pendingOwnerUserId := none, eventSeq := some eventSeq, expiresAt := none } }

/-- The event lists the attachments it was sent with. -/
def withAttachments (event : RoomEvent) (attachments : List MessageAttachmentMetadata) :
    RoomEvent :=
  if attachments = [] then event
  else { event with extra := { event.extra with attachments := some attachments } }

/-! ## Stored polls -/

structure VoteDefinition where
  question : String
  options : List String
  durationSeconds : Nat
  deadlineAt : Option Nat
  deriving DecidableEq, Repr

structure StoredVote where
  poll : RoomEvent
  definition : VoteDefinition
  tallies : List Nat
  totalVotes : Nat
  manualClose : Option (Nat × Nat)
  deriving DecidableEq, Repr

def voteMissing : PersistenceError :=
  rejected "vote_not_found" "This vote does not exist in the room."

def invalidVoteChoice : PersistenceError :=
  rejected "invalid_vote_choice" "The vote choice is invalid."

def voteCapacityReached : PersistenceError :=
  rejected "vote_capacity_reached" "This vote has reached its participant limit."

def invalidVoteState : PersistenceError :=
  rejected "invalid_state" "Stored vote authority is invalid."

section Polls

variable [CaseFold]

/-- Reads a poll event back through the command parser. -/
def pollDefinition (event : RoomEvent) : Except PersistenceError VoteDefinition :=
  if event.eventType ≠ "message_final" ∨ event.messageKind ≠ some "vote" then
    .error invalidVoteState
  else
    match event.extra.voteQuestion, event.extra.voteOptions, event.extra.voteDurationSeconds,
        event.extra.voteDeadlineAt with
    | some question, some options, some duration, some deadline =>
        match parseCreate question options (some duration) none with
        | .error _ => .error invalidVoteState
        | .ok definition =>
            let deadlineAt := voteDeadlineAt event.createdAt duration
            if definition.question ≠ question ∨ definition.options ≠ options ∨
                definition.durationSeconds ≠ duration ∨ deadline ≠ deadlineAt then
              .error invalidVoteState
            else
              .ok
                { question := definition.question
                  options := definition.options
                  durationSeconds := duration
                  deadlineAt }
    | _, _, _, _ => .error invalidVoteState

/-- The instant of the close event a manually closed poll refers to. -/
def validateCloseEvent (events : List RoomEvent) (voteId : String) (pollSeq closeSeq : Nat) :
    Except PersistenceError Nat :=
  if closeSeq ≤ pollSeq then
    .error invalidVoteState
  else
    match events.find? fun event => event.seq == closeSeq with
    | none => .error invalidVoteState
    | some event =>
        if event.eventType ≠ "message_final" ∨ event.messageKind ≠ some "vote_close" ∨
            event.extra.voteId ≠ some voteId then
          .error invalidVoteState
        else
          .ok event.createdAt

def storedVoteOf (s : Store) (voteId : String) : Except PersistenceError StoredVote :=
  match s.voteStates.lookup voteId with
  | none => .error voteMissing
  | some row =>
      match s.events.find? fun event => event.seq == row.pollSeq with
      | none => .error voteMissing
      | some poll => do
          if poll.id ≠ voteId then
            throw invalidVoteState
          let definition ← pollDefinition poll
          if row.totalVotes > maxVoteBallotsPerPoll ∨
              row.tallies.length ≠ definition.options.length ∨
              row.tallies.sum ≠ row.totalVotes then
            throw invalidVoteState
          let manualClose ← match row.manualCloseSeq with
            | none => pure none
            | some closeSeq => do
                let closedAt ← validateCloseEvent s.events voteId poll.seq closeSeq
                pure (some (closeSeq, closedAt))
          pure
            { poll, definition, tallies := row.tallies, totalVotes := row.totalVotes
              manualClose }

def loadVote (voteId : String) : RoomTx StoredVote := do
  let stored ← read fun s => storedVoteOf s voteId
  ofResult stored

end Polls

def requireOpen (stored : StoredVote) (now : Nat) : Except PersistenceError Unit :=
  if stored.definition.deadlineAt.any fun deadline => decide (deadline ≤ now) then
    .error (rejected "vote_expired" "This vote has ended.")
  else if stored.manualClose.isSome then
    .error (rejected "vote_closed" "This vote has ended.")
  else
    .ok ()

/-! ## Ballots -/

def ballotOf (s : Store) (participantId : String) (stored : StoredVote) :
    Except PersistenceError (Option Nat) :=
  match s.voteBallots.lookup (stored.poll.id, participantId) with
  | none => .ok none
  | some index =>
      if index < stored.definition.options.length then .ok (some index)
      else .error invalidVoteState

def loadBallot (participantId : String) (stored : StoredVote) : RoomTx (Option Nat) := do
  let ballot ← read fun s => ballotOf s participantId stored
  ofResult ballot

/-- One vote less for the option, if it has one. -/
def uncountVote (tallies : List Nat) (index : Nat) : Except PersistenceError (List Nat) :=
  match tallies[index]? with
  | some (count + 1) => .ok (tallies.set index count)
  | _ => .error invalidVoteState

/-- One vote more for the option. -/
def countVote (tallies : List Nat) (index : Nat) : Except PersistenceError (List Nat) :=
  match tallies[index]? with
  | some count =>
      if count + 1 < 2 ^ 64 then .ok (tallies.set index (count + 1))
      else .error invalidVoteState
  | none => .error invalidVoteState

def replaceBallot (participant : Participant) (stored : StoredVote) (choiceIndex : Nat) :
    RoomTx StoredVote := do
  let previous ← loadBallot participant.participantId stored
  if previous = some choiceIndex then
    pure stored
  else do
    let uncounted ← match previous with
      | some index => do
          let tallies ← ofResult (uncountVote stored.tallies index)
          pure { stored with tallies }
      | none => do
          require (stored.totalVotes < maxVoteBallotsPerPoll) voteCapacityReached
          pure { stored with totalVotes := stored.totalVotes + 1 }
    let tallies ← ofResult (countVote uncounted.tallies choiceIndex)
    write fun s => { s with
      voteBallots := s.voteBallots.insert (stored.poll.id, participant.participantId)
        choiceIndex }
    pure { uncounted with tallies }

def removeBallot (participant : Participant) (stored : StoredVote) : RoomTx StoredVote := do
  let previous ← loadBallot participant.participantId stored
  match previous with
  | none => pure stored
  | some index => do
      let tallies ← ofResult (uncountVote stored.tallies index)
      require (0 < stored.totalVotes) invalidVoteState
      write fun s => { s with
        voteBallots := s.voteBallots.erase (stored.poll.id, participant.participantId) }
      pure { stored with tallies, totalVotes := stored.totalVotes - 1 }

def saveVoteState (stored : StoredVote) : RoomTx Unit := do
  let states ← read Store.voteStates
  let row ← orReject ((states.lookup stored.poll.id).filter fun row =>
    row.pollSeq == stored.poll.seq) invalidVoteState
  write fun s => { s with
    voteStates := s.voteStates.insert stored.poll.id
      { row with
        tallies := stored.tallies
        totalVotes := stored.totalVotes
        manualCloseSeq := stored.manualClose.map Prod.fst } }

/-- Deletes the state of a poll; its ballots go with it. -/
def deleteVoteProjection (voteId : String) (pollSeq : Nat) : RoomTx Unit := do
  let states ← read Store.voteStates
  let _ ← orReject ((states.lookup voteId).filter fun row => row.pollSeq == pollSeq)
    invalidVoteState
  write fun s => { s with
    voteStates := s.voteStates.erase voteId
    voteBallots := s.voteBallots.eraseWhere fun key => key.1 == voteId }

/-! ## Commands -/

section Commands

variable [CaseFold]

def insertVoteState (event : RoomEvent) : RoomTx Unit := do
  let definition ← ofResult (pollDefinition event)
  let states ← read Store.voteStates
  require (states.lookup event.id = none) (constraintViolation "room_vote_states")
  write fun s => { s with
    voteStates := s.voteStates.insert event.id
      { pollSeq := event.seq
        tallies := List.replicate definition.options.length 0
        totalVotes := 0
        manualCloseSeq := none } }

variable [UuidSource]

def prepareVoteRoomEvent (principal : AuthenticatedPrincipal) (participant : Participant)
    (command : VoteCommand) (sequence now : Nat) : RoomTx RoomEvent := do
  let id ← drawUuid
  ofResult ((prepareVoteEvent id principal participant command sequence now).mapError rejection)

def createVote (principal : AuthenticatedPrincipal) (participant : Participant)
    (poll : VoteCreate) (sequence now : Nat) : RoomTx RoomEvent := do
  let attachments ← each (prepareMessageAttachmentBinding principal now) poll.attachmentIds
  let prepared ← prepareVoteRoomEvent principal participant (.create poll) sequence now
  let event := withAttachments prepared attachments
  insertEvent event
  insertVoteState event
  let _ ← each (bindMessageAttachment principal sequence now) poll.attachmentIds
  pure event

def castVote (principal : AuthenticatedPrincipal) (participant : Participant)
    (ballot : VoteCast) (sequence now : Nat) : RoomTx RoomEvent := do
  let stored ← loadVote ballot.voteId
  ofResult (requireOpen stored now)
  let choice ← orReject (resolveVoteChoice ballot.choice stored.definition.options)
    invalidVoteChoice
  let choiceIndex ← orReject (stored.definition.options.findIdx? (· == choice))
    invalidVoteState
  let prepared ← prepareVoteRoomEvent principal participant
    (.cast { voteId := ballot.voteId, choice }) sequence now
  let event := privacyMinimizedVoteTransition prepared
  let stored ← replaceBallot participant stored choiceIndex
  insertEvent event
  saveVoteState stored
  pure event

def withdrawVote (principal : AuthenticatedPrincipal) (participant : Participant)
    (reference : VoteReference) (sequence now : Nat) : RoomTx RoomEvent := do
  let stored ← loadVote reference.voteId
  ofResult (requireOpen stored now)
  let prepared ← prepareVoteRoomEvent principal participant (.withdraw reference) sequence now
  let event := privacyMinimizedVoteTransition prepared
  insertEvent event
  let stored ← removeBallot participant stored
  saveVoteState stored
  pure event

def closeVote (principal : AuthenticatedPrincipal) (participant : Participant)
    (reference : VoteReference) (sequence now : Nat) : RoomTx RoomEvent := do
  let stored ← loadVote reference.voteId
  ofResult (requireOpen stored now)
  require (principal.isOperator = true ∨
      stored.poll.actor.participantId = participant.participantId)
    (rejected "permission_denied"
      "Only the vote creator or room operator can close this vote.")
  let prepared ← prepareVoteRoomEvent principal participant (.close reference) sequence now
  let event := privacyMinimizedVoteTransition prepared
  insertEvent event
  saveVoteState { stored with manualClose := some (sequence, now) }
  pure event

def applyVoteCommand (principal : AuthenticatedPrincipal) (participant : Participant)
    (command : VoteCommand) (sequence now : Nat) : RoomTx RoomEvent :=
  match command with
  | .create poll => createVote principal participant poll sequence now
  | .cast ballot => castVote principal participant ballot sequence now
  | .withdraw reference => withdrawVote principal participant reference sequence now
  | .close reference => closeVote principal participant reference sequence now

end Commands

def isTerminalVoteRejection : PersistenceError → Bool
  | .commandRejected code _ =>
      ["vote_not_found", "vote_expired", "vote_closed", "vote_capacity_reached",
        "invalid_vote_choice", "permission_denied"].contains code
  | _ => false

end AgentsAssemble.Persistence
