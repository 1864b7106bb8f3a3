import AgentsAssemble.Directory.Settings
import AgentsAssemble.Domain.Vote
import AgentsAssemble.Foundation.Json
import AgentsAssemble.Foundation.Table
import AgentsAssemble.Foundation.Transition
import AgentsAssemble.Foundation.Tx
import AgentsAssemble.Persistence.State

/-!
# Room creation

The directory of rooms and the creation of one room by the local operator.  The
result of a committed request is stored under the request, and repeating the
request answers from that row alone.
-/

namespace AgentsAssemble.Directory

open Foundation Domain Tx
open Persistence (PersistenceError RoomStatus UuidSource rejected)

def localOperatorUserId : String := "operator-local-user"
def localOperatorParticipantId : String := "operator-local"

/-- `canonical_payload_hash`, the digest of a canonically encoded value. -/
class PayloadHash where
  canonicalPayloadHash : Json → String

export PayloadHash (canonicalPayloadHash)

/-! ## State -/

structure Room where
  roomId : String
  roomUid : String
  label : String
  status : RoomStatus
  createdAt : Nat
  updatedAt : Nat
  deriving DecidableEq, Repr

structure UserProfile where
  participantId : String
  revision : Int
  displayName : String
  avatarImageUrl : String
  deriving DecidableEq, Repr

structure Participant where
  roomId : String
  participantId : String
  displayName : String
  avatarImageUrl : String
  participantType : String
  status : ParticipantStatus
  role : ParticipantRole
  ownerId : String
  muted : Bool
  createdAt : Nat
  updatedAt : Nat
  deriving DecidableEq, Repr

/-- The `room_created` event. -/
structure RoomCreatedEvent where
  v : Nat
  id : String
  seq : Nat
  createdAt : Nat
  roomId : String
  eventType : String
  actor : Actor
  actorId : Option String
  actorType : Option String
  label : String
  deriving DecidableEq, Repr

structure RoomCreateCommit where
  room : Room
  settings : RoomSettings
  events : List RoomCreatedEvent
  deduplicated : Bool
  serverId : String
  authorityLineageId : String
  deriving DecidableEq, Repr

structure LocalBootstrapStatus where
  serverId : String
  authorityLineageId : String
  deriving DecidableEq, Repr

/-- The bootstrap marker, once it is inspected. -/
inductive Bootstrap
  | empty
  | complete (status : LocalBootstrapStatus)
  | repairRequired
  deriving DecidableEq, Repr

structure RoomDirectory where
  bootstrap : Bootstrap
  profile : Option UserProfile
  rooms : Table String (Room × RoomSettings)
  publicationCursors : Table String Nat
  participants : Table (String × String) Participant
  events : Table (String × Nat) RoomCreatedEvent
  createResults : Table (String × String) (String × RoomCreateCommit)
  uuids : Nat
  deriving DecidableEq

abbrev DirectoryTx (α : Type) := Tx RoomDirectory PersistenceError α

/-! ## Reading rows -/

def invalidRoomState : PersistenceError :=
  rejected "invalid_state" "Stored room authority is invalid."

/-- A stored JSON document that does not decode. -/
def invalidDocument : PersistenceError := .database "stored document does not decode"

def constraintViolation (table : String) : PersistenceError :=
  .database ("UNIQUE constraint failed: " ++ table)

def requireCompleteBootstrap : DirectoryTx LocalBootstrapStatus := do
  match ← read RoomDirectory.bootstrap with
  | .complete status => pure status
  | .empty => throw (rejected "bootstrap_required" "Local identity bootstrap is not complete.")
  | .repairRequired =>
      throw (rejected "bootstrap_repair_required"
      "Local bootstrap authority is inconsistent and requires explicit repair.")

def loadLocalOperatorProfile : DirectoryTx UserProfile := do
  let profile ← orReject (← read RoomDirectory.profile)
    (rejected "user_profile_missing" "Local user profile was not found.")
  require (profile.participantId = localOperatorParticipantId)
    (rejected "profile_authority_mismatch"
      "Local user profile does not own the operator participant.")
  require (1 ≤ profile.revision)
    (rejected "invalid_state" "Stored user profile revision is invalid.")
  pure profile

section Decode

variable [UpperCase]

/-- Settings are checked whenever a document that carries them is decoded. -/
def decodeSettings (settings : RoomSettings) : Except PersistenceError RoomSettings :=
  (validateSettings settings).mapError fun _ => invalidDocument

def decodeCommit (stored : RoomCreateCommit) : Except PersistenceError RoomCreateCommit := do
  let settings ← decodeSettings stored.settings
  pure { stored with settings, serverId := "", authorityLineageId := "" }

/-! ## Creating a room -/

variable [PayloadHash] [UuidSource]

def replayRoomCreation (requestId roomId label payloadHash : String)
    (authority : LocalBootstrapStatus) : DirectoryTx (Option RoomCreateCommit) := do
  let results ← read RoomDirectory.createResults
  match results.lookup (localOperatorUserId, requestId) with
  | none => pure none
  | some (storedHash, result) => do
      require (storedHash = payloadHash)
        (rejected "room_create_request_conflict"
          "Room creation request id was reused with a different payload.")
      let stored ← ofResult (decodeCommit result)
      require (stored.deduplicated = false ∧ stored.room.roomId = roomId ∧
        stored.settings.label = label) invalidRoomState
      pure (some { stored with
        deduplicated := true
        events := []
        serverId := authority.serverId
        authorityLineageId := authority.authorityLineageId })

def drawUuid : DirectoryTx String :=
  fun s => .ok (UuidSource.newV4 s.uuids, { s with uuids := s.uuids + 1 })

def Room.new (roomUid roomId label : String) (now : Nat) : Room :=
  { roomId, roomUid, label, status := .active, createdAt := now, updatedAt := now }

def roomCreatedEvent (id roomId label : String) (now : Nat) : RoomCreatedEvent :=
  { v := 1
    id
    seq := 1
    createdAt := now
    roomId
    eventType := "room_created"
    actor := ⟨localOperatorParticipantId, "human"⟩
    actorId := some localOperatorParticipantId
    actorType := some "human"
    label }

def operatorParticipant (profile : UserProfile) (roomId : String) (now : Nat) : Participant :=
  { roomId
    participantId := localOperatorParticipantId
    displayName := profile.displayName
    avatarImageUrl := profile.avatarImageUrl
    participantType := "human"
    status := .joined
    role := .human
    ownerId := ""
    muted := false
    createdAt := now
    updatedAt := now }

/-- A row under a primary key that is not taken. -/
def insertRow {κ ρ : Type} [DecidableEq κ] (table : String) (get : RoomDirectory → Table κ ρ)
    (set : RoomDirectory → Table κ ρ → RoomDirectory) (key : κ) (row : ρ) :
    DirectoryTx Unit := do
  require ((← read get).lookup key = none) (constraintViolation table)
  write fun s => set s ((get s).insert key row)

def rejectExistingRoom (roomId : String) : DirectoryTx Unit := do
  match (← read RoomDirectory.rooms).lookup roomId with
  | none => pure ()
  | some (room, stored) => do
      let settings ← ofResult (decodeSettings stored)
      require (room.roomId = roomId ∧ settings.label = room.label) invalidRoomState
      throw (rejected "room_already_exists" "A different request already owns this room id.")

def createRoomInTransaction (requestId roomId label payloadHash : String)
    (authority : LocalBootstrapStatus) (now : Nat) : DirectoryTx RoomCreateCommit := do
  match ← replayRoomCreation requestId roomId label payloadHash authority with
  | some replay => pure replay
  | none => do
      rejectExistingRoom roomId
      let profile ← loadLocalOperatorProfile
      let room := Room.new (← drawUuid) roomId label now
      let settings := RoomSettings.defaults label
      insertRow "rooms" RoomDirectory.rooms (fun s t => { s with rooms := t })
        roomId (room, settings)
      insertRow "room_event_publication_cursors" RoomDirectory.publicationCursors
        (fun s t => { s with publicationCursors := t }) roomId 0
      insertRow "participants" RoomDirectory.participants (fun s t => { s with participants := t })
        (roomId, localOperatorParticipantId) (operatorParticipant profile roomId now)
      let event := roomCreatedEvent (← drawUuid) roomId label now
      insertRow "room_events" RoomDirectory.events (fun s t => { s with events := t })
        (roomId, 1) event
      let commit :=
        { room, settings
          events := [event]
          deduplicated := false
          serverId := authority.serverId
          authorityLineageId := authority.authorityLineageId }
      insertRow "room_create_results" RoomDirectory.createResults
        (fun s t => { s with createResults := t }) (localOperatorUserId, requestId)
        (payloadHash, commit)
      pure commit

def createRoomForLocalOperator (requestId roomId label : String) (now : Nat) :
    DirectoryTx RoomCreateCommit := do
  require (UuidSource.isUuid requestId = true)
    (rejected "room_create_request_invalid" "Room creation request id must be a UUID.")
  let payloadHash := canonicalPayloadHash
    (.object [("room_id", .string roomId), ("label", .string label)])
  let authority ← requireCompleteBootstrap
  createRoomInTransaction requestId roomId label payloadHash authority now

/-! ## The web handler -/

structure CreateRoomRequest where
  requestId : String
  roomId : String
  label : String
  deriving DecidableEq, Repr

def validateRoomId (value : String) : Except CommandRejection String :=
  let roomId := cleanIdentifier value 128
  if roomId = "" ∨ roomId = "." ∨ roomId = ".." ∨ roomId.toList.contains '/' ∨
      roomId.toList.contains '\\' then
    .error ⟨"bad_request", "room_id is required."⟩
  else
    .ok roomId

/-- The label a request stands for: its cleaned text, or the room id when there is none. -/
def requestedLabel (payload : CreateRoomRequest) (roomId : String) : String :=
  let label := cleanSingleLine payload.label 128
  if label = "" then roomId else label

def createRoom (payload : CreateRoomRequest) (now : Nat) : DirectoryTx RoomCreateCommit := do
  let roomId ← ofResult ((validateRoomId payload.roomId).mapError fun error =>
    rejected "bad_request" error.message)
  createRoomForLocalOperator payload.requestId roomId (requestedLabel payload roomId) now

end Decode

end AgentsAssemble.Directory
