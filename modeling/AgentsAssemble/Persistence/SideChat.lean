import AgentsAssemble.Domain.CanonicalJson
import AgentsAssemble.Domain.SideChat
import AgentsAssemble.Foundation.Retention
import AgentsAssemble.Pairing.Managers

/-!
# Side chat

The side chat of a room lives in memory, under the incarnation of the room.  A request holds the
authority of a read transaction while it works on the memory, and what it did to the memory
stays when the request is refused or when its transaction fails to complete.
-/

namespace AgentsAssemble.Persistence

open Foundation
open Domain (ClientKind CommandRejection SideChatMessage SideChatSend SideChatSnapshot
  SideChatUpdate UuidText sideChatMaxMessages sideChatTtlSeconds)
open Domain.CanonicalJson (DoubleText Sha256 canonicalPayloadHash)
open Pairing (Host LocalRoomManagerAuthority RoomPrincipal loadActiveMembership)

/-! ## Rooms -/

structure RetainedMessage where
  principalId : String
  requestId : String
  payloadHash : String
  message : SideChatMessage
  deriving DecidableEq, Repr

def RetainedMessage.seq (entry : RetainedMessage) : Nat :=
  entry.message.seq

structure SideChatRoom where
  generation : String
  latestSeq : Nat
  retainedAfterSeq : Nat
  messages : List RetainedMessage
  /-- What was sent to the listeners. -/
  updates : List SideChatUpdate
  window : Window RetainedMessage.seq retainedAfterSeq latestSeq messages

/-- `SideChatRoom::default`. -/
def SideChatRoom.new (generation : String) : SideChatRoom :=
  { generation
    latestSeq := 0
    retainedAfterSeq := 0
    messages := []
    updates := []
    window := .nil _ 0 }

def sideChatTtl : Int := sideChatTtlSeconds * 1000000000

namespace SideChatRoom

def prune (room : SideChatRoom) (now : Int) : SideChatRoom :=
  let cutoff := now - sideChatTtl
  let kept := forget RetainedMessage.seq (fun entry => decide (entry.message.createdAt ≤ cutoff))
    sideChatMaxMessages room.retainedAfterSeq room.messages
  { room with
    retainedAfterSeq := kept.1
    messages := kept.2
    window := forget_window room.window }

/-- The room after the message with its next number was pushed. -/
def push (room : SideChatRoom) (entry : RetainedMessage)
    (hentry : entry.seq = room.latestSeq + 1) : SideChatRoom :=
  { room with
    latestSeq := room.latestSeq + 1
    messages := room.messages ++ [entry]
    window := room.window.push hentry }

def announce (room : SideChatRoom) (update : SideChatUpdate) : SideChatRoom :=
  { room with updates := room.updates ++ [update] }

def snapshot (room : SideChatRoom) (incarnation roomId : String) : SideChatSnapshot :=
  { roomId
    roomUid := incarnation
    generation := room.generation
    retainedAfterSeq := room.retainedAfterSeq
    latestSeq := room.latestSeq
    messages := room.messages.map RetainedMessage.message }

end SideChatRoom

structure SideChatCommit where
  update : SideChatUpdate
  deduplicated : Bool
  deriving DecidableEq, Repr

/-! ## Authority -/

def requireMessageWriteAuthority (principal : RoomPrincipal) (participant : Directory.Participant) :
    Except CommandRejection Unit :=
  if principal.clientKind = .agentBridge ∨ principal.capabilities.messageSend = false then
    .error ⟨"permission_denied", "This room session cannot send messages."⟩
  else if principal.roomId ≠ participant.roomId ∨
      principal.participantId ≠ participant.participantId ∨ participant.status ≠ .joined then
    .error ⟨"session_revoked", "This room session has ended."⟩
  else if participant.muted = true then
    .error ⟨"muted", "This participant is muted."⟩
  else
    .ok ()

/-- `human_authority`; the authority of the request was resolved to a principal or refused. -/
def humanAuthority (host : Host) (authority : Except PersistenceError RoomPrincipal)
    (writing : Bool) :
    Except PersistenceError (String × RoomPrincipal × Directory.Participant) := do
  let principal ← authority
  let (room, participant) ←
    loadActiveMembership host principal.roomId principal.participantId
  if principal.clientKind ≠ .browser ∨ participant.participantType ≠ "human" ∨
      principal.capabilities.roomHistory = false then
    throw (rejected "human_side_chat_required"
      "Side chat is available only to current human room sessions.")
  if writing then
    (requireMessageWriteAuthority principal participant).mapError rejection
  pure (room.roomUid, principal, participant)

/-! ## Errors -/

def expiredRetry : PersistenceError :=
  .commandUnresolved "side_chat_retry_expired"
    "This side-chat lifetime or retry window ended. Refresh before starting a new message."

def retiredRoom : PersistenceError :=
  rejected "session_revoked" "The side-chat room lifetime ended."

def sideChatResultUncertain : PersistenceError :=
  .commandUnresolved "side_chat_result_uncertain"
    "The side-chat result is uncertain; retry the same request."

/-- A read transaction that fails to complete. -/
def transactionIncomplete : PersistenceError :=
  .database "transaction did not complete"

/-! ## The store -/

structure SideChatStore where
  host : Host
  rooms : Table String SideChatRoom
  uuids : Nat

namespace SideChatStore

/-- `rooms.entry(incarnation).or_default()`. -/
def enter [UuidSource] (store : SideChatStore) (incarnation : String) :
    SideChatRoom × SideChatStore :=
  match store.rooms.lookup incarnation with
  | some room => (room, store)
  | none =>
      let room := SideChatRoom.new (UuidSource.newV4 store.uuids)
      (room, { store with
        rooms := store.rooms.insert incarnation room
        uuids := store.uuids + 1 })

def put (store : SideChatStore) (incarnation : String) (room : SideChatRoom) : SideChatStore :=
  { store with rooms := store.rooms.insert incarnation room }

end SideChatStore

section Operations

variable [UuidText] [DoubleText] [Sha256] [UuidSource]

/-- A request whose read transaction completes or not; its effect on the memory stays. -/
def finish {α : Type} (completes : Bool) (failure : PersistenceError)
    (outcome : Except PersistenceError α) : Except PersistenceError α :=
  match outcome with
  | .ok value => if completes then .ok value else .error failure
  | .error e => .error e

def append (room : SideChatRoom) (principal : RoomPrincipal)
    (participant : Directory.Participant) (requestId : String) (payload : Json)
    (request : SideChatSend) (now : Int) (id : String) :
    Except PersistenceError (SideChatCommit × SideChatRoom) :=
  if request.generation ≠ room.generation ∨ (room.latestSeq : Int) < request.afterSeq then
    .error expiredRetry
  else
    let hash := canonicalPayloadHash payload
    match room.messages.find? fun entry =>
      entry.principalId == principal.principalId && entry.requestId == requestId with
    | some previous =>
        if previous.payloadHash ≠ hash then
          .error .commandConflict
        else
          .ok
            ({ update :=
                 { roomId := principal.roomId
                   generation := room.generation
                   retainedAfterSeq := room.retainedAfterSeq
                   message := previous.message }
               deduplicated := true }, room)
    | none =>
        if request.afterSeq < room.retainedAfterSeq then
          .error expiredRetry
        else if 2 ^ 63 ≤ room.latestSeq + 1 then
          .error expiredRetry
        else
          let message : SideChatMessage :=
            { id
              seq := room.latestSeq + 1
              createdAt := now
              participantId := participant.participantId
              displayName := participant.displayName
              content := request.content }
          let room := (room.push
            { principalId := principal.principalId
              requestId
              payloadHash := hash
              message } rfl).prune now
          let update : SideChatUpdate :=
            { roomId := principal.roomId
              generation := room.generation
              retainedAfterSeq := room.retainedAfterSeq
              message }
          .ok ({ update, deduplicated := false }, room.announce update)

/-- `execute_side_chat` up to the completion of its read transaction. -/
def sendSideChat (authority : Except PersistenceError RoomPrincipal) (requestId : String)
    (payload : Json) (now : Int) (store : SideChatStore) :
    Except PersistenceError SideChatCommit × SideChatStore :=
  match SideChatSend.fromPayload payload with
  | .error e => (.error (rejection e), store)
  | .ok request =>
      match humanAuthority store.host authority true with
      | .error e => (.error e, store)
      | .ok (roomUid, principal, participant) =>
          let (room, store) := store.enter roomUid
          let room := room.prune now
          match append room principal participant requestId payload request now
              (UuidSource.newV4 store.uuids) with
          | .error e => (.error e, store.put roomUid room)
          | .ok (commit, room) =>
              (.ok commit, { store.put roomUid room with
                uuids := if commit.deduplicated then store.uuids else store.uuids + 1 })

def executeSideChat (authority : Except PersistenceError RoomPrincipal) (requestId : String)
    (payload : Json) (completes : Bool) (now : Int) (store : SideChatStore) :
    Except PersistenceError SideChatCommit × SideChatStore :=
  let (outcome, store) := sendSideChat authority requestId payload now store
  (finish completes sideChatResultUncertain outcome, store)

/-! ## Reading -/

def sideChatSnapshotInMemory (incarnation roomId : String) (now : Int) (store : SideChatStore) :
    SideChatSnapshot × SideChatStore :=
  let (room, store) := store.enter incarnation
  let room := room.prune now
  (room.snapshot incarnation roomId, store.put incarnation room)

def localSideChatSnapshot (expected : LocalRoomManagerAuthority) (completes : Bool) (now : Int)
    (store : SideChatStore) : Except PersistenceError SideChatSnapshot × SideChatStore :=
  match expected.resolve store.host with
  | .error e => (.error e, store)
  | .ok _ =>
      let (snapshot, store) :=
        sideChatSnapshotInMemory expected.roomUid expected.manager.roomId now store
      (finish completes transactionIncomplete (.ok snapshot), store)

def sideChatSnapshot (authority : Except PersistenceError RoomPrincipal) (completes : Bool)
    (now : Int) (store : SideChatStore) :
    Except PersistenceError SideChatSnapshot × SideChatStore :=
  match humanAuthority store.host authority false with
  | .error e => (.error e, store)
  | .ok (roomUid, principal, _) =>
      let (snapshot, store) := sideChatSnapshotInMemory roomUid principal.roomId now store
      (finish completes transactionIncomplete (.ok snapshot), store)

/-- A subscription; its listener receives the updates from the next one on. -/
def subscribeSideChat (authority : Except PersistenceError RoomPrincipal) (incarnation : String)
    (completes : Bool) (store : SideChatStore) :
    Except PersistenceError Nat × SideChatStore :=
  match humanAuthority store.host authority false with
  | .error e => (.error e, store)
  | .ok (roomUid, _, _) =>
      if roomUid ≠ incarnation then
        (.error retiredRoom, store)
      else
        let (room, store) := store.enter roomUid
        (finish completes transactionIncomplete (.ok room.updates.length), store)

/-- `SideChatRepository::clear_room`. -/
def clearRoom (incarnation : String) (store : SideChatStore) : SideChatStore :=
  { store with rooms := store.rooms.erase incarnation }

end Operations

end AgentsAssemble.Persistence
