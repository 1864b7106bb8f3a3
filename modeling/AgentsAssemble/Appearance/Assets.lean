import AgentsAssemble.Appearance.SettingsUpdate
import AgentsAssemble.Directory.Rooms
import AgentsAssemble.Foundation.Tx
import AgentsAssemble.Pairing.Managers

/-!
# Room appearance assets

The pictures of a room.  An upload is in the custody of its owner until it expires or until the
settings of the room refer to it; from then on it belongs to the room and goes with its last
reference.  Instants are nanoseconds since the epoch, expiries are whole seconds.
-/

namespace AgentsAssemble.Appearance

open Foundation Tx
open Domain.CanonicalJson (DoubleText Sha256 bytesOf canonicalPayloadHash encoded)
open Directory (Participant Room RoomAppearance RoomChannel RoomSettings UpperCase decodeSettings
  isRoomAppearanceAssetId localOperatorParticipantId localOperatorUserId
  roomAppearanceAssetId roomAppearanceAssetPrefix roomAppearanceReferencePrefix
  roomAppearanceReferenceSuffix)
open Pairing (Host RoomPrincipal RoomUserIdentity loadActiveMembership loadProfileForIdentity
  requireCurrentLocalRoomManager)
open Persistence (PersistenceError UuidSource rejected)

def maxAttachmentBytes : Nat := 10 * 1024 * 1024
def maxRetainedAssets : Nat := 4096
def maxRetainedAssetBytes : Nat := 8 * 1024 * 1024 * 1024

def nanosPerSecond : Nat := 1000000000

/-- `DateTime::timestamp`. -/
def timestampOf (now : Nat) : Nat :=
  now / nanosPerSecond

def pendingAppearanceTtl : Nat := 15 * 60 * nanosPerSecond

/-- The drawn UUIDs, also without their hyphens. -/
class SimpleUuidSource extends UuidSource where
  simple : Nat → String
  simple_injective : Function.Injective simple

/-! ## Rows -/

/-- An upload is pending under its owner until an expiry, or bound to its room. -/
inductive Custody
  | pending (owner : String) (expiresAt : Nat)
  | bound
  deriving DecidableEq, Repr

/-- A row of `room_appearance_assets` under its asset id.  Its creation instant is stored as
text that parses. -/
structure AppearanceAsset where
  roomId : String
  custody : Custody
  filename : String
  contentType : String
  content : List UInt8
  size : Nat
  createdAt : Nat
  deriving DecidableEq, Repr

namespace AppearanceAsset

def isExpired (asset : AppearanceAsset) (timestamp : Nat) : Bool :=
  match asset.custody with
  | .pending _ expiresAt => decide (expiresAt ≤ timestamp)
  | .bound => false

def bind (asset : AppearanceAsset) : AppearanceAsset :=
  { asset with custody := .bound }

end AppearanceAsset

structure RoomAppearanceAssetMetadata where
  id : String
  filename : String
  contentType : String
  size : Nat
  isImage : Bool
  url : String
  deriving DecidableEq, Repr

def assetMetadata (id filename : String) (size : Nat) : RoomAppearanceAssetMetadata :=
  { url := roomAppearanceReferencePrefix ++ id ++ roomAppearanceReferenceSuffix
    id
    filename
    contentType := "image/png"
    size
    isImage := true }

/-- A picture that was decoded and written again as PNG. -/
structure CanonicalRaster where
  filename : String
  content : List UInt8
  deriving DecidableEq, Repr

/-- The `room_settings_updated` event. -/
structure SettingsUpdatedEvent where
  id : String
  seq : Nat
  createdAt : Nat
  roomId : String
  participantId : String
  displayName : String
  roomSettings : PublicRoomSettings
  deriving DecidableEq, Repr

structure SettingsCommit where
  roomSettings : PublicRoomSettings
  event : SettingsUpdatedEvent
  deduplicated : Bool
  deriving DecidableEq, Repr

/-- A row of `command_results`. -/
structure StoredCommand where
  action : String
  payloadHash : String
  commit : SettingsCommit
  deriving DecidableEq, Repr

/-- The rows that commands of every kind read and write, under room, principal and request. -/
structure CommandTables where
  results : Table (String × String × String) StoredCommand
  deletedRequests : List (String × String × String)
  reservedRequests : List (String × String × String)
  quiescing : Bool
  /-- The commands and the bytes of a room in the window that starts at an instant. -/
  budgets : Table (String × Nat) (Nat × Nat)
  /-- The largest sequence number of the events of a room. -/
  sequences : Table String Nat
  retiredChannels : List (String × String)
  /-- The assets of the other kinds: how many, and their bytes. -/
  otherAssets : Nat × Nat

structure AppearanceStore where
  host : Host
  settings : Table String RoomSettings
  assets : Table String AppearanceAsset
  commands : CommandTables
  uuids : Nat

abbrev AppearanceTx (α : Type) := Tx AppearanceStore PersistenceError α

/-! ## Errors -/

def assetMissing : PersistenceError :=
  rejected "appearance_asset_missing" "Room appearance asset was not found."

def invalidAssetState : PersistenceError :=
  rejected "invalid_state" "Stored room appearance asset metadata is invalid."

def invalidRaster : PersistenceError :=
  rejected "invalid_state" "Stored raster attachment metadata is invalid."

def invalidStorageUsage : PersistenceError :=
  rejected "invalid_state" "Stored attachment usage is invalid."

def budgetExceeded : PersistenceError :=
  rejected "write_budget_exceeded" "Room-wide authenticated write budget exceeded."

/-! ## Uploads -/

section Uploads

variable [SimpleUuidSource]

def drawSimpleUuid : AppearanceTx String :=
  fun s => .ok (SimpleUuidSource.simple s.uuids, { s with uuids := s.uuids + 1 })

def deleteExpiredPending (timestamp : Nat) : AppearanceTx Unit :=
  write fun s => { s with assets := s.assets.deleteWhere fun _ asset => asset.isExpired timestamp }

/-- `enforce_storage_replacement` without a replaced asset. -/
def enforceStorage (newSize : Nat) : AppearanceTx Unit := do
  require (1 ≤ newSize ∧ newSize ≤ maxAttachmentBytes) invalidStorageUsage
  let rows := (← read AppearanceStore.assets).rows
  let (otherCount, otherBytes) := (← read AppearanceStore.commands).otherAssets
  let nextCount := otherCount + rows.length + 1
  let nextBytes := otherBytes + (rows.map fun row => row.2.size).sum + newSize
  require (¬ (maxRetainedAssets < nextCount ∨ maxRetainedAssetBytes < nextBytes))
    (rejected "attachment_quota_reached" "Absolute attachment storage limit reached.")

/-- `INSERT INTO room_appearance_assets`, under the constraints of the table. -/
def insertAsset (assetId : String) (asset : AppearanceAsset) (owner : String) :
    AppearanceTx Unit := do
  require ((← read AppearanceStore.assets).lookup assetId = none)
    (.database "UNIQUE constraint failed: room_appearance_assets.asset_id")
  require (isRoomAppearanceAssetId assetId = true) (.database "CHECK constraint failed")
  require (((← read AppearanceStore.settings).lookup asset.roomId).isSome = true)
    (.database "FOREIGN KEY constraint failed")
  require (((← read AppearanceStore.host).profiles.lookup owner).isSome = true)
    (.database "FOREIGN KEY constraint failed")
  write fun s => { s with assets := s.assets.insert assetId asset }

/-- An upload, whose picture was prepared or refused before and whose authority resolves or not. -/
def storePendingRoomAppearanceAsset (authority : Except PersistenceError RoomUserIdentity)
    (prepared : Except PersistenceError CanonicalRaster) (now : Nat) :
    AppearanceTx RoomAppearanceAssetMetadata := do
  let canonical ← ofResult prepared
  let manager ← ofResult authority
  deleteExpiredPending (timestampOf now)
  enforceStorage canonical.content.length
  let assetId := roomAppearanceAssetPrefix ++ (← drawSimpleUuid)
  insertAsset assetId
    { roomId := manager.roomId
      custody := .pending manager.userId (timestampOf (now + pendingAppearanceTtl))
      filename := canonical.filename
      contentType := "image/png"
      content := canonical.content
      size := canonical.content.length
      createdAt := now } manager.userId
  pure (assetMetadata assetId canonical.filename canonical.content.length)

def validateStoredRaster (asset : AppearanceAsset) : Except PersistenceError Unit :=
  if asset.contentType ≠ "image/png" ∨ ¬ (1 ≤ asset.size ∧ asset.size ≤ maxAttachmentBytes) ∨
      asset.size ≠ asset.content.length then
    .error invalidRaster
  else
    .ok ()

/-- A read of a pending upload by its owner; what expired is deleted either way. -/
def pendingRoomAppearanceAsset (authority : Except PersistenceError RoomUserIdentity)
    (assetId : String) (now : Nat) :
    AppearanceTx (Except PersistenceError AppearanceAsset) := do
  require (isRoomAppearanceAssetId assetId = true) assetMissing
  let manager ← ofResult authority
  deleteExpiredPending (timestampOf now)
  match (← read AppearanceStore.assets).lookup assetId with
  | none => pure (.error assetMissing)
  | some asset =>
      match asset.custody with
      | .bound => pure (.error assetMissing)
      | .pending owner expiresAt =>
          if asset.roomId = manager.roomId ∧ owner = manager.userId ∧
              timestampOf now < expiresAt then do
            ofResult (validateStoredRaster asset)
            pure (.ok asset)
          else
            pure (.error assetMissing)

end Uploads

/-! ## References -/

/-- A `BTreeSet` of texts, as the list of its elements in order. -/
def treeSet (ids : List String) : List String :=
  ids.dedup.insertionSort fun a b => a ≤ b

def appearanceAssetIds (appearance : RoomAppearance) : Except PersistenceError (List String) := do
  let ids ← ([appearance.bannerImageUrl, appearance.iconImageUrl].filter fun url => url ≠ "").mapM
    fun url =>
      match roomAppearanceAssetId url with
      | some id => (.ok id : Except PersistenceError String)
      | none => .error invalidAssetState
  pure (treeSet ids)

def resolveRoomUserIdentity (host : Host) (roomId userId participantId : String) :
    Except PersistenceError RoomUserIdentity := do
  let (_, participant) ← loadActiveMembership host roomId participantId
  if participant.status ≠ .joined ∨ participant.participantType ≠ "human" then
    throw (rejected "session_revoked" "Room preferences require a current human participant.")
  let _ ← loadProfileForIdentity host userId participantId
  pure ⟨roomId, userId, participantId⟩

/-- The user id of the manager of now.  It is resolved for every pending reference, where the
source keeps it after the first. -/
def currentManagerUserId (host : Host) (roomId : String) : Except PersistenceError String := do
  let identity ← resolveRoomUserIdentity host roomId localOperatorUserId localOperatorParticipantId
  let _ ← requireCurrentLocalRoomManager host identity
  pure identity.userId

/-- Keeps a reference that stands, or binds the pending asset that a new one names. -/
def bindReference (roomId : String) (currentIds : List String) (now : Nat) (assetId : String) :
    AppearanceTx Unit := do
  let asset ← orReject (((← read AppearanceStore.assets).lookup assetId).filter fun asset =>
    asset.roomId == roomId) assetMissing
  ofResult (validateStoredRaster asset)
  match asset.custody with
  | .bound => require (assetId ∈ currentIds) invalidAssetState
  | .pending owner expiresAt => do
      require (assetId ∉ currentIds) invalidAssetState
      let manager ← ofResult (currentManagerUserId (← read AppearanceStore.host) roomId)
      require (owner = manager ∧ timestampOf now < expiresAt) assetMissing
      write fun s => { s with
        assets := s.assets.update (fun key _ => key == assetId) AppearanceAsset.bind }

def releaseReference (roomId assetId : String) : AppearanceTx Unit := do
  let stored := (← read AppearanceStore.assets).lookup assetId
  require (stored.any fun asset => asset.roomId == roomId && decide (asset.custody = .bound))
    invalidAssetState
  write fun s => { s with assets := s.assets.erase assetId }

def transitionRoomAppearanceReferences (roomId : String) (current next : RoomAppearance)
    (now : Nat) : AppearanceTx Unit := do
  let currentIds ← ofResult (appearanceAssetIds current)
  let nextIds ← ofResult (appearanceAssetIds next)
  if current.bannerImageUrl = next.bannerImageUrl ∧ current.iconImageUrl = next.iconImageUrl then
    pure ()
  else do
    let _ ← each (bindReference roomId currentIds now) nextIds
    let _ ← each (releaseReference roomId) (currentIds.filter fun id => id ∉ nextIds)
    pure ()

/-! ## Commands -/

section Commands

variable [DoubleText] [Sha256] [UpperCase] [UuidSource]

def settingsUpdateAction : String := "room.settings.update"

def commandSize (requestId action : String) (payload : Json) : Nat :=
  (bytesOf (encoded (.object [("request_id", .string requestId), ("action", .string action),
    ("payload", payload)]))).length

def roomWriteWindowSeconds : Nat := 60
def maxRoomCommandsPerWindow : Nat := 14400
def maxRoomPayloadBytesPerWindow : Nat := 32 * 1024 * 1024

def reserveRoomWriteBudget (roomId : String) (payloadBytes now : Nat) : AppearanceTx Unit := do
  let window := timestampOf now / roomWriteWindowSeconds * roomWriteWindowSeconds
  write fun s => { s with
    commands.budgets := s.commands.budgets.eraseWhere fun key => decide (key.2 < window) }
  let (commandCount, byteCount) :=
    ((← read AppearanceStore.commands).budgets.lookup (roomId, window)).getD (0, 0)
  require (¬ (maxRoomCommandsPerWindow < commandCount + 1 ∨
    maxRoomPayloadBytesPerWindow < byteCount + payloadBytes)) budgetExceeded
  write fun s => { s with
    commands.budgets :=
      s.commands.budgets.insert (roomId, window) (commandCount + 1, byteCount + payloadBytes) }

/-- `existing_command`; the reply of a command that was stored is marked as repeated. -/
def existingCommand (key : String × String × String) (action payloadHash : String) :
    AppearanceTx (Option SettingsCommit) := do
  let commands ← read AppearanceStore.commands
  require (key ∉ commands.deletedRequests) .commandConflict
  match commands.results.lookup key with
  | none => pure none
  | some stored => do
      require (stored.action = action ∧ stored.payloadHash = payloadHash) .commandConflict
      pure (some { stored.commit with deduplicated := true })

def admitNonLifecycleCommand (key : String × String × String) (action payloadHash : String)
    (payloadBytes now : Nat) : AppearanceTx (Option SettingsCommit) := do
  let outcome ← existingCommand key action payloadHash
  require (key ∉ (← read AppearanceStore.commands).reservedRequests) .commandConflict
  match outcome with
  | some commit => pure (some commit)
  | none => do
      require ((← read AppearanceStore.commands).quiescing = false)
        (.commandUnresolved "runtime_restarting"
          "The runtime is quiescing for restart. Retry the same request after readiness.")
      reserveRoomWriteBudget key.1 payloadBytes now
      pure none

/-! ## Settings updates -/

def requireChannel (roomId : String) (current : List RoomChannel) (channel : RoomChannel) :
    AppearanceTx Unit := do
  match current.find? fun previous => previous.id == channel.id with
  | some previous =>
      require (previous.channelType = channel.channelType ∧ previous.createdAt = channel.createdAt)
        (rejected "channel_identity_conflict"
          "Channel type and creation identity cannot change.")
  | none =>
      require ((roomId, channel.id) ∉ (← read AppearanceStore.commands).retiredChannels)
        (rejected "channel_retired" "A removed channel id cannot be reused.")

/-- `transition_channels`, without the messages of a removed channel, which are hidden. -/
def transitionChannels (roomId : String) (current next : List RoomChannel) :
    AppearanceTx Unit := do
  if current = next then
    pure ()
  else do
    let _ ← each (requireChannel roomId current) next
    let removed := current.filter fun old => !next.any fun new => new.id == old.id
    write fun s => { s with
      commands.retiredChannels :=
        s.commands.retiredChannels ++ removed.map fun channel => (roomId, channel.id) }

def nextSequence (roomId : String) : AppearanceTx Nat := do
  pure (((← read AppearanceStore.commands).sequences.lookup roomId).getD 0 + 1)

def drawUuid : AppearanceTx String :=
  fun s => .ok (UuidSource.newV4 s.uuids, { s with uuids := s.uuids + 1 })

/-- The update of a request that was admitted. -/
def applySettingsUpdate (principal : RoomPrincipal) (room : Room) (requestId : String)
    (payload : Json) (now : Nat) : AppearanceTx SettingsCommit := do
  let stored ← orReject ((← read AppearanceStore.settings).lookup principal.roomId)
    (.database "no rows returned")
  let current ← ofResult (decodeSettings stored)
  let (expectedRevision, next) ← ofResult ((strictUpdate current payload).mapError fun error =>
    rejected error.code error.message)
  require (expectedRevision = (publicSettings current).settingsRevision)
    (rejected "settings_conflict" "Room settings changed before this update was applied.")
  transitionChannels principal.roomId current.channels next.channels
  transitionRoomAppearanceReferences principal.roomId current.appearance next.appearance now
  let seq ← nextSequence principal.roomId
  let event : SettingsUpdatedEvent :=
    { id := ← drawUuid
      seq
      createdAt := now
      roomId := principal.roomId
      participantId := principal.participantId
      displayName := principal.displayName
      roomSettings := publicSettings next }
  let commit : SettingsCommit :=
    { roomSettings := publicSettings next
      event
      deduplicated := false }
  write fun s => { s with
    host.rooms := s.host.rooms.insert principal.roomId
      { room with label := next.label, updatedAt := now }
    settings := s.settings.insert principal.roomId next
    commands.sequences := s.commands.sequences.insert principal.roomId seq
    commands.results := s.commands.results.insert
      (principal.roomId, principal.principalId, requestId)
      ⟨settingsUpdateAction, canonicalPayloadHash payload, commit⟩ }
  pure commit

def executeRoomSettingsUpdate (authority : Except PersistenceError RoomPrincipal)
    (requestId : String) (payload : Json) (now : Nat) : AppearanceTx SettingsCommit := do
  let principal ← ofResult authority
  let (room, _) ← ofResult (loadActiveMembership (← read AppearanceStore.host) principal.roomId
    principal.participantId)
  require (principal.capabilities.roomManage = true)
    (rejected "permission_denied" "This room session cannot manage room settings.")
  let admitted ← admitNonLifecycleCommand (principal.roomId, principal.principalId, requestId)
    settingsUpdateAction (canonicalPayloadHash payload)
    (commandSize requestId settingsUpdateAction payload) now
  match admitted with
  | some replay => pure replay
  | none => applySettingsUpdate principal room requestId payload now

end Commands

/-! ## The rest of the system -/

/-- A room as it is created: with default settings, which refer to nothing. -/
def createRoom (room : Room) : AppearanceTx Unit := do
  require ((← read AppearanceStore.settings).lookup room.roomId = none)
    (.database "UNIQUE constraint failed: rooms.room_id")
  write fun s => { s with
    host.rooms := s.host.rooms.insert room.roomId room
    settings := s.settings.insert room.roomId (RoomSettings.defaults room.label) }

/-- Any other change of the host.  It makes no room, and the assets of a deleted room and of a
deleted profile are deleted with it. -/
def changeHost (host : Host) : AppearanceTx Unit :=
  write fun s =>
    let gone := fun roomId => (host.rooms.lookup roomId).isNone
    { s with
      host
      settings := s.settings.eraseWhere gone
      assets := s.assets.deleteWhere fun _ asset => gone asset.roomId ||
        match asset.custody with
        | .pending owner _ => (host.profiles.lookup owner).isNone
        | .bound => false }

/-- What commands of other kinds do to the tables that they share with these. -/
def changeCommands (commands : CommandTables) : AppearanceTx Unit :=
  write fun s => { s with commands }

end AgentsAssemble.Appearance
