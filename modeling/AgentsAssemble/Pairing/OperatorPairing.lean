import AgentsAssemble.Foundation.Table
import AgentsAssemble.Foundation.Tx
import AgentsAssemble.Pairing.Managers

/-!
# Operator pairings

A room manager hands out a short-lived code; the device that redeems it first holds a session of
the room.  Instants are nanoseconds since the epoch, stored instants are whole microseconds, and
a fingerprint is the hexadecimal text of a digest.
-/

namespace AgentsAssemble.Pairing

open Foundation Tx
open Persistence (PersistenceError UuidSource rejected)

/-! ## Instants -/

def timestampMicros (instant : Int) : Int :=
  instant / 1000

/-- `DateTime::from_timestamp_micros`. -/
def timestamp (micros : Int) : Int :=
  micros * 1000

@[simp] theorem timestampMicros_timestamp (micros : Int) :
    timestampMicros (timestamp micros) = micros := by
  unfold timestampMicros timestamp
  omega

theorem timestamp_timestampMicros_le (instant : Int) :
    timestamp (timestampMicros instant) ≤ instant := by
  unfold timestampMicros timestamp
  omega

/-- A stored instant is past exactly when it is past at the microsecond before. -/
theorem timestamp_le_truncated {micros instant : Int} :
    timestamp micros ≤ timestamp (timestampMicros instant) ↔ timestamp micros ≤ instant := by
  unfold timestampMicros timestamp
  omega

theorem le_timestampMicros {micros instant : Int} :
    micros ≤ timestampMicros instant ↔ timestamp micros ≤ instant := by
  unfold timestampMicros timestamp
  omega

def nanosPerSecond : Int := 1000000000

def pairingTtl : Int := 120 * nanosPerSecond
def sessionTtl : Int := 3600 * nanosPerSecond

def maxPairings : Nat := 128
def maxRoomPairings : Nat := 32

/-! ## Errors -/

def invalidState : PersistenceError :=
  rejected "invalid_state" "Stored operator pairing is invalid."

def unavailable : PersistenceError :=
  rejected "session_revoked" "This operator pairing or session is no longer available."

def constraintViolation (index : String) : PersistenceError :=
  .database ("UNIQUE constraint failed: " ++ index)

/-! ## Bearers and origins -/

structure IssuedBearer where
  bearer : String
  fingerprint : String
  deriving DecidableEq, Repr

/-- The keyed digest of a seed under the session key of the host, as it is written into a bearer,
and the digest that fingerprints a bearer. -/
class SessionDigests where
  sessionMac : (context seed : String) → String
  fingerprint : (bearer : String) → String

/-- `derive_session_bearer` for operator pairings. -/
def deriveSessionBearer [SessionDigests] (seed : String) : IssuedBearer :=
  let bearer := "aops1." ++ SessionDigests.sessionMac "agentsassemble-operator-session-bearer-v1" seed
  { bearer, fingerprint := SessionDigests.fingerprint bearer }

structure ParsedUrl where
  scheme : String
  origin : String
  deriving DecidableEq, Repr

/-- `Url::parse`, with the origin of the parsed URL in its ASCII form. -/
class UrlParser where
  parse : String → Option ParsedUrl

def requireOrigin [UrlParser] (origin : String) : Except PersistenceError Unit :=
  match UrlParser.parse origin with
  | none => .error (rejected "invalid_origin" "Invalid pairing origin.")
  | some parsed =>
      if parsed.scheme ≠ "https" ∨ parsed.origin ≠ origin then
        .error (rejected "invalid_origin" "Pairing requires a canonical HTTPS origin.")
      else
        .ok ()

/-! ## Rows -/

/-- The columns of the session of a row are set together. -/
abbrev Together (device session : Option String) (sessionExpiresAt : Option Int) : Prop :=
  device.isSome = session.isSome ∧ session.isSome = sessionExpiresAt.isSome

theorem together_none : Together none none none :=
  ⟨rfl, rfl⟩

/-- A row of `operator_pairings` under its pairing id. -/
structure PairingRecord where
  tokenFingerprint : String
  manager : LocalRoomManagerAuthority
  targetOrigin : String
  expiresAt : Int
  revoked : Bool
  deviceFingerprint : Option String
  sessionFingerprint : Option String
  sessionExpiresAt : Option Int
  together : Together deviceFingerprint sessionFingerprint sessionExpiresAt
  deriving DecidableEq, Repr

namespace PairingRecord

def roomId (record : PairingRecord) : String :=
  record.manager.manager.roomId

/-- `COALESCE(session_expires_at, expires_at)`. -/
def lastExpiry (record : PairingRecord) : Int :=
  record.sessionExpiresAt.getD record.expiresAt

def requireOriginAndLive (record : PairingRecord) (origin : String) :
    Except PersistenceError Unit :=
  if record.revoked = true ∨ record.targetOrigin ≠ origin then .error unavailable else .ok ()

def requireSession (record : PairingRecord) (fingerprint : String) (now : Int) :
    Except PersistenceError Int :=
  match record.sessionExpiresAt with
  | none => .error invalidState
  | some micros =>
      let expires := timestamp micros
      if record.sessionFingerprint ≠ some fingerprint ∨ expires ≤ now then
        .error unavailable
      else
        .ok expires

def resolveManager (record : PairingRecord) (host : Host) :
    Except PersistenceError RoomPrincipal := do
  let (current, principal) ← resolveLocalRoomManager host record.manager.manager
  if current ≠ record.manager then
    throw unavailable
  pure principal

/-- The row after the redemption by a device. -/
def bind (record : PairingRecord) (device session : String) (sessionExpiresAt : Int) :
    PairingRecord :=
  { record with
    deviceFingerprint := some device
    sessionFingerprint := some session
    sessionExpiresAt := some sessionExpiresAt
    together := ⟨rfl, rfl⟩ }

def revoke (record : PairingRecord) : PairingRecord :=
  { record with revoked := true }

end PairingRecord

structure PairingStore where
  host : Host
  pairings : Table String PairingRecord
  uuids : Nat

abbrev PairingTx (α : Type) := Tx PairingStore PersistenceError α

structure OperatorPairing where
  pairingId : String
  expiresAt : Int
  deriving DecidableEq, Repr

structure OperatorSessionAuthorization where
  sessionFingerprint : String
  deviceFingerprint : String
  targetOrigin : String
  principal : RoomPrincipal
  expiresAt : Int
  deriving DecidableEq, Repr

structure OperatorPairingRedemption where
  sessionBearer : String
  authorization : OperatorSessionAuthorization
  deriving DecidableEq, Repr

/-! ## Creating -/

section Operations

variable [SessionDigests] [UrlParser] [UuidSource]

omit [SessionDigests] [UrlParser] in
def drawUuid : PairingTx String :=
  fun s => .ok (UuidSource.newV4 s.uuids, { s with uuids := s.uuids + 1 })

/-- `INSERT INTO operator_pairings`, under the constraints of the table. -/
def insertPairing (pairingId : String) (record : PairingRecord) : PairingTx Unit := do
  let pairings ← read PairingStore.pairings
  require (pairings.lookup pairingId = none) (constraintViolation "operator_pairings.pairing_id")
  require ((pairings.find? fun _ row => row.tokenFingerprint == record.tokenFingerprint) = none)
    (constraintViolation "operator_pairings.token_fingerprint")
  require (((← read PairingStore.host).rooms.lookup record.roomId).isSome = true)
    (.database "FOREIGN KEY constraint failed")
  write fun s => { s with pairings := s.pairings.insert pairingId record }

def createOperatorPairing (manager : LocalRoomManagerAuthority)
    (tokenFingerprint targetOrigin : String) (now : Int) : PairingTx OperatorPairing := do
  let now := timestamp (timestampMicros now)
  ofResult (requireOrigin targetOrigin)
  let _ ← ofResult (requireExactLocalRoomManager (← read PairingStore.host) manager)
  write fun s => { s with
    pairings := s.pairings.deleteWhere fun _ row => decide (row.lastExpiry ≤ timestampMicros now) }
  let pairings ← read PairingStore.pairings
  let total := Table.count (fun _ _ => true) pairings
  let room := Table.count (fun _ row => row.roomId == manager.manager.roomId) pairings
  require (¬ (maxPairings ≤ total ∨ maxRoomPairings ≤ room))
    (rejected "pairing_capacity" "End an existing pairing or wait for expiry.")
  let result : OperatorPairing := { pairingId := ← drawUuid, expiresAt := now + pairingTtl }
  insertPairing result.pairingId
    { tokenFingerprint
      manager
      targetOrigin
      expiresAt := timestampMicros result.expiresAt
      revoked := false
      deviceFingerprint := none
      sessionFingerprint := none
      sessionExpiresAt := none
      together := together_none }
  pure result

/-! ## Redeeming -/

/-- The `UPDATE` that consumes a code; a session fingerprint belongs to one row. -/
def bindSession (pairingId device session : String) (sessionExpiresAt : Int) :
    PairingTx Unit := do
  require (((← read PairingStore.pairings).find? fun other row =>
      other != pairingId && row.sessionFingerprint == some session) = none)
    (constraintViolation "operator_pairings.session_fingerprint")
  write fun s => { s with
    pairings := s.pairings.update (fun key _ => key == pairingId) fun row =>
      row.bind device session sessionExpiresAt }

/-- The session that a redemption answers with: the one the device holds, or a new one. -/
def redeemRecord (pairingId : String) (record : PairingRecord) (device session : String)
    (now : Int) : PairingTx Int :=
  match record.deviceFingerprint with
  | some bound => do
      require (bound = device)
        (rejected "pairing_already_used" "This pairing was used by another device.")
      ofResult (record.requireSession session now)
  | none => do
      require (now < timestamp record.expiresAt) unavailable
      let expiresAt := now + sessionTtl
      bindSession pairingId device session (timestampMicros expiresAt)
      pure expiresAt

def redeemOperatorPairing (tokenFingerprint deviceFingerprint targetOrigin : String)
    (now : Int) : PairingTx OperatorPairingRedemption := do
  let now := timestamp (timestampMicros now)
  let (pairingId, record) ← orReject ((← read PairingStore.pairings).find? fun _ row =>
    row.tokenFingerprint == tokenFingerprint) unavailable
  ofResult (record.requireOriginAndLive targetOrigin)
  let principal ← ofResult (record.resolveManager (← read PairingStore.host))
  let issued := deriveSessionBearer tokenFingerprint
  let expiresAt ← redeemRecord pairingId record deviceFingerprint issued.fingerprint now
  pure
    { sessionBearer := issued.bearer
      authorization :=
        { sessionFingerprint := issued.fingerprint
          deviceFingerprint
          targetOrigin
          principal
          expiresAt } }

/-! ## Sessions -/

def sessionRecord (fingerprint : String) : PairingTx PairingRecord := do
  let (_, record) ← orReject ((← read PairingStore.pairings).find? fun _ row =>
    row.sessionFingerprint == some fingerprint) unavailable
  pure record

def resolveOperatorSession (fingerprint device origin : String) (now : Int) :
    PairingTx OperatorSessionAuthorization := do
  let record ← sessionRecord fingerprint
  ofResult (record.requireOriginAndLive origin)
  require (record.deviceFingerprint = some device) unavailable
  let expiresAt ← ofResult (record.requireSession fingerprint now)
  let principal ← ofResult (record.resolveManager (← read PairingStore.host))
  pure
    { sessionFingerprint := fingerprint
      deviceFingerprint := device
      targetOrigin := origin
      principal
      expiresAt }

/-- `authorize_operator_session`, at the instant that it reads from the clock. -/
def authorizeOperatorSession (fingerprint device origin : String) (now : Int) :
    PairingTx OperatorSessionAuthorization :=
  resolveOperatorSession fingerprint device origin now

def revalidateOperatorSession (expected : OperatorSessionAuthorization) (now : Int) :
    PairingTx OperatorSessionAuthorization := do
  let current ← resolveOperatorSession expected.sessionFingerprint expected.deviceFingerprint
    expected.targetOrigin now
  require (current.principal.roomId = expected.principal.roomId ∧
    current.expiresAt = expected.expiresAt) unavailable
  pure current

/-- The stored parent of an attendee, not a credential that was presented. -/
def requireAttendeeParent (fingerprint roomId : String) (now : Int) :
    PairingTx (RoomPrincipal × Int) := do
  let record ← sessionRecord fingerprint
  require (record.revoked = false ∧ record.roomId = roomId) unavailable
  let expiresAt ← ofResult (record.requireSession fingerprint now)
  let principal ← ofResult (record.resolveManager (← read PairingStore.host))
  pure (principal, expiresAt)

/-! ## Revoking -/

/-- `UPDATE operator_pairings SET revoked = 1` for the rows that satisfy `p`. -/
def revokePairings (p : String → PairingRecord → Bool) : PairingTx Unit :=
  write fun s => { s with pairings := s.pairings.update p PairingRecord.revoke }

def revokeOperatorPairing (manager : LocalRoomManagerAuthority) (pairingId : String) :
    PairingTx (Option String) := do
  let _ ← ofResult (requireExactLocalRoomManager (← read PairingStore.host) manager)
  match (← read PairingStore.pairings).lookup pairingId with
  | none => pure none
  | some record => do
      require (record.manager = manager) unavailable
      revokePairings fun key _ => key == pairingId
      pure record.sessionFingerprint

/-- What `leave_operator_session` does to the pairings; it also appends an event of the room. -/
def leaveOperatorSession (expected : OperatorSessionAuthorization) (now : Int) :
    PairingTx String := do
  let current ← revalidateOperatorSession expected now
  revokePairings fun _ row => row.sessionFingerprint == some current.sessionFingerprint
  pure current.sessionFingerprint

/-- What `revoke_room_access` does to the pairings of a room that is archived, closed or
deleted. -/
def revokeRoomAccess (roomId : String) : PairingTx (List String) := do
  let pairings ← read PairingStore.pairings
  revokePairings fun _ row => row.roomId == roomId && !row.revoked
  pure (pairings.rows.filterMap fun (_, row) =>
    if row.roomId = roomId ∧ row.revoked = false then row.sessionFingerprint else none)

/-- Any other change of the host; the pairings of a deleted room are deleted with it. -/
def changeHost (host : Host) : PairingTx Unit :=
  write fun s => { s with
    host
    pairings := s.pairings.deleteWhere fun _ row => (host.rooms.lookup row.roomId).isNone }

end Operations

end AgentsAssemble.Pairing
