import AgentsAssemble.Admission.Admit
import AgentsAssemble.Pairing.Managers

/-!
# Human sessions and accounts

The rows behind a presented session of a human, whichever way it was opened, and the account that
a session, a device or the host itself speaks for.
-/

namespace AgentsAssemble.Recovery

open Foundation Tx
open Domain (ClientKind)
open Directory (Participant Room RoomSettings UserProfile localOperatorParticipantId
  localOperatorUserId)
open Persistence (PersistenceError rejected)
open Admission (InviteScope SessionState maxPublicRoomSessions maxPublicSessions)
open Pairing (Host RoomCapabilities RoomPrincipal loadProfileForIdentity requireCompleteBootstrap)

def invalidState (message : String) : PersistenceError :=
  rejected "invalid_state" message

/-! ## Rows -/

inductive SessionKeyKind
  | oneUse
  | reusable
  | recovery
  deriving DecidableEq, Repr

structure GuestRecoveryResult where
  agentId : String
  displayName : String
  meetingId : String
  roomUid : String
  inviteScope : String
  participantType : String
  clientType : String
  providerKind : String
  connectionKind : String
  clientId : String
  joinedAt : Nat
  expiresAt : Nat
  roomLabel : String
  roomTopic : String
  roomCreatedAt : Nat
  deriving DecidableEq, Repr

/-- A row of `human_room_sessions`.  `result` is the stored result as a recovery reads it, which
only reads what a recovery wrote. -/
structure SessionRow where
  keyKind : SessionKeyKind
  sessionFingerprint : String
  roomId : String
  userId : String
  participantId : String
  clientKind : String
  inviteScope : InviteScope
  browserCredentialFingerprint : String
  reusableIdentityFingerprint : Option String
  result : Option GuestRecoveryResult
  admittedAt : Nat
  expiresAt : Nat
  state : SessionState
  deriving DecidableEq, Repr

namespace SessionRow

/-- Stored as active and not expired. -/
def isLive (now : Nat) (row : SessionRow) : Bool :=
  row.state == .active && decide (now < row.expiresAt)

/-- The session belongs to a member of a room. -/
def isOf (roomId participantId : String) (row : SessionRow) : Bool :=
  row.roomId == roomId && row.participantId == participantId

def end_ (row : SessionRow) : SessionRow :=
  { row with state := .ended }

end SessionRow

/-- A row of `guest_recovery_codes`: the code that is current, the one that was redeemed for it, and
the session that the redemption opened. -/
structure RecoveryCode where
  fingerprint : String
  previousFingerprint : Option String
  sessionKey : Option String
  deriving DecidableEq, Repr

/-- `seeds` counts the seeds that were drawn. -/
structure RecoveryStore where
  host : Host
  settings : Table String RoomSettings
  devices : Table String String
  sessions : Table String SessionRow
  codes : Table String RecoveryCode
  seeds : Nat

abbrev RecoveryTx (α : Type) := Tx RecoveryStore PersistenceError α

/-! ## Sessions -/

structure HumanSessionAuthorization where
  sessionFingerprint : String
  principal : RoomPrincipal
  expiresAt : Nat
  deriving DecidableEq, Repr

inductive ResolvedHumanSession
  | missing
  | foreignRoom
  | unavailable
  | live (authorization : HumanSessionAuthorization) (profile : UserProfile)
  deriving DecidableEq, Repr

/-- `required_text`: what the row is joined to. -/
def required {α : Type} (found : Option α) (owner : String) : Except PersistenceError α :=
  match found with
  | some value => .ok value
  | none => .error (invalidState ("Stored human session " ++ owner ++ " is missing."))

def decodeBoundProfile (profile : UserProfile) (expectedParticipantId : String) :
    Except PersistenceError UserProfile :=
  if profile.participantId ≠ expectedParticipantId then
    .error (rejected "profile_authority_mismatch"
      "Authenticated user profile does not own this participant.")
  else if profile.revision < 1 then
    .error (invalidState "Stored user profile revision is invalid.")
  else
    .ok profile

def humanSessionAuthorization (row : SessionRow) (profile : UserProfile) :
    HumanSessionAuthorization :=
  { sessionFingerprint := row.sessionFingerprint
    principal :=
      { principalId := row.userId
        participantId := row.participantId
        displayName := profile.displayName
        roomId := row.roomId
        clientKind := .browser
        inviteScope := row.inviteScope
        isOperator := false
        capabilities := RoomCapabilities.forPrincipal .browser row.inviteScope false }
    expiresAt := row.expiresAt }

/-- An active and unexpired row, checked against what it is joined to. -/
def resolveLiveRow (host : Host) (row : SessionRow) :
    Except PersistenceError ResolvedHumanSession :=
  if row.clientKind ≠ "browser" then
    .error (invalidState "Stored human session client is invalid.")
  else do
    let room ← required (host.rooms.lookup row.roomId) "room"
    let participant ←
      required (host.participants.lookup (row.roomId, row.participantId)) "participant"
    let stored ← required (host.profiles.lookup row.userId) "profile"
    let profile ← decodeBoundProfile stored row.participantId
    if room.roomId ≠ row.roomId then
      .error (invalidState "Stored human session room binding is invalid.")
    else if room.status ≠ .active then
      .ok .unavailable
    else if participant.roomId ≠ row.roomId ∨ participant.participantId ≠ row.participantId ∨
        participant.participantType ≠ "human" then
      .error (invalidState "Stored human session participant binding is invalid.")
    else if participant.status ≠ .joined then
      .ok .unavailable
    else if row.userId = "" ∨ row.participantId = "" then
      .error (invalidState "Stored human session identity is invalid.")
    else
      .ok (.live (humanSessionAuthorization row profile) profile)

def RecoveryStore.sessionOf (s : RecoveryStore) (sessionFingerprint : String) :
    Option (String × SessionRow) :=
  s.sessions.find? fun _ row => row.sessionFingerprint == sessionFingerprint

def resolveHumanSession (s : RecoveryStore) (sessionFingerprint : String)
    (expectedRoomId : Option String) (now : Nat) :
    Except PersistenceError ResolvedHumanSession :=
  match s.sessionOf sessionFingerprint with
  | none => .ok .missing
  | some (_, row) =>
      if expectedRoomId.any fun expected => expected != row.roomId then .ok .foreignRoom
      else if row.isLive now = false then .ok .unavailable
      else resolveLiveRow s.host row

def sessionRevoked : PersistenceError :=
  rejected "session_revoked" "This human room session has ended."

/-- The parts of an authorization that never change. -/
def sameProvenance (current expected : HumanSessionAuthorization) : Bool :=
  current.sessionFingerprint == expected.sessionFingerprint &&
    current.expiresAt == expected.expiresAt &&
    current.principal.principalId == expected.principal.principalId &&
    current.principal.participantId == expected.principal.participantId &&
    current.principal.roomId == expected.principal.roomId &&
    current.principal.clientKind == expected.principal.clientKind &&
    current.principal.inviteScope == expected.principal.inviteScope &&
    current.principal.isOperator == expected.principal.isOperator &&
    current.principal.capabilities == expected.principal.capabilities

def revalidateHumanSession (s : RecoveryStore) (expected : HumanSessionAuthorization) (now : Nat) :
    Except PersistenceError (HumanSessionAuthorization × UserProfile) := do
  match ← resolveHumanSession s expected.sessionFingerprint none now with
  | .live authorization profile =>
      if sameProvenance authorization expected = false then
        .error (invalidState
          "Stored human session provenance changed after authorization resolution.")
      else
        .ok (authorization, profile)
  | _ => .error sessionRevoked

/-! ## Accounts -/

inductive AccountAuthority
  | localOperator
  | browserDevice (fingerprint : String)
  | humanSession (authorization : HumanSessionAuthorization) (browserFingerprint : String)
  deriving DecidableEq, Repr

structure AccountUser where
  userId : String
  participantId : String
  profile : UserProfile
  deriving DecidableEq, Repr

structure AccountIdentity where
  authority : AccountAuthority
  user : Option AccountUser
  deriving DecidableEq, Repr

def requirePublicAccountUser (userId : String) : Except PersistenceError Unit :=
  if userId = localOperatorUserId then
    .error (rejected "account_operator_boundary"
      "Public account proof cannot grant local operator authority.")
  else
    .ok ()

def loadAccountUser (s : RecoveryStore) (userId : String) : Except PersistenceError AccountUser :=
  match s.host.profiles.lookup userId with
  | none => .error (rejected "account_identity_missing" "Account profile is unavailable.")
  | some row => do
      let profile ← loadProfileForIdentity s.host userId row.participantId
      .ok { userId, participantId := row.participantId, profile }

def deviceMismatch : PersistenceError :=
  rejected "account_device_mismatch" "The browser credential belongs to another identity."

def resolveAccountUser (s : RecoveryStore) (authority : AccountAuthority) (now : Nat) :
    Except PersistenceError (Option AccountUser) := do
  let _ ← requireCompleteBootstrap s.host
  match authority with
  | .localOperator => do
      let profile ← loadProfileForIdentity s.host localOperatorUserId localOperatorParticipantId
      .ok (some
        { userId := localOperatorUserId, participantId := localOperatorParticipantId, profile })
  | .browserDevice fingerprint =>
      match s.devices.lookup fingerprint with
      | none => .ok none
      | some userId => do
          requirePublicAccountUser userId
          let user ← loadAccountUser s userId
          .ok (some user)
  | .humanSession authorization browserFingerprint => do
      let (_, profile) ← revalidateHumanSession s authorization now
      let expected := (s.sessionOf authorization.sessionFingerprint).map fun found =>
        found.2.browserCredentialFingerprint
      if expected ≠ some browserFingerprint then
        .error (rejected "account_device_mismatch"
          "The browser credential does not own this session.")
      else do
        let principal := authorization.principal
        requirePublicAccountUser principal.principalId
        let owner := s.devices.lookup browserFingerprint
        if owner.any fun owner => owner != principal.principalId then
          .error deviceMismatch
        else
          .ok (some
            { userId := principal.principalId, participantId := principal.participantId, profile })

def AccountUser.key (user : AccountUser) : String × String :=
  (user.userId, user.participantId)

def revalidateAccountIdentity (s : RecoveryStore) (identity : AccountIdentity) (now : Nat) :
    Except PersistenceError (Option AccountUser) := do
  let current ← resolveAccountUser s identity.authority now
  if current.map AccountUser.key ≠ identity.user.map AccountUser.key then
    .error (rejected "account_identity_changed" "Account identity changed during login.")
  else
    .ok current

/-- Binds a device to a user, unless it belongs to another one. -/
def bindAccountDevice (userId device : String) : RecoveryTx Unit := do
  match (← read RecoveryStore.devices).lookup device with
  | some current => require (current = userId) deviceMismatch
  | none => write fun s => { s with devices := s.devices.insert device userId }

/-! ## Seats -/

/-- How many live sessions satisfy `p`. -/
def RecoveryStore.liveCount (s : RecoveryStore) (now : Nat) (p : SessionRow → Bool) : Nat :=
  Table.count (fun _ row => row.isLive now && p row) s.sessions

def capacityReached (s : RecoveryStore) (roomId participantId : String) (now : Nat) : Bool :=
  decide (maxPublicSessions ≤ s.liveCount now fun row => !row.isOf roomId participantId) ||
    decide (maxPublicRoomSessions ≤ s.liveCount now fun row =>
      row.roomId == roomId && row.participantId != participantId)

/-- Marks active sessions as ended. -/
def endSessions (p : SessionRow → Bool) : RecoveryTx Unit :=
  write fun s => { s with
    sessions := s.sessions.update (fun _ row => row.state == .active && p row) SessionRow.end_ }

/-- Ends the live sessions of a member, and tells which. -/
def replaceLiveSessions (roomId participantId : String) (now : Nat) :
    RecoveryTx (List String) := do
  let live := fun row : SessionRow => row.isOf roomId participantId && decide (now < row.expiresAt)
  let replaced ← read fun s =>
    (s.sessions.rows.filter fun entry => entry.2.state == .active && live entry.2).map fun entry =>
      entry.2.sessionFingerprint
  endSessions live
  pure replaced

end AgentsAssemble.Recovery
