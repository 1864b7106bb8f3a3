import AgentsAssemble.Pairing.OperatorPairing
import AgentsAssemble.Recovery.Sessions
import Mathlib.Data.List.MinMax

/-!
# Guest recovery codes

A signed-in guest takes a code, and whoever presents the code on another device takes over the
guest's membership of a room: the code is exchanged for a session and for the next code.  The code
that was redeemed last answers once more, to the same device, while its session is live.
-/

namespace AgentsAssemble.Recovery

open Foundation Tx
open Directory (Participant Room RoomSettings invalidDocument)
open Persistence (PersistenceError rejected)
open Admission (inviteScopePublic maxTimestampMicros sessionTtl)
open Pairing (IssuedBearer SessionDigests)

/-! ## Secrets -/

inductive SessionBearerPurpose
  | humanAdmission
  | guestIdentityRecovery
  deriving DecidableEq, Repr

namespace SessionBearerPurpose

def context : SessionBearerPurpose → String
  | .humanAdmission => "agentsassemble-human-session-bearer-v1\x00"
  | .guestIdentityRecovery => "agentsassemble-guest-recovery-code-v1\x00"

def bearerPrefix : SessionBearerPurpose → String
  | .humanAdmission => "aas1."
  | .guestIdentityRecovery => "aagr1."

end SessionBearerPurpose

/-- The digests of the host, without collisions, and its random source, which repeats no seed. -/
class RecoverySecrets extends SessionDigests where
  sessionMac_injective : ∀ context, Function.Injective (sessionMac context)
  fingerprint_injective : Function.Injective fingerprint
  randomSeed : Nat → String
  randomSeed_injective : Function.Injective randomSeed

export RecoverySecrets (randomSeed)

section Operations

variable [RecoverySecrets]

def deriveSessionBearer (purpose : SessionBearerPurpose) (seed : String) : IssuedBearer :=
  let bearer := purpose.bearerPrefix ++ SessionDigests.sessionMac purpose.context seed
  { bearer, fingerprint := SessionDigests.fingerprint bearer }

def sessionBearer (seed : String) : IssuedBearer :=
  deriveSessionBearer .humanAdmission seed

def recoveryCode (seed : String) : IssuedBearer :=
  deriveSessionBearer .guestIdentityRecovery seed

def drawSeed : RecoveryTx String := fun s =>
  .ok (randomSeed s.seeds, { s with seeds := s.seeds + 1 })

/-! ## Issuing -/

def invalidCode : PersistenceError :=
  rejected "recovery_invalid"
    "The recovery code is invalid, retired or belongs to a different request."

def unavailableMembership : PersistenceError :=
  rejected "recovery_membership_inactive"
    "An active human membership in this room is required."

/-- A constraint of the database that a write breaks. -/
def uniqueViolation (index : String) : PersistenceError :=
  .database ("UNIQUE constraint failed: " ++ index)

def AccountAuthority.isHumanSession : AccountAuthority → Bool
  | .humanSession _ _ => true
  | _ => false

/-- No code but that of `userId` is current with this fingerprint. -/
def RecoveryStore.codeIsFree (s : RecoveryStore) (userId fingerprint : String) : Bool :=
  (s.codes.find? fun owner code => owner != userId && code.fingerprint == fingerprint).isNone

def issueGuestRecoveryCode (identity : AccountIdentity) (now : Nat) : RecoveryTx String := do
  require (identity.authority.isHumanSession = true)
    (rejected "human_identity_required" "A human room session is required.")
  let seed ← drawSeed
  let code := recoveryCode seed
  let current ← ofResult (revalidateAccountIdentity (← read id) identity now)
  let user ← orReject current invalidCode
  require ((← read id).codeIsFree user.userId code.fingerprint = true)
    (uniqueViolation "guest_recovery_codes.fingerprint")
  write fun s => { s with codes := s.codes.insert user.userId ⟨code.fingerprint, none, none⟩ }
  pure code.bearer

/-! ## Redeeming -/

structure GuestRecoveryRequest where
  fingerprint : String
  device : String
  roomId : String
  clientId : String
  deriving DecidableEq, Repr

/-- Both names are there, and short. -/
def GuestRecoveryRequest.Bounded (request : GuestRecoveryRequest) : Prop :=
  request.roomId ≠ "" ∧ request.roomId.utf8ByteSize ≤ 128 ∧
    request.clientId ≠ "" ∧ request.clientId.utf8ByteSize ≤ 128

instance (request : GuestRecoveryRequest) : Decidable request.Bounded :=
  inferInstanceAs (Decidable (_ ∧ _ ∧ _ ∧ _))

structure GuestRecoveryCommit where
  result : GuestRecoveryResult
  sessionBearer : String
  recoveryCode : String
  replacedSessionFingerprints : List String
  deriving DecidableEq, Repr

/-- The answer to the code that was redeemed last. -/
def replay (userId seed : String) (request : GuestRecoveryRequest) (now : Nat) :
    RecoveryTx GuestRecoveryCommit := do
  let issued := sessionBearer seed
  let s ← read id
  match ← ofResult (resolveHumanSession s issued.fingerprint (some request.roomId) now) with
  | .live authorization _ => do
      let row ← orReject (s.sessions.lookup seed) (.database "no rows returned")
      let result ← orReject row.result invalidDocument
      require (authorization.principal.principalId = userId ∧
        row.browserCredentialFingerprint = request.device ∧ result.clientId = request.clientId)
        invalidCode
      pure
        { result
          sessionBearer := issued.bearer
          recoveryCode := (recoveryCode seed).bearer
          replacedSessionFingerprints := [] }
  | _ => throw invalidCode

/-- The latest session of a user in a room, with the rows that it is joined to. -/
def RecoveryStore.latestSession (s : RecoveryStore) (userId roomId : String) :
    Option (String × SessionRow) :=
  (s.sessions.rows.filter fun entry =>
    entry.2.userId == userId && entry.2.roomId == roomId &&
      (s.host.rooms.lookup roomId).isSome &&
      (s.host.participants.lookup (roomId, entry.2.participantId)).isSome).argmax
    fun entry => entry.2.admittedAt

def recoveryResult (user : AccountUser) (room : Room) (settings : RoomSettings)
    (inviteScope : Admission.InviteScope) (clientId : String) (now : Nat) : GuestRecoveryResult :=
  { agentId := user.participantId
    displayName := user.profile.displayName
    meetingId := room.roomId
    roomUid := room.roomUid
    inviteScope := inviteScopePublic inviteScope
    participantType := "human"
    clientType := "browser"
    providerKind := "manual"
    connectionKind := "native_remote_room_client"
    clientId
    joinedAt := now
    expiresAt := now + sessionTtl
    roomLabel := settings.label
    roomTopic := settings.topic
    roomCreatedAt := room.createdAt }

def insertSession (key : String) (row : SessionRow) : RecoveryTx Unit := do
  let s ← read id
  require (s.sessions.lookup key = none ∧ s.sessionOf row.sessionFingerprint = none)
    (uniqueViolation "human_room_sessions")
  require ((s.sessions.find? fun _ other =>
      other.state == .active && other.isOf row.roomId row.participantId) = none)
    (uniqueViolation "human_room_sessions_active_participant_idx")
  require (s.devices.lookup row.browserCredentialFingerprint = some row.userId)
    (.database "FOREIGN KEY constraint failed")
  write fun s => { s with sessions := s.sessions.insert key row }

/-- The code that was redeemed makes place for the next one. -/
def rotateCode (userId : String) (code : RecoveryCode) (fingerprint seed : String) :
    RecoveryTx Unit := do
  let s ← read id
  require (s.codeIsFree userId fingerprint = true)
    (uniqueViolation "guest_recovery_codes.fingerprint")
  require ((s.codes.find? fun owner other =>
      owner != userId && other.previousFingerprint == some code.fingerprint) = none)
    (uniqueViolation "guest_recovery_codes.previous_fingerprint")
  write fun s => { s with
    codes := s.codes.insert userId ⟨fingerprint, some code.fingerprint, some seed⟩ }

/-- The row of a recovered session.  Its scope is that of the session before it. -/
def recoveredRow (user : AccountUser) (request : GuestRecoveryRequest)
    (inviteScope : Admission.InviteScope) (fingerprint : String) (result : GuestRecoveryResult)
    (now : Nat) : SessionRow :=
  { keyKind := .recovery
    sessionFingerprint := fingerprint
    roomId := request.roomId
    userId := user.userId
    participantId := user.participantId
    clientKind := "browser"
    inviteScope
    browserCredentialFingerprint := request.device
    reusableIdentityFingerprint := some request.device
    result := some result
    admittedAt := now
    expiresAt := now + sessionTtl
    state := .active }

/-- The checks of a recovery: the account, the room and its settings, and the scope of the latest
session of the user in the room. -/
def recoverySource (s : RecoveryStore) (userId roomId : String) (now : Nat) :
    Except PersistenceError (AccountUser × Room × RoomSettings × Admission.InviteScope) := do
  let user ← loadAccountUser s userId
  match s.latestSession userId roomId with
  | none => .error unavailableMembership
  | some (_, source) =>
      match s.host.rooms.lookup roomId, s.settings.lookup roomId,
        s.host.participants.lookup (roomId, source.participantId) with
      | some room, some settings, some participant =>
          if room.roomId ≠ roomId ∨ participant.roomId ≠ roomId ∨
              participant.participantId ≠ user.participantId ∨
              participant.participantType ≠ "human" then
            .error (invalidState "Recovery membership is cross-bound.")
          else if room.status ≠ .active ∨ participant.status ≠ .joined then
            .error unavailableMembership
          else if capacityReached s roomId user.participantId now = true then
            .error (rejected "recovery_capacity_reached" "Room session capacity is full.")
          else
            .ok (user, room, settings, source.inviteScope)
      | _, _, _ => .error invalidDocument

def recover (userId : String) (code : RecoveryCode) (request : GuestRecoveryRequest) (now : Nat) :
    RecoveryTx GuestRecoveryCommit := do
  let (user, room, settings, inviteScope) ←
    ofResult (recoverySource (← read id) userId request.roomId now)
  bindAccountDevice userId request.device
  -- An expired session still has the seat until it is marked as ended.
  endSessions fun row =>
    row.isOf request.roomId user.participantId && decide (row.expiresAt ≤ now)
  let replaced ← replaceLiveSessions request.roomId user.participantId now
  let seed ← drawSeed
  let issued := sessionBearer seed
  let next := recoveryCode seed
  require (now + sessionTtl ≤ maxTimestampMicros) (invalidState "Recovery expiry overflowed.")
  let result := recoveryResult user room settings inviteScope request.clientId now
  insertSession seed (recoveredRow user request inviteScope issued.fingerprint result now)
  rotateCode userId code next.fingerprint seed
  pure
    { result
      sessionBearer := issued.bearer
      recoveryCode := next.bearer
      replacedSessionFingerprints := replaced }

def RecoveryStore.findCode (s : RecoveryStore) (fingerprint : String) :
    Option (String × RecoveryCode) :=
  s.codes.find? fun _ code =>
    code.fingerprint == fingerprint || code.previousFingerprint == some fingerprint

def redeemGuestRecoveryCode (request : GuestRecoveryRequest) (now : Nat) :
    RecoveryTx GuestRecoveryCommit := do
  require request.Bounded
    (rejected "recovery_request_invalid" "A room and browser client identity are required.")
  let (userId, code) ← orReject ((← read id).findCode request.fingerprint) invalidCode
  ofResult (requirePublicAccountUser userId)
  if code.fingerprint ≠ request.fingerprint then do
    let seed ← orReject code.sessionKey invalidCode
    replay userId seed request now
  else
    recover userId code request now

end Operations

end AgentsAssemble.Recovery
