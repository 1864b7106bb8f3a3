import AgentsAssemble.Directory.Rooms

/-!
# Human admission: rows

Invites, the sessions they admit, and the identities behind them.  Instants are
microseconds since the epoch; a fingerprint is the hexadecimal text of a digest.
-/

namespace AgentsAssemble.Admission

open Foundation Domain Tx
open Directory (Room RoomSettings UserProfile localOperatorUserId localOperatorParticipantId)
open Persistence (PersistenceError RoomStatus UuidSource)

/-! ## Errors -/

inductive StoreError
  | persistence (error : PersistenceError)
  | invalidHumanInvite
  deriving DecidableEq, Repr

def rejected (code message : String) : StoreError :=
  .persistence (.commandRejected code message)

def invalidState (message : String) : StoreError :=
  rejected "invalid_state" message

def constraintViolation (index : String) : StoreError :=
  .persistence (.database ("UNIQUE constraint failed: " ++ index))

/-- The error is one of the `invalid_state` rejections. -/
def StoreError.isInvalidState : StoreError → Bool
  | .persistence (.commandRejected code _) => code == "invalid_state"
  | _ => false

/-! ## Invites and requests -/

inductive InviteScope
  | readWrite
  | readOnly
  deriving DecidableEq, Repr

def inviteScopePublic : InviteScope → String
  | .readWrite => "room"
  | .readOnly => "read_only"

def maxEffectiveInviteUses : Int := 128

def effectiveHumanInviteUseLimit (maxUses : Int) : Int :=
  if maxUses = 0 ∨ maxEffectiveInviteUses < maxUses then maxEffectiveInviteUses else maxUses

structure HumanInvite where
  inviteId : String
  signedTokenFingerprint : String
  joinCodeFingerprint : String
  roomId : String
  baseParticipantId : String
  displayName : String
  inviteScope : InviteScope
  maxUses : Int
  useCount : Int
  expiresAt : Nat
  revoked : Bool
  createdByUserId : String
  createdAt : Nat
  deriving DecidableEq, Repr

namespace HumanInvite

def isReusable (invite : HumanInvite) : Bool :=
  decide (invite.maxUses ≠ 1)

def effectiveUseLimit (invite : HumanInvite) : Int :=
  effectiveHumanInviteUseLimit invite.maxUses

end HumanInvite

/-- `hex_prefix`: the first digits of a fingerprint. -/
def hexPrefix (fingerprint : String) (length : Nat) : String :=
  String.ofList (fingerprint.toList.take length)

/-- The claims a signed invite token carries beside its fingerprint. -/
structure InviteClaims where
  roomId : String
  baseParticipantId : String
  displayName : String
  inviteScope : InviteScope
  issuedAt : Nat
  expiresAt : Nat
  deriving DecidableEq, Repr

inductive HumanInviteCredentialEvidence
  | signed (fingerprint : String) (claims : InviteClaims)
  | joinCode (fingerprint : String)
  deriving DecidableEq, Repr

def HumanInviteCredentialEvidence.fingerprint : HumanInviteCredentialEvidence → String
  | .signed fingerprint _ => fingerprint
  | .joinCode fingerprint => fingerprint

/-- The request fields that the payload hash covers. -/
structure AdmissionPayload where
  meetingIdAssertion : String
  displayName : String
  participantTypeInput : String
  ownerDisplayName : String
  clientId : String
  avatarAttachmentId : Option String
  deriving DecidableEq, Repr

structure PreparedHumanAdmission where
  credential : HumanInviteCredentialEvidence
  browserCredentialFingerprint : String
  requestId : String
  payload : AdmissionPayload
  deriving DecidableEq, Repr

/-- The digests of the server, as functions of what they digest.  Different inputs of a key
have different keys, and the texts of signed tokens and join codes have different prefixes. -/
class AdmissionDigests where
  tokenFingerprint : String → String
  tokenFingerprint_injective : Function.Injective tokenFingerprint
  oneUseKey : (credential browser requestId : String) → String
  oneUseKey_injective : ∀ {c b r c' b' r'}, oneUseKey c b r = oneUseKey c' b' r' →
    c = c' ∧ b = b' ∧ r = r'
  reusableKey : (credential browser : String) → String
  reusableKey_injective : ∀ {c b c' b'}, reusableKey c b = reusableKey c' b' → c = c' ∧ b = b'
  oneUseKey_ne_reusableKey : ∀ {c b r c' b'}, oneUseKey c b r ≠ reusableKey c' b'
  payloadHash : AdmissionPayload → String
  avatarCustodyFingerprint : (credential browser : String) → String
  sessionBearer : (admissionKey : String) → String

export AdmissionDigests (tokenFingerprint payloadHash sessionBearer)

section Digests

variable [AdmissionDigests]

def signedTokenFingerprint (claims : String) : String :=
  tokenFingerprint ("aai1." ++ claims)

def joinCodeFingerprint (body : String) : String :=
  tokenFingerprint ("aaj1_" ++ body)

namespace PreparedHumanAdmission

def oneUseAdmissionKey (request : PreparedHumanAdmission) : String :=
  AdmissionDigests.oneUseKey request.credential.fingerprint request.browserCredentialFingerprint
    request.requestId

def reusableAdmissionKey (request : PreparedHumanAdmission) : String :=
  AdmissionDigests.reusableKey request.credential.fingerprint request.browserCredentialFingerprint

def avatarCustodyFingerprint (request : PreparedHumanAdmission) : String :=
  AdmissionDigests.avatarCustodyFingerprint request.credential.fingerprint
    request.browserCredentialFingerprint

end PreparedHumanAdmission

/-- The fingerprint of the bearer that `derive_session_bearer` issues for a key. -/
def sessionFingerprint (admissionKey : String) : String :=
  tokenFingerprint (sessionBearer admissionKey)

end Digests

/-! ## Sessions -/

structure HumanUsageGuide where
  welcome : String
  howTo : List String
  etiquette : List String
  expiresInSeconds : Nat
  rejoin : String
  deriving DecidableEq, Repr

structure HumanAdmissionResult where
  status : String
  requestId : String
  agentId : String
  displayName : String
  avatarImageUrl : String
  meetingId : String
  inviteScope : String
  participantType : String
  clientType : String
  providerKind : String
  ownerDisplayName : String
  ownerId : String
  stableIdentity : Bool
  operator : Bool
  connectionKind : String
  clientId : String
  expiresAt : Nat
  roomLabel : String
  roomTopic : String
  roomCreatedAt : Nat
  guide : HumanUsageGuide
  deriving DecidableEq, Repr

inductive AdmissionKeyKind
  | oneUse
  | reusable
  deriving DecidableEq, Repr

inductive SessionState
  | active
  | ended
  deriving DecidableEq, Repr

structure HumanRoomSession where
  keyKind : AdmissionKeyKind
  firstRequestId : String
  inviteId : String
  payloadHash : String
  sessionFingerprint : String
  roomId : String
  userId : String
  participantId : String
  clientKind : String
  inviteScope : InviteScope
  browserCredentialFingerprint : String
  reusableIdentityFingerprint : Option String
  result : HumanAdmissionResult
  admittedAt : Nat
  expiresAt : Nat
  state : SessionState
  deriving DecidableEq, Repr

namespace HumanRoomSession

def isActive (session : HumanRoomSession) : Bool :=
  session.state == .active

/-- The live predicate: stored as active and not expired. -/
def isLive (now : Nat) (session : HumanRoomSession) : Bool :=
  session.isActive && decide (now < session.expiresAt)

/-- The session belongs to a member of a room. -/
def isOf (roomId participantId : String) (session : HumanRoomSession) : Bool :=
  session.roomId == roomId && session.participantId == participantId

def end_ (session : HumanRoomSession) : HumanRoomSession :=
  { session with state := .ended }

end HumanRoomSession

/-! ## Avatars and events -/

structure PrejoinAvatarRow where
  roomId : String
  custodyFingerprint : String
  inviteFingerprint : String
  contentType : String
  size : Nat
  contentLength : Nat
  /-- Seconds since the epoch. -/
  expiresAt : Nat
  deriving DecidableEq, Repr

inductive ProfileAvatarState
  | pending
  | current
  deriving DecidableEq, Repr

structure ProfileAvatarRow where
  ownerUserId : String
  state : ProfileAvatarState
  deriving DecidableEq, Repr

inductive MembershipEventExtra
  | none
  | participant (participant : Directory.Participant)
  | profile (avatarImageUrl : String) (profileRevision : Int)
  | room (room : Room)
  deriving DecidableEq, Repr

/-- An event that a change of membership or of a room's status appends. -/
structure MembershipEvent where
  id : String
  seq : Nat
  createdAt : Nat
  roomId : String
  eventType : String
  actor : Actor
  participantId : Option String
  displayName : Option String
  extra : MembershipEventExtra
  deriving DecidableEq, Repr

/-! ## The store -/

structure HumanStore where
  rooms : Table String (Room × RoomSettings)
  invites : Table String HumanInvite
  profiles : Table String UserProfile
  devices : Table String String
  participants : Table (String × String) Directory.Participant
  sessions : Table String HumanRoomSession
  prejoinAvatars : Table String PrejoinAvatarRow
  profileAvatars : Table String ProfileAvatarRow
  events : List MembershipEvent
  uuids : Nat

abbrev HumanTx (α : Type) := Tx HumanStore StoreError α

/-- The members of a room are joined to it through `participants`. -/
def HumanStore.participant? (s : HumanStore) (roomId participantId : String) :
    Option Directory.Participant :=
  s.participants.lookup (roomId, participantId)

/-- How many live sessions satisfy `p`. -/
def HumanStore.liveCount (s : HumanStore) (now : Nat) (p : HumanRoomSession → Bool) : Nat :=
  Table.count (fun _ session => session.isLive now && p session) s.sessions

section Events

variable [UuidSource]

/-- `COALESCE(MAX(seq), 0) + 1` over the events of a room. -/
def nextSequence (events : List MembershipEvent) (roomId : String) : Nat :=
  ((events.filter fun event => event.roomId == roomId).map MembershipEvent.seq).foldr max 0 + 1

/-- Appends an event with a fresh id and the next sequence of its room. -/
def appendEvent (createdAt : Nat) (roomId eventType : String) (actor : Actor)
    (participantId displayName : Option String) (extra : MembershipEventExtra) :
    HumanTx MembershipEvent := fun s =>
  let event : MembershipEvent :=
    { id := UuidSource.newV4 s.uuids
      seq := nextSequence s.events roomId
      createdAt, roomId, eventType, actor, participantId, displayName, extra }
  .ok (event, { s with events := s.events ++ [event], uuids := s.uuids + 1 })

end Events

end AgentsAssemble.Admission
