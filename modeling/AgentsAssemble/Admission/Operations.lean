import AgentsAssemble.Admission.Admit
import AgentsAssemble.Foundation.Transition

/-!
# Human admission: the operations around it

Invites are created and revoked by the local room manager, members leave, are
kicked or exported, and a room is archived, restored or closed.  A run is any
sequence of these and of admissions, at instants that never decrease.
-/

namespace AgentsAssemble.Admission

open Foundation Domain Tx
open Directory (Room RoomSettings UserProfile localOperatorUserId localOperatorParticipantId)
open Persistence (RoomStatus UuidSource)

/-! ## The local room manager -/

def sessionRevoked : StoreError :=
  rejected "session_revoked" "This room session has ended."

/-- `load_active_membership`. -/
def loadActiveMembership (roomId participantId : String) :
    HumanTx (Room × Directory.Participant) := do
  let (room, _) ← orReject ((← read HumanStore.rooms).lookup roomId) (.persistence .roomMissing)
  require (room.roomId = roomId ∧ room.status = .active)
    (rejected "room_inactive" "Closed or archived rooms do not accept active sessions.")
  let participant ← orReject ((← read id).participant? roomId participantId)
    (.persistence .participantMissing)
  require (participant.roomId = roomId ∧ participant.participantId = participantId ∧
    participant.status = .joined) sessionRevoked
  pure (room, participant)

def requireLocalRoomManager (roomId : String) : HumanTx Unit := do
  let (_, participant) ← loadActiveMembership roomId localOperatorParticipantId
  require (participant.participantType = "human")
    (rejected "session_revoked" "Room management requires a current human participant.")

/-! ## Invites -/

/-- A new invite, with the secret parts of the tokens it is issued under. -/
structure NewHumanInvite where
  signedToken : String
  joinCode : String
  baseParticipantId : String
  displayName : String
  inviteScope : InviteScope
  maxUses : Int
  expiresAt : Nat
  createdAt : Nat
  deriving DecidableEq, Repr

def isCanonicalText (value : String) (maxChars : Nat) : Bool :=
  value != "" && trim value == value && decide (value.toList.length ≤ maxChars) &&
    value.toList.all fun c => c != '\r' && c != '\n'

def validateNewHumanInvite (invite : NewHumanInvite) : Except StoreError Unit :=
  if isCanonicalText invite.baseParticipantId 64 = false ∨
      isCanonicalText invite.displayName 128 = false ∨ invite.maxUses < 0 ∨
      invite.expiresAt ≤ invite.createdAt then
    .error (rejected "invalid_human_invite" "Human invite policy is invalid.")
  else
    .ok ()

section Operations

variable [AdmissionDigests]

def createHumanInvite (roomId : String) (invite : NewHumanInvite) : HumanTx HumanInvite := do
  ofResult (validateNewHumanInvite invite)
  requireLocalRoomManager roomId
  let signed := signedTokenFingerprint invite.signedToken
  let joinCode := joinCodeFingerprint invite.joinCode
  let row : HumanInvite :=
    { inviteId := hexPrefix signed 16
      signedTokenFingerprint := signed
      joinCodeFingerprint := joinCode
      roomId
      baseParticipantId := invite.baseParticipantId
      displayName := invite.displayName
      inviteScope := invite.inviteScope
      maxUses := invite.maxUses
      useCount := 0
      expiresAt := invite.expiresAt
      revoked := false
      createdByUserId := localOperatorUserId
      createdAt := invite.createdAt }
  let invites ← read HumanStore.invites
  require (invites.lookup row.inviteId = none) (constraintViolation "room_invites")
  require ((invites.find? fun _ other => other.signedTokenFingerprint == signed) = none)
    (constraintViolation "room_invites.signed_token_fingerprint")
  require ((invites.find? fun _ other => other.joinCodeFingerprint == joinCode) = none)
    (constraintViolation "room_invites.join_code_fingerprint")
  let row ← ofResult (decodeHumanInvite row.inviteId row)
  write fun s => { s with invites := s.invites.insert row.inviteId row }
  pure row

/-- `UPDATE room_invites SET revoked = 1` for the invites that satisfy `p`. -/
def revokeInvites (p : HumanInvite → Bool) : HumanTx Unit :=
  write fun s => { s with
    invites := s.invites.update (fun _ invite => p invite) fun invite =>
      { invite with revoked := true } }

def revokeHumanInvite (roomId inviteId : String) : HumanTx Bool := do
  require (inviteId.toList.length = 16 ∧ inviteId.toList.all Domain.isLowerHex = true)
    (rejected "invalid_human_invite_id" "Human invite ID is invalid.")
  requireLocalRoomManager roomId
  let found := ((← read HumanStore.invites).lookup inviteId).any fun row => row.roomId == roomId
  revokeInvites fun invite => invite.inviteId == inviteId && invite.roomId == roomId
  pure found

variable [UuidSource]

/-- `store_human_prejoin_avatar` of an image that was decoded to `size` bytes. -/
def storeHumanPrejoinAvatar (request : PreparedHumanAdmission) (size now : Nat) :
    HumanTx String := do
  require (1 ≤ size ∧ size ≤ maxRasterBytes)
    (rejected "attachment_too_large" "Profile avatar is too large.")
  let (invite, room) ← orReject (← loadInviteAndRoom request.credential)
    (rejected "invite_invalid" "Invite is invalid.")
  requireCredentialBinding invite request.credential
  require (invite.revoked = false) (rejected "invite_revoked" "Invite was revoked.")
  require (now < invite.expiresAt) (rejected "token_expired" "Invite has expired.")
  require (invite.useCount < invite.effectiveUseLimit)
    (rejected "invite_use_limit_reached" "Invite use limit was reached.")
  require (room.status = .active)
    (rejected "room_unavailable" "Room was deleted or is unavailable.")
  let custody := request.avatarCustodyFingerprint
  let attachmentId := UuidSource.newV4 (← read HumanStore.uuids)
  write fun s => { s with
    uuids := s.uuids + 1
    prejoinAvatars :=
      (s.prejoinAvatars.eraseWhere fun key => (s.prejoinAvatars.lookup key).any fun row =>
        decide (row.expiresAt ≤ now / 1000000) || row.custodyFingerprint == custody).insert
        attachmentId
        { roomId := invite.roomId
          custodyFingerprint := custody
          inviteFingerprint := invite.signedTokenFingerprint
          contentType := "image/png"
          size
          contentLength := size
          expiresAt := (now + sessionTtl) / 1000000 } }
  pure attachmentId

/-! ## Members and rooms -/

omit [AdmissionDigests] in
def setParticipantStatus (roomId : String) (participant : Directory.Participant)
    (status : ParticipantStatus) (now : Nat) : HumanTx Directory.Participant := do
  let participant : Directory.Participant := { participant with status, updatedAt := now }
  write fun s => { s with
    participants := s.participants.insert (roomId, participant.participantId) participant }
  pure participant

/-- `participant.leave` under the live session that a fingerprint names. -/
def leaveRoom (fingerprint : String) (now : Nat) : HumanTx MembershipEvent := do
  let (_, session) ← orReject ((← read HumanStore.sessions).find? fun _ row =>
    row.sessionFingerprint == fingerprint) sessionRevoked
  require (session.isLive now = true) sessionRevoked
  let (room, _) ← orReject ((← read HumanStore.rooms).lookup session.roomId) sessionRevoked
  require (room.status = .active) sessionRevoked
  let participant ← orReject ((← read id).participant? session.roomId session.participantId)
    (.persistence .participantMissing)
  require (participant.roomId = session.roomId ∧
      participant.participantId = session.participantId ∧ participant.participantType = "human")
    (invalidState "Stored leave participant authority is invalid.")
  require (participant.status = .joined) sessionRevoked
  endSessions fun row => row.sessionFingerprint == fingerprint
  let participant ← setParticipantStatus session.roomId participant .left now
  appendEvent now session.roomId "participant_left"
    ⟨participant.participantId, participant.participantType⟩ (some participant.participantId)
    (some participant.displayName) .none

/-- `participant.kick` and `participant.export`. -/
inductive RemovalAction
  | kick
  | export
  deriving DecidableEq, Repr

def RemovalAction.status : RemovalAction → ParticipantStatus
  | .kick => .kicked
  | .export => .exported

def RemovalAction.eventType : RemovalAction → String
  | .kick => "participant_kicked"
  | .export => "participant_exported"

def removeParticipant (roomId targetId : String) (action : RemovalAction) (now : Nat) :
    HumanTx MembershipEvent := do
  require (targetId ≠ localOperatorParticipantId)
    (rejected "owner_removal_denied" "The local room owner cannot be removed.")
  requireLocalRoomManager roomId
  let participant ← orReject ((← read id).participant? roomId targetId)
    (.persistence .participantMissing)
  require (participant.roomId = roomId ∧ participant.participantId = targetId)
    (rejected "stored_agent_identity_invalid"
      "Stored participant identity differs from its row.")
  require (participant.status ≠ .exported)
    (rejected "participant_exported"
      "This participant was permanently exported from the room.")
  require (participant.status ≠ action.status)
    (rejected "participant_already_removed"
      "The participant already has this removal status.")
  endSessions fun row => row.isOf roomId targetId
  revokeInvites fun invite => invite.roomId == roomId && invite.baseParticipantId == targetId
  let participant ← setParticipantStatus roomId participant action.status now
  appendEvent now roomId action.eventType ⟨localOperatorParticipantId, "human"⟩ (some targetId)
    (some participant.displayName) (.participant participant)

def roomStatusEventType : RoomStatus → String
  | .active => "room_restored"
  | .archived => "room_archived"
  | .closed => "room_closed"

/-- A room that leaves the active status loses its sessions and invites. -/
def revokeRoomAccess (roomId : String) (target : RoomStatus) : HumanTx Unit := do
  if target ≠ .active then do
    endSessions fun row => row.roomId == roomId
    revokeInvites fun invite => invite.roomId == roomId
  else pure ()

/-- `room.close` and `room.archive`; the target status is what the command asks for. -/
def changeRoomStatus (roomId : String) (target : RoomStatus) (cleanupPending : Bool) (now : Nat) :
    HumanTx MembershipEvent := do
  let manager ← orReject ((← read id).participant? roomId localOperatorParticipantId)
    (.persistence .participantMissing)
  require (manager.roomId = roomId ∧ manager.participantId = localOperatorParticipantId ∧
      manager.participantType = "human" ∧ manager.status = .joined)
    (rejected "session_revoked" "The exact room owner membership is invalid.")
  let (room, settings) ← orReject ((← read HumanStore.rooms).lookup roomId)
    (.persistence .roomMissing)
  require (room.roomId = roomId) (invalidState "Stored room identity differs from its row.")
  require (target = .closed ∨ room.status ≠ .closed)
    (rejected "room_closed" "A closed room cannot be archived or restored.")
  require (target ≠ .active ∨ cleanupPending = false)
    (rejected "runtime_cleanup_pending"
      "Exact runtime cleanup must finish before restoring this room.")
  revokeRoomAccess roomId target
  let room : Room := { room with status := target, updatedAt := now }
  write fun s => { s with rooms := s.rooms.insert roomId (room, settings) }
  appendEvent now roomId (roomStatusEventType target) ⟨localOperatorParticipantId, "human"⟩
    none none (.room room)

/-! ## Runs -/

inductive HumanOp
  | createInvite (roomId : String) (invite : NewHumanInvite)
  | revokeInvite (roomId inviteId : String)
  | storeAvatar (request : PreparedHumanAdmission) (size : Nat)
  | admitHuman (request : PreparedHumanAdmission)
  | leave (fingerprint : String)
  | remove (roomId targetId : String) (action : RemovalAction)
  | changeStatus (roomId : String) (target : RoomStatus) (cleanupPending : Bool)
  deriving DecidableEq

inductive HumanOutcome
  | invite (invite : HumanInvite)
  | revoked (found : Bool)
  | avatar (attachmentId : String)
  | decision (decision : HumanAdmissionDecision)
  | event (event : MembershipEvent)
  deriving DecidableEq

def perform (op : HumanOp) (now : Nat) : HumanTx HumanOutcome :=
  match op with
  | .createInvite roomId invite => .invite <$> createHumanInvite roomId invite
  | .revokeInvite roomId inviteId => .revoked <$> revokeHumanInvite roomId inviteId
  | .storeAvatar request size => .avatar <$> storeHumanPrejoinAvatar request size now
  | .admitHuman request => .decision <$> admitHuman request now
  | .leave fingerprint => .event <$> leaveRoom fingerprint now
  | .remove roomId targetId action => .event <$> removeParticipant roomId targetId action now
  | .changeStatus roomId target cleanupPending =>
      .event <$> changeRoomStatus roomId target cleanupPending now

/-- The store and the instant of its last operation. -/
structure HumanServer where
  store : HumanStore
  clock : Nat

/-- An operation at an instant, with its outcome. -/
structure HumanLabel where
  op : HumanOp
  now : Nat
  outcome : Except StoreError HumanOutcome

/-- One operation; the instant leaves room for a session to expire. -/
def Step (label : HumanLabel) (s t : HumanServer) : Prop :=
  s.clock ≤ label.now ∧ label.now + sessionTtl ≤ maxTimestampMicros ∧ t.clock = label.now ∧
    match label.outcome with
    | .ok outcome => Commits (perform label.op label.now) s.store outcome t.store
    | .error error => Rejects (perform label.op label.now) s.store error ∧ t.store = s.store

end Operations

/-- A store before its first invite: rooms and members under their own ids, and profiles
that decode. -/
structure HumanStore.Fresh (s : HumanStore) : Prop where
  invites : s.invites = ∅
  sessions : s.sessions = ∅
  devices : s.devices = ∅
  prejoinAvatars : s.prejoinAvatars = ∅
  rooms : ∀ roomId row, s.rooms.lookup roomId = some row →
    row.1.roomId = roomId ∧ trim row.1.label ≠ ""
  participants : ∀ roomId participantId row, s.participant? roomId participantId = some row →
    row.roomId = roomId ∧ row.participantId = participantId
  profiles : ∀ userId profile, s.profiles.lookup userId = some profile → 1 ≤ profile.revision

end AgentsAssemble.Admission
