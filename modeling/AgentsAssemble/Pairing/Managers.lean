import AgentsAssemble.Admission.Store
import AgentsAssemble.Foundation.Result

/-!
# Local room managers

The one manager of a room is the local operator: a joined human of an active room, on a host
whose bootstrap is complete.  An authority names the incarnation of the host and of the room
that it was issued for.
-/

namespace AgentsAssemble.Pairing

open Foundation
open Domain (ClientKind)
open Directory (Bootstrap LocalBootstrapStatus Participant Room UserProfile
  localOperatorParticipantId localOperatorUserId)
open Persistence (PersistenceError RoomStatus rejected)
open Admission (InviteScope)

structure RoomUserIdentity where
  roomId : String
  userId : String
  participantId : String
  deriving DecidableEq, Repr

structure LocalRoomManagerAuthority where
  serverId : String
  authorityLineageId : String
  roomUid : String
  manager : RoomUserIdentity
  deriving DecidableEq, Repr

/-! ## Principals -/

structure RoomCapabilities where
  roomHistory : Bool
  roomVoteSummary : Bool
  roomRandom : Bool
  messageSend : Bool
  messageModify : Bool
  roomManage : Bool
  participantLeave : Bool
  participantMute : Bool
  agentControl : Bool
  bridgePublish : Bool
  deriving DecidableEq, Repr

namespace RoomCapabilities

def forPrincipal (clientKind : ClientKind) (inviteScope : InviteScope) (isOperator : Bool) :
    RoomCapabilities :=
  let bridge := decide (clientKind = .agentBridge)
  let writable := decide (inviteScope = .readWrite)
  { roomHistory := !bridge
    roomVoteSummary := !bridge
    roomRandom := writable && !bridge
    messageSend := writable && !bridge
    messageModify := writable && !bridge
    roomManage := isOperator
    participantLeave := !bridge
    participantMute := isOperator
    agentControl := isOperator
    bridgePublish := bridge && writable }

def localOperator (clientKind : ClientKind) (inviteScope : InviteScope) : RoomCapabilities :=
  forPrincipal clientKind inviteScope true

end RoomCapabilities

/-- The principal that the commands of one room act for. -/
structure RoomPrincipal where
  principalId : String
  participantId : String
  displayName : String
  roomId : String
  clientKind : ClientKind
  inviteScope : InviteScope
  isOperator : Bool
  capabilities : RoomCapabilities
  deriving DecidableEq, Repr

/-! ## The host -/

/-- The rows that decide who manages a room. -/
structure Host where
  bootstrap : Bootstrap
  rooms : Table String Room
  participants : Table (String × String) Participant
  profiles : Table String UserProfile

def roomInactive : PersistenceError :=
  rejected "room_inactive" "Closed or archived rooms do not accept active sessions."

def loadActiveRoom (host : Host) (roomId : String) : Except PersistenceError Room :=
  match host.rooms.lookup roomId with
  | none => .error .roomMissing
  | some room =>
      if room.roomId ≠ roomId ∨ room.status ≠ .active then .error roomInactive else .ok room

def loadActiveMembership (host : Host) (roomId participantId : String) :
    Except PersistenceError (Room × Participant) := do
  let room ← loadActiveRoom host roomId
  match host.participants.lookup (roomId, participantId) with
  | none => .error .participantMissing
  | some participant =>
      if participant.roomId ≠ roomId ∨ participant.participantId ≠ participantId ∨
          participant.status ≠ .joined then
        .error (rejected "session_revoked" "This room session has ended.")
      else
        .ok (room, participant)

def loadProfileForIdentity (host : Host) (userId participantId : String) :
    Except PersistenceError UserProfile :=
  match host.profiles.lookup userId with
  | none => .error (rejected "user_profile_missing" "Authenticated user profile was not found.")
  | some profile =>
      if profile.participantId ≠ participantId then
        .error (rejected "profile_authority_mismatch"
          "Authenticated user profile does not own this participant.")
      else if profile.revision < 1 then
        .error (rejected "invalid_state" "Stored user profile revision is invalid.")
      else
        .ok profile

def requireCompleteBootstrap (host : Host) : Except PersistenceError LocalBootstrapStatus :=
  match host.bootstrap with
  | .complete status => .ok status
  | .empty =>
      .error (rejected "bootstrap_required" "Local identity bootstrap is not complete.")
  | .repairRequired =>
      .error (rejected "bootstrap_repair_required"
        "Local bootstrap authority is inconsistent and requires explicit repair.")

def requireCurrentLocalRoomManager (host : Host) (identity : RoomUserIdentity) :
    Except PersistenceError LocalBootstrapStatus :=
  if identity.userId ≠ localOperatorUserId ∨ identity.participantId ≠ localOperatorParticipantId then
    .error (rejected "permission_denied"
      "Only the current local room manager may manage this room.")
  else
    requireCompleteBootstrap host

def resolveLocalRoomManager (host : Host) (identity : RoomUserIdentity) :
    Except PersistenceError (LocalRoomManagerAuthority × RoomPrincipal) := do
  let (room, participant) ← loadActiveMembership host identity.roomId identity.participantId
  if participant.participantType ≠ "human" then
    throw (rejected "session_revoked" "Room management requires a current human participant.")
  let _ ← loadProfileForIdentity host identity.userId identity.participantId
  let bootstrap ← requireCurrentLocalRoomManager host identity
  pure
    ({ serverId := bootstrap.serverId
       authorityLineageId := bootstrap.authorityLineageId
       roomUid := room.roomUid
       manager := identity },
     { principalId := identity.userId
       participantId := identity.participantId
       displayName := participant.displayName
       roomId := identity.roomId
       clientKind := .browser
       inviteScope := .readWrite
       isOperator := true
       capabilities := .localOperator .browser .readWrite })

/-- `LocalRoomManagerAuthority::resolve`. -/
def LocalRoomManagerAuthority.resolve (expected : LocalRoomManagerAuthority) (host : Host) :
    Except PersistenceError RoomPrincipal := do
  let (current, principal) ← resolveLocalRoomManager host expected.manager
  if current ≠ expected then
    throw (rejected "room_authority_changed"
      "Room-manager authority changed before the operation.")
  pure principal

def requireExactLocalRoomManager (host : Host) (expected : LocalRoomManagerAuthority) :
    Except PersistenceError RoomUserIdentity := do
  let _ ← expected.resolve host
  pure expected.manager

/-! ## Incarnations -/

/-- The host and the room are still the incarnations that the authority names. -/
structure Incarnates (host : Host) (authority : LocalRoomManagerAuthority) : Prop where
  room : ∃ room, host.rooms.lookup authority.manager.roomId = some room ∧
    room.status = .active ∧ room.roomUid = authority.roomUid
  bootstrap : host.bootstrap =
    .complete ⟨authority.serverId, authority.authorityLineageId⟩

theorem loadActiveRoom_eq_ok {host : Host} {roomId : String} {room : Room}
    (h : loadActiveRoom host roomId = .ok room) :
    host.rooms.lookup roomId = some room ∧ room.status = .active := by
  unfold loadActiveRoom at h
  split at h
  · cases h
  · rename_i stored hstored
    split at h
    · cases h
    · rename_i hactive
      rw [not_or, not_not, not_not] at hactive
      obtain rfl := Except.ok.inj h
      exact ⟨hstored, hactive.2⟩

theorem loadActiveMembership_eq_ok {host : Host} {roomId participantId : String} {room : Room}
    {participant : Participant}
    (h : loadActiveMembership host roomId participantId = .ok (room, participant)) :
    host.rooms.lookup roomId = some room ∧ room.status = .active := by
  unfold loadActiveMembership at h
  obtain ⟨loaded, hloaded, h⟩ := Result.bind_eq_ok.mp h
  split at h
  · cases h
  · split at h
    · cases h
    · obtain ⟨rfl, -⟩ := Prod.mk.inj (Except.ok.inj h)
      exact loadActiveRoom_eq_ok hloaded

theorem requireCurrentLocalRoomManager_eq_ok {host : Host} {identity : RoomUserIdentity}
    {status : LocalBootstrapStatus}
    (h : requireCurrentLocalRoomManager host identity = .ok status) :
    host.bootstrap = .complete status := by
  unfold requireCurrentLocalRoomManager requireCompleteBootstrap at h
  split at h
  · cases h
  · split at h
    · rename_i hcomplete
      rw [hcomplete, Except.ok.inj h]
    · cases h
    · cases h

/-- An authority that resolves names the incarnations of now. -/
theorem resolveLocalRoomManager_eq_ok {host : Host} {identity : RoomUserIdentity}
    {authority : LocalRoomManagerAuthority} {principal : RoomPrincipal}
    (h : resolveLocalRoomManager host identity = .ok (authority, principal)) :
    authority.manager = identity ∧ Incarnates host authority := by
  unfold resolveLocalRoomManager at h
  obtain ⟨⟨room, participant⟩, hmembership, h⟩ := Result.bind_eq_ok.mp h
  obtain ⟨-, h⟩ := Result.check_eq_ok.mp h
  obtain ⟨profile, -, h⟩ := Result.bind_eq_ok.mp h
  obtain ⟨bootstrap, hbootstrap, h⟩ := Result.bind_eq_ok.mp h
  obtain ⟨rfl, -⟩ := Prod.mk.inj (Result.pure_eq_ok.mp h)
  obtain ⟨hroom, hactive⟩ := loadActiveMembership_eq_ok hmembership
  refine ⟨rfl, ⟨room, hroom, hactive, rfl⟩, ?_⟩
  exact requireCurrentLocalRoomManager_eq_ok hbootstrap

end AgentsAssemble.Pairing
