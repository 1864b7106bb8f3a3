import AgentsAssemble.Admission.Commits

/-!
# Human admission: the seat a new admission takes

The session, membership and use that one new admission commits, and what every
call of `admit_human` decides.
-/

namespace AgentsAssemble.Admission

open Foundation Domain Tx
open Directory (Room RoomSettings UserProfile)
open Persistence (RoomStatus UuidSource)

section Seats

variable [AdmissionDigests] [UuidSource] {s : HumanStore} {request : PreparedHumanAdmission}
  {invite : HumanInvite} {now : Nat}

omit [AdmissionDigests] in
theorem announceJoin_meets (participant : Directory.Participant) (joined : Bool) :
    Meets (announceJoin invite participant joined now) s
      (fun _ t => ∃ events uuids, t = { s with events, uuids }) Never := by
  unfold announceJoin
  refine Meets.ite (fun _ => ?_) fun _ => .pure ⟨s.events, s.uuids, rfl⟩
  exact (appendEvent_meets _ _ _ _ _ _).bind fun _ _ h => .pure h

omit [AdmissionDigests] [UuidSource] in
theorem joinParticipant_meets {participantId : String} {profile : UserProfile}
    (h : ∀ row, s.participants.lookup (invite.roomId, participantId) = some row →
      row.roomId = invite.roomId ∧ row.participantId = participantId ∧
        row.participantType = "human") :
    Meets (joinParticipant invite participantId profile now) s (fun _ t =>
      ∃ participants, t = { s with participants } ∧
        (∃ row, participants.lookup (invite.roomId, participantId) = some row ∧
          membership row = (invite.roomId, participantId, "human", .joined)) ∧
        ∀ key, key ≠ (invite.roomId, participantId) →
          participants.lookup key = s.participants.lookup key) Never := by
  unfold joinParticipant
  apply Meets.read_bind
  dsimp only [id]
  cases hrow : s.participant? invite.roomId participantId with
  | none =>
      apply Meets.write_bind
      refine .pure ⟨_, rfl, ⟨_, Table.lookup_insert_ite _ _ _ _ |>.trans (if_pos rfl), rfl⟩, ?_⟩
      intro key hne
      rw [Table.lookup_insert_ite, if_neg hne]
  | some row =>
      obtain ⟨hroom, hid, hhuman⟩ := h row hrow
      refine Meets.require_bind (fun hbad => hbad (h row hrow)) fun _ => ?_
      refine Meets.ite (fun _ => ?_) fun hsame => ?_
      · apply Meets.write_bind
        refine .pure ⟨_, rfl, ⟨_, Table.lookup_insert_ite _ _ _ _ |>.trans (if_pos rfl), ?_⟩, ?_⟩
        · show (row.roomId, row.participantId, row.participantType, _) = _
          rw [hroom, hid, hhuman]
        · intro key hne
          rw [Table.lookup_insert_ite, if_neg hne]
      · have hjoined : row.status = .joined := by
          by_contra hnot
          exact hsame (Or.inl (decide_eq_true hnot))
        refine .pure ⟨s.participants, rfl, ⟨row, hrow, ?_⟩, fun _ _ => rfl⟩
        show (row.roomId, row.participantId, row.participantType, row.status) = _
        rw [hroom, hid, hhuman, hjoined]

omit [AdmissionDigests] [UuidSource] in
theorem consumeInvite_meets (hstored : s.invites.lookup invite.inviteId = some invite)
    (hrevoked : invite.revoked = false) (hexpires : now < invite.expiresAt)
    (hlimit : invite.useCount < invite.effectiveUseLimit) :
    Meets (consumeInvite invite now) s (fun _ t => t = { s with
      invites := s.invites.insert invite.inviteId
        { invite with useCount := invite.useCount + 1 } }) Never := by
  unfold consumeInvite
  apply Meets.read_bind
  rw [hstored]
  refine Meets.require_bind (fun hbad => hbad ⟨hrevoked, hexpires, hlimit⟩) fun _ => .write rfl

omit [AdmissionDigests] [UuidSource] in
theorem insertSession_meets (key : String) (session : HumanRoomSession) :
    Meets (insertSession key session) s (fun _ t => s.sessions.lookup key = none ∧
      t = { s with sessions := s.sessions.insert key session }) Acceptable := by
  unfold insertSession
  apply Meets.read_bind
  refine Meets.require_bind (fun _ => rfl) fun hnone => ?_
  refine Meets.require_bind (fun _ => rfl) fun _ => ?_
  refine Meets.require_bind (fun _ => rfl) fun _ => .write ⟨hnone, rfl⟩

/-- The sessions of a member, ended. -/
def endSessionsOf (roomId participantId : String) (sessions : Table String HumanRoomSession) :
    Table String HumanRoomSession :=
  sessions.update (fun _ session => session.isActive && session.isOf roomId participantId)
    HumanRoomSession.end_

omit [AdmissionDigests] [UuidSource] in
/-- Ending the expired sessions of a member and then its live ones ends all of them. -/
theorem endExpired_endLive (roomId participantId : String) (now : Nat)
    (sessions : Table String HumanRoomSession) :
    (sessions.update (fun _ session => session.isActive &&
        (session.isOf roomId participantId && decide (session.expiresAt ≤ now)))
      HumanRoomSession.end_).update (fun _ session => session.isActive &&
        (session.isOf roomId participantId && decide (now < session.expiresAt)))
      HumanRoomSession.end_ = endSessionsOf roomId participantId sessions := by
  rw [Table.update_update, endSessionsOf]
  · congr 1
    funext _ session
    cases session.isActive
    · rfl
    · by_cases hexpired : session.expiresAt ≤ now
      · simp [hexpired]
      · simp [not_le.mp hexpired]
  · intro _ session _
    rfl

omit [AdmissionDigests] [UuidSource] in
theorem replaceLiveSessions_meets (roomId participantId : String) :
    Meets (replaceLiveSessions roomId participantId now) s (fun _ t => t = { s with
      sessions := s.sessions.update (fun _ session => session.isActive &&
        (session.isOf roomId participantId && decide (now < session.expiresAt)))
        HumanRoomSession.end_ }) Never := by
  unfold replaceLiveSessions endSessions
  dsimp only
  apply Meets.read_bind
  exact Meets.write_bind (.pure rfl)

/-- What seating an identity leaves behind. -/
structure Seats (s : HumanStore) (identity : ResolvedIdentity) (request : PreparedHumanAdmission)
    (invite : HumanInvite) (key : String) (now : Nat) (commit : HumanAdmissionCommit)
    (t : HumanStore) : Prop where
  deduplicated : commit.deduplicated = false
  bearer : commit.sessionBearer = sessionBearer key
  result : ResultBound (newSession request invite key identity.userId identity.participantId
    commit.result now)
  unused : s.sessions.lookup key = none
  rooms : t.rooms = s.rooms
  profiles : t.profiles = s.profiles
  devices : t.devices = s.devices
  avatars : t.prejoinAvatars = s.prejoinAvatars
  invites : t.invites = s.invites.insert invite.inviteId
    { invite with useCount := invite.useCount + 1 }
  sessions : t.sessions = (s.sessions.update (fun _ session => session.isActive &&
      (session.isOf invite.roomId identity.participantId && decide (now < session.expiresAt)))
      HumanRoomSession.end_).insert key
    (newSession request invite key identity.userId identity.participantId commit.result now)
  member : ∃ row, t.participant? invite.roomId identity.participantId = some row ∧
    membership row = (invite.roomId, identity.participantId, "human", .joined)
  others : ∀ key, key ≠ (invite.roomId, identity.participantId) →
    t.participants.lookup key = s.participants.lookup key

/-- The invite still admits: what the gate has checked. -/
structure InviteOpen (invite : HumanInvite) (room : Room) (now : Nat) : Prop where
  revoked : invite.revoked = false
  expiresAt : now < invite.expiresAt
  useLimit : invite.useCount < invite.effectiveUseLimit
  active : room.status = .active

theorem seatIdentity_meets {identity : ResolvedIdentity} {room : Room} {key : String}
    (hmember : ∀ row, s.participants.lookup (invite.roomId, identity.participantId) = some row →
      row.roomId = invite.roomId ∧ row.participantId = identity.participantId ∧
        row.participantType = "human")
    (hstored : s.invites.lookup invite.inviteId = some invite)
    (hopen : InviteOpen invite room now) (hclock : now + sessionTtl ≤ maxTimestampMicros) :
    Meets (seatIdentity identity request invite room key now) s
      (Seats s identity request invite key now) Acceptable := by
  unfold seatIdentity
  refine Meets.bind (replaceLiveSessions_meets _ _).safe ?_
  rintro replaced _ rfl
  refine Meets.bind (Meets.safe (joinParticipant_meets ?_)) ?_
  · exact hmember
  rintro ⟨participant, joined⟩ _ ⟨participants, rfl, hjoined, hothers⟩
  refine Meets.bind
    (Meets.safe (consumeInvite_meets ?_ hopen.revoked hopen.expiresAt hopen.useLimit)) ?_
  · exact hstored
  rintro ⟨⟩ _ rfl
  refine Meets.bind (announceJoin_meets _ _).safe ?_
  rintro joinedEvents _ ⟨events, uuids, rfl⟩
  refine Meets.require_bind (fun hbad => absurd hclock hbad) fun _ => ?_
  apply Meets.read_bind
  refine Meets.orReject_bind (fun _ => rfl) fun row hrow => ?_
  refine (insertSession_meets _ _).bind ?_
  rintro ⟨⟩ _ ⟨hunused, rfl⟩
  have hnone : s.sessions.lookup key = none := by
    have hupdated := hunused
    dsimp only at hupdated
    rw [Table.lookup_update] at hupdated
    exact Option.map_eq_none_iff.mp hupdated
  refine .pure ⟨rfl, rfl, ⟨rfl, rfl, rfl, rfl, rfl, rfl⟩, hnone, rfl, rfl, rfl, rfl, rfl, rfl,
    hjoined, hothers⟩

omit [AdmissionDigests] [UuidSource] in
/-- A row with the membership of an earlier one. -/
theorem membership_of_map_eq {before after : Table (String × String) Directory.Participant}
    {key : String × String} {row : Directory.Participant}
    (h : (after.lookup key).map membership = (before.lookup key).map membership)
    (hrow : after.lookup key = some row) :
    ∃ old, before.lookup key = some old ∧ membership old = membership row := by
  rw [hrow, Option.map_some] at h
  exact Option.map_eq_some_iff.mp h.symm

/-- The change of a store by one new admission of a browser as a member. -/
structure Admits (s : HumanStore) (request : PreparedHumanAdmission) (invite : HumanInvite)
    (now : Nat) (userId participantId : String) (commit : HumanAdmissionCommit)
    (t : HumanStore) : Prop where
  deduplicated : commit.deduplicated = false
  bearer : commit.sessionBearer = sessionBearer (admissionKey request invite)
  result : ResultBound (newSession request invite (admissionKey request invite) userId
    participantId commit.result now)
  unused : s.sessions.lookup (admissionKey request invite) = none
  capacity : capacityReached s invite.roomId participantId now = false
  active : ∃ room settings, s.rooms.lookup invite.roomId = some (room, settings) ∧
    room.status = .active
  unspent : invite.useCount < invite.effectiveUseLimit
  human : ∀ roomId row, s.participant? roomId participantId = some row →
    row.participantType = "human"
  rooms : t.rooms = s.rooms
  invites : t.invites = s.invites.insert invite.inviteId
    { invite with useCount := invite.useCount + 1 }
  sessions : t.sessions = (endSessionsOf invite.roomId participantId s.sessions).insert
    (admissionKey request invite)
    (newSession request invite (admissionKey request invite) userId participantId commit.result now)
  member : ∃ row, t.participant? invite.roomId participantId = some row ∧
    membership row = (invite.roomId, participantId, "human", .joined)
  others : ∀ key, key ≠ (invite.roomId, participantId) →
    (t.participants.lookup key).map membership = (s.participants.lookup key).map membership
  profile : ∃ profile, t.profiles.lookup userId = some profile ∧
    profile.participantId = participantId ∧ 1 ≤ profile.revision
  stored : ∀ profile, s.profiles.lookup userId = some profile →
    profile.participantId = participantId
  otherProfiles : ∀ user, user ≠ userId → t.profiles.lookup user = s.profiles.lookup user
  devices : ∀ browser user, t.devices.lookup browser = some user →
    s.devices.lookup browser = some user ∨ user = userId
  avatars : ∀ attachmentId row, t.prejoinAvatars.lookup attachmentId = some row →
    s.prejoinAvatars.lookup attachmentId = some row

theorem commitNewAdmission_meets (hs : Sound s) {room : Room}
    (hselected : Selected s request.credential invite room) (hopen : InviteOpen invite room now)
    (hclock : now + sessionTtl ≤ maxTimestampMicros) :
    Meets (commitNewAdmission request invite room (admissionKey request invite) now) s
      (fun decision t =>
        ((decision = .rejected .identityConflict ∨ decision = .rejected .capacityReached) ∧
          t = s) ∨
        ∃ commit userId participantId, decision = .admitted commit ∧
          Admits s request invite now userId participantId commit t) Acceptable := by
  unfold commitNewAdmission
  refine Meets.bind (resolveAdmissionAvatar_meets hs.avatars).safe ?_
  rintro avatar t ⟨rfl, havatar⟩
  refine Meets.bind (resolveIdentity_meets hs _ avatar).safe ?_
  rintro found t ⟨rfl, hresolved⟩
  cases found with
  | none => exact .pure (Or.inl ⟨Or.inl rfl, rfl⟩)
  | some identity =>
      have hidentity := hresolved identity rfl
      apply Meets.read_bind
      dsimp only [id]
      refine Meets.ite (fun _ => .pure (Or.inl ⟨Or.inr rfl, rfl⟩)) fun hcapacity => ?_
      apply Meets.write_bind
      refine Meets.bind (persistIdentity_meets ?_ ?_ havatar) ?_
      · exact ⟨hs.rowsNamed.rooms, hs.rowsNamed.participants⟩
      · exact ⟨hidentity.participantId, hidentity.revision, hidentity.human, hidentity.known⟩
      rintro persisted t ⟨hpersisted, hsame⟩
      generalize persisted.profileEvents = events at hsame
      subst hsame
      refine Meets.bind (seatIdentity_meets ?_ ?_ hopen hclock) fun commit u hseats => ?_
      · intro row hrow
        obtain ⟨old, hold, hmembership⟩ := membership_of_map_eq (hpersisted.members _) hrow
        obtain ⟨hroom, hid⟩ := hs.participants hold
        have hhuman := hidentity.human invite.roomId old (hidentity.participantId ▸ hold)
        simp only [membership, Prod.mk.injEq] at hmembership
        exact ⟨hmembership.1 ▸ hroom, hmembership.2.1 ▸ hid, hmembership.2.2.1 ▸ hhuman⟩
      · rw [hpersisted.invites]
        exact hselected.stored
      refine .pure (Or.inr ⟨commit, identity.userId, identity.participantId, rfl, ?_⟩)
      have hunused := hseats.unused
      rw [hpersisted.sessions, Table.lookup_update, Option.map_eq_none_iff] at hunused
      constructor
      case deduplicated => exact hseats.deduplicated
      case bearer => exact hseats.bearer
      case result => exact hseats.result
      case unused => exact hunused
      case capacity => exact Bool.eq_false_iff.mpr hcapacity
      case active =>
        obtain ⟨settings, hroom⟩ := hselected.room
        exact ⟨room, settings, hroom, hopen.active⟩
      case unspent => exact hopen.useLimit
      case human =>
        intro roomId row hrow
        exact hidentity.human roomId row (hidentity.participantId ▸ hrow)
      case rooms => exact hseats.rooms.trans hpersisted.rooms
      case invites => rw [hseats.invites, hpersisted.invites]
      case sessions =>
        rw [hseats.sessions, hpersisted.sessions, ← endExpired_endLive _ _ now]
      case member => exact hseats.member
      case others =>
        intro key hne
        rw [hseats.others key hne]
        exact hpersisted.members key
      case profile =>
        refine ⟨identity.profile, ?_, hidentity.participantId, hidentity.revision⟩
        rw [hseats.profiles]
        exact hpersisted.profile
      case stored =>
        intro profile hprofile
        obtain ⟨-, hnone⟩ | ⟨-, stored, hstored, hid, -⟩ := hidentity.known
        · cases hprofile.symm.trans hnone
        · obtain rfl := Option.some.inj (hprofile.symm.trans hstored)
          exact hid
      case otherProfiles =>
        intro user hne
        rw [hseats.profiles]
        exact hpersisted.otherProfiles user hne
      case devices =>
        intro browser user hdevice
        rw [hseats.devices] at hdevice
        exact hpersisted.devices browser user hdevice
      case avatars =>
        intro attachmentId row hrow
        rw [hseats.avatars] at hrow
        exact hpersisted.avatars attachmentId row hrow

/-! ## The decision -/

/-- The request names no meeting, or the one of the invite. -/
def MeetingMatches (request : PreparedHumanAdmission) (invite : HumanInvite) : Prop :=
  request.payload.meetingIdAssertion = "" ∨ request.payload.meetingIdAssertion = invite.roomId

omit [AdmissionDigests] [UuidSource] in
theorem inviteGate_eq_none {room : Room} :
    inviteGate request invite room now = none ↔
      InviteOpen invite room now ∧ MeetingMatches request invite := by
  unfold inviteGate MeetingMatches
  constructor
  · intro h
    repeat' split at h
    all_goals cases h
    rename_i hrevoked hexpires hlimit hactive hmeeting
    refine ⟨⟨Bool.eq_false_iff.mpr hrevoked, not_le.mp hexpires, not_le.mp hlimit,
      not_not.mp hactive⟩, ?_⟩
    by_contra hnot
    exact hmeeting (not_or.mp hnot)
  · rintro ⟨⟨hrevoked, hexpires, hlimit, hactive⟩, hmeeting⟩
    rw [if_neg (Bool.eq_false_iff.mp hrevoked), if_neg (not_le.mpr hexpires),
      if_neg (not_le.mpr hlimit), if_neg (not_not.mpr hactive), if_neg]
    exact fun hnot => hmeeting.elim hnot.1 hnot.2

/-- What `admit_human` decides in a sound store, and the store it leaves. -/
inductive Decides (s : HumanStore) (request : PreparedHumanAdmission) (now : Nat) :
    HumanAdmissionDecision → HumanStore → Prop
  | notFound : Decides s request now (.rejected .inviteNotFound) s
  | gated {invite : HumanInvite} {room : Room} {rejection : HumanAdmissionRejection}
      (hgate : inviteGate request invite room now = some rejection) :
      Decides s request now (.rejected rejection) s
  | refused {rejection : HumanAdmissionRejection}
      (hrejection : rejection = .identityConflict ∨ rejection = .capacityReached) :
      Decides s request now (.rejected rejection) s
  | retried {invite : HumanInvite} {room : Room} {session : HumanRoomSession}
      (hselected : Selected s request.credential invite room)
      (hbound : CredentialBound invite request.credential)
      (hgate : invite.isReusable = true → inviteGate request invite room now = none)
      (hsession : s.sessions.lookup (admissionKey request invite) = some session) :
      Decides s request now (sessionAnswer request (admissionKey request invite) now session)
        (retryStore s request (admissionKey request invite) now)
  | admitted {invite : HumanInvite} {room : Room} {userId participantId : String}
      {commit : HumanAdmissionCommit} {t : HumanStore}
      (hselected : Selected s request.credential invite room)
      (hbound : CredentialBound invite request.credential)
      (hmeeting : MeetingMatches request invite)
      (hadmits : Admits s request invite now userId participantId commit t) :
      Decides s request now (.admitted commit) t

omit [UuidSource] in
theorem retryStore_of_none {key : String} (h : s.sessions.lookup key = none) :
    retryStore s request key now = s := by
  unfold retryStore
  rw [h]

/-- The part of `admit_human` after the invite is known to admit. -/
theorem commitNewAdmission_decides (hs : Sound s) {room : Room}
    (hselected : Selected s request.credential invite room)
    (hbound : CredentialBound invite request.credential)
    (hgate : inviteGate request invite room now = none)
    (hclock : now + sessionTtl ≤ maxTimestampMicros) :
    Meets (commitNewAdmission request invite room (admissionKey request invite) now) s
      (Decides s request now) Acceptable := by
  obtain ⟨hopen, hmeeting⟩ := inviteGate_eq_none.mp hgate
  refine (commitNewAdmission_meets hs hselected hopen hclock).mono ?_ fun _ h => h
  rintro decision t (⟨rfl | rfl, rfl⟩ | ⟨commit, userId, participantId, rfl, hadmits⟩)
  · exact .refused (Or.inl rfl)
  · exact .refused (Or.inr rfl)
  · exact .admitted hselected hbound hmeeting hadmits

theorem admitHuman_meets (hs : Sound s) (hclock : now + sessionTtl ≤ maxTimestampMicros) :
    Meets (admitHuman request now) s (Decides s request now) Acceptable := by
  unfold admitHuman
  refine Meets.bind (loadInviteAndRoom_meets hs request.credential).safe ?_
  rintro found t ⟨ht, hfound⟩
  subst t
  cases found with
  | none => exact .pure .notFound
  | some found =>
      obtain ⟨invite, room⟩ := found
      have hselected := hfound invite room rfl
      have hretry := exactAdmission_meets hs hselected now
      refine Meets.bind requireCredentialBinding_meets ?_
      rintro ⟨⟩ t ⟨hbound, ht⟩
      subst t
      by_cases hreuse : invite.isReusable = true
      · have hkey : admissionKey request invite = request.reusableAdmissionKey := if_pos hreuse
        have hkind : admissionKeyKind invite = .reusable := if_pos hreuse
        rw [if_pos hreuse, if_pos hreuse, ← hkey, ← hkind]
        apply Meets.pure_bind
        cases hgate : inviteGate request invite room now with
        | some rejection => exact .pure (.gated hgate)
        | none =>
            refine Meets.bind hretry.safe ?_
            rintro answer t ⟨rfl, rfl⟩
            cases hsession : s.sessions.lookup (admissionKey request invite) with
            | none =>
                rw [retryStore_of_none hsession]
                exact commitNewAdmission_decides hs hselected hbound hgate hclock
            | some session => exact .pure (.retried hselected hbound (fun _ => hgate) hsession)
      · have hkey : admissionKey request invite = request.oneUseAdmissionKey := if_neg hreuse
        have hkind : admissionKeyKind invite = .oneUse := if_neg hreuse
        rw [if_neg hreuse, if_neg hreuse, ← hkey, ← hkind]
        refine Meets.bind hretry.safe ?_
        rintro answer t ⟨rfl, rfl⟩
        cases hsession : s.sessions.lookup (admissionKey request invite) with
        | some session =>
            exact .pure (.retried hselected hbound (fun hmany => absurd hmany hreuse) hsession)
        | none =>
            rw [retryStore_of_none hsession]
            cases hgate : inviteGate request invite room now with
            | some rejection => exact .pure (.gated hgate)
            | none => exact commitNewAdmission_decides hs hselected hbound hgate hclock

end Seats

end AgentsAssemble.Admission
