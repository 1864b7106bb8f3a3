import AgentsAssemble.Admission.Ledger

/-!
# Human admission: what one call decides

In a sound store the checks of stored authority never fire, an exact retry is
answered from its session alone, and a new admission changes the store exactly
as `Admits` says.
-/

namespace AgentsAssemble.Admission

open Foundation Domain Tx
open Directory (Room RoomSettings UserProfile)
open Persistence (RoomStatus UuidSource)

section Decisions

variable [AdmissionDigests] {s : HumanStore} {request : PreparedHumanAdmission} {now : Nat}

/-- The invite a credential selects, with its room. -/
structure Selected (s : HumanStore) (credential : HumanInviteCredentialEvidence)
    (invite : HumanInvite) (room : Room) : Prop where
  stored : s.invites.lookup invite.inviteId = some invite
  selects : credential.selects invite = true
  room : ∃ settings, s.rooms.lookup invite.roomId = some (room, settings)

theorem loadInviteAndRoom_meets (hs : Sound s) (credential : HumanInviteCredentialEvidence) :
    Meets (loadInviteAndRoom credential) s (fun found t => t = s ∧
      ∀ invite room, found = some (invite, room) → Selected s credential invite room) Never := by
  unfold loadInviteAndRoom
  apply Meets.read_bind
  cases hfind : s.invites.find? fun _ invite => credential.selects invite with
  | none => exact .pure ⟨rfl, nofun⟩
  | some found =>
      obtain ⟨inviteId, stored⟩ := found
      obtain ⟨hstored, hselects⟩ := Table.find?_eq_some hfind
      have hdecode := hs.invites.decodes hstored
      obtain ⟨-, hid, -⟩ := decodeHumanInvite_eq_ok hdecode
      subst hid
      apply Meets.read_bind
      cases hroom : s.rooms.lookup stored.roomId with
      | none => exact .pure ⟨rfl, nofun⟩
      | some row =>
          obtain ⟨room, settings⟩ := row
          obtain ⟨hroomId, hlabel⟩ := hs.rooms hroom
          refine Meets.ofResult_bind (fun e he => ?_) fun invite hinvite => ?_
          · rw [hdecode] at he
            cases he
          · obtain rfl := Except.ok.inj (hdecode.symm.trans hinvite)
            refine Meets.require_bind (fun hbad => hbad ⟨hroomId, hlabel⟩) fun _ => ?_
            refine .pure ⟨rfl, fun found room' hfound => ?_⟩
            obtain ⟨rfl, rfl⟩ := Prod.mk.inj (Option.some.inj hfound)
            exact ⟨hstored, hselects, settings, hroom⟩

/-- A selected invite is the one that is loaded. -/
theorem loadInviteAndRoom_selected (hs : Sound s) {credential : HumanInviteCredentialEvidence}
    {invite : HumanInvite} {room : Room} (h : Selected s credential invite room) :
    Commits (loadInviteAndRoom credential) s (some (invite, room)) s := by
  obtain ⟨settings, hroom⟩ := h.room
  obtain ⟨hroomId, hlabel⟩ := hs.rooms hroom
  have hfind : s.invites.find? (fun _ invite => credential.selects invite) =
      some (invite.inviteId, invite) :=
    Table.find?_of_unique h.stored h.selects fun _ _ hother hselects =>
      (hs.invites.selects_unique hother h.stored hselects h.selects).1
  unfold loadInviteAndRoom
  refine commits_bind.mpr ⟨_, s, commits_read.mpr ⟨rfl, rfl⟩, ?_⟩
  rw [hfind]
  refine commits_bind.mpr ⟨_, s, commits_read.mpr ⟨rfl, rfl⟩, ?_⟩
  rw [hroom]
  refine commits_bind.mpr ⟨invite, s, ?_, ?_⟩
  · exact commits_ofResult.mpr ⟨hs.invites.decodes h.stored, rfl⟩
  · refine commits_bind.mpr ⟨(), s, commits_require.mpr ⟨⟨hroomId, hlabel⟩, rfl⟩, ?_⟩
    exact commits_pure.mpr ⟨rfl, rfl⟩

/-- The signed claims repeat the terms of the invite. -/
def CredentialBound (invite : HumanInvite) : HumanInviteCredentialEvidence → Prop
  | .joinCode _ => True
  | .signed _ claims =>
      claims.roomId = invite.roomId ∧ claims.baseParticipantId = invite.baseParticipantId ∧
        claims.displayName = invite.displayName ∧ claims.inviteScope = invite.inviteScope ∧
        claims.issuedAt = invite.createdAt ∧ claims.expiresAt = invite.expiresAt

omit [AdmissionDigests] in
theorem requireCredentialBinding_commits {invite : HumanInvite}
    {credential : HumanInviteCredentialEvidence} {u : Unit} {t : HumanStore} :
    Commits (requireCredentialBinding invite credential) s u t ↔
      CredentialBound invite credential ∧ t = s := by
  cases credential with
  | signed fingerprint claims => simp [requireCredentialBinding, CredentialBound]
  | joinCode fingerprint => simp [requireCredentialBinding, CredentialBound]

omit [AdmissionDigests] in
theorem requireCredentialBinding_meets {invite : HumanInvite}
    {credential : HumanInviteCredentialEvidence} :
    Meets (requireCredentialBinding invite credential) s
      (fun _ t => CredentialBound invite credential ∧ t = s) Acceptable where
  commits := requireCredentialBinding_commits.mp
  rejects := by
    intro e he
    cases credential with
    | signed fingerprint claims =>
        rw [(rejects_require.mp he).2]
        rfl
    | joinCode fingerprint => exact (rejects_pure.mp he).elim

omit [AdmissionDigests] in
theorem CredentialBound.sameTerms {invite later : HumanInvite}
    {credential : HumanInviteCredentialEvidence} (hterms : invite.SameTerms later)
    (h : CredentialBound invite credential) : CredentialBound later credential := by
  cases credential with
  | signed fingerprint claims =>
      rw [hterms]
      exact h
  | joinCode fingerprint => trivial

/-! ## Exact retries -/

/-- The answer of a stored session to a request for its key. -/
def sessionAnswer (request : PreparedHumanAdmission) (key : String) (now : Nat)
    (session : HumanRoomSession) : HumanAdmissionDecision :=
  if session.payloadHash ≠ payloadHash request.payload then .rejected .idempotencyConflict
  else if session.isLive now then
    .admitted
      { result := session.result
        sessionBearer := sessionBearer key
        events := []
        replacedSessionFingerprints := []
        deduplicated := true }
  else .rejected .sessionUnavailable

/-- The session has expired and a retry of its request finds it still marked as active. -/
def discoversExpiry (request : PreparedHumanAdmission) (now : Nat)
    (session : HumanRoomSession) : Prop :=
  session.payloadHash = payloadHash request.payload ∧ session.state = .active ∧
    session.expiresAt ≤ now

instance (session : HumanRoomSession) : Decidable (discoversExpiry request now session) :=
  inferInstanceAs (Decidable (_ ∧ _))

/-- What a retry leaves: the session it finds expired is ended. -/
def retryStore (s : HumanStore) (request : PreparedHumanAdmission) (key : String) (now : Nat) :
    HumanStore :=
  match s.sessions.lookup key with
  | some session =>
      if discoversExpiry request now session then
        { s with sessions := s.sessions.insert key session.end_ }
      else s
  | none => s

omit [AdmissionDigests] in
theorem joinedSession_eq {key : String} {session : HumanRoomSession} {profile : UserProfile}
    {participant : Directory.Participant} {room : Room} {settings : RoomSettings}
    (hsession : s.sessions.lookup key = some session)
    (hprofile : s.profiles.lookup session.userId = some profile)
    (hbound : profile.participantId = session.participantId)
    (hmember : s.participant? session.roomId session.participantId = some participant)
    (hroom : s.rooms.lookup session.roomId = some (room, settings)) :
    joinedSession s key = some (session, profile, participant, room) := by
  simp [joinedSession, hsession, hprofile, hbound, hmember, hroom]

theorem exactAdmission_meets (hs : Sound s) {invite : HumanInvite} {room : Room}
    (hselected : Selected s request.credential invite room) (now : Nat) :
    Meets (exactAdmission request invite (admissionKey request invite) (admissionKeyKind invite) now)
      s (fun answer t =>
        answer = (s.sessions.lookup (admissionKey request invite)).map
          (sessionAnswer request (admissionKey request invite) now) ∧
        t = retryStore s request (admissionKey request invite) now) Never := by
  have hkey := keyOf_admissionKey hselected.selects
  generalize admissionKey request invite = key at hkey ⊢
  generalize admissionKeyKind invite = kind at hkey ⊢
  unfold exactAdmission retryStore
  apply Meets.read_bind
  cases hsession : s.sessions.lookup key with
  | none =>
      have hnone : joinedSession s key = none := by
        simp [joinedSession, hsession]
      dsimp only [id]
      rw [hnone]
      exact .pure ⟨rfl, rfl⟩
  | some session =>
      have hbound := hs.sessions hsession
      obtain ⟨owner, howner, hroomId, hscope, hkeyOf⟩ := hbound.invite
      obtain ⟨profile, hprofile, hparticipant⟩ := hbound.profile
      obtain ⟨member, hmember, hhuman⟩ := hbound.member
      obtain ⟨⟨place, settings⟩, hplace⟩ := hbound.room
      -- the key names the invite of the request, so the session is one of this invite
      obtain ⟨hinviteId, rfl, hbrowser, hkind⟩ :=
        hkeyOf.unique hs.invites howner hselected.stored hkey
      obtain ⟨hmemberRoom, hmemberId⟩ := hs.participants hmember
      have hplaceId := (hs.rooms hplace).1
      dsimp only [id]
      rw [joinedSession_eq hsession hprofile hparticipant hmember hplace]
      dsimp only
      refine Meets.require_bind (fun hbad => hbad ?_) fun _ => ?_
      · exact ⟨hkind, hinviteId, hroomId, hbound.clientKind, hscope, hbrowser⟩
      unfold sessionAnswer
      rw [Option.map_some]
      by_cases hhash : session.payloadHash = payloadHash request.payload
      case neg =>
        rw [if_pos hhash, if_pos hhash, if_neg (fun h => hhash h.1)]
        exact .pure ⟨rfl, rfl⟩
      rw [if_neg (not_not.mpr hhash), if_neg (not_not.mpr hhash)]
      refine Meets.require_bind (fun hbad => hbad ?_) fun _ => ?_
      · exact ⟨hplaceId, hmemberRoom, hmemberId, hhuman⟩
      have hdecode : decodeBoundProfile profile session.participantId = .ok profile := by
        unfold decodeBoundProfile
        rw [if_neg (not_not.mpr hparticipant), if_neg (by have := hs.profiles hprofile; omega)]
      refine Meets.ofResult_bind (fun e he => ?_) fun _ _ => ?_
      · rw [hdecode] at he
        cases he
      by_cases hactive : session.state = .active
      case neg =>
        have hlive : session.isLive now = false := by
          simp [HumanRoomSession.isLive, HumanRoomSession.isActive, hactive]
        rw [if_pos hactive, if_neg (Bool.eq_false_iff.mp hlive), if_neg (fun h => hactive h.2.1)]
        exact .pure ⟨rfl, rfl⟩
      rw [if_neg (not_not.mpr hactive)]
      by_cases hexpired : session.expiresAt ≤ now
      case pos =>
        have hlive : session.isLive now = false := by
          simp [HumanRoomSession.isLive, hexpired]
        rw [if_pos hexpired, if_neg (Bool.eq_false_iff.mp hlive), if_pos ⟨hhash, hactive, hexpired⟩]
        exact Meets.write_bind (.pure ⟨rfl, rfl⟩)
      have hlive : session.isLive now = true := by
        simp [HumanRoomSession.isLive, HumanRoomSession.isActive, hactive, not_le.mp hexpired]
      rw [if_neg hexpired, if_pos hlive, if_neg (fun h => hexpired h.2.2)]
      have hseated := hs.seated hsession hactive
      obtain ⟨row, hrow, hjoined⟩ := hseated.joined
      obtain ⟨place', settings', hplace', hopen⟩ := hseated.active
      obtain rfl := Option.some.inj (hrow.symm.trans hmember)
      obtain ⟨rfl, rfl⟩ := Prod.mk.inj (Option.some.inj (hplace'.symm.trans hplace))
      refine Meets.require_bind (fun hbad => hbad ⟨hopen, hjoined⟩) fun _ => ?_
      refine Meets.require_bind (fun hbad => hbad ?_) fun _ => ?_
      · refine ⟨hbound.result.status, hbound.result.requestId, ?_, ?_, ?_,
          hbound.result.expiresAt⟩
        · rw [hbound.result.agentId, hmemberId]
        · rw [hbound.result.meetingId, hplaceId]
        · rw [hbound.result.inviteScope, hscope]
      refine Meets.require_bind (fun hbad => hbad hbound.fingerprint) fun _ => ?_
      exact .pure ⟨rfl, rfl⟩

end Decisions

end AgentsAssemble.Admission
