import AgentsAssemble.Admission.Membership
import AgentsAssemble.Admission.Seats

/-!
# Human admission: the account of a run

A run keeps the store sound, its live sessions within capacity, and the use
count of every invite equal to the new admissions through it.  Whatever an
admission committed, its exact retry is answered with.
-/

namespace AgentsAssemble.Admission

open Foundation Domain Tx
open Directory (Room RoomSettings UserProfile)
open Persistence (RoomStatus UuidSource)

section Accounting

variable [AdmissionDigests] {s t : HumanStore} {request : PreparedHumanAdmission} {now : Nat}

/-! ## A new admission keeps the store sound -/

theorem InvitesSound.spend (h : InvitesSound s.invites) {invite : HumanInvite}
    (hstored : s.invites.lookup invite.inviteId = some invite)
    (hunspent : invite.useCount < invite.effectiveUseLimit) :
    InvitesSound (s.invites.insert invite.inviteId
      { invite with useCount := invite.useCount + 1 }) := by
  have hback : ∀ {inviteId later}, (s.invites.insert invite.inviteId
      { invite with useCount := invite.useCount + 1 }).lookup inviteId = some later →
      ∃ old, s.invites.lookup inviteId = some old ∧ old.SameTerms later := by
    intro inviteId later hlater
    rcases (Table.sets_insert s.invites _ _).cases hlater with ⟨rfl, hnew⟩ | ⟨-, hold⟩
    · obtain rfl := Option.some.inj hnew
      exact ⟨invite, hstored, rfl⟩
    · exact ⟨later, hold, .refl later⟩
  constructor
  case decodes =>
    intro inviteId later hlater
    rcases (Table.sets_insert s.invites _ _).cases hlater with ⟨rfl, hnew⟩ | ⟨-, hold⟩
    · obtain rfl := Option.some.inj hnew
      have hdecodes := h.decodes hstored
      obtain ⟨-, -, -, hnonneg, -⟩ := decodeHumanInvite_eq_ok hdecodes
      exact decodeHumanInvite_sameTerms hdecodes rfl (by dsimp only; omega) (by dsimp only; omega)
    · exact h.decodes hold
  case issued =>
    intro inviteId later hlater
    obtain ⟨old, hold, hterms⟩ := hback hlater
    rw [hterms.signed_eq, hterms.joinCode_eq]
    exact h.issued hold
  case signedUnique =>
    intro a b first second ha hb heq
    obtain ⟨_, hold, hterms⟩ := hback ha
    obtain ⟨_, hold', hterms'⟩ := hback hb
    exact h.signedUnique hold hold' (hterms.signed_eq.symm.trans (heq.trans hterms'.signed_eq))
  case joinCodeUnique =>
    intro a b first second ha hb heq
    obtain ⟨_, hold, hterms⟩ := hback ha
    obtain ⟨_, hold', hterms'⟩ := hback hb
    exact h.joinCodeUnique hold hold'
      (hterms.joinCode_eq.symm.trans (heq.trans hterms'.joinCode_eq))

omit [AdmissionDigests] in
theorem ends_endSessionsOf (roomId participantId : String)
    (sessions : Table String HumanRoomSession) :
    Ends sessions (endSessionsOf roomId participantId sessions) :=
  ends_update _ _

section Admits

variable {invite : HumanInvite} {userId participantId : String} {commit : HumanAdmissionCommit}

theorem Admits.evolves (hstored : s.invites.lookup invite.inviteId = some invite)
    (h : Admits s request invite now userId participantId commit t) : Evolves s t := by
  constructor
  case rooms =>
    rw [h.rooms]
    exact follows_refl (fun _ => trivial) _
  case invites =>
    rw [h.invites]
    refine follows_insert HumanInvite.SameTerms.refl fun old hold => ?_
    obtain rfl := Option.some.inj (hstored.symm.trans hold)
    rfl
  case profiles =>
    intro user profile hprofile
    by_cases huser : user = userId
    · subst huser
      obtain ⟨later, hlater, hid, -⟩ := h.profile
      exact ⟨later, hlater, hid.trans (h.stored profile hprofile).symm⟩
    · exact ⟨profile, (h.otherProfiles user huser).trans hprofile, rfl⟩
  case participants =>
    intro key row hrow
    by_cases hkey : key = (invite.roomId, participantId)
    · subst hkey
      obtain ⟨later, hlater, hmembership⟩ := h.member
      refine ⟨later, hlater, ?_⟩
      simp only [membership, Prod.mk.injEq] at hmembership
      exact hmembership.2.2.1.trans (h.human invite.roomId row hrow).symm
    · obtain ⟨later, hlater, hmembership⟩ :=
        membership_of_map_eq (h.others key hkey).symm hrow
      simp only [membership, Prod.mk.injEq] at hmembership
      exact ⟨later, hlater, hmembership.2.2.1⟩
  case sessions =>
    rw [h.sessions]
    intro key session hsession
    have hne : key ≠ admissionKey request invite := by
      rintro rfl
      cases hsession.symm.trans h.unused
    obtain ⟨later, hlater, hterms⟩ := (ends_endSessionsOf _ _ _).follows key session hsession
    exact ⟨later, by rw [Table.lookup_insert_ite, if_neg hne, hlater], hterms⟩

/-- A session of the store after the admission is the new one, or an untouched active one, or
one that is not active. -/
theorem Admits.session_cases {key : String} {session : HumanRoomSession}
    (h : Admits s request invite now userId participantId commit t)
    (hsession : t.sessions.lookup key = some session) :
    (key = admissionKey request invite ∧
      session = newSession request invite (admissionKey request invite) userId participantId
        commit.result now) ∨
    (key ≠ admissionKey request invite ∧
      (endSessionsOf invite.roomId participantId s.sessions).lookup key = some session) := by
  rw [h.sessions] at hsession
  rcases (Table.sets_insert _ _ _).cases hsession with ⟨hkey, hnew⟩ | hold
  · exact Or.inl ⟨hkey, (Option.some.inj hnew).symm⟩
  · exact Or.inr hold

omit [AdmissionDigests] in
/-- An active session that was there before belongs to another member. -/
theorem active_of_endSessionsOf {roomId key : String} {session : HumanRoomSession}
    (hsession : (endSessionsOf roomId participantId s.sessions).lookup key = some session)
    (hactive : session.state = .active) :
    s.sessions.lookup key = some session ∧ session.isOf roomId participantId = false :=
  active_of_update hsession hactive

theorem Admits.member_iff {key : String × String} {row : Directory.Participant}
    (h : Admits s request invite now userId participantId commit t)
    (hrow : t.participants.lookup key = some row) :
    (key = (invite.roomId, participantId) ∧
      membership row = (invite.roomId, participantId, "human", .joined)) ∨
    (key ≠ (invite.roomId, participantId) ∧
      ∃ old, s.participants.lookup key = some old ∧ membership old = membership row) := by
  by_cases hkey : key = (invite.roomId, participantId)
  · subst hkey
    obtain ⟨member, hmember, hmembership⟩ := h.member
    obtain rfl := Option.some.inj (hmember.symm.trans hrow)
    exact Or.inl ⟨rfl, hmembership⟩
  · exact Or.inr ⟨hkey, membership_of_map_eq (h.others key hkey) hrow⟩

theorem Admits.sound (hs : Sound s) {room : Room}
    (hselected : Selected s request.credential invite room)
    (h : Admits s request invite now userId participantId commit t) : Sound t := by
  have hev := h.evolves hselected.stored
  constructor
  case rooms =>
    intro roomId row hrow
    rw [h.rooms] at hrow
    exact hs.rooms hrow
  case participants =>
    intro roomId participant row hrow
    rcases h.member_iff hrow with ⟨hkey, hmembership⟩ | ⟨-, old, hold, hmembership⟩
    · obtain ⟨rfl, rfl⟩ := Prod.mk.inj hkey
      simp only [membership, Prod.mk.injEq] at hmembership
      exact ⟨hmembership.1, hmembership.2.1⟩
    · obtain ⟨hroom, hid⟩ := hs.participants hold
      simp only [membership, Prod.mk.injEq] at hmembership
      exact ⟨hmembership.1 ▸ hroom, hmembership.2.1 ▸ hid⟩
  case profiles =>
    intro user profile hprofile
    by_cases huser : user = userId
    · subst huser
      obtain ⟨later, hlater, -, hrevision⟩ := h.profile
      obtain rfl := Option.some.inj (hlater.symm.trans hprofile)
      exact hrevision
    · rw [h.otherProfiles user huser] at hprofile
      exact hs.profiles hprofile
  case devices =>
    intro browser user profile hdevice hprofile roomId row hrow
    rcases h.member_iff hrow with ⟨hkey, hmembership⟩ | ⟨-, old, hold, hmembership⟩
    · simp only [membership, Prod.mk.injEq] at hmembership
      exact hmembership.2.2.1
    · simp only [membership, Prod.mk.injEq] at hmembership
      rw [← hmembership.2.2.1]
      by_cases huser : user = userId
      · subst huser
        obtain ⟨later, hlater, hid, -⟩ := h.profile
        obtain rfl := Option.some.inj (hlater.symm.trans hprofile)
        exact h.human roomId old (hid ▸ hold)
      · rw [h.otherProfiles user huser] at hprofile
        rcases h.devices browser user hdevice with hknown | hnew
        · exact hs.devices hknown hprofile roomId old hold
        · exact absurd hnew huser
  case invites =>
    rw [h.invites]
    exact hs.invites.spend hselected.stored h.unspent
  case avatars =>
    intro attachmentId row hrow
    exact hs.avatars (h.avatars attachmentId row hrow)
  case sessions =>
    intro key session hsession
    rcases h.session_cases hsession with ⟨rfl, rfl⟩ | ⟨-, hold⟩
    · obtain ⟨profile, hprofile, hid, -⟩ := h.profile
      obtain ⟨row, hrow, hmembership⟩ := h.member
      obtain ⟨place, settings, hplace, -⟩ := h.active
      simp only [membership, Prod.mk.injEq] at hmembership
      refine ⟨⟨{ invite with useCount := invite.useCount + 1 }, ?_, rfl, rfl, ?_⟩,
        ⟨profile, hprofile, hid⟩, ⟨row, hrow, hmembership.2.2.1⟩, ⟨(place, settings), ?_⟩, rfl,
        h.result, rfl⟩
      · rw [h.invites]
        exact (Table.sets_insert s.invites _ _).at_key
      · exact (keyOf_admissionKey hselected.selects).sameTerms rfl
      · rw [h.rooms]
        exact hplace
    · obtain ⟨old, hstored, hterms⟩ := (ends_endSessionsOf _ _ _).of_mem hold
      exact (hs.sessions hstored).evolve hev hterms
  case seated =>
    intro key session hsession hactive
    rcases h.session_cases hsession with ⟨rfl, rfl⟩ | ⟨-, hold⟩
    · obtain ⟨row, hrow, hmembership⟩ := h.member
      obtain ⟨place, settings, hplace, hopen⟩ := h.active
      simp only [membership, Prod.mk.injEq] at hmembership
      exact ⟨⟨row, hrow, hmembership.2.2.2⟩, place, settings, by rw [h.rooms]; exact hplace, hopen⟩
    · obtain ⟨hstored, hother⟩ := active_of_endSessionsOf hold hactive
      obtain ⟨⟨row, hrow, hjoined⟩, place, settings, hplace, hopen⟩ := hs.seated hstored hactive
      have hkey : (session.roomId, session.participantId) ≠ (invite.roomId, participantId) := by
        intro hsame
        obtain ⟨hroom, hid⟩ := Prod.mk.inj hsame
        simp [HumanRoomSession.isOf, hroom, hid] at hother
      obtain ⟨later, hlater, hmembership⟩ :=
        membership_of_map_eq (h.others _ hkey).symm hrow
      simp only [membership, Prod.mk.injEq] at hmembership
      exact ⟨⟨later, hlater, hmembership.2.2.2.trans hjoined⟩, place, settings,
        by rw [h.rooms]; exact hplace, hopen⟩
  case single =>
    intro key key' session session' hsession hsession' hactive hactive' hroom hid
    rcases h.session_cases hsession with ⟨rfl, rfl⟩ | ⟨-, hold⟩ <;>
      rcases h.session_cases hsession' with ⟨rfl, rfl⟩ | ⟨-, hold'⟩
    · rfl
    · have hother := (active_of_endSessionsOf hold' hactive').2
      simp [HumanRoomSession.isOf, ← hroom, ← hid, newSession] at hother
    · have hother := (active_of_endSessionsOf hold hactive).2
      simp [HumanRoomSession.isOf, hroom, hid, newSession] at hother
    · exact hs.single (active_of_endSessionsOf hold hactive).1
        (active_of_endSessionsOf hold' hactive').1 hactive hactive' hroom hid

end Admits

end Accounting

end AgentsAssemble.Admission
