import AgentsAssemble.Admission.Operations
import AgentsAssemble.Foundation.Triples

/-!
# Human admission: what a store keeps

A sound store binds every session to the invite, profile, membership and room
it was admitted with, seats its active sessions in active rooms, and holds at
most one active session for a member of a room.  Invites, identities and
sessions only ever evolve: their terms stay, their state moves on.
-/

namespace AgentsAssemble.Admission

open Foundation Domain Tx
open Directory (Room RoomSettings UserProfile)
open Persistence (RoomStatus UuidSource)

/-! ## Terms -/

/-- The invite moved on: only its use count and its revocation may differ. -/
def HumanInvite.SameTerms (invite other : HumanInvite) : Prop :=
  other = { invite with useCount := other.useCount, revoked := other.revoked }

namespace HumanInvite.SameTerms

variable {a b c : HumanInvite}

theorem refl (a : HumanInvite) : a.SameTerms a := rfl

theorem trans (hab : a.SameTerms b) (hbc : b.SameTerms c) : a.SameTerms c := by
  unfold SameTerms at hab hbc ⊢
  rw [hbc, hab]

theorem signed_eq (h : a.SameTerms b) : b.signedTokenFingerprint = a.signedTokenFingerprint := by
  rw [h]

theorem joinCode_eq (h : a.SameTerms b) : b.joinCodeFingerprint = a.joinCodeFingerprint := by
  rw [h]

theorem roomId_eq (h : a.SameTerms b) : b.roomId = a.roomId := by
  rw [h]

theorem isReusable_eq (h : a.SameTerms b) : b.isReusable = a.isReusable := by
  rw [h]
  rfl

theorem selects_eq (h : a.SameTerms b) (credential : HumanInviteCredentialEvidence) :
    credential.selects b = credential.selects a := by
  rw [h]
  cases credential <;> rfl

end HumanInvite.SameTerms

/-- What of a member the admission of sessions depends on. -/
def membership (row : Directory.Participant) : String × String × String × ParticipantStatus :=
  (row.roomId, row.participantId, row.participantType, row.status)

/-- `key` is the admission key of some request through the invite by this browser. -/
inductive KeyOf [AdmissionDigests] (invite : HumanInvite) (browser : String) :
    AdmissionKeyKind → String → Prop
  | oneUse {credential : String} (requestId : String) (hone : invite.isReusable = false)
      (hcredential : credential = invite.signedTokenFingerprint ∨
        credential = invite.joinCodeFingerprint) :
      KeyOf invite browser .oneUse (AdmissionDigests.oneUseKey credential browser requestId)
  | reusable {credential : String} (hmany : invite.isReusable = true)
      (hcredential : credential = invite.signedTokenFingerprint ∨
        credential = invite.joinCodeFingerprint) :
      KeyOf invite browser .reusable (AdmissionDigests.reusableKey credential browser)

/-! ## Soundness -/

section Sound

variable [AdmissionDigests]

/-- Every invite decodes and was issued under tokens of its own. -/
structure InvitesSound (invites : Table String HumanInvite) : Prop where
  decodes : ∀ {inviteId invite}, invites.lookup inviteId = some invite →
    decodeHumanInvite inviteId invite = .ok invite
  issued : ∀ {inviteId invite}, invites.lookup inviteId = some invite →
    (∃ token, invite.signedTokenFingerprint = signedTokenFingerprint token) ∧
      ∃ code, invite.joinCodeFingerprint = joinCodeFingerprint code
  signedUnique : ∀ {a b first second}, invites.lookup a = some first →
    invites.lookup b = some second →
    first.signedTokenFingerprint = second.signedTokenFingerprint → a = b
  joinCodeUnique : ∀ {a b first second}, invites.lookup a = some first →
    invites.lookup b = some second →
    first.joinCodeFingerprint = second.joinCodeFingerprint → a = b

/-- The stored result is the one of this session. -/
structure ResultBound (session : HumanRoomSession) : Prop where
  status : session.result.status = "admitted"
  requestId : session.result.requestId = session.firstRequestId
  agentId : session.result.agentId = session.participantId
  meetingId : session.result.meetingId = session.roomId
  inviteScope : session.result.inviteScope = inviteScopePublic session.inviteScope
  expiresAt : session.result.expiresAt = session.expiresAt

/-- The session is stored under a key of its invite, for a human member of its room. -/
structure SessionBound (s : HumanStore) (key : String) (session : HumanRoomSession) : Prop where
  invite : ∃ invite, s.invites.lookup session.inviteId = some invite ∧
    session.roomId = invite.roomId ∧ session.inviteScope = invite.inviteScope ∧
    KeyOf invite session.browserCredentialFingerprint session.keyKind key
  profile : ∃ profile, s.profiles.lookup session.userId = some profile ∧
    profile.participantId = session.participantId
  member : ∃ row, s.participant? session.roomId session.participantId = some row ∧
    row.participantType = "human"
  room : ∃ row, s.rooms.lookup session.roomId = some row
  clientKind : session.clientKind = "browser"
  result : ResultBound session
  fingerprint : session.sessionFingerprint = sessionFingerprint key

/-- A member of a room who may hold an active session. -/
structure Seated (s : HumanStore) (roomId participantId : String) : Prop where
  joined : ∃ row, s.participant? roomId participantId = some row ∧ row.status = .joined
  active : ∃ room settings, s.rooms.lookup roomId = some (room, settings) ∧ room.status = .active

/-- The profile's memberships are those of a human. -/
def HumanProfile (s : HumanStore) (profile : UserProfile) : Prop :=
  ∀ roomId row, s.participant? roomId profile.participantId = some row →
    row.participantType = "human"

structure AvatarValid (row : PrejoinAvatarRow) : Prop where
  contentType : row.contentType = "image/png"
  size : 1 ≤ row.size ∧ row.size ≤ maxRasterBytes
  length : row.size = row.contentLength

structure Sound (s : HumanStore) : Prop where
  rooms : ∀ {roomId row}, s.rooms.lookup roomId = some row →
    row.1.roomId = roomId ∧ trim row.1.label ≠ ""
  participants : ∀ {roomId participantId row}, s.participant? roomId participantId = some row →
    row.roomId = roomId ∧ row.participantId = participantId
  profiles : ∀ {userId profile}, s.profiles.lookup userId = some profile → 1 ≤ profile.revision
  devices : ∀ {browser userId profile}, s.devices.lookup browser = some userId →
    s.profiles.lookup userId = some profile → HumanProfile s profile
  invites : InvitesSound s.invites
  avatars : ∀ {attachmentId row}, s.prejoinAvatars.lookup attachmentId = some row → AvatarValid row
  sessions : ∀ {key session}, s.sessions.lookup key = some session → SessionBound s key session
  seated : ∀ {key session}, s.sessions.lookup key = some session → session.state = .active →
    Seated s session.roomId session.participantId
  single : ∀ {key key' session session'}, s.sessions.lookup key = some session →
    s.sessions.lookup key' = some session' → session.state = .active → session'.state = .active →
    session.roomId = session'.roomId → session.participantId = session'.participantId → key = key'

/-- No more live sessions than the limits allow, at any instant from `clock` on. -/
structure WithinCapacity (s : HumanStore) (clock : Nat) : Prop where
  total : ∀ now, clock ≤ now → s.liveCount now (fun _ => true) ≤ maxPublicSessions
  room : ∀ now roomId, clock ≤ now →
    s.liveCount now (fun session => session.roomId == roomId) ≤ maxPublicRoomSessions

end Sound

/-! ## Evolution -/

/-- The row under a key, if any, is followed by a row under the same key. -/
def Follows {κ ρ : Type} [DecidableEq κ] (R : ρ → ρ → Prop) (before after : Table κ ρ) : Prop :=
  ∀ key row, before.lookup key = some row → ∃ row', after.lookup key = some row' ∧ R row row'

section Follows

variable {κ ρ : Type} [DecidableEq κ] {R : ρ → ρ → Prop} {a b c : Table κ ρ}

theorem follows_refl (hrefl : ∀ row, R row row) (a : Table κ ρ) : Follows R a a :=
  fun _ _ h => ⟨_, h, hrefl _⟩

theorem follows_trans (htrans : ∀ x y z, R x y → R y z → R x z) (hab : Follows R a b)
    (hbc : Follows R b c) : Follows R a c := by
  intro key row h
  obtain ⟨row', h', hfirst⟩ := hab key row h
  obtain ⟨row'', h'', hsecond⟩ := hbc key row' h'
  exact ⟨row'', h'', htrans _ _ _ hfirst hsecond⟩

theorem follows_insert {key : κ} {row : ρ} (hrefl : ∀ row, R row row)
    (h : ∀ old, a.lookup key = some old → R old row) : Follows R a (a.insert key row) := by
  intro key' old hold
  rw [Table.lookup_insert_ite]
  by_cases hkey : key' = key
  · subst hkey
    exact ⟨row, if_pos rfl, h old hold⟩
  · exact ⟨old, by rw [if_neg hkey, hold], hrefl old⟩

theorem follows_update {p : κ → ρ → Bool} {f : ρ → ρ} (hrefl : ∀ row, R row row)
    (h : ∀ row, R row (f row)) : Follows R a (a.update p f) := by
  intro key row hrow
  refine ⟨if p key row then f row else row, ?_, ?_⟩
  · rw [Table.lookup_update, hrow]
    rfl
  · split
    · exact h row
    · exact hrefl row

end Follows

/-- The session moved on: only its state may differ. -/
def HumanRoomSession.SameTerms (session other : HumanRoomSession) : Prop :=
  other = { session with state := other.state }

theorem HumanRoomSession.SameTerms.refl (a : HumanRoomSession) : a.SameTerms a := rfl

theorem HumanRoomSession.SameTerms.trans {a b c : HumanRoomSession} (hab : a.SameTerms b)
    (hbc : b.SameTerms c) : a.SameTerms c := by
  unfold SameTerms at hab hbc ⊢
  rw [hbc, hab]

theorem HumanRoomSession.end_sameTerms (session : HumanRoomSession) :
    session.SameTerms session.end_ := rfl

/-- The relation of a store to every later one. -/
structure Evolves (s t : HumanStore) : Prop where
  rooms : Follows (fun _ _ => True) s.rooms t.rooms
  invites : Follows HumanInvite.SameTerms s.invites t.invites
  profiles : Follows (fun p q => q.participantId = p.participantId) s.profiles t.profiles
  participants : Follows (fun p q => q.participantType = p.participantType) s.participants
    t.participants
  sessions : Follows HumanRoomSession.SameTerms s.sessions t.sessions

theorem Evolves.refl (s : HumanStore) : Evolves s s where
  rooms := follows_refl (fun _ => trivial) _
  invites := follows_refl HumanInvite.SameTerms.refl _
  profiles := fun _ row h => ⟨row, h, rfl⟩
  participants := fun _ row h => ⟨row, h, rfl⟩
  sessions := follows_refl HumanRoomSession.SameTerms.refl _

theorem Evolves.trans {s t u : HumanStore} (hst : Evolves s t) (htu : Evolves t u) :
    Evolves s u where
  rooms := follows_trans (fun _ _ _ _ _ => trivial) hst.rooms htu.rooms
  invites := follows_trans (fun _ _ _ h h' => h.trans h') hst.invites htu.invites
  profiles := follows_trans (fun _ _ _ h h' => h'.trans h) hst.profiles htu.profiles
  participants := follows_trans (fun _ _ _ h h' => h'.trans h) hst.participants htu.participants
  sessions := follows_trans (fun _ _ _ h h' => h.trans h') hst.sessions htu.sessions

section Evolves

variable [AdmissionDigests] {s t : HumanStore}

theorem KeyOf.sameTerms {invite later : HumanInvite} {browser key : String}
    {kind : AdmissionKeyKind} (hterms : invite.SameTerms later)
    (h : KeyOf invite browser kind key) : KeyOf later browser kind key := by
  cases h with
  | oneUse requestId hone hcredential =>
      refine .oneUse requestId (hterms.isReusable_eq.trans hone) ?_
      rwa [hterms.signed_eq, hterms.joinCode_eq]
  | reusable hmany hcredential =>
      refine .reusable (hterms.isReusable_eq.trans hmany) ?_
      rwa [hterms.signed_eq, hterms.joinCode_eq]

/-- A bound session stays bound, whatever state it moves to. -/
theorem SessionBound.evolve {key : String} {session later : HumanRoomSession}
    (h : SessionBound s key session) (hev : Evolves s t) (hterms : session.SameTerms later) :
    SessionBound t key later := by
  unfold HumanRoomSession.SameTerms at hterms
  have hstatic : SessionBound t key session := by
    constructor
    case invite =>
      obtain ⟨invite, hinvite, hroom, hscope, hkey⟩ := h.invite
      obtain ⟨later, hlater, hsame⟩ := hev.invites _ _ hinvite
      refine ⟨later, hlater, hroom.trans hsame.roomId_eq.symm, ?_, hkey.sameTerms hsame⟩
      rw [hscope, hsame]
    case profile =>
      obtain ⟨profile, hprofile, hparticipant⟩ := h.profile
      obtain ⟨later, hlater, hsame⟩ := hev.profiles _ _ hprofile
      exact ⟨later, hlater, hsame.trans hparticipant⟩
    case member =>
      obtain ⟨row, hrow, hhuman⟩ := h.member
      obtain ⟨later, hlater, hsame⟩ := hev.participants _ _ hrow
      exact ⟨later, hlater, hsame.trans hhuman⟩
    case room =>
      obtain ⟨row, hrow⟩ := h.room
      obtain ⟨later, hlater, -⟩ := hev.rooms _ _ hrow
      exact ⟨later, hlater⟩
    case clientKind => exact h.clientKind
    case result => exact h.result
    case fingerprint => exact h.fingerprint
  rw [hterms]
  exact ⟨hstatic.invite, hstatic.profile, hstatic.member, hstatic.room, hstatic.clientKind,
    ⟨hstatic.result.status, hstatic.result.requestId, hstatic.result.agentId,
      hstatic.result.meetingId, hstatic.result.inviteScope, hstatic.result.expiresAt⟩,
    hstatic.fingerprint⟩

end Evolves

/-! ## Credentials -/

theorem decodeHumanInvite_eq_ok {inviteId : String} {invite decoded : HumanInvite}
    (h : decodeHumanInvite inviteId invite = .ok decoded) :
    decoded = invite ∧ invite.inviteId = inviteId ∧ invite.roomId ≠ "" ∧ 0 ≤ invite.useCount ∧
      invite.useCount ≤ invite.effectiveUseLimit := by
  unfold decodeHumanInvite at h
  split at h
  · cases h
  · rename_i hvalid
    simp only [not_or, not_not, not_lt, not_le] at hvalid
    obtain rfl := Except.ok.inj h
    exact ⟨rfl, hvalid.1, hvalid.2.2.1, hvalid.2.2.2.2.2.2.2.1, hvalid.2.2.2.2.2.2.2.2.1⟩

/-- Decoding depends on the terms, and on the use count staying within the limit. -/
theorem decodeHumanInvite_sameTerms {inviteId : String} {invite later : HumanInvite}
    (h : decodeHumanInvite inviteId invite = .ok invite) (hterms : invite.SameTerms later)
    (hnonneg : 0 ≤ later.useCount) (hlimit : later.useCount ≤ invite.effectiveUseLimit) :
    decodeHumanInvite inviteId later = .ok later := by
  unfold decodeHumanInvite at h ⊢
  split at h
  · cases h
  · rename_i hvalid
    have hlimit' : later.effectiveUseLimit = invite.effectiveUseLimit := by
      rw [hterms]
      rfl
    rw [if_neg]
    rw [hlimit']
    simp only [not_or, not_not, not_lt, not_le] at hvalid ⊢
    rw [hterms]
    exact ⟨hvalid.1, hvalid.2.1, hvalid.2.2.1, hvalid.2.2.2.1, hvalid.2.2.2.2.1,
      hvalid.2.2.2.2.2.1, hvalid.2.2.2.2.2.2.1, hnonneg, hlimit, hvalid.2.2.2.2.2.2.2.2.2⟩

section Credentials

variable [AdmissionDigests] {invites : Table String HumanInvite}

/-- A signed token is no join code. -/
theorem signedTokenFingerprint_ne_joinCodeFingerprint (token code : String) :
    signedTokenFingerprint token ≠ joinCodeFingerprint code := by
  intro h
  have htext := congrArg String.toList (AdmissionDigests.tokenFingerprint_injective h)
  rw [String.toList_append, String.toList_append] at htext
  simp at htext

/-- A fingerprint that belongs to two invites belongs to one. -/
theorem InvitesSound.unique (h : InvitesSound invites) {a b : String} {first second : HumanInvite}
    {fingerprint : String} (ha : invites.lookup a = some first)
    (hb : invites.lookup b = some second)
    (hfirst : fingerprint = first.signedTokenFingerprint ∨
      fingerprint = first.joinCodeFingerprint)
    (hsecond : fingerprint = second.signedTokenFingerprint ∨
      fingerprint = second.joinCodeFingerprint) : a = b ∧ first = second := by
  obtain ⟨⟨firstToken, hfirstToken⟩, firstCode, hfirstCode⟩ := h.issued ha
  obtain ⟨⟨secondToken, hsecondToken⟩, secondCode, hsecondCode⟩ := h.issued hb
  have hkey : a = b := by
    rcases hfirst with hfirst | hfirst <;> rcases hsecond with hsecond | hsecond
    · exact h.signedUnique ha hb (hfirst.symm.trans hsecond)
    · refine absurd ?_ (signedTokenFingerprint_ne_joinCodeFingerprint firstToken secondCode)
      rw [← hfirstToken, ← hfirst, hsecond, hsecondCode]
    · refine absurd ?_ (signedTokenFingerprint_ne_joinCodeFingerprint secondToken firstCode)
      rw [← hsecondToken, ← hsecond, hfirst, hfirstCode]
    · exact h.joinCodeUnique ha hb (hfirst.symm.trans hsecond)
  subst hkey
  exact ⟨rfl, Option.some.inj (ha.symm.trans hb)⟩

omit [AdmissionDigests] in
theorem HumanInviteCredentialEvidence.selects_fingerprint
    {credential : HumanInviteCredentialEvidence} {invite : HumanInvite}
    (h : credential.selects invite = true) :
    credential.fingerprint = invite.signedTokenFingerprint ∨
      credential.fingerprint = invite.joinCodeFingerprint := by
  cases credential with
  | signed fingerprint claims => exact Or.inl (eq_of_beq h).symm
  | joinCode fingerprint => exact Or.inr (eq_of_beq h).symm

/-- The credential of a request selects one invite. -/
theorem InvitesSound.selects_unique (h : InvitesSound invites) {a b : String}
    {first second : HumanInvite} {credential : HumanInviteCredentialEvidence}
    (ha : invites.lookup a = some first) (hb : invites.lookup b = some second)
    (hfirst : credential.selects first = true) (hsecond : credential.selects second = true) :
    a = b ∧ first = second :=
  h.unique ha hb (HumanInviteCredentialEvidence.selects_fingerprint hfirst)
    (HumanInviteCredentialEvidence.selects_fingerprint hsecond)

/-- The admission key of a request through an invite, and its kind. -/
def admissionKey (request : PreparedHumanAdmission) (invite : HumanInvite) : String :=
  if invite.isReusable then request.reusableAdmissionKey else request.oneUseAdmissionKey

def admissionKeyKind (invite : HumanInvite) : AdmissionKeyKind :=
  if invite.isReusable then .reusable else .oneUse

theorem keyOf_admissionKey {request : PreparedHumanAdmission} {invite : HumanInvite}
    (h : request.credential.selects invite = true) :
    KeyOf invite request.browserCredentialFingerprint (admissionKeyKind invite)
      (admissionKey request invite) := by
  have hcredential := HumanInviteCredentialEvidence.selects_fingerprint h
  unfold admissionKey admissionKeyKind
  by_cases hreuse : invite.isReusable = true
  · rw [if_pos hreuse, if_pos hreuse]
    exact .reusable hreuse hcredential
  · rw [if_neg hreuse, if_neg hreuse]
    exact .oneUse request.requestId (Bool.eq_false_iff.mpr hreuse) hcredential

/-- A key names one kind, one browser and one invite. -/
theorem KeyOf.unique (hsound : InvitesSound invites) {a b : String} {first second : HumanInvite}
    {browser browser' key : String} {kind kind' : AdmissionKeyKind}
    (ha : invites.lookup a = some first) (hb : invites.lookup b = some second)
    (hfirst : KeyOf first browser kind key) (hsecond : KeyOf second browser' kind' key) :
    a = b ∧ first = second ∧ browser = browser' ∧ kind = kind' := by
  generalize hkey : key = key' at hsecond
  cases hfirst with
  | oneUse requestId hone hcredential =>
      cases hsecond with
      | oneUse requestId' hone' hcredential' =>
          obtain ⟨rfl, rfl, -⟩ := AdmissionDigests.oneUseKey_injective hkey
          obtain ⟨hid, hinvite⟩ := hsound.unique ha hb hcredential hcredential'
          exact ⟨hid, hinvite, rfl, rfl⟩
      | reusable hmany hcredential' => exact absurd hkey AdmissionDigests.oneUseKey_ne_reusableKey
  | reusable hmany hcredential =>
      cases hsecond with
      | oneUse requestId' hone' hcredential' =>
          exact absurd hkey.symm AdmissionDigests.oneUseKey_ne_reusableKey
      | reusable hmany' hcredential' =>
          obtain ⟨rfl, rfl⟩ := AdmissionDigests.reusableKey_injective hkey
          obtain ⟨hid, hinvite⟩ := hsound.unique ha hb hcredential hcredential'
          exact ⟨hid, hinvite, rfl, rfl⟩

end Credentials

/-! ## Errors and events -/

/-- The errors an admission may end in. -/
def Acceptable (e : StoreError) : Prop := e.isInvalidState = false

/-- Nothing is rejected. -/
def Never (_ : StoreError) : Prop := False

/-- Any rejection: it leaves the store as it was. -/
def Anything (_ : StoreError) : Prop := True

theorem appendEvent_meets [UuidSource] {s : HumanStore} {now : Nat} (roomId eventType : String)
    (actor : Actor) (participantId displayName : Option String) (extra : MembershipEventExtra) :
    Meets (appendEvent now roomId eventType actor participantId displayName extra) s
      (fun _ t => ∃ events uuids, t = { s with events, uuids }) Never where
  commits := by
    intro event t hc
    obtain ⟨-, rfl⟩ := Prod.mk.inj (Except.ok.inj hc)
    exact ⟨_, _, rfl⟩
  rejects := nofun

end AgentsAssemble.Admission
