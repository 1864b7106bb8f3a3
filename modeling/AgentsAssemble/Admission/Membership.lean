import AgentsAssemble.Admission.Decisions

/-!
# Human admission: the operations that end it

Every operation but an admission keeps a store sound: it ends sessions before it
moves the member or the room they depend on, and it neither spends a use nor
opens a session.
-/

namespace AgentsAssemble.Admission

open Foundation Domain Tx
open Directory (Room RoomSettings UserProfile localOperatorParticipantId)
open Persistence (RoomStatus UuidSource)

/-- Sessions are at most ended. -/
def Ends (before after : Table String HumanRoomSession) : Prop :=
  ∀ key, after.lookup key = before.lookup key ∨
    ∃ session, before.lookup key = some session ∧ after.lookup key = some session.end_

namespace Ends

variable {a b c : Table String HumanRoomSession}

theorem refl (a : Table String HumanRoomSession) : Ends a a := fun _ => Or.inl rfl

theorem trans (hab : Ends a b) (hbc : Ends b c) : Ends a c := by
  intro key
  rcases hbc key with hsame | ⟨session, hsession, hended⟩
  · rw [hsame]
    exact hab key
  · right
    rcases hab key with hsame | ⟨first, hfirst, hmiddle⟩
    · exact ⟨session, hsame ▸ hsession, hended⟩
    · obtain rfl := Option.some.inj (hsession.symm.trans hmiddle)
      exact ⟨first, hfirst, hended⟩

theorem follows (h : Ends a b) : Follows HumanRoomSession.SameTerms a b := by
  intro key session hsession
  rcases h key with hsame | ⟨found, hfound, hended⟩
  · exact ⟨session, hsame.trans hsession, .refl session⟩
  · obtain rfl := Option.some.inj (hsession.symm.trans hfound)
    exact ⟨session.end_, hended, session.end_sameTerms⟩

/-- A session that is still active was not touched. -/
theorem active {key : String} {session : HumanRoomSession} (h : Ends a b)
    (hsession : b.lookup key = some session) (hactive : session.state = .active) :
    a.lookup key = some session := by
  rcases h key with hsame | ⟨found, -, hended⟩
  · exact hsame ▸ hsession
  · obtain rfl := Option.some.inj (hsession.symm.trans hended)
    cases hactive

theorem of_mem {key : String} {session : HumanRoomSession} (h : Ends a b)
    (hsession : b.lookup key = some session) :
    ∃ old, a.lookup key = some old ∧ old.SameTerms session := by
  rcases h key with hsame | ⟨found, hfound, hended⟩
  · exact ⟨session, hsame ▸ hsession, .refl session⟩
  · obtain rfl := Option.some.inj (hsession.symm.trans hended)
    exact ⟨found, hfound, found.end_sameTerms⟩

end Ends

theorem ends_update (sessions : Table String HumanRoomSession)
    (p : String → HumanRoomSession → Bool) :
    Ends sessions (sessions.update p HumanRoomSession.end_) := by
  intro key
  rw [Table.lookup_update]
  cases hsession : sessions.lookup key with
  | none => exact Or.inl rfl
  | some session =>
      by_cases hp : p key session = true
      · exact Or.inr ⟨session, rfl, by rw [Option.map_some, if_pos hp]⟩
      · exact Or.inl (by rw [Option.map_some, if_neg hp])

theorem ends_insert {sessions : Table String HumanRoomSession} {key : String}
    {session : HumanRoomSession} (h : sessions.lookup key = some session) :
    Ends sessions (sessions.insert key session.end_) := by
  intro key'
  rw [Table.lookup_insert_ite]
  by_cases hkey : key' = key
  · subst hkey
    exact Or.inr ⟨session, h, if_pos rfl⟩
  · exact Or.inl (if_neg hkey)

/-- A session that is active after some were ended is none of those. -/
theorem active_of_update {sessions : Table String HumanRoomSession} {p : HumanRoomSession → Bool}
    {key : String} {session : HumanRoomSession}
    (h : (sessions.update (fun _ session => session.isActive && p session)
      HumanRoomSession.end_).lookup key = some session) (hactive : session.state = .active) :
    sessions.lookup key = some session ∧ p session = false := by
  have hsession := (ends_update _ _).active h hactive
  refine ⟨hsession, Bool.eq_false_iff.mpr fun hp => ?_⟩
  have hisActive : session.isActive = true := by
    simp [HumanRoomSession.isActive, hactive]
  rw [Table.lookup_update, hsession, Option.map_some, hisActive, hp] at h
  have hended : session.end_ = session := Option.some.inj h
  rw [← hended] at hactive
  cases hactive

/-- No use of an invite is spent. -/
def KeepsUses (before after : Table String HumanInvite) : Prop :=
  ∀ inviteId invite, after.lookup inviteId = some invite →
    (∃ old, before.lookup inviteId = some old ∧ old.SameTerms invite ∧
      invite.useCount = old.useCount) ∨
    (before.lookup inviteId = none ∧ invite.useCount = 0)

theorem KeepsUses.refl (a : Table String HumanInvite) : KeepsUses a a :=
  fun _ invite h => Or.inl ⟨invite, h, .refl invite, rfl⟩

theorem KeepsUses.trans {a b c : Table String HumanInvite} (hab : KeepsUses a b)
    (hbc : KeepsUses b c) (hfollows : Follows HumanInvite.SameTerms a b) : KeepsUses a c := by
  intro inviteId invite hinvite
  rcases hbc inviteId invite hinvite with ⟨middle, hmiddle, hterms, huses⟩ | ⟨hnone, hzero⟩
  · rcases hab inviteId middle hmiddle with ⟨old, hold, hterms', huses'⟩ | ⟨hnone, hzero⟩
    · exact Or.inl ⟨old, hold, hterms'.trans hterms, huses.trans huses'⟩
    · exact Or.inr ⟨hnone, huses.trans hzero⟩
  · refine Or.inr ⟨?_, hzero⟩
    by_contra hsome
    obtain ⟨old, hold⟩ := Option.ne_none_iff_exists'.mp hsome
    obtain ⟨later, hlater, -⟩ := hfollows inviteId old hold
    cases hlater.symm.trans hnone

section Membership

variable [AdmissionDigests] {s t u : HumanStore}

/-- The step keeps soundness, spends no use and opens no session. -/
structure Preserves (s t : HumanStore) : Prop where
  sound : Sound t
  evolves : Evolves s t
  ends : Ends s.sessions t.sessions
  uses : KeepsUses s.invites t.invites

theorem Preserves.refl (hs : Sound s) : Preserves s s :=
  ⟨hs, .refl s, .refl _, .refl _⟩

theorem Preserves.trans (hst : Preserves s t) (htu : Preserves t u) : Preserves s u where
  sound := htu.sound
  evolves := hst.evolves.trans htu.evolves
  ends := hst.ends.trans htu.ends
  uses := hst.uses.trans htu.uses hst.evolves.invites

/-- What a change has to keep for its store to stay sound. -/
structure Moves (s t : HumanStore) : Prop where
  evolves : Evolves s t
  ends : Ends s.sessions t.sessions
  uses : KeepsUses s.invites t.invites
  profiles : t.profiles = s.profiles
  devices : t.devices = s.devices
  rooms : ∀ {roomId row}, t.rooms.lookup roomId = some row →
    row.1.roomId = roomId ∧ trim row.1.label ≠ ""
  participants : ∀ {roomId participantId row}, t.participant? roomId participantId = some row →
    ∃ old, s.participant? roomId participantId = some old ∧ row.roomId = old.roomId ∧
      row.participantId = old.participantId ∧ row.participantType = old.participantType
  invites : InvitesSound t.invites
  avatars : ∀ {attachmentId row}, t.prejoinAvatars.lookup attachmentId = some row → AvatarValid row
  seated : ∀ {key session}, t.sessions.lookup key = some session → session.state = .active →
    Seated s session.roomId session.participantId → Seated t session.roomId session.participantId

theorem Moves.preserves (hs : Sound s) (h : Moves s t) : Preserves s t := by
  refine ⟨?_, h.evolves, h.ends, h.uses⟩
  constructor
  case rooms => exact h.rooms
  case participants =>
    intro roomId participantId row hrow
    obtain ⟨old, hold, hroom, hid, -⟩ := h.participants hrow
    obtain ⟨holdRoom, holdId⟩ := hs.participants hold
    exact ⟨hroom.trans holdRoom, hid.trans holdId⟩
  case profiles =>
    intro userId profile hprofile
    rw [h.profiles] at hprofile
    exact hs.profiles hprofile
  case devices =>
    intro browser userId profile hdevice hprofile roomId row hrow
    rw [h.devices] at hdevice
    rw [h.profiles] at hprofile
    obtain ⟨old, hold, -, -, htype⟩ := h.participants hrow
    exact htype.trans (hs.devices hdevice hprofile roomId old hold)
  case invites => exact h.invites
  case avatars => exact h.avatars
  case sessions =>
    intro key session hsession
    obtain ⟨old, hold, hterms⟩ := h.ends.of_mem hsession
    exact (hs.sessions hold).evolve h.evolves hterms
  case seated =>
    intro key session hsession hactive
    exact h.seated hsession hactive (hs.seated (h.ends.active hsession hactive) hactive)
  case single =>
    intro key key' session session' hsession hsession' hactive hactive'
    exact hs.single (h.ends.active hsession hactive) (h.ends.active hsession' hactive') hactive
      hactive'

omit [AdmissionDigests] in
theorem Seated.congr {roomId participantId : String} (h : Seated s roomId participantId)
    (hparticipants : t.participants = s.participants) (hrooms : t.rooms = s.rooms) :
    Seated t roomId participantId := by
  obtain ⟨⟨row, hrow, hjoined⟩, room, settings, hroom, hactive⟩ := h
  refine ⟨⟨row, ?_, hjoined⟩, room, settings, ?_, hactive⟩
  · unfold HumanStore.participant? at hrow ⊢
    rwa [hparticipants]
  · rwa [hrooms]

/-! ## Elementary changes -/

theorem preserves_endSessions (hs : Sound s) (p : HumanRoomSession → Bool) :
    Preserves s { s with
      sessions := s.sessions.update (fun _ session => session.isActive && p session)
        HumanRoomSession.end_ } := by
  have hends := ends_update s.sessions fun _ session => session.isActive && p session
  apply Moves.preserves hs
  constructor
  case evolves => exact { Evolves.refl s with sessions := hends.follows }
  case ends => exact hends
  case uses => exact .refl _
  case profiles => rfl
  case devices => rfl
  case rooms => exact hs.rooms
  case participants => exact fun hrow => ⟨_, hrow, rfl, rfl, rfl⟩
  case invites => exact hs.invites
  case avatars => exact hs.avatars
  case seated => exact fun _ _ hseated => hseated.congr rfl rfl

/-- A retry that finds its session expired. -/
theorem preserves_endSession (hs : Sound s) {key : String} {session : HumanRoomSession}
    (hsession : s.sessions.lookup key = some session) :
    Preserves s { s with sessions := s.sessions.insert key session.end_ } := by
  have hends := ends_insert hsession
  apply Moves.preserves hs
  constructor
  case evolves => exact { Evolves.refl s with sessions := hends.follows }
  case ends => exact hends
  case uses => exact .refl _
  case profiles => rfl
  case devices => rfl
  case rooms => exact hs.rooms
  case participants => exact fun hrow => ⟨_, hrow, rfl, rfl, rfl⟩
  case invites => exact hs.invites
  case avatars => exact hs.avatars
  case seated => exact fun _ _ hseated => hseated.congr rfl rfl

theorem preserves_events (hs : Sound s) (events : List MembershipEvent) (uuids : Nat) :
    Preserves s { s with events, uuids } := by
  apply Moves.preserves hs
  constructor
  case evolves => exact { Evolves.refl s with }
  case ends => exact .refl _
  case uses => exact .refl _
  case profiles => rfl
  case devices => rfl
  case rooms => exact hs.rooms
  case participants => exact fun hrow => ⟨_, hrow, rfl, rfl, rfl⟩
  case invites => exact hs.invites
  case avatars => exact hs.avatars
  case seated => exact fun _ _ hseated => hseated.congr rfl rfl

theorem preserves_avatars (hs : Sound s) (uuids : Nat) {avatars : Table String PrejoinAvatarRow}
    (havatars : ∀ {attachmentId row}, avatars.lookup attachmentId = some row → AvatarValid row) :
    Preserves s { s with prejoinAvatars := avatars, uuids } := by
  apply Moves.preserves hs
  constructor
  case evolves => exact { Evolves.refl s with }
  case ends => exact .refl _
  case uses => exact .refl _
  case profiles => rfl
  case devices => rfl
  case rooms => exact hs.rooms
  case participants => exact fun hrow => ⟨_, hrow, rfl, rfl, rfl⟩
  case invites => exact hs.invites
  case avatars => exact havatars
  case seated => exact fun _ _ hseated => hseated.congr rfl rfl

theorem InvitesSound.revoke (h : InvitesSound s.invites) (p : HumanInvite → Bool) :
    InvitesSound (s.invites.update (fun _ invite => p invite) fun invite =>
      { invite with revoked := true }) := by
  have hback : ∀ {inviteId invite}, (s.invites.update (fun _ invite => p invite) fun invite =>
      { invite with revoked := true }).lookup inviteId = some invite →
      ∃ old, s.invites.lookup inviteId = some old ∧ old.SameTerms invite ∧
        invite.useCount = old.useCount := by
    intro inviteId invite hinvite
    rw [Table.lookup_update] at hinvite
    obtain ⟨old, hold, rfl⟩ := Option.map_eq_some_iff.mp hinvite
    refine ⟨old, hold, ?_, ?_⟩ <;> split <;> rfl
  constructor
  case decodes =>
    intro inviteId invite hinvite
    obtain ⟨old, hold, hterms, huses⟩ := hback hinvite
    have hdecodes := h.decodes hold
    obtain ⟨-, -, -, hnonneg, hlimit⟩ := decodeHumanInvite_eq_ok hdecodes
    exact decodeHumanInvite_sameTerms hdecodes hterms (huses ▸ hnonneg) (huses ▸ hlimit)
  case issued =>
    intro inviteId invite hinvite
    obtain ⟨old, hold, hterms, -⟩ := hback hinvite
    rw [hterms.signed_eq, hterms.joinCode_eq]
    exact h.issued hold
  case signedUnique =>
    intro a b first second ha hb heq
    obtain ⟨_, hold, hterms, -⟩ := hback ha
    obtain ⟨_, hold', hterms', -⟩ := hback hb
    exact h.signedUnique hold hold' (hterms.signed_eq.symm.trans (heq.trans hterms'.signed_eq))
  case joinCodeUnique =>
    intro a b first second ha hb heq
    obtain ⟨_, hold, hterms, -⟩ := hback ha
    obtain ⟨_, hold', hterms', -⟩ := hback hb
    exact h.joinCodeUnique hold hold'
      (hterms.joinCode_eq.symm.trans (heq.trans hterms'.joinCode_eq))

theorem preserves_revoke (hs : Sound s) (p : HumanInvite → Bool) :
    Preserves s { s with
      invites := s.invites.update (fun _ invite => p invite) fun invite =>
        { invite with revoked := true } } := by
  apply Moves.preserves hs
  constructor
  case evolves =>
    exact { Evolves.refl s with
      invites := follows_update HumanInvite.SameTerms.refl fun _ => rfl }
  case ends => exact .refl _
  case uses =>
    intro inviteId invite hinvite
    left
    rw [Table.lookup_update] at hinvite
    obtain ⟨old, hold, rfl⟩ := Option.map_eq_some_iff.mp hinvite
    refine ⟨old, hold, ?_, ?_⟩ <;> split <;> rfl
  case profiles => rfl
  case devices => rfl
  case rooms => exact hs.rooms
  case participants => exact fun hrow => ⟨_, hrow, rfl, rfl, rfl⟩
  case invites => exact hs.invites.revoke p
  case avatars => exact hs.avatars
  case seated => exact fun _ _ hseated => hseated.congr rfl rfl

/-- A new invite under an id and tokens that no other invite has. -/
theorem preserves_insertInvite (hs : Sound s) {inviteId : String} {invite : HumanInvite}
    (hdecodes : decodeHumanInvite inviteId invite = .ok invite) (hzero : invite.useCount = 0)
    (hissued : (∃ token, invite.signedTokenFingerprint = signedTokenFingerprint token) ∧
      ∃ code, invite.joinCodeFingerprint = joinCodeFingerprint code)
    (hid : s.invites.lookup inviteId = none)
    (hsigned : ∀ id other, s.invites.lookup id = some other →
      other.signedTokenFingerprint ≠ invite.signedTokenFingerprint)
    (hjoinCode : ∀ id other, s.invites.lookup id = some other →
      other.joinCodeFingerprint ≠ invite.joinCodeFingerprint) :
    Preserves s { s with invites := s.invites.insert inviteId invite } := by
  have hsets := Table.sets_insert s.invites inviteId invite
  apply Moves.preserves hs
  constructor
  case evolves =>
    refine { Evolves.refl s with invites := follows_insert HumanInvite.SameTerms.refl ?_ }
    intro old hold
    cases hid.symm.trans hold
  case ends => exact .refl _
  case uses =>
    intro key other hother
    rcases hsets.cases hother with ⟨rfl, hnew⟩ | ⟨-, hold⟩
    · obtain rfl := Option.some.inj hnew
      exact Or.inr ⟨hid, hzero⟩
    · exact Or.inl ⟨other, hold, .refl other, rfl⟩
  case profiles => rfl
  case devices => rfl
  case rooms => exact hs.rooms
  case participants => exact fun hrow => ⟨_, hrow, rfl, rfl, rfl⟩
  case invites =>
    constructor
    case decodes =>
      intro key other hother
      rcases hsets.cases hother with ⟨rfl, hnew⟩ | ⟨-, hold⟩
      · obtain rfl := Option.some.inj hnew
        exact hdecodes
      · exact hs.invites.decodes hold
    case issued =>
      intro key other hother
      rcases hsets.cases hother with ⟨rfl, hnew⟩ | ⟨-, hold⟩
      · obtain rfl := Option.some.inj hnew
        exact hissued
      · exact hs.invites.issued hold
    case signedUnique =>
      intro a b first second ha hb heq
      rcases hsets.cases ha with ⟨rfl, hnew⟩ | ⟨-, hold⟩ <;>
        rcases hsets.cases hb with ⟨rfl, hnew'⟩ | ⟨-, hold'⟩
      · rfl
      · obtain rfl := Option.some.inj hnew
        exact absurd heq.symm (hsigned b second hold')
      · obtain rfl := Option.some.inj hnew'
        exact absurd heq (hsigned a first hold)
      · exact hs.invites.signedUnique hold hold' heq
    case joinCodeUnique =>
      intro a b first second ha hb heq
      rcases hsets.cases ha with ⟨rfl, hnew⟩ | ⟨-, hold⟩ <;>
        rcases hsets.cases hb with ⟨rfl, hnew'⟩ | ⟨-, hold'⟩
      · rfl
      · obtain rfl := Option.some.inj hnew
        exact absurd heq.symm (hjoinCode b second hold')
      · obtain rfl := Option.some.inj hnew'
        exact absurd heq (hjoinCode a first hold)
      · exact hs.invites.joinCodeUnique hold hold' heq
  case avatars => exact hs.avatars
  case seated => exact fun _ _ hseated => hseated.congr rfl rfl

/-- A member may leave its status once no active session depends on it. -/
theorem preserves_status (hs : Sound s) {roomId participantId : String}
    {row : Directory.Participant} (moved : Directory.Participant)
    (hrow : s.participant? roomId participantId = some row)
    (hroom : moved.roomId = row.roomId) (hid : moved.participantId = row.participantId)
    (htype : moved.participantType = row.participantType)
    (hfree : ∀ key session, s.sessions.lookup key = some session → session.state = .active →
      session.isOf roomId participantId = false) :
    Preserves s { s with participants := s.participants.insert (roomId, participantId) moved } := by
  have hsets := Table.sets_insert s.participants (roomId, participantId) moved
  apply Moves.preserves hs
  constructor
  case evolves =>
    refine { Evolves.refl s with participants := follows_insert (fun _ => rfl) ?_ }
    intro old hold
    obtain rfl := Option.some.inj (hrow.symm.trans hold)
    exact htype
  case ends => exact .refl _
  case uses => exact .refl _
  case profiles => rfl
  case devices => rfl
  case rooms => exact hs.rooms
  case participants =>
    intro room participant other hother
    rcases hsets.cases hother with ⟨hkey, hnew⟩ | ⟨-, hold⟩
    · obtain ⟨rfl, rfl⟩ := Prod.mk.inj hkey
      obtain rfl := Option.some.inj hnew
      exact ⟨row, hrow, hroom, hid, htype⟩
    · exact ⟨other, hold, rfl, rfl, rfl⟩
  case invites => exact hs.invites
  case avatars => exact hs.avatars
  case seated =>
    intro key session hsession hactive hseated
    obtain ⟨⟨member, hmember, hjoined⟩, hopen⟩ := hseated
    refine ⟨⟨member, ?_, hjoined⟩, hopen⟩
    have hother := hfree key session hsession hactive
    show (s.participants.insert (roomId, participantId) moved).lookup _ = _
    rw [Table.lookup_insert_ite, if_neg]
    · exact hmember
    · intro hkey
      obtain ⟨hroom, hparticipant⟩ := Prod.mk.inj hkey
      simp [HumanRoomSession.isOf, hroom, hparticipant] at hother

/-- A room may leave the active status once no active session depends on it. -/
theorem preserves_room (hs : Sound s) {roomId : String} {room : Room} (moved : Room)
    {settings : RoomSettings} (hroom : s.rooms.lookup roomId = some (room, settings))
    (hid : moved.roomId = room.roomId) (hlabel : moved.label = room.label)
    (hfree : moved.status = .active ∨ ∀ key session, s.sessions.lookup key = some session →
      session.state = .active → session.roomId ≠ roomId) :
    Preserves s { s with rooms := s.rooms.insert roomId (moved, settings) } := by
  have hsets := Table.sets_insert s.rooms roomId (moved, settings)
  apply Moves.preserves hs
  constructor
  case evolves =>
    exact { Evolves.refl s with
      rooms := follows_insert (fun _ => trivial) fun _ _ => trivial }
  case ends => exact .refl _
  case uses => exact .refl _
  case profiles => rfl
  case devices => rfl
  case rooms =>
    intro key row hrow
    rcases hsets.cases hrow with ⟨rfl, hnew⟩ | ⟨-, hold⟩
    · obtain rfl := Option.some.inj hnew
      rw [hid, hlabel]
      exact hs.rooms hroom
    · exact hs.rooms hold
  case participants => exact fun hrow => ⟨_, hrow, rfl, rfl, rfl⟩
  case invites => exact hs.invites
  case avatars => exact hs.avatars
  case seated =>
    intro key session hsession hactive hseated
    obtain ⟨hmember, place, placeSettings, hplace, hopen⟩ := hseated
    refine ⟨hmember, ?_⟩
    by_cases hkey : session.roomId = roomId
    · rcases hfree with hstays | hempty
      · refine ⟨moved, settings, ?_, hstays⟩
        rw [hkey]
        exact hsets.at_key
      · exact absurd hkey (hempty key session hsession hactive)
    · exact ⟨place, placeSettings, (hsets.off_key hkey).trans hplace, hopen⟩

/-! ## Operations -/

omit [AdmissionDigests] in
theorem requireLocalRoomManager_meets (roomId : String) :
    Meets (requireLocalRoomManager roomId) s (fun _ t => t = s) Anything := by
  unfold requireLocalRoomManager loadActiveMembership
  refine Meets.bind (P := fun _ t => t = s) ?_ fun _ t ht => ?_
  · apply Meets.read_bind
    refine Meets.orReject_bind (fun _ => trivial) fun row _ => ?_
    obtain ⟨room, settings⟩ := row
    refine Meets.require_bind (fun _ => trivial) fun _ => ?_
    apply Meets.read_bind
    refine Meets.orReject_bind (fun _ => trivial) fun participant _ => ?_
    exact Meets.require_bind (fun _ => trivial) fun _ => .pure rfl
  · exact Meets.require (fun _ => trivial) fun _ => ht

theorem createHumanInvite_meets (hs : Sound s) (roomId : String) (invite : NewHumanInvite) :
    Meets (createHumanInvite roomId invite) s (fun _ t => Preserves s t) Anything := by
  unfold createHumanInvite
  refine Meets.ofResult_bind (fun _ _ => trivial) fun _ _ => ?_
  refine Meets.bind (requireLocalRoomManager_meets roomId) ?_
  rintro ⟨⟩ t ht
  subst t
  dsimp only
  apply Meets.read_bind
  refine Meets.require_bind (fun _ => trivial) fun hid => ?_
  refine Meets.require_bind (fun _ => trivial) fun hsigned => ?_
  refine Meets.require_bind (fun _ => trivial) fun hjoinCode => ?_
  refine Meets.ofResult_bind (fun _ _ => trivial) fun row hrow => ?_
  apply Meets.write_bind
  obtain ⟨rfl, -⟩ := decodeHumanInvite_eq_ok hrow
  refine .pure (preserves_insertInvite hs hrow rfl ⟨⟨_, rfl⟩, _, rfl⟩ hid ?_ ?_)
  · intro id other hother heq
    have hnone := List.find?_eq_none.mp hsigned (id, other) (Table.mem_rows.mpr hother)
    exact hnone (beq_iff_eq.mpr heq)
  · intro id other hother heq
    have hnone := List.find?_eq_none.mp hjoinCode (id, other) (Table.mem_rows.mpr hother)
    exact hnone (beq_iff_eq.mpr heq)

theorem revokeHumanInvite_meets (hs : Sound s) (roomId inviteId : String) :
    Meets (revokeHumanInvite roomId inviteId) s (fun _ t => Preserves s t) Anything := by
  unfold revokeHumanInvite revokeInvites
  refine Meets.require_bind (fun _ => trivial) fun _ => ?_
  refine Meets.bind (requireLocalRoomManager_meets roomId) ?_
  rintro ⟨⟩ t ht
  subst t
  dsimp only
  apply Meets.read_bind
  apply Meets.write_bind
  exact .pure (preserves_revoke hs _)

variable [UuidSource]

theorem storeHumanPrejoinAvatar_meets (hs : Sound s) (request : PreparedHumanAdmission)
    (size now : Nat) :
    Meets (storeHumanPrejoinAvatar request size now) s (fun _ t => Preserves s t) Anything := by
  unfold storeHumanPrejoinAvatar
  refine Meets.require_bind (fun _ => trivial) fun hsize => ?_
  refine Meets.bind (loadInviteAndRoom_meets hs request.credential).safe ?_
  rintro found t ⟨ht, -⟩
  subst t
  refine Meets.orReject_bind (fun _ => trivial) fun pair _ => ?_
  obtain ⟨invite, room⟩ := pair
  refine Meets.bind (requireCredentialBinding_meets.mono (fun _ _ h => h) fun _ _ => trivial) ?_
  rintro ⟨⟩ t ⟨-, ht⟩
  subst t
  refine Meets.require_bind (fun _ => trivial) fun _ => ?_
  refine Meets.require_bind (fun _ => trivial) fun _ => ?_
  refine Meets.require_bind (fun _ => trivial) fun _ => ?_
  refine Meets.require_bind (fun _ => trivial) fun _ => ?_
  apply Meets.read_bind
  apply Meets.write_bind
  refine .pure (preserves_avatars hs _ ?_)
  intro attachmentId row hrow
  rw [Table.lookup_insert_ite] at hrow
  split at hrow
  · obtain rfl := Option.some.inj hrow
    exact ⟨rfl, hsize, rfl⟩
  · rw [Table.lookup_eraseWhere] at hrow
    split at hrow
    · cases hrow
    · exact hs.avatars hrow

omit [AdmissionDigests] [UuidSource] in
theorem setParticipantStatus_meets (roomId : String) (participant : Directory.Participant)
    (status : ParticipantStatus) (now : Nat) :
    Meets (setParticipantStatus roomId participant status now) s
      (fun _ t => t = { s with
        participants := s.participants.insert (roomId, participant.participantId)
          { participant with status, updatedAt := now } }) Never := by
  unfold setParticipantStatus
  exact Meets.write_bind (.pure rfl)

theorem leaveRoom_meets (hs : Sound s) (fingerprint : String) (now : Nat) :
    Meets (leaveRoom fingerprint now) s (fun _ t => Preserves s t) Anything := by
  unfold leaveRoom endSessions
  apply Meets.read_bind
  refine Meets.orReject_bind (fun _ => trivial) fun found hfound => ?_
  obtain ⟨key, session⟩ := found
  obtain ⟨hsession, hfingerprint⟩ := Table.find?_eq_some hfound
  refine Meets.require_bind (fun _ => trivial) fun hlive => ?_
  apply Meets.read_bind
  refine Meets.orReject_bind (fun _ => trivial) fun row _ => ?_
  obtain ⟨room, settings⟩ := row
  refine Meets.require_bind (fun _ => trivial) fun _ => ?_
  apply Meets.read_bind
  refine Meets.orReject_bind (fun _ => trivial) fun participant hparticipant => ?_
  refine Meets.require_bind (fun _ => trivial) fun hauthority => ?_
  refine Meets.require_bind (fun _ => trivial) fun _ => ?_
  apply Meets.write_bind
  have hended := preserves_endSessions hs fun row => row.sessionFingerprint == fingerprint
  refine Meets.bind (setParticipantStatus_meets _ _ _ _).safe ?_
  rintro left t rfl
  refine ((appendEvent_meets _ _ _ _ _ _).safe).mono ?_ fun _ h => h
  rintro event t ⟨events, uuids, rfl⟩
  rw [← hauthority.2.1] at hparticipant
  have hleft := preserves_status hended.sound { participant with
    status := .left, updatedAt := now } hparticipant rfl rfl rfl ?_
  · exact (hended.trans hleft).trans (preserves_events hleft.sound events uuids)
  · -- the member's one active session is the one that the fingerprint names
    intro other row hrow hactive
    obtain ⟨hstored, hdiffers⟩ := active_of_update hrow hactive
    refine Bool.eq_false_iff.mpr fun hof => ?_
    obtain ⟨hroom, hid⟩ : row.roomId = session.roomId ∧
        row.participantId = session.participantId := by
      rw [hauthority.2.1] at hof
      simpa [HumanRoomSession.isOf] using hof
    have hsessionActive : session.state = .active := by
      simp only [HumanRoomSession.isLive, HumanRoomSession.isActive, Bool.and_eq_true,
        beq_iff_eq] at hlive
      exact hlive.1
    obtain rfl := hs.single hstored hsession hactive hsessionActive hroom hid
    obtain rfl := Option.some.inj (hstored.symm.trans hsession)
    rw [hfingerprint] at hdiffers
    cases hdiffers

theorem removeParticipant_meets (hs : Sound s) (roomId targetId : String) (action : RemovalAction)
    (now : Nat) :
    Meets (removeParticipant roomId targetId action now) s (fun _ t => Preserves s t)
      Anything := by
  unfold removeParticipant endSessions revokeInvites
  refine Meets.require_bind (fun _ => trivial) fun _ => ?_
  refine Meets.bind (requireLocalRoomManager_meets roomId) ?_
  rintro ⟨⟩ t ht
  subst t
  apply Meets.read_bind
  refine Meets.orReject_bind (fun _ => trivial) fun participant hparticipant => ?_
  refine Meets.require_bind (fun _ => trivial) fun hauthority => ?_
  refine Meets.require_bind (fun _ => trivial) fun _ => ?_
  refine Meets.require_bind (fun _ => trivial) fun _ => ?_
  apply Meets.write_bind
  have hended := preserves_endSessions hs fun row => row.isOf roomId targetId
  apply Meets.write_bind
  have hrevoked := hended.trans (preserves_revoke hended.sound fun invite =>
    invite.roomId == roomId && invite.baseParticipantId == targetId)
  refine Meets.bind (setParticipantStatus_meets _ _ _ _).safe ?_
  rintro removed t rfl
  refine ((appendEvent_meets _ _ _ _ _ _).safe).mono ?_ fun _ h => h
  rintro event t ⟨events, uuids, rfl⟩
  rw [← hauthority.2] at hparticipant
  have hremoved := preserves_status hrevoked.sound { participant with
    status := action.status, updatedAt := now } hparticipant rfl rfl rfl
    fun _ _ hrow hactive => hauthority.2 ▸ (active_of_update hrow hactive).2
  exact (hrevoked.trans hremoved).trans (preserves_events hremoved.sound events uuids)

omit [UuidSource] in
theorem revokeRoomAccess_meets (hs : Sound s) (roomId : String) (target : RoomStatus) :
    Meets (revokeRoomAccess roomId target) s (fun _ t => Preserves s t ∧ t.rooms = s.rooms ∧
      (target = .active ∨ ∀ key session, t.sessions.lookup key = some session →
        session.state = .active → session.roomId ≠ roomId)) Never := by
  unfold revokeRoomAccess endSessions revokeInvites
  refine Meets.ite (fun _ => ?_) fun hactive => ?_
  · apply Meets.write_bind
    have hended := preserves_endSessions hs fun row => row.roomId == roomId
    refine .write ⟨hended.trans (preserves_revoke hended.sound _), rfl, Or.inr ?_⟩
    intro key session hsession hactive hroom
    have hother := (active_of_update hsession hactive).2
    exact Bool.eq_false_iff.mp hother (beq_iff_eq.mpr hroom)
  · exact .pure ⟨.refl hs, rfl, Or.inl (not_not.mp hactive)⟩

theorem changeRoomStatus_meets (hs : Sound s) (roomId : String) (target : RoomStatus)
    (cleanupPending : Bool) (now : Nat) :
    Meets (changeRoomStatus roomId target cleanupPending now) s (fun _ t => Preserves s t)
      Anything := by
  unfold changeRoomStatus
  apply Meets.read_bind
  refine Meets.orReject_bind (fun _ => trivial) fun manager _ => ?_
  refine Meets.require_bind (fun _ => trivial) fun _ => ?_
  apply Meets.read_bind
  refine Meets.orReject_bind (fun _ => trivial) fun row hrow => ?_
  obtain ⟨room, settings⟩ := row
  refine Meets.require_bind (fun _ => trivial) fun _ => ?_
  refine Meets.require_bind (fun _ => trivial) fun _ => ?_
  refine Meets.require_bind (fun _ => trivial) fun _ => ?_
  refine Meets.bind (revokeRoomAccess_meets hs roomId target).safe ?_
  rintro ⟨⟩ t ⟨hrevoked, hrooms, hfree⟩
  apply Meets.write_bind
  refine ((appendEvent_meets _ _ _ _ _ _).safe).mono ?_ fun _ h => h
  rintro event u ⟨events, uuids, rfl⟩
  have hroom : t.rooms.lookup roomId = some (room, settings) := by
    rw [hrooms]
    exact hrow
  have hmoved := preserves_room hrevoked.sound { room with
    status := target, updatedAt := now } hroom rfl rfl hfree
  exact (hrevoked.trans hmoved).trans (preserves_events hmoved.sound events uuids)

/-- Every operation but an admission. -/
theorem perform_preserves (hs : Sound s) {op : HumanOp} {now : Nat} {outcome : HumanOutcome}
    (hop : ∀ request, op ≠ .admitHuman request) (h : Commits (perform op now) s outcome t) :
    Preserves s t := by
  cases op with
  | createInvite roomId invite =>
      exact (Meets.map (Q := fun _ t => Preserves s t)
        (createHumanInvite_meets hs roomId invite)).commits h
  | revokeInvite roomId inviteId =>
      exact (Meets.map (Q := fun _ t => Preserves s t)
        (revokeHumanInvite_meets hs roomId inviteId)).commits h
  | storeAvatar request size =>
      exact (Meets.map (Q := fun _ t => Preserves s t)
        (storeHumanPrejoinAvatar_meets hs request size now)).commits h
  | admitHuman request => exact absurd rfl (hop request)
  | leave fingerprint =>
      exact (Meets.map (Q := fun _ t => Preserves s t)
        (leaveRoom_meets hs fingerprint now)).commits h
  | remove roomId targetId action =>
      exact (Meets.map (Q := fun _ t => Preserves s t)
        (removeParticipant_meets hs roomId targetId action now)).commits h
  | changeStatus roomId target cleanupPending =>
      exact (Meets.map (Q := fun _ t => Preserves s t)
        (changeRoomStatus_meets hs roomId target cleanupPending now)).commits h

end Membership

end AgentsAssemble.Admission
