import AgentsAssemble.Admission.Decisions

/-!
# Human admission: what a new admission commits

The parts of `commit_new_admission` in their order, each with what it changes,
and `Admits`, the change of the whole.
-/

namespace AgentsAssemble.Admission

open Foundation Domain Tx
open Directory (Room RoomSettings UserProfile)
open Persistence (RoomStatus UuidSource)

/-! ## Frames -/

/-- Nothing but avatars, events and the display of members changed. -/
structure Keeps (s t : HumanStore) : Prop where
  rooms : t.rooms = s.rooms
  invites : t.invites = s.invites
  profiles : t.profiles = s.profiles
  devices : t.devices = s.devices
  sessions : t.sessions = s.sessions
  members : ∀ key, (t.participants.lookup key).map membership =
    (s.participants.lookup key).map membership
  avatars : ∀ attachmentId row, t.prejoinAvatars.lookup attachmentId = some row →
    s.prejoinAvatars.lookup attachmentId = some row

namespace Keeps

variable {s t u : HumanStore}

theorem refl (s : HumanStore) : Keeps s s :=
  ⟨rfl, rfl, rfl, rfl, rfl, fun _ => rfl, fun _ _ h => h⟩

theorem trans (hst : Keeps s t) (htu : Keeps t u) : Keeps s u where
  rooms := htu.rooms.trans hst.rooms
  invites := htu.invites.trans hst.invites
  profiles := htu.profiles.trans hst.profiles
  devices := htu.devices.trans hst.devices
  sessions := htu.sessions.trans hst.sessions
  members key := (htu.members key).trans (hst.members key)
  avatars attachmentId row h := hst.avatars attachmentId row (htu.avatars attachmentId row h)

theorem member {key : String × String} {row : Directory.Participant} (h : Keeps s t)
    (hrow : t.participants.lookup key = some row) :
    ∃ old, s.participants.lookup key = some old ∧ membership old = membership row := by
  have hmap := h.members key
  rw [hrow, Option.map_some] at hmap
  exact Option.map_eq_some_iff.mp hmap.symm

theorem later {key : String × String} {row : Directory.Participant} (h : Keeps s t)
    (hrow : s.participants.lookup key = some row) :
    ∃ new, t.participants.lookup key = some new ∧ membership new = membership row := by
  have hmap := h.members key
  rw [hrow, Option.map_some] at hmap
  exact Option.map_eq_some_iff.mp hmap

end Keeps

section Commits

variable [AdmissionDigests] [UuidSource] {s : HumanStore} {request : PreparedHumanAdmission}
  {invite : HumanInvite} {now : Nat}

/-! ## Avatars -/

/-- The avatar a transaction resolved is still in the browser's custody. -/
def StillInCustody (s : HumanStore) (request : PreparedHumanAdmission) (invite : HumanInvite)
    (now : Nat) (avatar : AdmissionAvatar) : Prop :=
  ∃ row, s.prejoinAvatars.lookup avatar.attachmentId = some row ∧
    row.inCustody request invite = true ∧ now / 1000000 < row.expiresAt

omit [UuidSource] in
theorem resolveAdmissionAvatar_meets
    (havatars : ∀ {attachmentId row}, s.prejoinAvatars.lookup attachmentId = some row →
      AvatarValid row) :
    Meets (resolveAdmissionAvatar request invite now) s
      (fun avatar t => t = s ∧ ∀ a, avatar = some a → StillInCustody s request invite now a)
      Never := by
  unfold resolveAdmissionAvatar
  cases request.payload.avatarAttachmentId with
  | none => exact .pure ⟨rfl, nofun⟩
  | some attachmentId =>
      apply Meets.read_bind
      cases hrow : s.prejoinAvatars.lookup attachmentId with
      | none => exact .pure ⟨rfl, nofun⟩
      | some row =>
          have hvalid := havatars hrow
          dsimp only
          refine Meets.ite (fun hcustody => ?_) fun _ => .pure ⟨rfl, nofun⟩
          refine Meets.require_bind (fun hbad => hbad ?_) fun _ => .pure ⟨rfl, ?_⟩
          · exact ⟨hvalid.contentType, hvalid.size.1, hvalid.size.2, hvalid.length⟩
          · intro a ha
            obtain rfl := Option.some.inj ha
            exact ⟨row, hrow, hcustody⟩

omit [UuidSource] in
theorem transferAdmissionAvatar_meets {avatar : AdmissionAvatar} (userId : String)
    (h : StillInCustody s request invite now avatar) :
    Meets (transferAdmissionAvatar avatar userId request invite now) s (fun _ t => Keeps s t)
      Acceptable := by
  obtain ⟨row, hrow, hcustody, hfresh⟩ := h
  unfold transferAdmissionAvatar
  apply Meets.write_bind
  apply Meets.read_bind
  refine Meets.require_bind (fun hbad => absurd ?_ hbad) fun _ => ?_
  · simp [hrow, hcustody, hfresh]
  apply Meets.read_bind
  refine Meets.require_bind (fun _ => rfl) fun _ => ?_
  apply Meets.write_bind
  apply Meets.read_bind
  refine Meets.require_bind (fun hbad => absurd ?_ hbad) fun _ => .write ?_
  · simp [hrow, hcustody]
  refine ⟨rfl, rfl, rfl, rfl, rfl, fun _ => rfl, fun attachmentId kept hkept => ?_⟩
  rw [Table.lookup_erase_ite] at hkept
  split at hkept
  · cases hkept
  · exact hkept

omit [AdmissionDigests] [UuidSource] in
theorem deleteCurrentAvatar_meets (userId : String) (previous : Option String) :
    Meets (deleteCurrentAvatar userId previous) s (fun _ t => Keeps s t) Acceptable := by
  cases previous with
  | none => exact .pure (.refl s)
  | some previousId =>
      apply Meets.read_bind
      refine Meets.require_bind (fun _ => rfl) fun _ => .write ?_
      exact ⟨rfl, rfl, rfl, rfl, rfl, fun _ => rfl, fun _ _ h => h⟩

omit [AdmissionDigests] [UuidSource] in
theorem promotePendingAvatar_meets (userId : String) (next : Option String) :
    Meets (promotePendingAvatar userId next) s (fun _ t => Keeps s t) Acceptable := by
  cases next with
  | none => exact .pure (.refl s)
  | some nextId =>
      apply Meets.read_bind
      refine Meets.require_bind (fun _ => rfl) fun _ => ?_
      apply Meets.read_bind
      refine Meets.require_bind (fun _ => rfl) fun _ => .write ?_
      exact ⟨rfl, rfl, rfl, rfl, rfl, fun _ => rfl, fun _ _ h => h⟩

omit [AdmissionDigests] [UuidSource] in
theorem replaceProfileAvatar_meets (userId previous next : String) :
    Meets (replaceProfileAvatar userId previous next) s (fun _ t => Keeps s t) Acceptable := by
  unfold replaceProfileAvatar
  dsimp only
  refine Meets.ite (fun _ => .pure (.refl s)) fun _ => ?_
  refine (deleteCurrentAvatar_meets userId _).bind fun _ t ht => ?_
  exact (promotePendingAvatar_meets userId _).mono (fun _ u hu => ht.trans hu) fun _ h => h

omit [UuidSource] in
theorem adoptAvatar_meets {avatar : Option AdmissionAvatar} (userId : String)
    (h : ∀ a, avatar = some a → StillInCustody s request invite now a) :
    Meets (adoptAvatar userId request invite now avatar) s (fun _ t => Keeps s t) Acceptable := by
  cases avatar with
  | none => exact .pure (.refl s)
  | some a =>
      refine (transferAdmissionAvatar_meets userId (h a rfl)).bind fun _ t ht => ?_
      exact (replaceProfileAvatar_meets userId _ _).mono (fun _ u hu => ht.trans hu) fun _ h => h

omit [UuidSource] in
theorem transferIfAny_meets {avatar : Option AdmissionAvatar} (userId : String)
    (h : ∀ a, avatar = some a → StillInCustody s request invite now a) :
    Meets (transferIfAny userId request invite now avatar) s (fun _ t => Keeps s t)
      Acceptable := by
  cases avatar with
  | none => exact .pure (.refl s)
  | some a => exact transferAdmissionAvatar_meets userId (h a rfl)

/-! ## Identities -/

/-- Rooms and members are stored under their own ids. -/
structure RowsNamed (s : HumanStore) : Prop where
  rooms : ∀ {roomId row}, s.rooms.lookup roomId = some row → row.1.roomId = roomId
  participants : ∀ {roomId participantId row},
    s.participant? roomId participantId = some row → row.roomId = roomId

omit [UuidSource] in
theorem Sound.rowsNamed (hs : Sound s) : RowsNamed s :=
  ⟨fun h => (hs.rooms h).1, fun h => (hs.participants h).1⟩

omit [AdmissionDigests] [UuidSource] in
theorem RowsNamed.keeps {t : HumanStore} (h : RowsNamed s) (hkeeps : Keeps s t) :
    RowsNamed t where
  rooms hroom := h.rooms (hkeeps.rooms ▸ hroom)
  participants hrow := by
    obtain ⟨old, hold, hsame⟩ := hkeeps.member hrow
    have hroomId := congrArg Prod.fst hsame
    exact hroomId.symm.trans (h.participants hold)

omit [AdmissionDigests] in
theorem projectProfileInto_meets (h : RowsNamed s) (profile : UserProfile) (roomId : String) :
    Meets (projectProfileInto profile now roomId) s (fun _ t => Keeps s t) Never := by
  unfold projectProfileInto
  apply Meets.read_bind
  dsimp only [id]
  cases hrow : s.participant? roomId profile.participantId with
  | none => exact .pure (.refl s)
  | some row =>
      cases hroom : s.rooms.lookup roomId with
      | none => exact .pure (.refl s)
      | some room =>
          refine Meets.require_bind (fun hbad => hbad ⟨h.rooms hroom, h.participants hrow⟩)
            fun _ => ?_
          refine Meets.ite (fun _ => .pure (.refl s)) fun _ => ?_
          apply Meets.write_bind
          refine Meets.bind (P := fun _ t => Keeps s t) ⟨fun hc => ?_, fun hr => ?_⟩
            fun _ _ ht => .pure ht
          · obtain ⟨-, rfl⟩ := Prod.mk.inj (Except.ok.inj hc)
            refine ⟨rfl, rfl, rfl, rfl, rfl, fun key => ?_, fun _ _ h => h⟩
            show (Option.map membership ((s.participants.insert _ _).lookup key)) = _
            rw [Table.lookup_insert_ite]
            split
            · rename_i hkey
              rw [hkey, show s.participants.lookup (roomId, profile.participantId) = some row
                from hrow]
              rfl
            · rfl
          · cases hr

omit [AdmissionDigests] in
theorem projectProfileIntoRooms_meets (h : RowsNamed s) (profile : UserProfile) :
    Meets (projectProfileIntoRooms profile now) s (fun _ t => Keeps s t) Never := by
  unfold projectProfileIntoRooms
  apply Meets.read_bind
  refine Meets.map ((Meets.each (I := Keeps s) (Keeps.refl s) ?_).mono (fun _ _ ht => ht)
    fun _ h => h)
  intro roomId _ t ht
  exact (projectProfileInto_meets (h.keeps ht) profile roomId).mono
    (fun _ _ hu => ht.trans hu) fun _ h => h

/-- The identity a browser is admitted under, as it was resolved in `s`. -/
structure Resolved (s : HumanStore) (identity : ResolvedIdentity) : Prop where
  participantId : identity.profile.participantId = identity.participantId
  revision : 1 ≤ identity.profile.revision
  human : HumanProfile s identity.profile
  known : (identity.isNew = true ∧ s.profiles.lookup identity.userId = none) ∨
    (identity.isNew = false ∧ ∃ stored, s.profiles.lookup identity.userId = some stored ∧
      stored.participantId = identity.participantId ∧
      (identity.profileChanged = false → identity.profile = stored))

omit [AdmissionDigests] [UuidSource] in
theorem forAdmittedHuman_eq_some {participantId displayName url : String} {profile : UserProfile}
    (h : forAdmittedHuman participantId displayName url = some profile) :
    profile.participantId = participantId ∧ profile.revision = 1 := by
  unfold forAdmittedHuman at h
  dsimp only at h
  split at h
  · cases h
  · obtain rfl := Option.some.inj h
    exact ⟨rfl, rfl⟩

omit [AdmissionDigests] [UuidSource] in
theorem applyPatch_spec {profile : UserProfile} (hrevision : 1 ≤ profile.revision)
    (displayName url : Option String) :
    (applyPatch profile displayName url).1.participantId = profile.participantId ∧
      1 ≤ (applyPatch profile displayName url).1.revision ∧
      ((applyPatch profile displayName url).2 = false →
        (applyPatch profile displayName url).1 = profile) := by
  unfold applyPatch
  dsimp only
  split
  · exact ⟨rfl, hrevision, fun _ => rfl⟩
  · exact ⟨rfl, le_max_right _ _, nofun⟩

omit [UuidSource] [AdmissionDigests] in
/-- No member of any room has the participant id of an identity that does not exist. -/
theorem not_member_of_not_identityExists {userId participantId : String}
    (h : ¬identityExists s userId participantId = true) :
    s.profiles.lookup userId = none ∧
      ∀ roomId, s.participant? roomId participantId = none := by
  unfold identityExists at h
  simp only [Bool.or_eq_true, not_or] at h
  refine ⟨by simpa using h.1.1, fun roomId => ?_⟩
  by_contra hmember
  obtain ⟨row, hrow⟩ := Option.ne_none_iff_exists'.mp hmember
  have hnone : s.participants.find? (fun key _ => key.2 == participantId) = none := by
    simpa using h.2
  have habsent := List.find?_eq_none.mp hnone ((roomId, participantId), row)
    (Table.mem_rows.mpr hrow)
  simp at habsent

omit [UuidSource] in
theorem resolveIdentity_meets (hs : Sound s) (key : String) (avatar : Option AdmissionAvatar) :
    Meets (resolveIdentity request invite key avatar) s
      (fun found t => t = s ∧ ∀ identity, found = some identity → Resolved s identity) Never := by
  unfold resolveIdentity
  apply Meets.read_bind
  dsimp only [id]
  split
  · unfold resolveNewIdentity
    dsimp only
    apply Meets.read_bind
    refine Meets.ite (fun _ => .pure ⟨rfl, nofun⟩) fun hnew => ?_
    split
    · exact .pure ⟨rfl, nofun⟩
    · rename_i profile hprofile
      refine .pure ⟨rfl, fun identity hidentity => ?_⟩
      obtain rfl := Option.some.inj hidentity
      obtain ⟨hparticipant, hrevision⟩ := forAdmittedHuman_eq_some hprofile
      obtain ⟨hnone, habsent⟩ := not_member_of_not_identityExists hnew
      refine ⟨hparticipant, hrevision.ge, fun roomId row hrow => ?_, Or.inl ⟨rfl, hnone⟩⟩
      dsimp only at hrow
      rw [hparticipant] at hrow
      cases hrow.symm.trans (habsent roomId)
  · rename_i userId stored hknown
    have hprofile : ∃ browser, s.devices.lookup browser = some userId ∧
        s.profiles.lookup userId = some stored := by
      by_cases hreuse : invite.isReusable = true
      · rw [if_pos hreuse] at hknown
        obtain ⟨found, hfound, hmap⟩ := Option.bind_eq_some_iff.mp hknown
        obtain ⟨profile, hstored, hpair⟩ := Option.map_eq_some_iff.mp hmap
        obtain ⟨rfl, rfl⟩ := Prod.mk.inj hpair
        exact ⟨_, hfound, hstored⟩
      · rw [if_neg hreuse] at hknown
        cases hknown
    obtain ⟨browser, hdevice, hstored⟩ := hprofile
    have hrevision := hs.profiles hstored
    have hdecode : decodeBoundProfile stored stored.participantId = .ok stored := by
      unfold decodeBoundProfile
      rw [if_neg (not_not.mpr rfl), if_neg (by omega)]
    refine Meets.ofResult_bind (fun e he => ?_) fun profile hdecoded => ?_
    · rw [hdecode] at he
      cases he
    · obtain rfl := Except.ok.inj (hdecode.symm.trans hdecoded)
      refine .pure ⟨rfl, fun identity hidentity => ?_⟩
      obtain rfl := Option.some.inj hidentity
      obtain ⟨hparticipant, hnewRevision, hsame⟩ := applyPatch_spec hrevision
        (if request.payload.displayName = "" then none else some request.payload.displayName)
        (avatar.map AdmissionAvatar.url)
      refine ⟨hparticipant, hnewRevision, fun roomId row hrow => ?_,
        Or.inr ⟨rfl, stored, hstored, rfl, hsame⟩⟩
      dsimp only at hrow
      rw [hparticipant] at hrow
      exact hs.devices hdevice hstored roomId row hrow

/-- What `persist_identity` leaves behind. -/
structure Persisted (s : HumanStore) (identity : ResolvedIdentity) (t : HumanStore) : Prop where
  rooms : t.rooms = s.rooms
  invites : t.invites = s.invites
  sessions : t.sessions = s.sessions
  members : ∀ key, (t.participants.lookup key).map membership =
    (s.participants.lookup key).map membership
  avatars : ∀ attachmentId row, t.prejoinAvatars.lookup attachmentId = some row →
    s.prejoinAvatars.lookup attachmentId = some row
  profile : t.profiles.lookup identity.userId = some identity.profile
  otherProfiles : ∀ userId, userId ≠ identity.userId →
    t.profiles.lookup userId = s.profiles.lookup userId
  devices : ∀ browser userId, t.devices.lookup browser = some userId →
    s.devices.lookup browser = some userId ∨ userId = identity.userId

omit [AdmissionDigests] [UuidSource] in
theorem bindDevice_meets (userId : String) :
    Meets (bindDevice userId request invite) s (fun _ t =>
      ∃ devices, t = { s with devices } ∧
        ∀ browser user, devices.lookup browser = some user →
          s.devices.lookup browser = some user ∨ user = userId) Acceptable := by
  unfold bindDevice
  refine Meets.ite (fun _ => ?_) fun _ => .pure ⟨s.devices, rfl, fun _ _ h => Or.inl h⟩
  apply Meets.read_bind
  refine Meets.require_bind (fun _ => rfl) fun _ => .write ⟨_, rfl, fun browser user h => ?_⟩
  rw [Table.lookup_insert_ite] at h
  split at h
  · exact Or.inr (Option.some.inj h).symm
  · exact Or.inl h

omit [AdmissionDigests] [UuidSource] in
theorem updateProfile_meets (identity : ResolvedIdentity) :
    Meets (updateProfile identity) s (fun _ t =>
      Keeps { s with profiles := s.profiles.insert identity.userId identity.profile } t)
      Acceptable := by
  unfold updateProfile
  apply Meets.write_bind
  exact Meets.ite (fun _ => replaceProfileAvatar_meets _ _ _) fun _ => .pure (.refl _)

theorem persistIdentity_meets (hnamed : RowsNamed s) {identity : ResolvedIdentity}
    {avatar : Option AdmissionAvatar} (hresolved : Resolved s identity)
    (havatar : ∀ a, avatar = some a → StillInCustody s request invite now a) :
    Meets (persistIdentity identity request invite avatar now) s
      (fun persisted t => Persisted s identity t ∧
        persisted = { identity with profileEvents := persisted.profileEvents }) Acceptable := by
  unfold persistIdentity
  refine Meets.ite (fun _ => ?_) fun hknown => ?_
  · apply Meets.read_bind
    refine Meets.require_bind (fun _ => rfl) fun _ => ?_
    apply Meets.write_bind
    refine (adoptAvatar_meets
      (s := { s with profiles := s.profiles.insert identity.userId identity.profile }) _
      havatar).bind fun _ t ht => ?_
    refine (bindDevice_meets _).bind fun _ u hu => ?_
    obtain ⟨devices, rfl, hdevices⟩ := hu
    refine .pure ⟨⟨ht.rooms, ht.invites, ht.sessions, ht.members, ht.avatars, ?_, ?_, ?_⟩, rfl⟩
    · show t.profiles.lookup _ = _
      rw [ht.profiles, Table.lookup_insert_ite, if_pos rfl]
    · intro userId hne
      show t.profiles.lookup _ = _
      rw [ht.profiles, Table.lookup_insert_ite, if_neg hne]
    · intro browser userId hdevice
      rcases hdevices browser userId hdevice with hold | hnew
      · exact Or.inl (ht.devices ▸ hold)
      · exact Or.inr hnew
  · obtain ⟨hnew, -⟩ | ⟨-, stored, hstored, -, hunchanged⟩ := hresolved.known
    · exact absurd hnew hknown
    refine (transferIfAny_meets _ havatar).bind fun _ t ht => ?_
    refine Meets.ite (fun _ => ?_) fun hsame => ?_
    · refine (updateProfile_meets identity).bind fun _ u hu => ?_
      have hnamedT := hnamed.keeps ht
      have hnamedU : RowsNamed u := RowsNamed.keeps
        (s := { t with profiles := t.profiles.insert identity.userId identity.profile })
        ⟨hnamedT.rooms, hnamedT.participants⟩ hu
      refine ((projectProfileIntoRooms_meets hnamedU identity.profile).mono (fun _ _ h => h)
        fun _ h => h.elim).bind fun _ v hv => ?_
      have huv := hu.trans hv
      refine .pure ⟨⟨huv.rooms.trans ht.rooms, huv.invites.trans ht.invites,
        huv.sessions.trans ht.sessions, fun key => (huv.members key).trans (ht.members key),
        fun id row h => ht.avatars id row (huv.avatars id row h), ?_, ?_, ?_⟩, rfl⟩
      · rw [huv.profiles, Table.lookup_insert_ite, if_pos rfl]
      · intro userId hne
        rw [huv.profiles, Table.lookup_insert_ite, if_neg hne, ht.profiles]
      · intro browser userId hdevice
        rw [huv.devices] at hdevice
        exact Or.inl (ht.devices ▸ hdevice)
    · have hprofile := hunchanged (Bool.eq_false_iff.mpr hsame)
      refine .pure ⟨⟨ht.rooms, ht.invites, ht.sessions, ht.members, ht.avatars, ?_, ?_, ?_⟩, rfl⟩
      · rw [ht.profiles, hstored, hprofile]
      · intro userId _
        rw [ht.profiles]
      · intro browser userId hdevice
        exact Or.inl (ht.devices ▸ hdevice)

end Commits

end AgentsAssemble.Admission
