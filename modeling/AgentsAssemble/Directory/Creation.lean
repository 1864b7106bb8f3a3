import AgentsAssemble.Directory.Rooms
import AgentsAssemble.Foundation.Result

/-!
# Repeating a room creation

A committed request leaves its result under its key, no operation takes it
away, and a repetition reads nothing else.  What the repetition compares is the
label the request asked for with the label the settings kept of it.
-/

namespace AgentsAssemble.Directory

open Foundation Domain Tx
open Persistence (PersistenceError UuidSource unaryUuid unaryUuid_injective unaryUuid_ne_empty)

/-! ## Inversion -/

theorem commits_insertRow {κ ρ : Type} [DecidableEq κ] {table : String}
    {get : RoomDirectory → Table κ ρ} {set : RoomDirectory → Table κ ρ → RoomDirectory}
    {key : κ} {row : ρ} {s s' : RoomDirectory} {u : Unit} :
    Commits (insertRow table get set key row) s u s' ↔
      (get s).lookup key = none ∧ s' = set s ((get s).insert key row) := by
  unfold insertRow
  simp only [commits_bind, commits_read, commits_require, commits_write]
  constructor
  · rintro ⟨_, _, ⟨rfl, rfl⟩, _, _, ⟨hfree, rfl⟩, rfl⟩
    exact ⟨hfree, rfl⟩
  · rintro ⟨hfree, rfl⟩
    exact ⟨_, _, ⟨rfl, rfl⟩, (), _, ⟨hfree, rfl⟩, rfl⟩

/-! ## Labels -/

theorem validateRoomId_ok {value roomId : String} (h : validateRoomId value = .ok roomId) :
    roomId = cleanIdentifier value 128 := by
  unfold validateRoomId at h
  dsimp only at h
  split at h
  · cases h
  · exact (Except.ok.inj h).symm

theorem length_cleanIdentifier_le (value : String) (limit : Nat) :
    (cleanIdentifier value limit).toList.length ≤ limit := by
  unfold cleanIdentifier cleanTrimmedCrlfText
  rw [String.toList_ofList]
  exact (length_trimMatches_le _ _).trans (List.length_take_le _ _)

theorem length_requestedLabel_le {payload : CreateRoomRequest} {roomId : String}
    (h : validateRoomId payload.roomId = .ok roomId) :
    (requestedLabel payload roomId).toList.length ≤ 128 := by
  unfold requestedLabel
  dsimp only
  split
  · rw [validateRoomId_ok h]
    exact length_cleanIdentifier_le _ _
  · exact length_cleanSingleLine_le _ _

section Creation

variable [UpperCase] [PayloadHash] [UuidSource]

omit [UpperCase] [PayloadHash] in
theorem commits_drawUuid {s s' : RoomDirectory} {id : String} :
    Commits drawUuid s id s' ↔
      id = UuidSource.newV4 s.uuids ∧ s' = { s with uuids := s.uuids + 1 } := by
  constructor
  · intro h
    have h' : (Except.ok (UuidSource.newV4 s.uuids, { s with uuids := s.uuids + 1 }) :
        Except PersistenceError (String × RoomDirectory)) = .ok (id, s') := h
    simp only [Except.ok.injEq, Prod.mk.injEq] at h'
    exact ⟨h'.1.symm, h'.2.symm⟩
  · rintro ⟨rfl, rfl⟩
    rfl

omit [UpperCase] [PayloadHash] [UuidSource] in
theorem commits_requireCompleteBootstrap {s s' : RoomDirectory} {status : LocalBootstrapStatus} :
    Commits requireCompleteBootstrap s status s' ↔
      s.bootstrap = .complete status ∧ s' = s := by
  unfold requireCompleteBootstrap
  simp only [commits_bind, commits_read]
  constructor
  · rintro ⟨_, _, ⟨rfl, rfl⟩, h⟩
    split at h
    · rename_i heq
      obtain ⟨rfl, rfl⟩ := commits_pure.mp h
      exact ⟨heq, rfl⟩
    · exact (commits_throw.mp h).elim
    · exact (commits_throw.mp h).elim
  · rintro ⟨heq, rfl⟩
    exact ⟨_, _, ⟨rfl, rfl⟩, by rw [heq]; exact commits_pure.mpr ⟨rfl, rfl⟩⟩

omit [PayloadHash] [UuidSource] in
/-- A replay changes nothing; without a stored result there is none. -/
theorem commits_replayRoomCreation {requestId roomId label payloadHash : String}
    {authority : LocalBootstrapStatus} {s s' : RoomDirectory} {replay : Option RoomCreateCommit}
    (h : Commits (replayRoomCreation requestId roomId label payloadHash authority) s replay s') :
    s' = s ∧ ((replay = none ∧ s.createResults.lookup (localOperatorUserId, requestId) = none) ∨
      ∃ commit, replay = some commit ∧ commit.deduplicated = true) := by
  unfold replayRoomCreation at h
  obtain ⟨results, s₁, hread, h⟩ := commits_bind.mp h
  obtain ⟨rfl, rfl⟩ := commits_read.mp hread
  split at h
  · rename_i hnone
    obtain ⟨rfl, rfl⟩ := commits_pure.mp h
    exact ⟨rfl, Or.inl ⟨rfl, hnone⟩⟩
  · simp only [commits_bind, commits_require, commits_ofResult, commits_pure] at h
    obtain ⟨_, _, ⟨-, rfl⟩, stored, _, ⟨-, rfl⟩, _, _, ⟨-, rfl⟩, rfl, rfl⟩ := h
    exact ⟨rfl, Or.inr ⟨_, rfl, rfl⟩⟩

omit [PayloadHash] [UuidSource] in
/-- An existing room always ends the creation of one under its id. -/
theorem commits_rejectExistingRoom {roomId : String} {s s' : RoomDirectory} {u : Unit}
    (h : Commits (rejectExistingRoom roomId) s u s') :
    s' = s ∧ s.rooms.lookup roomId = none := by
  unfold rejectExistingRoom at h
  obtain ⟨rooms, s₁, hread, h⟩ := commits_bind.mp h
  obtain ⟨rfl, rfl⟩ := commits_read.mp hread
  split at h
  · rename_i hnone
    obtain ⟨-, rfl⟩ := commits_pure.mp h
    exact ⟨rfl, hnone⟩
  · obtain ⟨settings, _, -, h⟩ := commits_bind.mp h
    obtain ⟨_, _, -, h⟩ := commits_bind.mp h
    exact (commits_throw.mp h).elim

omit [UpperCase] [PayloadHash] [UuidSource] in
theorem commits_loadLocalOperatorProfile {s s' : RoomDirectory} {profile : UserProfile}
    (h : Commits loadLocalOperatorProfile s profile s') : s' = s := by
  unfold loadLocalOperatorProfile at h
  simp only [commits_bind, commits_read, commits_orReject, commits_require, commits_pure] at h
  obtain ⟨_, _, ⟨rfl, rfl⟩, _, _, ⟨-, rfl⟩, _, _, ⟨-, rfl⟩, _, _, ⟨-, rfl⟩, -, rfl⟩ := h
  rfl

/-- What a committed creation of a new room leaves. -/
structure RoomCreated (requestId roomId label payloadHash : String)
    (authority : LocalBootstrapStatus) (s : RoomDirectory) (commit : RoomCreateCommit)
    (s' : RoomDirectory) : Prop where
  fresh : s.createResults.lookup (localOperatorUserId, requestId) = none
  bootstrap : s'.bootstrap = s.bootstrap
  row : s'.rooms.lookup roomId = some (commit.room, commit.settings)
  result : s'.createResults =
    s.createResults.insert (localOperatorUserId, requestId) (payloadHash, commit)
  roomId : commit.room.roomId = roomId
  settings : commit.settings = RoomSettings.defaults label
  label : commit.room.label = label
  original : commit.deduplicated = false

omit [PayloadHash] in
theorem commits_createRoomInTransaction {requestId roomId label payloadHash : String}
    {authority : LocalBootstrapStatus} {now : Nat} {s s' : RoomDirectory}
    {commit : RoomCreateCommit}
    (h : Commits (createRoomInTransaction requestId roomId label payloadHash authority now)
      s commit s') :
    (s' = s ∧ commit.deduplicated = true) ∨
      RoomCreated requestId roomId label payloadHash authority s commit s' := by
  unfold createRoomInTransaction at h
  obtain ⟨replay, s₁, hreplay, hrest⟩ := commits_bind.mp h
  obtain ⟨rfl, hcase⟩ := commits_replayRoomCreation hreplay
  rcases hcase with ⟨rfl, hfresh⟩ | ⟨stored, rfl, hdedup⟩
  · right
    obtain ⟨_, s₂, hexisting, hafter⟩ := commits_bind.mp hrest
    obtain ⟨rfl, -⟩ := commits_rejectExistingRoom hexisting
    obtain ⟨profile, s₃, hprofile, hcreate⟩ := commits_bind.mp hafter
    obtain rfl := commits_loadLocalOperatorProfile hprofile
    simp only [commits_bind, commits_drawUuid, commits_insertRow, commits_pure] at hcreate
    obtain ⟨_, _, ⟨rfl, rfl⟩, _, _, ⟨-, rfl⟩, _, _, ⟨-, rfl⟩, _, _, ⟨-, rfl⟩, _, _, ⟨rfl, rfl⟩,
      _, _, ⟨-, rfl⟩, _, _, ⟨-, rfl⟩, rfl, rfl⟩ := hcreate
    exact
      { fresh := hfresh
        bootstrap := rfl
        row := AList.lookup_insert _
        result := rfl
        roomId := rfl
        label := rfl
        settings := rfl
        original := rfl }
  · left
    obtain ⟨rfl, rfl⟩ := commits_pure.mp hrest
    exact ⟨rfl, hdedup⟩

/-! ## The handler -/

/-- The digest a request is stored under. -/
def requestHash (roomId label : String) : String :=
  canonicalPayloadHash (.object [("room_id", .string roomId), ("label", .string label)])

theorem commits_createRoom {payload : CreateRoomRequest} {now : Nat} {s s' : RoomDirectory}
    {commit : RoomCreateCommit} (h : Commits (createRoom payload now) s commit s') :
    ∃ roomId authority, validateRoomId payload.roomId = .ok roomId ∧
      UuidSource.isUuid payload.requestId = true ∧ s.bootstrap = .complete authority ∧
      ((s' = s ∧ commit.deduplicated = true) ∨
        RoomCreated payload.requestId roomId (requestedLabel payload roomId)
          (requestHash roomId (requestedLabel payload roomId)) authority s commit s') := by
  unfold createRoom createRoomForLocalOperator at h
  simp only [commits_bind, commits_ofResult, commits_require,
    commits_requireCompleteBootstrap] at h
  obtain ⟨roomId, _, ⟨hroomId, rfl⟩, _, _, ⟨huuid, rfl⟩, authority, _, ⟨hauthority, rfl⟩,
    hcreate⟩ := h
  exact ⟨roomId, authority, Result.mapError_eq_ok.mp hroomId, huuid, hauthority,
    commits_createRoomInTransaction hcreate⟩

/-- The room a stored result describes is returned again when its settings kept its label. -/
theorem createRoom_replays {payload : CreateRoomRequest} {roomId label : String} {now : Nat}
    {t : RoomDirectory} {authority : LocalBootstrapStatus} {commit : RoomCreateCommit}
    (hroomId : validateRoomId payload.roomId = .ok roomId)
    (huuid : UuidSource.isUuid payload.requestId = true)
    (hauthority : t.bootstrap = .complete authority)
    (hlabel : label = requestedLabel payload roomId)
    (hclean : cleanSingleLine label 128 = label)
    (hsettings : commit.settings = RoomSettings.defaults label)
    (hroom : commit.room.roomId = roomId) (hnew : commit.deduplicated = false)
    (hstored : t.createResults.lookup (localOperatorUserId, payload.requestId) =
      some (requestHash roomId label, commit)) :
    Commits (createRoom payload now) t
      { commit with
        deduplicated := true
        events := []
        serverId := authority.serverId
        authorityLineageId := authority.authorityLineageId } t := by
  have hdecode : decodeCommit commit =
      .ok { commit with serverId := "", authorityLineageId := "" } := by
    have hvalid : validateSettings commit.settings = .ok commit.settings := by
      rw [hsettings]
      have hlimit : cleanSingleLine label roomLabelLimit = label := hclean
      refine validateSettings_defaults ?_
      rw [hlimit, hlimit]
    unfold decodeCommit decodeSettings
    rw [hvalid]
    rfl
  have hkept : commit.settings.label = label := by
    rw [hsettings]
    exact hclean
  have hreplay : Commits (replayRoomCreation payload.requestId roomId label
      (requestHash roomId label) authority) t
      (some { commit with
        deduplicated := true
        events := []
        serverId := authority.serverId
        authorityLineageId := authority.authorityLineageId }) t := by
    unfold replayRoomCreation
    refine commits_bind.mpr ⟨_, t, commits_read.mpr ⟨rfl, rfl⟩, ?_⟩
    rw [hstored]
    refine commits_bind.mpr ⟨(), t, commits_require.mpr ⟨rfl, rfl⟩, ?_⟩
    refine commits_bind.mpr ⟨_, t, commits_ofResult.mpr ⟨hdecode, rfl⟩, ?_⟩
    refine commits_bind.mpr ⟨(), t, commits_require.mpr ⟨⟨hnew, hroom, hkept⟩, rfl⟩, ?_⟩
    exact commits_pure.mpr ⟨rfl, rfl⟩
  unfold createRoom createRoomForLocalOperator createRoomInTransaction
  refine commits_bind.mpr ⟨roomId, t,
    commits_ofResult.mpr ⟨Result.mapError_eq_ok.mpr hroomId, rfl⟩, ?_⟩
  refine commits_bind.mpr ⟨(), t, commits_require.mpr ⟨huuid, rfl⟩, ?_⟩
  refine commits_bind.mpr ⟨authority, t,
    commits_requireCompleteBootstrap.mpr ⟨hauthority, rfl⟩, ?_⟩
  rw [← hlabel]
  refine commits_bind.mpr ⟨_, t, hreplay, ?_⟩
  exact commits_pure.mpr ⟨rfl, rfl⟩

/-! ## Later states -/

/-- What happens to the directory: a creation, or anything else. -/
inductive Op
  | create (payload : CreateRoomRequest) (now : Nat)
  | elsewhere

/-- No other operation touches the stored results or undoes the bootstrap. -/
def Step : Op → RoomDirectory → RoomDirectory → Prop
  | .create payload now, s, t => ∃ commit, Commits (createRoom payload now) s commit t
  | .elsewhere, s, t => t.createResults = s.createResults ∧
      ∀ authority, s.bootstrap = .complete authority → t.bootstrap = .complete authority

/-- The stored result of a request, under a completed bootstrap. -/
def Remembers (requestId : String) (row : String × RoomCreateCommit)
    (authority : LocalBootstrapStatus) (s : RoomDirectory) : Prop :=
  s.bootstrap = .complete authority ∧
    s.createResults.lookup (localOperatorUserId, requestId) = some row

theorem step_remembers {requestId : String} {row : String × RoomCreateCommit}
    {authority : LocalBootstrapStatus} {op : Op} {s t : RoomDirectory}
    (hs : Remembers requestId row authority s) (hstep : Step op s t) :
    Remembers requestId row authority t := by
  obtain ⟨hauthority, hrow⟩ := hs
  cases op with
  | elsewhere =>
      obtain ⟨hsame, hkeep⟩ := hstep
      refine ⟨hkeep _ hauthority, ?_⟩
      rw [hsame]
      exact hrow
  | create payload now =>
      obtain ⟨commit, hcommit⟩ := hstep
      obtain ⟨roomId, other, -, -, -, hcase⟩ := commits_createRoom hcommit
      rcases hcase with ⟨rfl, -⟩ | hcreated
      · exact ⟨hauthority, hrow⟩
      · refine ⟨hcreated.bootstrap.trans hauthority, ?_⟩
        -- the new row is stored under a key that was free
        rw [hcreated.result, Table.lookup_insert_ite, if_neg]
        · exact hrow
        · intro hsame
          rw [hsame, hcreated.fresh] at hrow
          cases hrow

/-- The stored room agrees with its settings, and repeating its request at any later time
gives the same room again and changes nothing. -/
def CreatedOnce (payload : CreateRoomRequest) (commit : RoomCreateCommit)
    (s : RoomDirectory) : Prop :=
  (∃ settings, s.rooms.lookup commit.room.roomId = some (commit.room, settings) ∧
    decodeSettings settings = .ok settings ∧ commit.room.label = settings.label) ∧
  ∀ ops t, Run Step s ops t → ∀ now, ∃ again, Commits (createRoom payload now) t again t ∧
    again.room = commit.room ∧ again.deduplicated = true

/-- The settings keep the label the request asks for: its line is not cut right after a
space, or, without a label, the room id is itself a single line. -/
def keepsLabel (payload : CreateRoomRequest) : Bool :=
  if cleanSingleLine payload.label 128 = "" then
    cleanSingleLine (cleanIdentifier payload.roomId 128) 128 == cleanIdentifier payload.roomId 128
  else
    !cutAfterWord payload.label 128

omit [UpperCase] [PayloadHash] [UuidSource] in
theorem keepsLabel_iff {payload : CreateRoomRequest} {roomId : String}
    (h : validateRoomId payload.roomId = .ok roomId) :
    cleanSingleLine (requestedLabel payload roomId) 128 = requestedLabel payload roomId ↔
      keepsLabel payload = true := by
  unfold requestedLabel keepsLabel
  rw [validateRoomId_ok h]
  dsimp only
  by_cases hempty : cleanSingleLine payload.label 128 = ""
  · rw [if_pos hempty, if_pos hempty, beq_iff_eq]
  · rw [if_neg hempty, if_neg hempty, cleanSingleLine_fixed_iff]
    simp

/-- A committed creation of a new room can be repeated exactly when the settings keep its
label. -/
theorem room_created_once_iff {payload : CreateRoomRequest} {now : Nat} {s s' : RoomDirectory}
    {commit : RoomCreateCommit} (h : Commits (createRoom payload now) s commit s')
    (hnew : commit.deduplicated = false) :
    CreatedOnce payload commit s' ↔ keepsLabel payload = true := by
  obtain ⟨roomId, authority, hroomId, huuid, hauthority, hcase⟩ := commits_createRoom h
  rcases hcase with ⟨-, hdedup⟩ | hcreated
  · rw [hnew] at hdedup
    cases hdedup
  rw [← keepsLabel_iff hroomId]
  constructor
  · rintro ⟨⟨settings, hrow, -, hagree⟩, -⟩
    rw [hcreated.roomId, hcreated.row] at hrow
    obtain ⟨-, rfl⟩ := Prod.mk.inj (Option.some.inj hrow)
    rw [hcreated.label, hcreated.settings] at hagree
    exact hagree.symm
  · intro hclean
    have hremembers : Remembers payload.requestId
        (requestHash roomId (requestedLabel payload roomId), commit) authority s' := by
      refine ⟨hcreated.bootstrap.trans hauthority, ?_⟩
      rw [hcreated.result]
      exact AList.lookup_insert _
    refine ⟨⟨commit.settings, ?_, ?_, ?_⟩, ?_⟩
    · rw [hcreated.roomId]
      exact hcreated.row
    · rw [hcreated.settings]
      refine Result.mapError_eq_ok.mpr (validateSettings_defaults ?_)
      exact cleanSingleLine_clean (length_requestedLabel_le hroomId)
    · rw [hcreated.label, hcreated.settings]
      exact hclean.symm
    · intro ops t hrun later
      have hsteps : ∀ op u v, Remembers payload.requestId
          (requestHash roomId (requestedLabel payload roomId), commit) authority u →
          Step op u v → Remembers payload.requestId
          (requestHash roomId (requestedLabel payload roomId), commit) authority v :=
        fun _ _ _ hs hstep => step_remembers hs hstep
      obtain ⟨hcomplete, hstored⟩ := hrun.invariant hsteps hremembers
      exact ⟨_, createRoom_replays hroomId huuid hcomplete rfl hclean hcreated.settings
        hcreated.roomId hnew hstored, rfl, rfl⟩

end Creation

namespace Sample

scoped instance : UpperCase where
  toUppercase c := [c.toUpper]

scoped instance : PayloadHash where
  canonicalPayloadHash
    | .object [(_, .string roomId), (_, .string label)] => roomId ++ "/" ++ label
    | _ => ""

scoped instance : UuidSource where
  newV4 := unaryUuid
  newV4_injective := unaryUuid_injective
  newV4_ne_empty := unaryUuid_ne_empty
  isUuid _ := true

/-- A bootstrapped directory without rooms. -/
def emptyDirectory : RoomDirectory :=
  { bootstrap := .complete ⟨"server", "lineage"⟩
    profile := some ⟨localOperatorParticipantId, 1, "Operator", ""⟩
    rooms := ∅
    publicationCursors := ∅
    participants := ∅
    events := ∅
    createResults := ∅
    uuids := 0 }

/-- The commit of a request in the empty directory, with the state it leaves. -/
def created (payload : CreateRoomRequest) : Option (RoomCreateCommit × RoomDirectory) :=
  ((createRoom payload 0).run emptyDirectory).toOption

theorem commits_created {payload : CreateRoomRequest}
    (h : (created payload).any (fun result => !result.1.deduplicated) = true) :
    ∃ commit s, Commits (createRoom payload 0) emptyDirectory commit s ∧
      commit.deduplicated = false := by
  unfold created at h
  cases hrun : (createRoom payload 0).run emptyDirectory with
  | error e =>
      rw [hrun] at h
      cases h
  | ok result =>
      rw [hrun] at h
      exact ⟨result.1, result.2, hrun, by simpa [Except.toOption] using h⟩

end Sample

open Sample in
/-- A labelled room can be created again. -/
theorem labelled_room_created_once :
    ∃ commit s, CreatedOnce ⟨"request", "lobby", " Team  Room "⟩ commit s := by
  obtain ⟨commit, s, hcommit, hnew⟩ :
      ∃ commit s, Commits (createRoom ⟨"request", "lobby", " Team  Room "⟩ 0) emptyDirectory
        commit s ∧ commit.deduplicated = false :=
    commits_created (by decide +kernel)
  exact ⟨commit, s, (room_created_once_iff hcommit hnew).mpr (by decide +kernel)⟩

open Sample in
/-- A room named only by an id with two spaces disagrees with its settings. -/
theorem spaced_room_id_breaks_creation :
    ¬ ∀ payload now s commit s', Commits (createRoom payload now) s commit s' →
      commit.deduplicated = false → CreatedOnce payload commit s' := by
  intro hclaim
  obtain ⟨commit, s, hcommit, hnew⟩ :
      ∃ commit s, Commits (createRoom ⟨"request", "a  b", ""⟩ 0) emptyDirectory
        commit s ∧ commit.deduplicated = false :=
    commits_created (by decide +kernel)
  obtain ⟨roomId, authority, hroomId, -, -, hcase⟩ := commits_createRoom hcommit
  obtain ⟨⟨settings, hrow, -, hagree⟩, -⟩ := hclaim _ _ _ _ _ hcommit hnew
  rcases hcase with ⟨-, hdedup⟩ | hcreated
  · rw [hnew] at hdedup
    cases hdedup
  · rw [hcreated.roomId, hcreated.row] at hrow
    obtain ⟨-, rfl⟩ := Prod.mk.inj (Option.some.inj hrow)
    rw [hcreated.label, hcreated.settings] at hagree
    have hspaced := (keepsLabel_iff hroomId).mp hagree.symm
    exact absurd hspaced (by decide +kernel)

end AgentsAssemble.Directory
