import AgentsAssemble.Appearance.Custody
import AgentsAssemble.Foundation.Transition

/-!
# Appearance references: runs

Over every run: the assets that are bound to a room are the ones that its settings refer to, an
update that refers to anything else changes nothing, and a reference that was dropped is gone.
-/

namespace AgentsAssemble.Appearance

open Foundation Tx
open Domain.CanonicalJson (DoubleText Sha256 canonicalPayloadHash)
open Directory (Participant Room RoomAppearance RoomSettings RoomSettingsError UpperCase UserProfile
  localOperatorParticipantId localOperatorUserId)
open Pairing (Host RoomPrincipal RoomUserIdentity)
open Persistence (PersistenceError UuidSource unaryUuid unaryUuid_injective unaryUuid_ne_empty)

/-! ## Operations -/

inductive AppearanceOp
  | upload (authority : Except PersistenceError RoomUserIdentity)
      (prepared : Except PersistenceError CanonicalRaster)
  | readPending (authority : Except PersistenceError RoomUserIdentity) (assetId : String)
  | update (authority : Except PersistenceError RoomPrincipal) (requestId : String)
      (payload : Json)
  | createRoom (room : Room)
  | changeHost (host : Host)
  | changeCommands (commands : CommandTables)

inductive AppearanceOutcome
  | uploaded (metadata : RoomAppearanceAssetMetadata)
  | read (asset : Except PersistenceError AppearanceAsset)
  | updated (commit : SettingsCommit)
  | changed

/-- An operation at an instant, with its outcome. -/
structure AppearanceLabel where
  op : AppearanceOp
  now : Nat
  outcome : Except PersistenceError AppearanceOutcome

section Runs

variable [DoubleText] [Sha256] [UpperCase] [SimpleUuidSource] {s t : AppearanceStore} {now : Nat}

def perform (op : AppearanceOp) (now : Nat) : AppearanceTx AppearanceOutcome :=
  match op with
  | .upload authority prepared =>
      .uploaded <$> storePendingRoomAppearanceAsset authority prepared now
  | .readPending authority assetId =>
      .read <$> pendingRoomAppearanceAsset authority assetId now
  | .update authority requestId payload =>
      .updated <$> executeRoomSettingsUpdate authority requestId payload now
  | .createRoom room => (fun _ => .changed) <$> createRoom room
  | .changeHost host => (fun _ => .changed) <$> changeHost host
  | .changeCommands commands => (fun _ => .changed) <$> changeCommands commands

/-- One operation, at any instant. -/
def Step (label : AppearanceLabel) (s t : AppearanceStore) : Prop :=
  match label.outcome with
  | .ok outcome => Commits (perform label.op label.now) s outcome t
  | .error error => Rejects (perform label.op label.now) s error ∧ t = s

/-! ## What a commit did -/

omit [DoubleText] [Sha256] [UpperCase] in
theorem commits_drawSimpleUuid {id : String} (h : Commits drawSimpleUuid s id t) :
    id = SimpleUuidSource.simple s.uuids ∧ t = { s with uuids := s.uuids + 1 } := by
  obtain ⟨hid, hstore⟩ := Prod.mk.inj (Except.ok.inj h)
  exact ⟨hid.symm, hstore.symm⟩

omit [DoubleText] [Sha256] [UpperCase] [SimpleUuidSource] in
theorem enforceStorage_same {newSize : Nat} {u : Unit}
    (h : Commits (enforceStorage newSize) s u t) : t = s := by
  unfold enforceStorage at h
  simp only [commits_bind, commits_require, commits_read] at h
  obtain ⟨_, _, ⟨-, rfl⟩, _, _, ⟨-, rfl⟩, _, _, ⟨-, rfl⟩, -, rfl⟩ := h
  rfl

omit [DoubleText] [Sha256] [UpperCase] [SimpleUuidSource] in
theorem insertAsset_spec {assetId owner : String} {asset : AppearanceAsset} {u : Unit}
    (h : Commits (insertAsset assetId asset owner) s u t) :
    s.assets.lookup assetId = none ∧ t = { s with assets := s.assets.insert assetId asset } := by
  unfold insertAsset at h
  simp only [commits_bind, commits_require, commits_read, commits_write] at h
  obtain ⟨_, _, ⟨rfl, rfl⟩, _, _, ⟨hnone, rfl⟩, _, _, ⟨-, rfl⟩, _, _, ⟨rfl, rfl⟩, _, _, ⟨-, rfl⟩,
    _, _, ⟨rfl, rfl⟩, _, _, ⟨-, rfl⟩, rfl⟩ := h
  exact ⟨hnone, rfl⟩

omit [DoubleText] [Sha256] [UpperCase] in
theorem uploads_of_commits {authority : Except PersistenceError RoomUserIdentity}
    {prepared : Except PersistenceError CanonicalRaster}
    {metadata : RoomAppearanceAssetMetadata}
    (h : Commits (storePendingRoomAppearanceAsset authority prepared now) s metadata t) :
    Uploads (swept s (timestampOf now)) t := by
  unfold storePendingRoomAppearanceAsset deleteExpiredPending at h
  simp only [commits_bind, commits_ofResult, commits_write, commits_pure] at h
  obtain ⟨canonical, _, ⟨-, rfl⟩, manager, _, ⟨-, rfl⟩, _, _, rfl, _, _, hstorage, id, _, hid,
    _, _, hinsert, -, rfl⟩ := h
  obtain rfl := enforceStorage_same hstorage
  obtain ⟨rfl, rfl⟩ := commits_drawSimpleUuid hid
  obtain ⟨hnone, rfl⟩ := insertAsset_spec hinsert
  refine ⟨rfl, rfl, _, ?_, hnone, rfl⟩
  intro hbound
  cases hbound

omit [DoubleText] [Sha256] [UpperCase] [SimpleUuidSource] in
theorem swept_of_commits {authority : Except PersistenceError RoomUserIdentity}
    {assetId : String} {answer : Except PersistenceError AppearanceAsset}
    (h : Commits (pendingRoomAppearanceAsset authority assetId now) s answer t) :
    t = swept s (timestampOf now) := by
  unfold pendingRoomAppearanceAsset deleteExpiredPending at h
  simp only [commits_bind, commits_ofResult, commits_write, commits_require, commits_read] at h
  obtain ⟨_, _, ⟨-, rfl⟩, manager, _, ⟨-, rfl⟩, _, _, rfl, _, _, ⟨rfl, rfl⟩, h⟩ := h
  split at h
  · exact (commits_pure.mp h).2
  · split at h
    · exact (commits_pure.mp h).2
    · split at h
      · simp only [commits_bind, commits_ofResult, commits_pure] at h
        obtain ⟨_, _, ⟨-, rfl⟩, -, rfl⟩ := h
        rfl
      · exact (commits_pure.mp h).2

omit [UpperCase] [DoubleText] [Sha256] in
theorem commits_drawUuid {id : String} (h : Commits drawUuid s id t) :
    t = { s with uuids := s.uuids + 1 } :=
  (Prod.mk.inj (Except.ok.inj h)).2.symm

omit [UpperCase] [DoubleText] [Sha256] [SimpleUuidSource] in
theorem nextSequence_same {roomId : String} {seq : Nat}
    (h : Commits (nextSequence roomId) s seq t) : t = s := by
  unfold nextSequence at h
  simp only [commits_bind, commits_read, commits_pure] at h
  obtain ⟨_, _, ⟨-, rfl⟩, -, rfl⟩ := h
  rfl

/-- An update that was admitted replaced the settings. -/
theorem updates_of_apply {principal : RoomPrincipal} {room : Room} {requestId : String}
    {payload : Json} {commit : SettingsCommit}
    (hbound : ∀ roomId assetId, Refers s roomId assetId ↔ Bound s roomId assetId)
    (h : Commits (applySettingsUpdate principal room requestId payload now) s commit t) :
    Updates s principal.roomId payload now t ∧ commit.deduplicated = false := by
  unfold applySettingsUpdate at h
  simp only [commits_bind, commits_read, commits_orReject, commits_ofResult, commits_require,
    commits_write, commits_pure] at h
  obtain ⟨_, _, ⟨rfl, rfl⟩, stored, _, ⟨hstored, rfl⟩, current, _, ⟨hcurrent, rfl⟩,
    ⟨revision, next⟩, _, ⟨hupdate, rfl⟩, _, _, ⟨-, rfl⟩, _, channels, hchannels, _, moved, hmoved,
    seq, _, hseq, id, drawn, hdrawn, _, _, hwritten, hcommit, rfl⟩ := h
  obtain rfl := decodeSettings_eq_ok hcurrent
  obtain rfl := nextSequence_same hseq
  obtain ⟨hsettings, hassets, huuids⟩ := AppearanceStore.core_eq (transitionChannels_core hchannels)
  have hcurrentBound : ∀ assetId ∈ references current.appearance,
      ∃ asset, channels.assets.lookup assetId = some asset ∧ asset.roomId = principal.roomId ∧
        asset.custody = .bound := by
    intro assetId hid
    rw [hassets]
    exact (hbound principal.roomId assetId).mp ⟨current, hstored, hid⟩
  obtain ⟨hrest, htransits⟩ := transits_of_commits hcurrentBound hmoved
  obtain ⟨hsettings', huuids'⟩ := AppearanceStore.rest_eq hrest
  rw [hassets] at htransits
  rw [commits_drawUuid hdrawn] at hwritten
  rw [hwritten, hcommit]
  refine ⟨⟨?_, current, revision, next, hstored, Result.mapError_eq_ok.mp hupdate, ?_,
    htransits⟩, rfl⟩
  · exact (huuids'.trans huuids).ge.trans (Nat.le_succ _)
  · exact congrArg (AList.insert principal.roomId next) (hsettings'.trans hsettings)

/-- A committed update repeats an earlier one or replaces the settings. -/
theorem updates_of_commits {authority : Except PersistenceError RoomPrincipal} {requestId : String}
    {payload : Json} {commit : SettingsCommit}
    (hbound : ∀ roomId assetId, Refers s roomId assetId ↔ Bound s roomId assetId)
    (h : Commits (executeRoomSettingsUpdate authority requestId payload now) s commit t) :
    commit.deduplicated = true ∧ t = s ∨
      ∃ principal, authority = .ok principal ∧ Updates s principal.roomId payload now t ∧
        commit.deduplicated = false := by
  unfold executeRoomSettingsUpdate at h
  simp only [commits_bind, commits_ofResult, commits_read, commits_require] at h
  obtain ⟨principal, _, ⟨hauthority, rfl⟩, _, _, ⟨rfl, rfl⟩, ⟨room, participant⟩, _, ⟨-, rfl⟩,
    _, _, ⟨-, rfl⟩, admitted, charged, hadmitted, h⟩ := h
  rcases admitNonLifecycleCommand_spec hadmitted with ⟨replay, rfl, hrepeated, rfl⟩ | ⟨rfl, hcore⟩
  · obtain ⟨rfl, rfl⟩ := commits_pure.mp h
    exact Or.inl ⟨hrepeated, rfl⟩
  · obtain ⟨hsettings, hassets, huuids⟩ := AppearanceStore.core_eq hcore
    have hcharged : ∀ roomId assetId, Refers charged roomId assetId ↔
        Bound charged roomId assetId := by
      unfold Refers Bound
      rw [hsettings, hassets]
      exact hbound
    obtain ⟨hupdates, hfresh⟩ := updates_of_apply hcharged h
    refine Or.inr ⟨principal, hauthority, ?_, hfresh⟩
    obtain ⟨stored, revision, next, hstored, hupdate, hreplaced, htransits⟩ := hupdates.settings
    rw [hsettings] at hstored hreplaced
    rw [hassets] at htransits
    exact ⟨huuids ▸ hupdates.uuids, stored, revision, next, hstored, hupdate, hreplaced, htransits⟩

omit [DoubleText] [Sha256] [UpperCase] [SimpleUuidSource] in
theorem references_defaults (label : String) :
    references (RoomSettings.defaults label).appearance = [] := by
  unfold references RoomSettings.defaults
  dsimp only
  rw [List.filterMap_cons_none roomAppearanceAssetId_empty,
    List.filterMap_cons_none roomAppearanceAssetId_empty, List.filterMap_nil]

omit [DoubleText] [Sha256] [UpperCase] [SimpleUuidSource] in
theorem founds_of_commits {room : Room} {u : Unit} (h : Commits (createRoom room) s u t) :
    Founds s t := by
  unfold createRoom at h
  simp only [commits_bind, commits_read, commits_require, commits_write] at h
  obtain ⟨_, _, ⟨rfl, rfl⟩, _, _, ⟨hnone, rfl⟩, rfl⟩ := h
  exact ⟨rfl, rfl, room.roomId, _, hnone, references_defaults room.label, rfl⟩

omit [DoubleText] [Sha256] [UpperCase] [SimpleUuidSource] in
theorem narrows_changeHost {host : Host} {u : Unit} (h : Commits (changeHost host) s u t) :
    Narrows s t := by
  obtain rfl := commits_write.mp h
  have hkept : ∀ {roomId}, (host.rooms.lookup roomId).isNone = false →
      (s.settings.eraseWhere fun roomId => (host.rooms.lookup roomId).isNone).lookup roomId =
        s.settings.lookup roomId := by
    intro roomId hroom
    rw [Table.lookup_eraseWhere, if_neg (Bool.eq_false_iff.mp hroom)]
  constructor
  case uuids => exact le_rfl
  case settings =>
    intro roomId settings hsettings
    rw [Table.lookup_eraseWhere] at hsettings
    split at hsettings
    · cases hsettings
    · exact hsettings
  case rows =>
    intro assetId asset hasset
    exact (Table.lookup_deleteWhere.mp hasset).1
  case bound =>
    intro assetId asset hasset hbound hstays
    refine Table.lookup_deleteWhere.mpr ⟨hasset, ?_⟩
    rw [hbound, Bool.or_false]
    rw [Table.lookup_eraseWhere] at hstays
    split at hstays
    · cases hstays
    · rename_i hroom
      exact Bool.eq_false_iff.mpr hroom
  case rooms =>
    intro assetId asset hasset
    exact hkept (Bool.or_eq_false_iff.mp (Table.lookup_deleteWhere.mp hasset).2).1

/-- What a committed operation did to the references and to the assets. -/
inductive Moves (s t : AppearanceStore) : Prop
  | narrowed (narrows : Narrows s t)
  | uploaded {middle : AppearanceStore} (narrows : Narrows s middle) (uploads : Uploads middle t)
  | updated {roomId : String} {payload : Json} {now : Nat}
      (updates : Updates s roomId payload now t)
  | founded (founds : Founds s t)

omit [DoubleText] [Sha256] [UpperCase] [SimpleUuidSource] in
theorem narrows_of_same (hsettings : t.settings = s.settings) (hassets : t.assets = s.assets)
    (huuids : t.uuids = s.uuids) : Narrows s t := by
  constructor
  case uuids => exact huuids.ge
  case settings => exact fun h => hsettings ▸ h
  case rows => exact fun h => hassets ▸ h
  case bound => exact fun h _ _ => hassets ▸ h
  case rooms => exact fun _ => by rw [hsettings]

theorem moves_of_commits {op : AppearanceOp} {outcome : AppearanceOutcome} (hs : Sound s)
    (h : Commits (perform op now) s outcome t) : Moves s t := by
  cases op with
  | upload authority prepared =>
      obtain ⟨metadata, hupload, -⟩ := commits_map.mp h
      exact .uploaded (narrows_swept s _) (uploads_of_commits hupload)
  | readPending authority assetId =>
      obtain ⟨answer, hread, -⟩ := commits_map.mp h
      obtain rfl := swept_of_commits hread
      exact .narrowed (narrows_swept s _)
  | update authority requestId payload =>
      obtain ⟨commit, hupdate, -⟩ := commits_map.mp h
      rcases updates_of_commits hs.bound hupdate with ⟨-, rfl⟩ | ⟨principal, -, hupdates, -⟩
      · exact .narrowed (narrows_of_same rfl rfl rfl)
      · exact .updated hupdates
  | createRoom room =>
      obtain ⟨_, hcreate, -⟩ := commits_map.mp h
      exact .founded (founds_of_commits hcreate)
  | changeHost host =>
      obtain ⟨_, hchange, -⟩ := commits_map.mp h
      exact .narrowed (narrows_changeHost hchange)
  | changeCommands commands =>
      obtain ⟨_, hchange, -⟩ := commits_map.mp h
      obtain rfl := commits_write.mp hchange
      exact .narrowed (narrows_of_same rfl rfl rfl)

omit [DoubleText] [Sha256] in
theorem Moves.preserves (h : Moves s t) (hs : Sound s) : Sound t ∧ Evolves s t := by
  cases h with
  | narrowed hnarrows => exact ⟨hnarrows.sound hs, hnarrows.evolves⟩
  | uploaded hnarrows huploads =>
      exact ⟨huploads.sound (hnarrows.sound hs), hnarrows.evolves.trans huploads.evolves⟩
  | updated hupdates => exact ⟨hupdates.sound hs, hupdates.evolves⟩
  | founded hfounds => exact ⟨hfounds.sound hs, hfounds.evolves⟩

theorem Step.preserves {label : AppearanceLabel} (h : Step label s t) (hs : Sound s) :
    Sound t ∧ Evolves s t := by
  unfold Step at h
  split at h
  · exact (moves_of_commits hs h).preserves hs
  · rw [h.2]
    exact ⟨hs, .refl s⟩

/-! ## Runs -/

theorem sound_of_run {labels : List AppearanceLabel} (hs : Sound s)
    (hrun : Run Step s labels t) : Sound t :=
  hrun.invariant (fun _ _ _ hs hstep => (hstep.preserves hs).1) hs

theorem evolves_of_run {labels : List AppearanceLabel} (hs : Sound s)
    (hrun : Run Step s labels t) : Evolves s t := by
  refine Run.relates (I := Sound) (R := Evolves) Evolves.refl ?_ ?_ ?_ hs hrun
  · intro a b c hab hbc
    exact hab.trans hbc
  · intro label a b ha hstep
    exact (hstep.preserves ha).1
  · intro label a b ha hstep
    exact (hstep.preserves ha).2

omit [DoubleText] [Sha256] [UpperCase] in
theorem sound_of_empty (hsettings : s.settings = ∅) (hassets : s.assets = ∅) : Sound s where
  bound := by
    intro roomId assetId
    unfold Refers Bound
    rw [hsettings, hassets]
    constructor
    · rintro ⟨settings, hroom, -⟩
      cases hroom
    · rintro ⟨asset, hasset, -⟩
      cases hasset
  drawn := by
    rw [hassets]
    intro assetId asset hasset
    cases hasset

/-- What a run leaves of its references for whoever asks next. -/
structure ReferencesKept (s : AppearanceStore) : Prop where
  /-- The assets bound to a room are the ones its settings refer to. -/
  bound : ∀ {roomId settings}, s.settings.lookup roomId = some settings →
    {assetId | Bound s roomId assetId} = {assetId | assetId ∈ references settings.appearance}
  /-- An update that refers to an asset that is not the room's to use changes nothing. -/
  refused : ∀ {principal requestId payload now settings revision next assetId commit t},
    s.settings.lookup principal.roomId = some settings →
    strictUpdate settings payload = .ok (revision, next) →
    assetId ∈ references next.appearance → ¬Usable s principal.roomId now assetId →
    Commits (executeRoomSettingsUpdate (.ok principal) requestId payload now) s commit t →
    commit.deduplicated = true ∧ t = s
  /-- An asset that a room let go is never referred to again, by no room. -/
  released : ∀ {labels labels' middle later roomId other assetId}, Run Step s labels middle →
    Run Step middle labels' later → Refers s roomId assetId → ¬Refers middle roomId assetId →
    ¬Refers later other assetId
  /-- A refused operation leaves the settings and the assets as they were. -/
  unchanged : ∀ {label t error}, Step label s t → label.outcome = .error error → t = s

theorem appearance_references_kept {start : AppearanceStore} {labels : List AppearanceLabel}
    (hsettings : start.settings = ∅) (hassets : start.assets = ∅)
    (hrun : Run Step start labels s) : ReferencesKept s := by
  have hs := sound_of_run (sound_of_empty hsettings hassets) hrun
  constructor
  case bound =>
    intro roomId settings hroom
    ext assetId
    show Bound s roomId assetId ↔ assetId ∈ references settings.appearance
    rw [← hs.bound]
    constructor
    · rintro ⟨found, hfound, hmem⟩
      rwa [Option.some.inj (hroom.symm.trans hfound)]
    · intro hmem
      exact ⟨settings, hroom, hmem⟩
  case refused =>
    intro principal requestId payload now settings revision next assetId commit t hroom hupdate
      hrefers hunusable hcommits
    rcases updates_of_commits hs.bound hcommits with hrepeated | ⟨resolved, hsame, hupdates, -⟩
    · exact hrepeated
    · obtain rfl := Except.ok.inj hsame
      obtain ⟨stored, revision', next', hstored, hupdate', -, htransits⟩ := hupdates.settings
      obtain rfl := Option.some.inj (hroom.symm.trans hstored)
      obtain ⟨rfl, rfl⟩ := Prod.mk.inj (Except.ok.inj (hupdate.symm.trans hupdate'))
      obtain ⟨asset, hasset, hbindable, -⟩ := htransits.bound assetId hrefers
      refine absurd ⟨asset, hasset, hbindable.room, ?_⟩ hunusable
      rcases hbindable.custody with ⟨hbound, -⟩ | ⟨-, hpending⟩
      · exact Or.inl hbound
      · exact Or.inr hpending
  case released =>
    intro labels labels' middle later roomId other assetId hmiddle hlater hrefers hdropped hagain
    have hms := sound_of_run hs hmiddle
    have hevolves := evolves_of_run hs hmiddle
    have hgone := hevolves.dropped hs hms hrefers hdropped
    obtain ⟨asset, hasset, -, -⟩ := (hs.bound roomId assetId).mp hrefers
    obtain ⟨n, hn, hdrawn⟩ := hs.drawn hasset
    have hgone' := (evolves_of_run hms hlater).gone (hn.trans_le hevolves.uuids) hdrawn hgone
    obtain ⟨asset', hasset', -, -⟩ := ((sound_of_run hms hlater).bound other assetId).mp hagain
    rw [hgone'] at hasset'
    cases hasset'
  case unchanged =>
    intro label t error hstep hrejected
    unfold Step at hstep
    rw [hrejected] at hstep
    exact hstep.2

end Runs

/-! ## A sample room -/

namespace AppearanceSample

scoped instance : UpperCase where
  toUppercase c := [c.toUpper]

theorem zero_isNumberToken : Foundation.JsonText.isNumberToken ['0', '.', '0'] = true := by
  decide

scoped instance : DoubleText where
  text _ := ['0', '.', '0']
  isNumberToken_text _ _ := zero_isNumberToken

scoped instance : Sha256 where
  digest _ := []

scoped instance : SimpleUuidSource where
  newV4 := unaryUuid
  newV4_injective := unaryUuid_injective
  newV4_ne_empty := unaryUuid_ne_empty
  isUuid _ := true
  simple n := String.ofList (List.replicate (n + 32) 'a')
  simple_injective m n h := by
    have hlength := congrArg List.length (String.ofList_inj.mp h)
    rw [List.length_replicate, List.length_replicate] at hlength
    exact Nat.add_right_cancel hlength

/-- A host whose operator waits for a room. -/
def host : Host :=
  { bootstrap := .complete ⟨"server", "lineage"⟩
    rooms := ∅
    participants :=
      (∅ : Table (String × String) Participant).insert ("lobby", localOperatorParticipantId)
        { roomId := "lobby"
          participantId := localOperatorParticipantId
          displayName := "Operator"
          avatarImageUrl := ""
          participantType := "human"
          status := .joined
          role := .human
          ownerId := localOperatorUserId
          muted := false
          createdAt := 0
          updatedAt := 0 }
    profiles := (∅ : Table String UserProfile).insert localOperatorUserId
      ⟨localOperatorParticipantId, 1, "Operator", ""⟩ }

def empty : AppearanceStore :=
  { host
    settings := ∅
    assets := ∅
    commands := ⟨∅, [], [], false, ∅, ∅, [], (0, 0)⟩
    uuids := 0 }

def operator : RoomPrincipal :=
  { principalId := localOperatorUserId
    participantId := localOperatorParticipantId
    displayName := "Operator"
    roomId := "lobby"
    clientKind := .browser
    inviteScope := .readWrite
    isOperator := true
    capabilities := .localOperator .browser .readWrite }

/-- The step an operation takes at an instant. -/
def take (op : AppearanceOp) (now : Nat) (s : AppearanceStore) :
    AppearanceLabel × AppearanceStore :=
  match (perform op now).run s with
  | .ok (outcome, t) => (⟨op, now, .ok outcome⟩, t)
  | .error error => (⟨op, now, .error error⟩, s)

theorem step_take {op : AppearanceOp} {now : Nat} {s : AppearanceStore}
    (taken : AppearanceLabel × AppearanceStore) (h : taken = take op now s) :
    Step taken.1 s taken.2 := by
  rw [h]
  unfold take Step
  cases hrun : (perform op now).run s with
  | ok result => exact hrun
  | error e => exact ⟨hrun, rfl⟩

/-- The room is created, a picture is uploaded, and the settings make it the icon. -/
def founded : AppearanceLabel × AppearanceStore :=
  take (.createRoom ⟨"lobby", "uid", "Lobby", .active, 0, 0⟩) 0 empty

def uploaded : AppearanceLabel × AppearanceStore :=
  take (.upload (.ok ⟨"lobby", localOperatorUserId, localOperatorParticipantId⟩)
    (.ok ⟨"icon.png", [0]⟩)) 1 founded.2

def icon : Json :=
  .object [("expected_revision", .string "room-settings-v1-"),
    ("appearance", .object [("icon_image_url",
      .string "/api/attachments/ra_aaaaaaaaaaaaaaaaaaaaaaaaaaaaaaaa?view=1")])]

def updated : AppearanceLabel × AppearanceStore :=
  take (.update (.ok operator) "request" icon) 2 uploaded.2

theorem updated_run :
    Run Step empty ([founded.1] ++ [uploaded.1] ++ [updated.1]) updated.2 := by
  have hfounded : Step founded.1 empty founded.2 := step_take founded rfl
  have huploaded : Step uploaded.1 founded.2 uploaded.2 := step_take uploaded rfl
  have htaken : updated = take (.update (.ok operator) "request" icon) 2 uploaded.2 := rfl
  generalize updated = taken at htaken ⊢
  have hupdated : Step taken.1 uploaded.2 taken.2 := step_take taken htaken
  exact Run.snoc (Run.snoc (Run.single hfounded) huploaded) hupdated

end AppearanceSample

open AppearanceSample in
/-- The picture that the settings made the icon is bound to the room. -/
theorem icon_bound_to_room :
    updated.1.outcome.isOk = true ∧ ReferencesKept updated.2 :=
  ⟨by decide +kernel, appearance_references_kept rfl rfl updated_run⟩

end AgentsAssemble.Appearance
