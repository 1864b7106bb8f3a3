import AgentsAssemble.Appearance.Assets
import Mathlib.Data.List.Dedup

/-!
# Transitions of references

What an update of the settings does to the assets: every reference of the new settings is bound
to the room, every reference that they drop is gone, and no other asset is touched.
-/

namespace AgentsAssemble.Appearance

open Foundation Tx
open Directory (RoomAppearance RoomSettings UpperCase decodeSettings localOperatorUserId
  roomAppearanceAssetId validateSettings)
open Persistence (PersistenceError)

/-! ## References -/

/-- The assets that an appearance refers to. -/
def references (appearance : RoomAppearance) : List String :=
  [appearance.bannerImageUrl, appearance.iconImageUrl].filterMap roomAppearanceAssetId

theorem mem_treeSet {ids : List String} {id : String} : id ∈ treeSet ids ↔ id ∈ ids := by
  unfold treeSet
  rw [List.mem_insertionSort, List.mem_dedup]

theorem nodup_treeSet (ids : List String) : (treeSet ids).Nodup := by
  unfold treeSet
  rw [(List.perm_insertionSort _ _).nodup_iff]
  exact List.nodup_dedup ids

theorem roomAppearanceAssetId_empty : roomAppearanceAssetId "" = none := by decide

/-- The ids that the source collects are the references. -/
theorem mem_appearanceAssetIds {appearance : RoomAppearance} {ids : List String}
    (h : appearanceAssetIds appearance = .ok ids) {id : String} :
    id ∈ ids ↔ id ∈ references appearance := by
  unfold appearanceAssetIds at h
  obtain ⟨collected, hcollected, h⟩ := Result.bind_eq_ok.mp h
  obtain rfl := Result.pure_eq_ok.mp h
  have hnames := Result.mapM_eq_ok.mp hcollected
  rw [mem_treeSet, references, List.mem_filterMap]
  constructor
  · intro hid
    obtain ⟨url, hurl, hname⟩ := Result.forall₂_mem_right hnames hid
    refine ⟨url, (List.mem_filter.mp hurl).1, ?_⟩
    split at hname
    · rename_i id' hid'
      rw [hid', Except.ok.inj hname]
    · cases hname
  · rintro ⟨url, hurl, hid⟩
    have hvisible : url ≠ "" := by
      rintro rfl
      rw [roomAppearanceAssetId_empty] at hid
      cases hid
    obtain ⟨id', hid', hname⟩ := Result.forall₂_mem_left hnames
      (List.mem_filter.mpr ⟨hurl, decide_eq_true hvisible⟩)
    rw [hid] at hname
    rwa [Except.ok.inj hname]

theorem nodup_appearanceAssetIds {appearance : RoomAppearance} {ids : List String}
    (h : appearanceAssetIds appearance = .ok ids) : ids.Nodup := by
  unfold appearanceAssetIds at h
  obtain ⟨collected, -, h⟩ := Result.bind_eq_ok.mp h
  rw [← Result.pure_eq_ok.mp h]
  exact nodup_treeSet collected

/-! ## One reference -/

section Transitions

variable {s t : AppearanceStore} {roomId assetId : String} {currentIds : List String} {now : Nat}
  {u : Unit}

/-- The store but for its assets. -/
def AppearanceStore.rest (s : AppearanceStore) : AppearanceStore :=
  { s with assets := ∅ }

/-- An asset of the room that stands or, where it is no reference yet, is pending unexpired
under the operator. -/
structure Bindable (asset : AppearanceAsset) (roomId : String) (now : Nat) (stands : Prop) :
    Prop where
  room : asset.roomId = roomId
  custody : asset.custody = .bound ∧ stands ∨ ¬stands ∧ ∃ expiresAt,
    asset.custody = .pending localOperatorUserId expiresAt ∧ timestampOf now < expiresAt

/-- What binding does to the row of an id. -/
def BoundTo (roomId : String) (currentIds : List String) (now : Nat) (assetId : String)
    (row row' : Option AppearanceAsset) : Prop :=
  ∃ asset, row = some asset ∧ Bindable asset roomId now (assetId ∈ currentIds) ∧
    row' = some asset.bind

theorem bind_of_bound {asset : AppearanceAsset} (h : asset.custody = .bound) :
    asset.bind = asset := by
  unfold AppearanceAsset.bind
  rw [← h]

theorem currentManagerUserId_eq_ok {host : Pairing.Host} {manager : String}
    (h : currentManagerUserId host roomId = .ok manager) : manager = localOperatorUserId := by
  unfold currentManagerUserId resolveRoomUserIdentity at h
  obtain ⟨identity, hidentity, h⟩ := Result.bind_eq_ok.mp h
  obtain ⟨bootstrap, -, h⟩ := Result.bind_eq_ok.mp h
  obtain ⟨⟨room, participant⟩, -, hidentity⟩ := Result.bind_eq_ok.mp hidentity
  obtain ⟨-, hidentity⟩ := Result.check_eq_ok.mp hidentity
  obtain ⟨profile, -, hidentity⟩ := Result.bind_eq_ok.mp hidentity
  rw [← Result.pure_eq_ok.mp h, ← Result.pure_eq_ok.mp hidentity]

theorem bindReference_spec (h : Commits (bindReference roomId currentIds now assetId) s u t) :
    t.rest = s.rest ∧
      BoundTo roomId currentIds now assetId (s.assets.lookup assetId) (t.assets.lookup assetId) ∧
      ∀ other, other ≠ assetId → t.assets.lookup other = s.assets.lookup other := by
  unfold bindReference at h
  simp only [commits_bind, commits_read, commits_orReject, commits_ofResult] at h
  obtain ⟨_, _, ⟨rfl, rfl⟩, asset, _, ⟨hfound, rfl⟩, _, _, ⟨-, rfl⟩, h⟩ := h
  obtain ⟨hstored, hroom⟩ := Option.filter_eq_some_iff.mp hfound
  cases hcustody : asset.custody with
  | bound =>
      rw [hcustody] at h
      obtain ⟨hstands, rfl⟩ := commits_require.mp h
      refine ⟨rfl, ⟨asset, hstored, ⟨beq_iff_eq.mp hroom, Or.inl ⟨hcustody, hstands⟩⟩, ?_⟩,
        fun _ _ => rfl⟩
      rw [bind_of_bound hcustody, hstored]
  | pending owner expiresAt =>
      rw [hcustody] at h
      simp only [commits_bind, commits_read, commits_require, commits_ofResult,
        commits_write] at h
      obtain ⟨_, _, ⟨hnew, rfl⟩, _, _, ⟨rfl, rfl⟩, manager, _, ⟨hmanager, rfl⟩, _, _,
        ⟨⟨rfl, hunexpired⟩, rfl⟩, rfl⟩ := h
      obtain rfl := currentManagerUserId_eq_ok hmanager
      refine ⟨rfl, ⟨asset, hstored, ⟨beq_iff_eq.mp hroom,
        Or.inr ⟨hnew, expiresAt, hcustody, hunexpired⟩⟩, ?_⟩, ?_⟩
      · rw [Table.lookup_update, hstored, Option.map_some, if_pos (beq_self_eq_true assetId)]
      · intro other hother
        rw [Table.lookup_update]
        cases hrow : AList.lookup other _ with
        | none => rfl
        | some row => rw [Option.map_some, if_neg (by simpa using hother)]

/-- What releasing does to the row of an id. -/
def Released (roomId : String) (row row' : Option AppearanceAsset) : Prop :=
  (∃ asset, row = some asset ∧ asset.roomId = roomId ∧ asset.custody = .bound) ∧ row' = none

theorem releaseReference_spec (h : Commits (releaseReference roomId assetId) s u t) :
    t.rest = s.rest ∧ Released roomId (s.assets.lookup assetId) (t.assets.lookup assetId) ∧
      ∀ other, other ≠ assetId → t.assets.lookup other = s.assets.lookup other := by
  unfold releaseReference at h
  simp only [commits_bind, commits_read, commits_require, commits_write] at h
  obtain ⟨_, _, ⟨rfl, rfl⟩, _, _, ⟨hbound, rfl⟩, rfl⟩ := h
  obtain ⟨asset, hstored, hasset⟩ := (Option.any_eq_true _ _).mp hbound
  rw [Bool.and_eq_true, beq_iff_eq, decide_eq_true_eq] at hasset
  refine ⟨rfl, ⟨⟨asset, hstored, hasset⟩, ?_⟩, ?_⟩
  · rw [Table.lookup_erase_ite, if_pos rfl]
  · intro other hother
    rw [Table.lookup_erase_ite, if_neg hother]

/-! ## The transition -/

/-- The assets after a room moved from one appearance to another. -/
structure Transits (assets : Table String AppearanceAsset) (roomId : String)
    (current next : RoomAppearance) (now : Nat) (assets' : Table String AppearanceAsset) :
    Prop where
  bound : ∀ id ∈ references next, ∃ asset, assets.lookup id = some asset ∧
    Bindable asset roomId now (id ∈ references current) ∧ assets'.lookup id = some asset.bind
  released : ∀ id ∈ references current, id ∉ references next → assets'.lookup id = none
  others : ∀ id, id ∉ references current → id ∉ references next →
    assets'.lookup id = assets.lookup id

theorem transits_of_commits {current next : RoomAppearance}
    (hcurrent : ∀ id ∈ references current, ∃ asset, s.assets.lookup id = some asset ∧
      asset.roomId = roomId ∧ asset.custody = .bound)
    (h : Commits (transitionRoomAppearanceReferences roomId current next now) s u t) :
    t.rest = s.rest ∧ Transits s.assets roomId current next now t.assets := by
  unfold transitionRoomAppearanceReferences at h
  simp only [commits_bind, commits_ofResult] at h
  obtain ⟨currentIds, _, ⟨hcurrentIds, rfl⟩, nextIds, _, ⟨hnextIds, rfl⟩, h⟩ := h
  split at h
  · rename_i hsame
    obtain ⟨-, rfl⟩ := commits_pure.mp h
    -- the references stay the same, so that what they name stands
    have hreferences : references next = references current := by
      unfold references
      rw [hsame.1, hsame.2]
    refine ⟨rfl, ?_, ?_, fun _ _ _ => rfl⟩
    · intro id hid
      rw [hreferences] at hid
      obtain ⟨asset, hstored, hroom, hbound⟩ := hcurrent id hid
      exact ⟨asset, hstored, ⟨hroom, Or.inl ⟨hbound, hid⟩⟩, by rw [bind_of_bound hbound, hstored]⟩
    · intro id hid hdropped
      rw [hreferences] at hdropped
      exact absurd hid hdropped
  · simp only [commits_bind, commits_pure] at h
    obtain ⟨_, middle, hbinds, _, _, hreleases, -, rfl⟩ := h
    obtain ⟨hrest, hbinds, hunbound⟩ := each_keyed (r := fun s id => s.assets.lookup id)
      (g := AppearanceStore.rest) (D := fun id => BoundTo roomId currentIds now id)
      (fun id s u t hcommits => bindReference_spec hcommits)
      (nodup_appearanceAssetIds hnextIds) hbinds
    obtain ⟨hrest', hreleases, hkept⟩ := each_keyed (r := fun s id => s.assets.lookup id)
      (g := AppearanceStore.rest) (D := fun _ => Released roomId)
      (fun id s u t hcommits => releaseReference_spec hcommits)
      ((nodup_appearanceAssetIds hcurrentIds).filter _) hreleases
    refine ⟨hrest'.trans hrest, ?_, ?_, ?_⟩
    · intro id hid
      have hnext := (mem_appearanceAssetIds hnextIds).mpr hid
      obtain ⟨asset, hstored, hbindable, hbind⟩ := hbinds id hnext
      refine ⟨asset, hstored, ⟨hbindable.room, ?_⟩, ?_⟩
      · rw [← mem_appearanceAssetIds hcurrentIds]
        exact hbindable.custody
      · rw [hkept id fun hfiltered => of_decide_eq_true (List.mem_filter.mp hfiltered).2 hnext]
        exact hbind
    · intro id hid hdropped
      refine (hreleases id (List.mem_filter.mpr ⟨?_, decide_eq_true ?_⟩)).2
      · exact (mem_appearanceAssetIds hcurrentIds).mpr hid
      · exact fun hnext => hdropped ((mem_appearanceAssetIds hnextIds).mp hnext)
    · intro id hcurrentId hnextId
      rw [hkept id fun hfiltered => hcurrentId ((mem_appearanceAssetIds hcurrentIds).mp
        (List.mem_filter.mp hfiltered).1)]
      exact hunbound id fun hnext => hnextId ((mem_appearanceAssetIds hnextIds).mp hnext)

/-! ## Updates -/

theorem requireChannel_same {current : List Directory.RoomChannel}
    {channel : Directory.RoomChannel}
    (h : Commits (requireChannel roomId current channel) s u t) : t = s := by
  unfold requireChannel at h
  split at h
  · exact (commits_require.mp h).2
  · simp only [commits_bind, commits_read, commits_require] at h
    obtain ⟨_, _, ⟨-, rfl⟩, -, rfl⟩ := h
    rfl

/-- What the tables of the commands leave alone. -/
def AppearanceStore.core (s : AppearanceStore) : AppearanceStore :=
  { s with commands := ⟨∅, [], [], false, ∅, ∅, [], (0, 0)⟩ }

theorem AppearanceStore.core_eq (h : t.core = s.core) :
    t.settings = s.settings ∧ t.assets = s.assets ∧ t.uuids = s.uuids := by
  obtain ⟨-, hsettings, hassets, -, huuids⟩ := AppearanceStore.mk.inj h
  exact ⟨hsettings, hassets, huuids⟩

theorem AppearanceStore.rest_eq (h : t.rest = s.rest) :
    t.settings = s.settings ∧ t.uuids = s.uuids := by
  obtain ⟨-, hsettings, -, -, huuids⟩ := AppearanceStore.mk.inj h
  exact ⟨hsettings, huuids⟩

theorem transitionChannels_core {current next : List Directory.RoomChannel}
    (h : Commits (transitionChannels roomId current next) s u t) : t.core = s.core := by
  unfold transitionChannels at h
  split at h
  · obtain ⟨-, rfl⟩ := commits_pure.mp h
    rfl
  · simp only [commits_bind, commits_write] at h
    obtain ⟨_, middle, hchecks, rfl⟩ := h
    have hsame : middle = s := by
      refine each_invariant (I := fun store => store = s) ?_ rfl hchecks
      intro channel _ s' b t' hs' hcommits
      exact (requireChannel_same hcommits).trans hs'
    rw [hsame]
    rfl

theorem reserveRoomWriteBudget_core {payloadBytes : Nat}
    (h : Commits (reserveRoomWriteBudget roomId payloadBytes now) s u t) : t.core = s.core := by
  unfold reserveRoomWriteBudget at h
  simp only [commits_bind, commits_read, commits_require, commits_write] at h
  obtain ⟨_, _, rfl, _, _, ⟨rfl, rfl⟩, _, _, ⟨-, rfl⟩, rfl⟩ := h
  rfl

/-- A command is repeated without a change, or admitted under its room's budget. -/
theorem admitNonLifecycleCommand_spec {key : String × String × String}
    {action payloadHash : String} {payloadBytes : Nat} {outcome : Option SettingsCommit}
    (h : Commits (admitNonLifecycleCommand key action payloadHash payloadBytes now) s outcome t) :
    (∃ commit, outcome = some commit ∧ commit.deduplicated = true ∧ t = s) ∨
      outcome = none ∧ t.core = s.core := by
  unfold admitNonLifecycleCommand existingCommand at h
  simp only [commits_bind, commits_read, commits_require] at h
  obtain ⟨found, _, ⟨_, _, ⟨rfl, rfl⟩, _, _, ⟨-, rfl⟩, hfound⟩, _, _, ⟨rfl, rfl⟩, _, _,
    ⟨-, rfl⟩, h⟩ := h
  split at hfound
  · obtain ⟨rfl, rfl⟩ := commits_pure.mp hfound
    dsimp only at h
    simp only [commits_bind, commits_read, commits_require, commits_pure] at h
    obtain ⟨_, _, ⟨rfl, rfl⟩, _, _, ⟨-, rfl⟩, _, _, hbudget, rfl, rfl⟩ := h
    exact Or.inr ⟨rfl, reserveRoomWriteBudget_core hbudget⟩
  · simp only [commits_bind, commits_require, commits_pure] at hfound
    obtain ⟨_, _, ⟨-, rfl⟩, rfl, rfl⟩ := hfound
    obtain ⟨rfl, rfl⟩ := commits_pure.mp h
    exact Or.inl ⟨_, rfl, rfl, rfl⟩

end Transitions

end AgentsAssemble.Appearance
