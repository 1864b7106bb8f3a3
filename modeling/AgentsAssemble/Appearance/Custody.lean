import AgentsAssemble.Appearance.Transitions

/-!
# Custody of appearance assets

A room refers to exactly the assets that are bound to it.  Operations delete assets that are not
bound, add pending ones under new ids, or move the assets of a room along with its settings; each
keeps the references and the custody in step, and no id comes back.
-/

namespace AgentsAssemble.Appearance

open Foundation Tx
open Directory (RoomAppearance RoomSettings UpperCase decodeSettings localOperatorUserId
  roomAppearanceAssetPrefix validateAppearance validateSettings)

/-! ## Stored settings -/

theorem validateAppearance_eq_ok [UpperCase] {raw appearance : RoomAppearance}
    (h : validateAppearance raw = .ok appearance) : appearance = raw := by
  unfold validateAppearance at h
  obtain ⟨_, -, h⟩ := Result.bind_eq_ok.mp h
  obtain ⟨-, h⟩ := Result.check_eq_ok.mp h
  obtain ⟨_, -, h⟩ := Result.bind_eq_ok.mp h
  obtain ⟨_, -, h⟩ := Result.bind_eq_ok.mp h
  obtain ⟨_, -, h⟩ := Result.bind_eq_ok.mp h
  obtain ⟨-, h⟩ := Result.check_eq_ok.mp h
  exact (Result.pure_eq_ok.mp h).symm

theorem validateSettings_eq_ok [UpperCase] {raw settings : RoomSettings}
    (h : validateSettings raw = .ok settings) : settings = raw := by
  unfold validateSettings at h
  obtain ⟨_, -, h⟩ := Result.bind_eq_ok.mp h
  obtain ⟨_, -, h⟩ := Result.bind_eq_ok.mp h
  obtain ⟨-, h⟩ := Result.check_eq_ok.mp h
  obtain ⟨-, h⟩ := Result.check_eq_ok.mp h
  obtain ⟨-, h⟩ := Result.check_eq_ok.mp h
  obtain ⟨_, -, h⟩ := Result.bind_eq_ok.mp h
  obtain ⟨appearance, happearance, h⟩ := Result.bind_eq_ok.mp h
  rw [← Result.pure_eq_ok.mp h, validateAppearance_eq_ok happearance]

theorem decodeSettings_eq_ok [UpperCase] {stored settings : RoomSettings}
    (h : decodeSettings stored = .ok settings) : settings = stored :=
  validateSettings_eq_ok (Result.mapError_eq_ok.mp h)

section Custody

variable [UpperCase] [SimpleUuidSource] {s t : AppearanceStore}

/-! ## References and custody -/

/-- The settings of the room refer to the asset. -/
def Refers (s : AppearanceStore) (roomId assetId : String) : Prop :=
  ∃ settings, s.settings.lookup roomId = some settings ∧
    assetId ∈ references settings.appearance

/-- The asset is bound to the room. -/
def Bound (s : AppearanceStore) (roomId assetId : String) : Prop :=
  ∃ asset, s.assets.lookup assetId = some asset ∧ asset.roomId = roomId ∧ asset.custody = .bound

/-- The asset can be referred to by the room: bound to it, or pending unexpired under the
operator. -/
def Usable (s : AppearanceStore) (roomId : String) (now : Nat) (assetId : String) : Prop :=
  ∃ asset, s.assets.lookup assetId = some asset ∧ asset.roomId = roomId ∧
    (asset.custody = .bound ∨ ∃ expiresAt,
      asset.custody = .pending localOperatorUserId expiresAt ∧ timestampOf now < expiresAt)

/-- The id of the n-th upload. -/
def assetIdOf (n : Nat) : String :=
  roomAppearanceAssetPrefix ++ SimpleUuidSource.simple n

/-- A room refers to exactly the assets that are bound to it, and every id was drawn. -/
structure Sound (s : AppearanceStore) : Prop where
  bound : ∀ roomId assetId, Refers s roomId assetId ↔ Bound s roomId assetId
  drawn : ∀ {assetId asset}, s.assets.lookup assetId = some asset →
    ∃ n < s.uuids, assetId = assetIdOf n

/-- The assets of a later store: the ones of the earlier store, still bound if they were, and
the ones drawn since. -/
structure Evolves (s t : AppearanceStore) : Prop where
  uuids : s.uuids ≤ t.uuids
  rows : ∀ {assetId asset'}, t.assets.lookup assetId = some asset' →
    (∃ asset, s.assets.lookup assetId = some asset ∧ asset'.roomId = asset.roomId ∧
      (asset.custody = .bound → asset'.custody = .bound)) ∨
      ∃ n, s.uuids ≤ n ∧ assetId = assetIdOf n

omit [UpperCase] in
theorem assetIdOf_injective : Function.Injective assetIdOf := by
  intro m n h
  unfold assetIdOf at h
  have hsuffix := congrArg String.toList h
  rw [String.toList_append, String.toList_append, List.append_cancel_left_eq] at hsuffix
  exact SimpleUuidSource.simple_injective (String.toList_inj.mp hsuffix)

omit [UpperCase] in
theorem Evolves.refl (s : AppearanceStore) : Evolves s s :=
  ⟨le_rfl, fun h => Or.inl ⟨_, h, rfl, id⟩⟩

omit [UpperCase] in
theorem Evolves.trans {u : AppearanceStore} (hst : Evolves s t) (htu : Evolves t u) :
    Evolves s u where
  uuids := hst.uuids.trans htu.uuids
  rows := by
    intro assetId asset'' hasset''
    rcases htu.rows hasset'' with ⟨asset', hasset', hroom', hbound'⟩ | ⟨n, hn, hdrawn⟩
    · rcases hst.rows hasset' with ⟨asset, hasset, hroom, hbound⟩ | hdrawn
      · exact Or.inl ⟨asset, hasset, hroom'.trans hroom, fun h => hbound' (hbound h)⟩
      · exact Or.inr hdrawn
    · exact Or.inr ⟨n, hst.uuids.trans hn, hdrawn⟩

omit [UpperCase] in
/-- A reference that a room dropped is not a row any more. -/
theorem Evolves.dropped (hs : Sound s) (ht : Sound t) (h : Evolves s t) {roomId assetId : String}
    (hrefers : Refers s roomId assetId) (hdropped : ¬Refers t roomId assetId) :
    t.assets.lookup assetId = none := by
  obtain ⟨asset, hasset, hroom, hbound⟩ := (hs.bound roomId assetId).mp hrefers
  cases hrow : t.assets.lookup assetId with
  | none => rfl
  | some asset' =>
      rcases h.rows hrow with ⟨old, hold, hroom', hbound'⟩ | ⟨n, hn, hdrawn⟩
      · obtain rfl := Option.some.inj (hasset.symm.trans hold)
        exact absurd ((ht.bound roomId assetId).mpr
          ⟨asset', hrow, hroom'.trans hroom, hbound' hbound⟩) hdropped
      · obtain ⟨m, hm, hdrawn'⟩ := hs.drawn hasset
        have hmn : m = n := assetIdOf_injective (hdrawn'.symm.trans hdrawn)
        omega

omit [UpperCase] in
/-- An id that was drawn and has no row never has one again. -/
theorem Evolves.gone (h : Evolves s t) {assetId : String} {n : Nat} (hn : n < s.uuids)
    (hdrawn : assetId = assetIdOf n) (hgone : s.assets.lookup assetId = none) :
    t.assets.lookup assetId = none := by
  cases hrow : t.assets.lookup assetId with
  | none => rfl
  | some asset' =>
      rcases h.rows hrow with ⟨old, hold, -, -⟩ | ⟨m, hm, hdrawn'⟩
      · rw [hgone] at hold
        cases hold
      · have hmn : m = n := assetIdOf_injective (hdrawn'.symm.trans hdrawn)
        omega

/-! ## What operations do -/

/-- Assets and rooms are deleted, but no bound asset of a room that stays. -/
structure Narrows (s t : AppearanceStore) : Prop where
  uuids : s.uuids ≤ t.uuids
  settings : ∀ {roomId settings}, t.settings.lookup roomId = some settings →
    s.settings.lookup roomId = some settings
  rows : ∀ {assetId asset}, t.assets.lookup assetId = some asset →
    s.assets.lookup assetId = some asset
  bound : ∀ {assetId asset}, s.assets.lookup assetId = some asset → asset.custody = .bound →
    (t.settings.lookup asset.roomId).isSome = true → t.assets.lookup assetId = some asset
  rooms : ∀ {assetId asset}, t.assets.lookup assetId = some asset →
    t.settings.lookup asset.roomId = s.settings.lookup asset.roomId

omit [UpperCase] in
theorem Narrows.sound (h : Narrows s t) (hs : Sound s) : Sound t where
  bound := by
    intro roomId assetId
    constructor
    · rintro ⟨settings, hsettings, hmem⟩
      obtain ⟨asset, hasset, rfl, hbound⟩ :=
        (hs.bound roomId assetId).mp ⟨settings, h.settings hsettings, hmem⟩
      refine ⟨asset, h.bound hasset hbound ?_, rfl, hbound⟩
      rw [hsettings, Option.isSome_some]
    · rintro ⟨asset, hasset, rfl, hbound⟩
      obtain ⟨settings, hsettings, hmem⟩ :=
        (hs.bound asset.roomId assetId).mpr ⟨asset, h.rows hasset, rfl, hbound⟩
      exact ⟨settings, (h.rooms hasset).trans hsettings, hmem⟩
  drawn := by
    intro assetId asset hasset
    obtain ⟨n, hn, hdrawn⟩ := hs.drawn (h.rows hasset)
    exact ⟨n, hn.trans_le h.uuids, hdrawn⟩

omit [UpperCase] in
theorem Narrows.evolves (h : Narrows s t) : Evolves s t :=
  ⟨h.uuids, fun hasset => Or.inl ⟨_, h.rows hasset, rfl, id⟩⟩

omit [UpperCase] [SimpleUuidSource] in
theorem bound_not_expired {asset : AppearanceAsset} (h : asset.custody = .bound)
    (timestamp : Nat) : asset.isExpired timestamp = false := by
  unfold AppearanceAsset.isExpired
  rw [h]

/-- The store without the pending assets that expired. -/
def swept (s : AppearanceStore) (timestamp : Nat) : AppearanceStore :=
  { s with assets := s.assets.deleteWhere fun _ asset => asset.isExpired timestamp }

omit [UpperCase] [SimpleUuidSource] in
theorem narrows_swept (s : AppearanceStore) (timestamp : Nat) : Narrows s (swept s timestamp) where
  uuids := le_rfl
  settings := id
  rows := fun hasset => (Table.lookup_deleteWhere.mp hasset).1
  bound := fun hasset hbound _ =>
    Table.lookup_deleteWhere.mpr ⟨hasset, bound_not_expired hbound timestamp⟩
  rooms := fun _ => rfl

/-- An upload adds a pending asset under an id that was not drawn before. -/
structure Uploads (s t : AppearanceStore) : Prop where
  uuids : t.uuids = s.uuids + 1
  settings : t.settings = s.settings
  added : ∃ asset, asset.custody ≠ .bound ∧ s.assets.lookup (assetIdOf s.uuids) = none ∧
    t.assets = s.assets.insert (assetIdOf s.uuids) asset

omit [UpperCase] in
theorem Uploads.row (h : Uploads s t) {assetId : String} {asset : AppearanceAsset}
    (hasset : t.assets.lookup assetId = some asset) :
    assetId = assetIdOf s.uuids ∧ asset.custody ≠ .bound ∨
      s.assets.lookup assetId = some asset := by
  obtain ⟨added, hpending, hnone, hassets⟩ := h.added
  rw [hassets, Table.lookup_insert_ite] at hasset
  split at hasset
  · rename_i hid
    obtain rfl := Option.some.inj hasset
    exact Or.inl ⟨hid, hpending⟩
  · exact Or.inr hasset

omit [UpperCase] in
theorem Uploads.kept (h : Uploads s t) {assetId : String} {asset : AppearanceAsset}
    (hasset : s.assets.lookup assetId = some asset) : t.assets.lookup assetId = some asset := by
  obtain ⟨added, -, hnone, hassets⟩ := h.added
  rw [hassets, Table.lookup_insert_ite, if_neg, hasset]
  rintro rfl
  rw [hnone] at hasset
  cases hasset

omit [UpperCase] in
theorem Uploads.sound (h : Uploads s t) (hs : Sound s) : Sound t where
  bound := by
    intro roomId assetId
    have hrefers : Refers t roomId assetId ↔ Refers s roomId assetId := by
      unfold Refers
      rw [h.settings]
    rw [hrefers, hs.bound]
    constructor
    · rintro ⟨asset, hasset, hroom, hbound⟩
      exact ⟨asset, h.kept hasset, hroom, hbound⟩
    · rintro ⟨asset, hasset, hroom, hbound⟩
      rcases h.row hasset with ⟨-, hpending⟩ | hold
      · exact absurd hbound hpending
      · exact ⟨asset, hold, hroom, hbound⟩
  drawn := by
    intro assetId asset hasset
    rw [h.uuids]
    rcases h.row hasset with ⟨hid, -⟩ | hold
    · exact ⟨s.uuids, Nat.lt_succ_self _, hid⟩
    · obtain ⟨n, hn, hdrawn⟩ := hs.drawn hold
      exact ⟨n, Nat.lt_succ_of_lt hn, hdrawn⟩

omit [UpperCase] in
theorem Uploads.evolves (h : Uploads s t) : Evolves s t where
  uuids := by
    rw [h.uuids]
    exact Nat.le_succ _
  rows := by
    intro assetId asset hasset
    rcases h.row hasset with ⟨hid, -⟩ | hold
    · exact Or.inr ⟨s.uuids, le_rfl, hid⟩
    · exact Or.inl ⟨asset, hold, rfl, id⟩

/-- An update replaces the settings of a room and moves its assets along. -/
structure Updates (s : AppearanceStore) (roomId : String) (payload : Json) (now : Nat)
    (t : AppearanceStore) : Prop where
  uuids : s.uuids ≤ t.uuids
  settings : ∃ stored revision next, s.settings.lookup roomId = some stored ∧
    strictUpdate stored payload = .ok (revision, next) ∧
    t.settings = s.settings.insert roomId next ∧
    Transits s.assets roomId stored.appearance next.appearance now t.assets

omit [UpperCase] [SimpleUuidSource] in
/-- The rows after a transition come from rows of the same room. -/
theorem Transits.row {assets assets' : Table String AppearanceAsset} {roomId assetId : String}
    {current next : RoomAppearance} {now : Nat} {asset' : AppearanceAsset}
    (h : Transits assets roomId current next now assets')
    (hasset' : assets'.lookup assetId = some asset') :
    ∃ asset, assets.lookup assetId = some asset ∧ asset'.roomId = asset.roomId ∧
      (asset.custody = .bound → asset'.custody = .bound) := by
  by_cases hnext : assetId ∈ references next
  · obtain ⟨asset, hasset, -, hbind⟩ := h.bound assetId hnext
    obtain rfl := Option.some.inj (hasset'.symm.trans hbind)
    exact ⟨asset, hasset, rfl, fun _ => rfl⟩
  · by_cases hcurrent : assetId ∈ references current
    · rw [h.released assetId hcurrent hnext] at hasset'
      cases hasset'
    · rw [h.others assetId hcurrent hnext] at hasset'
      exact ⟨asset', hasset', rfl, id⟩

omit [UpperCase] [SimpleUuidSource] in
/-- What is bound to a room after an update of that room or of another. -/
theorem Transits.bound_iff {roomId other assetId : String} {stored next : RoomSettings} {now : Nat}
    (hbound : ∀ roomId assetId, Refers s roomId assetId ↔ Bound s roomId assetId)
    (hstored : s.settings.lookup roomId = some stored)
    (h : Transits s.assets roomId stored.appearance next.appearance now t.assets) :
    Bound t other assetId ↔
      if other = roomId then assetId ∈ references next.appearance else Bound s other assetId := by
  have hcurrent : assetId ∈ references stored.appearance → Bound s roomId assetId :=
    fun hmem => (hbound roomId assetId).mp ⟨stored, hstored, hmem⟩
  have hrefers : Bound s roomId assetId → assetId ∈ references stored.appearance := by
    intro hb
    obtain ⟨settings, hsettings, hmem⟩ := (hbound roomId assetId).mpr hb
    rwa [Option.some.inj (hstored.symm.trans hsettings)]
  by_cases hnext : assetId ∈ references next.appearance
  · obtain ⟨asset, hasset, hbindable, hbind⟩ := h.bound assetId hnext
    by_cases hother : other = roomId
    · rw [if_pos hother]
      exact ⟨fun _ => hnext, fun _ => ⟨asset.bind, hbind, hother ▸ hbindable.room, rfl⟩⟩
    · rw [if_neg hother]
      constructor
      · rintro ⟨asset', hasset', hroom, -⟩
        obtain rfl := Option.some.inj (hbind.symm.trans hasset')
        exact absurd (hroom.symm.trans hbindable.room) hother
      · rintro ⟨asset', hasset', hroom, -⟩
        obtain rfl := Option.some.inj (hasset.symm.trans hasset')
        exact absurd (hroom.symm.trans hbindable.room) hother
  · by_cases hold : assetId ∈ references stored.appearance
    · have hgone := h.released assetId hold hnext
      have hnot : ¬Bound t other assetId := by
        rintro ⟨asset', hasset', -⟩
        rw [hgone] at hasset'
        cases hasset'
      by_cases hother : other = roomId
      · rw [if_pos hother]
        exact ⟨fun hb => absurd hb hnot, fun hmem => absurd hmem hnext⟩
      · rw [if_neg hother]
        refine ⟨fun hb => absurd hb hnot, ?_⟩
        rintro ⟨asset', hasset', hroom, -⟩
        obtain ⟨asset, hasset, hroom', -⟩ := hcurrent hold
        obtain rfl := Option.some.inj (hasset.symm.trans hasset')
        exact absurd (hroom.symm.trans hroom') hother
    · have hsame : Bound t other assetId ↔ Bound s other assetId := by
        unfold Bound
        rw [h.others assetId hold hnext]
      rw [hsame]
      by_cases hother : other = roomId
      · rw [if_pos hother, hother]
        exact ⟨fun hb => absurd (hrefers hb) hold, fun hmem => absurd hmem hnext⟩
      · rw [if_neg hother]

theorem Updates.sound {roomId : String} {payload : Json} {now : Nat}
    (h : Updates s roomId payload now t) (hs : Sound s) : Sound t := by
  obtain ⟨stored, revision, next, hstored, -, hsettings, htransits⟩ := h.settings
  constructor
  case bound =>
    intro other assetId
    rw [htransits.bound_iff hs.bound hstored]
    unfold Refers
    rw [hsettings, Table.lookup_insert_ite]
    by_cases hother : other = roomId
    · rw [if_pos hother, if_pos hother]
      constructor
      · rintro ⟨settings, hnext, hmem⟩
        rwa [Option.some.inj hnext]
      · intro hmem
        exact ⟨next, rfl, hmem⟩
    · rw [if_neg hother, if_neg hother]
      exact hs.bound other assetId
  case drawn =>
    intro assetId asset hasset
    obtain ⟨old, hold, -, -⟩ := htransits.row hasset
    obtain ⟨n, hn, hdrawn⟩ := hs.drawn hold
    exact ⟨n, hn.trans_le h.uuids, hdrawn⟩

theorem Updates.evolves {roomId : String} {payload : Json} {now : Nat}
    (h : Updates s roomId payload now t) : Evolves s t := by
  obtain ⟨stored, revision, next, -, -, -, htransits⟩ := h.settings
  exact ⟨h.uuids, fun hasset => Or.inl (htransits.row hasset)⟩

/-- A room is created, referring to nothing. -/
structure Founds (s t : AppearanceStore) : Prop where
  uuids : t.uuids = s.uuids
  assets : t.assets = s.assets
  settings : ∃ roomId settings, s.settings.lookup roomId = none ∧
    references settings.appearance = [] ∧ t.settings = s.settings.insert roomId settings

omit [UpperCase] in
theorem Founds.sound (h : Founds s t) (hs : Sound s) : Sound t where
  bound := by
    intro other assetId
    obtain ⟨roomId, settings, hnone, hempty, hsettings⟩ := h.settings
    have hbound : Bound t other assetId ↔ Bound s other assetId := by
      unfold Bound
      rw [h.assets]
    rw [hbound, ← hs.bound]
    unfold Refers
    rw [hsettings, Table.lookup_insert_ite]
    by_cases hother : other = roomId
    · rw [if_pos hother, hother, hnone]
      constructor
      · rintro ⟨made, hmade, hmem⟩
        rw [← Option.some.inj hmade, hempty] at hmem
        cases hmem
      · rintro ⟨made, hmade, -⟩
        cases hmade
    · rw [if_neg hother]
  drawn := by
    rw [h.assets, h.uuids]
    exact hs.drawn

omit [UpperCase] in
theorem Founds.evolves (h : Founds s t) : Evolves s t where
  uuids := h.uuids.ge
  rows := by
    rw [h.assets]
    exact fun hasset => Or.inl ⟨_, hasset, rfl, id⟩

end Custody

end AgentsAssemble.Appearance
