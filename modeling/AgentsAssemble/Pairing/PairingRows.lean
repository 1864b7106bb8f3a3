import AgentsAssemble.Foundation.Transition
import AgentsAssemble.Pairing.Redemptions

/-!
# Operator pairings: the rows over time

A row changes by being bound or revoked, and a sweep deletes the rows that are past their last
expiry.  Each change keeps the codes and sessions of the rows apart.
-/

namespace AgentsAssemble.Pairing

open Foundation Tx
open Persistence (PersistenceError UuidSource)

section Rows

variable [SessionDigests] [UrlParser] [UuidSource]

/-! ## Later rows -/

/-- The same row later: bound if it was not, or revoked. -/
structure Later (row row' : PairingRecord) : Prop where
  code : row'.tokenFingerprint = row.tokenFingerprint
  manager : row'.manager = row.manager
  origin : row'.targetOrigin = row.targetOrigin
  expiry : row'.expiresAt = row.expiresAt
  revoked : row.revoked = true → row'.revoked = true
  held : ∀ {device session micros}, row.Holds device session micros →
    row'.Holds device session micros

namespace Later

variable {row row' row'' : PairingRecord}

omit [SessionDigests] [UrlParser] [UuidSource] in
theorem refl (row : PairingRecord) : Later row row :=
  ⟨rfl, rfl, rfl, rfl, id, id⟩

omit [SessionDigests] [UrlParser] [UuidSource] in
theorem trans (h : Later row row') (h' : Later row' row'') : Later row row'' where
  code := h'.code.trans h.code
  manager := h'.manager.trans h.manager
  origin := h'.origin.trans h.origin
  expiry := h'.expiry.trans h.expiry
  revoked hrevoked := h'.revoked (h.revoked hrevoked)
  held hheld := h'.held (h.held hheld)

omit [SessionDigests] [UrlParser] [UuidSource] in
theorem of_revoke (row : PairingRecord) : Later row row.revoke :=
  ⟨rfl, rfl, rfl, rfl, fun _ => rfl, fun h => ⟨h.device, h.session, h.expiry⟩⟩

omit [SessionDigests] [UrlParser] [UuidSource] in
theorem of_bind (hunbound : row.deviceFingerprint = none) (device session : String)
    (micros : Int) : Later row (row.bind device session micros) where
  code := rfl
  manager := rfl
  origin := rfl
  expiry := rfl
  revoked := id
  held hheld := by
    rw [hheld.device] at hunbound
    cases hunbound

end Later

/-- Every row of a later store is a row of the earlier one, later, or was drawn since. -/
structure Evolves (s t : PairingStore) : Prop where
  uuids : s.uuids ≤ t.uuids
  rows : ∀ {id row'}, t.pairings.lookup id = some row' →
    (∃ row, s.pairings.lookup id = some row ∧ Later row row') ∨
      ∃ n, s.uuids ≤ n ∧ id = UuidSource.newV4 n

omit [SessionDigests] [UrlParser] in
theorem Evolves.refl (s : PairingStore) : Evolves s s :=
  ⟨le_rfl, fun h => Or.inl ⟨_, h, .refl _⟩⟩

omit [SessionDigests] [UrlParser] in
theorem Evolves.trans {s t u : PairingStore} (hst : Evolves s t) (htu : Evolves t u) :
    Evolves s u where
  uuids := hst.uuids.trans htu.uuids
  rows := by
    intro id row'' hrow''
    rcases htu.rows hrow'' with ⟨row', hrow', hlater'⟩ | ⟨n, hn, rfl⟩
    · rcases hst.rows hrow' with ⟨row, hrow, hlater⟩ | hdrawn
      · exact Or.inl ⟨row, hrow, hlater.trans hlater'⟩
      · exact Or.inr hdrawn
    · exact Or.inr ⟨n, hst.uuids.trans hn, rfl⟩

variable {s t : PairingStore}

omit [UrlParser] in
/-- A row that is still there is the same row later. -/
theorem Evolves.later (hs : Sound s) (h : Evolves s t) {id : String} {row row' : PairingRecord}
    (hrow : s.pairings.lookup id = some row) (hrow' : t.pairings.lookup id = some row') :
    Later row row' := by
  rcases h.rows hrow' with ⟨old, hold, hlater⟩ | ⟨n, hn, hid⟩
  · rwa [Option.some.inj (hrow.symm.trans hold)]
  · obtain ⟨m, hm, hid'⟩ := hs.drawn hrow
    have hnm : m = n := UuidSource.newV4_injective (hid'.symm.trans hid)
    omega

/-- Rows were only deleted or revoked. -/
structure Narrows (s t : PairingStore) : Prop where
  uuids : t.uuids = s.uuids
  rows : ∀ {id row'}, t.pairings.lookup id = some row' →
    ∃ row, s.pairings.lookup id = some row ∧ (row' = row ∨ row' = row.revoke)

namespace Narrows

omit [SessionDigests] [UrlParser] [UuidSource] in
theorem refl (s : PairingStore) : Narrows s s :=
  ⟨rfl, fun h => ⟨_, h, Or.inl rfl⟩⟩

omit [SessionDigests] [UrlParser] [UuidSource] in
theorem of_delete (s : PairingStore) (p : String → PairingRecord → Bool) (host : Host) :
    Narrows s { s with host, pairings := s.pairings.deleteWhere p } :=
  ⟨rfl, fun h => ⟨_, (Table.lookup_deleteWhere.mp h).1, Or.inl rfl⟩⟩

omit [SessionDigests] [UrlParser] [UuidSource] in
theorem of_revoke (s : PairingStore) (p : String → PairingRecord → Bool) :
    Narrows s { s with pairings := s.pairings.update p PairingRecord.revoke } where
  uuids := rfl
  rows := by
    intro id row' hrow'
    rw [Table.lookup_update] at hrow'
    obtain ⟨row, hrow, rfl⟩ := Option.map_eq_some_iff.mp hrow'
    refine ⟨row, hrow, ?_⟩
    split
    · exact Or.inr rfl
    · exact Or.inl rfl

omit [SessionDigests] [UrlParser] [UuidSource] in
/-- A narrowed row keeps its code, its room and its session. -/
theorem row (h : Narrows s t) {id : String} {row' : PairingRecord}
    (hrow' : t.pairings.lookup id = some row') :
    ∃ row, s.pairings.lookup id = some row ∧ row'.tokenFingerprint = row.tokenFingerprint ∧
      row'.roomId = row.roomId ∧ row'.sessionFingerprint = row.sessionFingerprint := by
  obtain ⟨row, hrow, rfl | rfl⟩ := h.rows hrow'
  · exact ⟨_, hrow, rfl, rfl, rfl⟩
  · exact ⟨_, hrow, rfl, rfl, rfl⟩

omit [SessionDigests] [UrlParser] [UuidSource] in
theorem count_le (h : Narrows s t) {p : PairingRecord → Bool}
    (hp : ∀ row, p row.revoke = p row) :
    Table.count (fun _ row => p row) t.pairings ≤ Table.count (fun _ row => p row) s.pairings := by
  refine Table.count_le_count _ fun id row' hrow' hcounted => ?_
  obtain ⟨row, hrow, rfl | rfl⟩ := h.rows hrow'
  · exact ⟨_, hrow, hcounted⟩
  · exact ⟨_, hrow, by rwa [← hp]⟩

omit [UrlParser] in
theorem sound (h : Narrows s t) (hs : Sound s) : Sound t where
  drawn := by
    intro id row' hrow'
    obtain ⟨row, hrow, -⟩ := h.rows hrow'
    rw [h.uuids]
    exact hs.drawn hrow
  codes := by
    intro id id' row row' hrow hrow' hcode
    obtain ⟨old, hold, htoken, -⟩ := h.row hrow
    obtain ⟨old', hold', htoken', -⟩ := h.row hrow'
    exact hs.codes hold hold' (htoken.symm.trans (hcode.trans htoken'))
  sessions := by
    intro id id' row row' session hrow hrow' hsession hsession'
    obtain ⟨old, hold, -, -, heq⟩ := h.row hrow
    obtain ⟨old', hold', -, -, heq'⟩ := h.row hrow'
    exact hs.sessions hold hold' (heq.symm.trans hsession) (heq'.symm.trans hsession')
  derived := by
    intro id row session hrow hsession
    obtain ⟨old, hold, htoken, -, heq⟩ := h.row hrow
    rw [htoken]
    exact hs.derived hold (heq.symm.trans hsession)
  total := (h.count_le (p := fun _ => true) fun _ => rfl).trans hs.total
  room roomId := (h.count_le (p := fun row => row.roomId == roomId) fun _ => rfl).trans
    (hs.room roomId)

omit [SessionDigests] [UrlParser] in
theorem evolves (h : Narrows s t) : Evolves s t where
  uuids := h.uuids.ge
  rows := by
    intro id row' hrow'
    obtain ⟨row, hrow, rfl | rfl⟩ := h.rows hrow'
    · exact Or.inl ⟨_, hrow, .refl _⟩
    · exact Or.inl ⟨_, hrow, .of_revoke _⟩

end Narrows

/-! ## Creating -/

/-- The rows that survive the sweep of the expired ones. -/
def sweep (s : PairingStore) (now : Int) : PairingStore :=
  { s with
    pairings := s.pairings.deleteWhere fun _ row => decide (row.lastExpiry ≤ timestampMicros now) }

/-- The row of a new pairing. -/
def newRecord (manager : LocalRoomManagerAuthority) (token origin : String) (now : Int) :
    PairingRecord :=
  { tokenFingerprint := token
    manager
    targetOrigin := origin
    expiresAt := timestampMicros (timestamp (timestampMicros now) + pairingTtl)
    revoked := false
    deviceFingerprint := none
    sessionFingerprint := none
    sessionExpiresAt := none
    together := together_none }

structure Creates (s : PairingStore) (manager : LocalRoomManagerAuthority)
    (token origin : String) (now : Int) (t : PairingStore) : Prop where
  total : Table.count (fun _ _ => true) (sweep s now).pairings < maxPairings
  room : Table.count (fun _ row => row.roomId == manager.manager.roomId) (sweep s now).pairings <
    maxRoomPairings
  fresh : (sweep s now).pairings.lookup (UuidSource.newV4 s.uuids) = none
  code : ∀ id row, (sweep s now).pairings.lookup id = some row → row.tokenFingerprint ≠ token
  store : t = { s with
    uuids := s.uuids + 1
    pairings := (sweep s now).pairings.insert (UuidSource.newV4 s.uuids)
      (newRecord manager token origin now) }

omit [SessionDigests] [UrlParser] in
theorem commits_drawUuid {id : String} :
    Commits drawUuid s id t ↔
      id = UuidSource.newV4 s.uuids ∧ t = { s with uuids := s.uuids + 1 } := by
  constructor
  · intro h
    have h' : (Except.ok (UuidSource.newV4 s.uuids, { s with uuids := s.uuids + 1 }) :
        Except PersistenceError (String × PairingStore)) = .ok (id, t) := h
    simp only [Except.ok.injEq, Prod.mk.injEq] at h'
    exact ⟨h'.1.symm, h'.2.symm⟩
  · rintro ⟨rfl, rfl⟩
    rfl

omit [SessionDigests] in
theorem creates_of_commits {manager : LocalRoomManagerAuthority} {token origin : String}
    {now : Int} {pairing : OperatorPairing}
    (h : Commits (createOperatorPairing manager token origin now) s pairing t) :
    Creates s manager token origin now t := by
  unfold createOperatorPairing at h
  simp only [commits_bind, commits_read, commits_ofResult, commits_write, commits_require,
    commits_pure, commits_drawUuid, timestampMicros_timestamp] at h
  obtain ⟨_, _, ⟨-, rfl⟩, _, _, ⟨rfl, rfl⟩, _, _, ⟨-, rfl⟩, _, _, rfl, _, _, ⟨rfl, rfl⟩, _, _,
    ⟨hcapacity, rfl⟩, _, _, ⟨rfl, rfl⟩, _, _, hinsert, -, rfl⟩ := h
  unfold insertPairing at hinsert
  simp only [commits_bind, commits_read, commits_require, commits_write] at hinsert
  obtain ⟨_, _, ⟨rfl, rfl⟩, _, _, ⟨hfree, rfl⟩, _, _, ⟨hcode, rfl⟩, _, _, ⟨rfl, rfl⟩, _, _,
    ⟨-, rfl⟩, rfl⟩ := hinsert
  rw [not_or, not_le, not_le] at hcapacity
  refine ⟨hcapacity.1, hcapacity.2, hfree, fun id row hrow => ?_, rfl⟩
  have hfalse := find?_eq_none.mp hcode id row hrow
  exact beq_eq_false_iff_ne.mp hfalse

namespace Creates

variable {manager : LocalRoomManagerAuthority} {token origin : String} {now : Int}

omit [SessionDigests] [UrlParser] in
/-- A row of the new store is the new row or survived the sweep. -/
theorem row (h : Creates s manager token origin now t) {id : String} {row : PairingRecord}
    (hrow : t.pairings.lookup id = some row) :
    (id = UuidSource.newV4 s.uuids ∧ row = newRecord manager token origin now) ∨
      (sweep s now).pairings.lookup id = some row := by
  rw [h.store] at hrow
  rcases (Table.sets_insert _ _ _).cases hrow with ⟨rfl, hnew⟩ | ⟨-, hold⟩
  · exact Or.inl ⟨rfl, (Option.some.inj hnew).symm⟩
  · exact Or.inr hold

omit [SessionDigests] [UrlParser] in
theorem count_eq (h : Creates s manager token origin now t) (p : PairingRecord → Bool) :
    Table.count (fun _ row => p row) t.pairings =
      Table.count (fun _ row => p row) (sweep s now).pairings +
        (if p (newRecord manager token origin now) then 1 else 0) := by
  rw [h.store, Table.count_insert, Table.count_erase_of_none _ h.fresh]

omit [SessionDigests] [UrlParser] [UuidSource] in
theorem narrows_sweep (s : PairingStore) (now : Int) : Narrows s (sweep s now) :=
  .of_delete s _ s.host

omit [UrlParser] in
theorem sound (h : Creates s manager token origin now t) (hs : Sound s) : Sound t := by
  have hkept := (narrows_sweep s now).sound hs
  constructor
  case drawn =>
    intro id row hrow
    have huuids : t.uuids = s.uuids + 1 := by rw [h.store]
    rcases h.row hrow with ⟨rfl, -⟩ | hold
    · exact ⟨s.uuids, by omega, rfl⟩
    · obtain ⟨n, hn, rfl⟩ := hkept.drawn hold
      have hn' : n < s.uuids := hn
      exact ⟨n, by omega, rfl⟩
  case codes =>
    intro id id' row row' hrow hrow' hcode
    rcases h.row hrow with ⟨rfl, rfl⟩ | hold
    · rcases h.row hrow' with ⟨rfl, -⟩ | hold'
      · rfl
      · exact absurd hcode.symm (h.code id' row' hold')
    · rcases h.row hrow' with ⟨rfl, rfl⟩ | hold'
      · exact absurd hcode (h.code id row hold)
      · exact hkept.codes hold hold' hcode
  case sessions =>
    intro id id' row row' session hrow hrow' hsession hsession'
    rcases h.row hrow with ⟨-, rfl⟩ | hold
    · cases hsession
    · rcases h.row hrow' with ⟨-, rfl⟩ | hold'
      · cases hsession'
      · exact hkept.sessions hold hold' hsession hsession'
  case derived =>
    intro id row session hrow hsession
    rcases h.row hrow with ⟨-, rfl⟩ | hold
    · cases hsession
    · exact hkept.derived hold hsession
  case total =>
    have hcount := h.count_eq fun _ => true
    have htotal := h.total
    rw [if_pos rfl] at hcount
    omega
  case room =>
    intro roomId
    have hcount := h.count_eq fun row => row.roomId == roomId
    by_cases hroom : manager.manager.roomId = roomId
    · subst hroom
      have hfree := h.room
      have hone : ((newRecord manager token origin now).roomId == manager.manager.roomId) = true :=
        beq_self_eq_true _
      rw [if_pos hone] at hcount
      omega
    · have hnone : ¬((newRecord manager token origin now).roomId == roomId) = true :=
        fun heq => hroom (beq_iff_eq.mp heq)
      rw [if_neg hnone] at hcount
      exact hcount ▸ hkept.room roomId

omit [SessionDigests] [UrlParser] in
theorem evolves (h : Creates s manager token origin now t) : Evolves s t where
  uuids := by
    rw [h.store]
    exact Nat.le_succ _
  rows := by
    intro id row' hrow'
    rcases h.row hrow' with ⟨rfl, -⟩ | hold
    · exact Or.inr ⟨s.uuids, le_rfl, rfl⟩
    · exact (narrows_sweep s now).evolves.rows hold

end Creates

/-! ## Redeeming -/

namespace Redeems

variable {token device origin : String} {now : Int} {redemption : OperatorPairingRedemption}

omit [UrlParser] [UuidSource] in
theorem lookup_boundStore (s : PairingStore) (id other token device : String) (now : Int) :
    (boundStore s id token device now).pairings.lookup other =
      (s.pairings.lookup other).map fun row =>
        if other = id then
          row.bind device (deriveSessionBearer token).fingerprint
            (timestampMicros (sessionExpiry now))
        else row := by
  unfold boundStore
  rw [Table.lookup_update]
  simp only [beq_iff_eq]

omit [UrlParser] [UuidSource] in
theorem count_boundStore (s : PairingStore) (id token device : String) (now : Int)
    {p : PairingRecord → Bool}
    (hp : ∀ row session micros, p (row.bind device session micros) = p row) :
    Table.count (fun _ row => p row) (boundStore s id token device now).pairings ≤
      Table.count (fun _ row => p row) s.pairings := by
  refine Table.count_update_le (fun _ row => p row) fun id row hcounted => ?_
  rwa [hp] at hcounted

omit [UrlParser] in
theorem sound (h : Redeems s token device origin now redemption t) (hs : Sound s) :
    Sound t := by
  cases h with
  | again hopen hcode hheld hunexpired => exact hs
  | @first id row principal hopen hcode hunbound hunexpired hunused =>
      constructor
      case drawn =>
        intro other row' hrow'
        rw [lookup_boundStore] at hrow'
        obtain ⟨old, hold, -⟩ := Option.map_eq_some_iff.mp hrow'
        exact hs.drawn hold
      case codes =>
        intro one two row₁ row₂ hrow₁ hrow₂ hsame
        rw [lookup_boundStore] at hrow₁ hrow₂
        obtain ⟨old₁, hold₁, rfl⟩ := Option.map_eq_some_iff.mp hrow₁
        obtain ⟨old₂, hold₂, rfl⟩ := Option.map_eq_some_iff.mp hrow₂
        refine hs.codes hold₁ hold₂ ?_
        split at hsame <;> split at hsame <;> exact hsame
      case sessions =>
        intro one two row₁ row₂ session hrow₁ hrow₂ hsession₁ hsession₂
        rw [lookup_boundStore] at hrow₁ hrow₂
        obtain ⟨old₁, hold₁, rfl⟩ := Option.map_eq_some_iff.mp hrow₁
        obtain ⟨old₂, hold₂, rfl⟩ := Option.map_eq_some_iff.mp hrow₂
        by_cases hone : one = id
        · by_cases htwo : two = id
          · exact hone.trans htwo.symm
          · rw [if_pos hone] at hsession₁
            rw [if_neg htwo] at hsession₂
            obtain rfl := Option.some.inj hsession₁
            exact absurd hsession₂ (hunused two old₂ hold₂ htwo)
        · rw [if_neg hone] at hsession₁
          by_cases htwo : two = id
          · rw [if_pos htwo] at hsession₂
            obtain rfl := Option.some.inj hsession₂
            exact absurd hsession₁ (hunused one old₁ hold₁ hone)
          · rw [if_neg htwo] at hsession₂
            exact hs.sessions hold₁ hold₂ hsession₁ hsession₂
      case derived =>
        intro other row' session hrow' hsession
        rw [lookup_boundStore] at hrow'
        obtain ⟨old, hold, rfl⟩ := Option.map_eq_some_iff.mp hrow'
        by_cases hother : other = id
        · subst hother
          rw [if_pos rfl] at hsession ⊢
          obtain rfl := Option.some.inj (hopen.stored.symm.trans hold)
          obtain rfl := Option.some.inj hsession
          rw [← hcode]
          rfl
        · rw [if_neg hother] at hsession ⊢
          exact hs.derived hold hsession
      case total =>
        exact (count_boundStore s id token device now (p := fun _ => true) fun _ _ _ => rfl).trans
          hs.total
      case room =>
        intro roomId
        exact (count_boundStore s id token device now (p := fun row => row.roomId == roomId)
          fun _ _ _ => rfl).trans (hs.room roomId)

omit [UrlParser] in
theorem evolves (h : Redeems s token device origin now redemption t) : Evolves s t := by
  cases h with
  | again hopen hcode hheld hunexpired => exact .refl s
  | @first id row principal hopen hcode hunbound hunexpired hunused =>
      refine ⟨le_rfl, fun {other row'} hrow' => ?_⟩
      rw [lookup_boundStore] at hrow'
      obtain ⟨old, hold, rfl⟩ := Option.map_eq_some_iff.mp hrow'
      refine Or.inl ⟨old, hold, ?_⟩
      by_cases hother : other = id
      · subst hother
        rw [if_pos rfl]
        obtain rfl := Option.some.inj (hopen.stored.symm.trans hold)
        exact .of_bind hunbound _ _ _
      · rw [if_neg hother]
        exact .refl old

omit [UrlParser] [UuidSource] in
/-- After a redemption the row of its code holds the session that was answered. -/
theorem holds (h : Redeems s token device origin now redemption t) :
    ∃ id row micros, t.pairings.lookup id = some row ∧ row.tokenFingerprint = token ∧
      row.Holds device (deriveSessionBearer token).fingerprint micros ∧
      redemption.sessionBearer = (deriveSessionBearer token).bearer ∧
      redemption.authorization.expiresAt = timestamp micros := by
  cases h with
  | @again id row principal micros hopen hcode hheld hunexpired =>
      exact ⟨id, row, micros, hopen.stored, hcode, hheld, rfl, rfl⟩
  | @first id row principal hopen hcode hunbound hunexpired hunused =>
      refine ⟨id, row.bind device (deriveSessionBearer token).fingerprint
        (timestampMicros (sessionExpiry now)), timestampMicros (sessionExpiry now), ?_, hcode,
        ⟨rfl, rfl, rfl⟩, rfl, (timestamp_sessionExpiry now).symm⟩
      rw [lookup_boundStore, hopen.stored, Option.map_some, if_pos rfl]

end Redeems

end Rows

end AgentsAssemble.Pairing
