import AgentsAssemble.Pairing.OperatorPairing

/-!
# Operator pairings: what each operation commits

A redemption is the first one of its code or repeats the answer of the first.  The rows keep
their codes and sessions apart, and an operation changes a row only by binding its first device
or by revoking it.
-/

namespace AgentsAssemble.Pairing

open Foundation Tx
open Persistence (PersistenceError UuidSource rejected)

/-! ## Checks -/

theorem truncated_lt_timestamp {micros now : Int} :
    timestamp (timestampMicros now) < timestamp micros ↔ now < timestamp micros := by
  rw [← not_le, ← not_le, timestamp_le_truncated]

namespace PairingRecord

/-- The row is bound to a device and to the session it holds. -/
structure Holds (record : PairingRecord) (device session : String) (sessionExpiresAt : Int) :
    Prop where
  device : record.deviceFingerprint = some device
  session : record.sessionFingerprint = some session
  expiry : record.sessionExpiresAt = some sessionExpiresAt

theorem Holds.unique {record : PairingRecord} {device device' session session' : String}
    {micros micros' : Int} (h : record.Holds device session micros)
    (h' : record.Holds device' session' micros') :
    device = device' ∧ session = session' ∧ micros = micros' := by
  refine ⟨?_, ?_, ?_⟩
  · exact Option.some.inj (h.device.symm.trans h'.device)
  · exact Option.some.inj (h.session.symm.trans h'.session)
  · exact Option.some.inj (h.expiry.symm.trans h'.expiry)

/-- A bound row holds a session. -/
theorem holds_of_device {record : PairingRecord} {device : String}
    (h : record.deviceFingerprint = some device) :
    ∃ session micros, record.Holds device session micros := by
  obtain ⟨hsession, hexpiry⟩ := record.together
  rw [h, Option.isSome_some, eq_comm] at hsession
  rw [hsession, eq_comm] at hexpiry
  obtain ⟨session, hs⟩ := Option.isSome_iff_exists.mp hsession
  obtain ⟨micros, hm⟩ := Option.isSome_iff_exists.mp hexpiry
  exact ⟨session, micros, h, hs, hm⟩

/-- A row that is not bound holds no session. -/
theorem session_of_unbound {record : PairingRecord} (h : record.deviceFingerprint = none) :
    record.sessionFingerprint = none ∧ record.sessionExpiresAt = none := by
  obtain ⟨hsession, hexpiry⟩ := record.together
  rw [h, Option.isSome_none, eq_comm] at hsession
  rw [hsession, eq_comm] at hexpiry
  exact ⟨Option.isSome_eq_false_iff.mp hsession |> Option.isNone_iff_eq_none.mp,
    Option.isSome_eq_false_iff.mp hexpiry |> Option.isNone_iff_eq_none.mp⟩

variable {record : PairingRecord} {origin fingerprint : String} {host : Host}
  {principal : RoomPrincipal} {now expires : Int}

theorem requireOriginAndLive_eq_ok {u : Unit} :
    record.requireOriginAndLive origin = .ok u ↔
      record.revoked = false ∧ record.targetOrigin = origin := by
  unfold requireOriginAndLive
  by_cases h : record.revoked = true ∨ record.targetOrigin ≠ origin
  · rw [if_pos h]
    rcases h with h | h
    · simp [h]
    · simp [h]
  · rw [if_neg h]
    rw [not_or, not_not, Bool.not_eq_true] at h
    simp [h]

theorem requireSession_eq_ok :
    record.requireSession fingerprint now = .ok expires ↔
      record.sessionFingerprint = some fingerprint ∧ now < expires ∧
        ∃ micros, record.sessionExpiresAt = some micros ∧ expires = timestamp micros := by
  unfold requireSession
  cases hstored : record.sessionExpiresAt with
  | none => simp
  | some micros =>
      dsimp only
      by_cases h : record.sessionFingerprint ≠ some fingerprint ∨ timestamp micros ≤ now
      · rw [if_pos h]
        constructor
        · intro hok
          cases hok
        · rintro ⟨hsession, hlive, micros', hmicros, rfl⟩
          obtain rfl := Option.some.inj hmicros
          rcases h with h | h
          · exact absurd hsession h
          · exact absurd hlive (not_lt.mpr h)
      · rw [if_neg h]
        rw [not_or, not_not, not_le] at h
        constructor
        · intro hok
          obtain rfl := Except.ok.inj hok
          exact ⟨h.1, h.2, micros, rfl, rfl⟩
        · rintro ⟨-, -, micros', hmicros, rfl⟩
          rw [Option.some.inj hmicros]

/-- The manager resolves for the very incarnation that the row was created for. -/
theorem resolveManager_eq_ok :
    record.resolveManager host = .ok principal ↔
      resolveLocalRoomManager host record.manager.manager = .ok (record.manager, principal) := by
  unfold resolveManager
  rw [Result.bind_eq_ok]
  constructor
  · rintro ⟨⟨current, resolved⟩, hresolved, h⟩
    obtain ⟨hcurrent, h⟩ := Result.check_eq_ok.mp h
    rw [hresolved, not_not.mp hcurrent, Result.pure_eq_ok.mp h]
  · intro h
    refine ⟨_, h, ?_⟩
    exact Result.check_eq_ok.mpr ⟨not_not.mpr rfl, Result.pure_eq_ok.mpr rfl⟩

end PairingRecord

/-- A row that lets its origin in: not revoked, and its manager is the manager of now. -/
structure Open (s : PairingStore) (id : String) (row : PairingRecord) (origin : String)
    (principal : RoomPrincipal) : Prop where
  stored : s.pairings.lookup id = some row
  live : row.revoked = false
  origin : row.targetOrigin = origin
  manager : resolveLocalRoomManager s.host row.manager.manager = .ok (row.manager, principal)

section Redemptions

variable [SessionDigests] [UuidSource] {s t : PairingStore}
  {token device origin fingerprint : String} {now : Int}

/-! ## Redemptions -/

/-- What a redemption returns. -/
def redemptionOf (token device origin : String) (principal : RoomPrincipal) (expiresAt : Int) :
    OperatorPairingRedemption :=
  { sessionBearer := (deriveSessionBearer token).bearer
    authorization :=
      { sessionFingerprint := (deriveSessionBearer token).fingerprint
        deviceFingerprint := device
        targetOrigin := origin
        principal
        expiresAt } }

/-- The expiry of a session that is opened at an instant. -/
def sessionExpiry (now : Int) : Int :=
  timestamp (timestampMicros now) + sessionTtl

omit [SessionDigests] [UuidSource] in
theorem timestamp_sessionExpiry (now : Int) :
    timestamp (timestampMicros (sessionExpiry now)) = sessionExpiry now := by
  unfold sessionExpiry sessionTtl nanosPerSecond timestamp timestampMicros
  omega

/-- The store after the first redemption of a row. -/
def boundStore (s : PairingStore) (id token device : String) (now : Int) : PairingStore :=
  { s with
    pairings := s.pairings.update (fun key _ => key == id) fun row =>
      row.bind device (deriveSessionBearer token).fingerprint
        (timestampMicros (sessionExpiry now)) }

inductive Redeems (s : PairingStore) (token device origin : String) (now : Int) :
    OperatorPairingRedemption → PairingStore → Prop
  | first {id : String} {row : PairingRecord} {principal : RoomPrincipal}
      (isOpen : Open s id row origin principal) (code : row.tokenFingerprint = token)
      (unbound : row.deviceFingerprint = none) (unexpired : now < timestamp row.expiresAt)
      (unused : ∀ other row', s.pairings.lookup other = some row' → other ≠ id →
        row'.sessionFingerprint ≠ some (deriveSessionBearer token).fingerprint) :
      Redeems s token device origin now
        (redemptionOf token device origin principal (sessionExpiry now))
        (boundStore s id token device now)
  | again {id : String} {row : PairingRecord} {principal : RoomPrincipal} {micros : Int}
      (isOpen : Open s id row origin principal) (code : row.tokenFingerprint = token)
      (held : row.Holds device (deriveSessionBearer token).fingerprint micros)
      (unexpired : now < timestamp micros) :
      Redeems s token device origin now
        (redemptionOf token device origin principal (timestamp micros)) s

omit [SessionDigests] [UuidSource] in
theorem find?_eq_none {p : String → PairingRecord → Bool} :
    s.pairings.find? p = none ↔
      ∀ id row, s.pairings.lookup id = some row → p id row = false := by
  unfold Table.find?
  rw [List.find?_eq_none]
  constructor
  · intro h id row hrow
    exact Bool.eq_false_iff.mpr (h (id, row) (Table.mem_rows.mpr hrow))
  · rintro h ⟨id, row⟩ hrow
    exact Bool.eq_false_iff.mp (h id row (Table.mem_rows.mp hrow))

omit [UuidSource] in
theorem redeems_of_commits {redemption : OperatorPairingRedemption}
    (h : Commits (redeemOperatorPairing token device origin now) s redemption t) :
    Redeems s token device origin now redemption t := by
  unfold redeemOperatorPairing at h
  simp only [commits_bind, commits_read, commits_orReject, commits_ofResult, commits_pure] at h
  obtain ⟨_, _, ⟨rfl, rfl⟩, ⟨id, row⟩, _, ⟨hfind, rfl⟩, _, _, ⟨hlive, rfl⟩, _, _, ⟨rfl, rfl⟩,
    principal, _, ⟨hmanager, rfl⟩, expiresAt, u, hredeem, rfl, rfl⟩ := h
  obtain ⟨hstored, htoken⟩ := Table.find?_eq_some hfind
  obtain ⟨hrevoked, horigin⟩ := PairingRecord.requireOriginAndLive_eq_ok.mp hlive
  have hopen : Open _ id row origin principal :=
    ⟨hstored, hrevoked, horigin, PairingRecord.resolveManager_eq_ok.mp hmanager⟩
  have hcode : row.tokenFingerprint = token := beq_iff_eq.mp htoken
  dsimp only at hredeem
  unfold redeemRecord at hredeem
  cases hdevice : row.deviceFingerprint with
  | some bound =>
      rw [hdevice] at hredeem
      simp only [commits_bind, commits_require, commits_ofResult] at hredeem
      obtain ⟨_, _, ⟨rfl, rfl⟩, hsession, rfl⟩ := hredeem
      obtain ⟨hfingerprint, hunexpired, micros, hmicros, rfl⟩ :=
        PairingRecord.requireSession_eq_ok.mp hsession
      exact .again hopen hcode ⟨hdevice, hfingerprint, hmicros⟩
        (truncated_lt_timestamp.mp hunexpired)
  | none =>
      rw [hdevice] at hredeem
      simp only [commits_bind, commits_require, commits_pure, bindSession, commits_read,
        commits_write] at hredeem
      obtain ⟨_, _, ⟨hunexpired, rfl⟩, _, _, ⟨_, _, ⟨rfl, rfl⟩, _, _, ⟨hunused, rfl⟩, rfl⟩,
        rfl, rfl⟩ := hredeem
      refine .first hopen hcode hdevice (truncated_lt_timestamp.mp hunexpired) ?_
      intro other row' hrow' hother hsession
      have hfalse := find?_eq_none.mp hunused other row' hrow'
      rw [hsession] at hfalse
      simp [hother] at hfalse

/-- The rows keep their codes and their sessions apart, within the limits. -/
structure Sound (s : PairingStore) : Prop where
  drawn : ∀ {id row}, s.pairings.lookup id = some row → ∃ n < s.uuids, id = UuidSource.newV4 n
  codes : ∀ {id id' row row'}, s.pairings.lookup id = some row →
    s.pairings.lookup id' = some row' → row.tokenFingerprint = row'.tokenFingerprint → id = id'
  sessions : ∀ {id id' row row' session}, s.pairings.lookup id = some row →
    s.pairings.lookup id' = some row' → row.sessionFingerprint = some session →
    row'.sessionFingerprint = some session → id = id'
  derived : ∀ {id row session}, s.pairings.lookup id = some row →
    row.sessionFingerprint = some session →
    session = (deriveSessionBearer row.tokenFingerprint).fingerprint
  total : Table.count (fun _ _ => true) s.pairings ≤ maxPairings
  room : ∀ roomId, Table.count (fun _ row => row.roomId == roomId) s.pairings ≤ maxRoomPairings

/-- The rows of a code and of a session are the ones a search finds. -/
theorem Sound.find_code (hs : Sound s) {id : String} {row : PairingRecord}
    (hrow : s.pairings.lookup id = some row) (hcode : row.tokenFingerprint = token) :
    s.pairings.find? (fun _ row => row.tokenFingerprint == token) = some (id, row) := by
  refine Table.find?_of_unique hrow (beq_iff_eq.mpr hcode) fun id' row' hrow' hcode' => ?_
  exact hs.codes hrow' hrow ((beq_iff_eq.mp hcode').trans hcode.symm)

theorem Sound.find_session (hs : Sound s) {id : String} {row : PairingRecord}
    (hrow : s.pairings.lookup id = some row) (hsession : row.sessionFingerprint = some fingerprint) :
    s.pairings.find? (fun _ row => row.sessionFingerprint == some fingerprint) =
      some (id, row) := by
  refine Table.find?_of_unique hrow (beq_iff_eq.mpr hsession) fun id' row' hrow' hsession' => ?_
  exact hs.sessions hrow' hrow (beq_iff_eq.mp hsession') hsession

/-- A device that holds its session is answered again. -/
theorem Sound.redeem_again (hs : Sound s) {id : String} {row : PairingRecord}
    {principal : RoomPrincipal} {micros : Int} (hopen : Open s id row origin principal)
    (hheld : row.Holds device fingerprint micros) (hunexpired : now < timestamp micros) :
    Commits (redeemOperatorPairing row.tokenFingerprint device origin now) s
      (redemptionOf row.tokenFingerprint device origin principal (timestamp micros)) s := by
  unfold redeemOperatorPairing
  simp only [commits_bind, commits_read, commits_orReject, commits_ofResult, commits_pure]
  refine ⟨_, _, ⟨rfl, rfl⟩, (id, row), _, ⟨hs.find_code hopen.stored rfl, rfl⟩, (), _,
    ⟨PairingRecord.requireOriginAndLive_eq_ok.mpr ⟨hopen.live, hopen.origin⟩, rfl⟩, _, _,
    ⟨rfl, rfl⟩, principal, _, ⟨PairingRecord.resolveManager_eq_ok.mpr hopen.manager, rfl⟩,
    timestamp micros, s, ?_, rfl, rfl⟩
  dsimp only
  unfold redeemRecord
  rw [hheld.device]
  simp only [commits_bind, commits_require, commits_ofResult]
  refine ⟨(), _, ⟨trivial, rfl⟩, PairingRecord.requireSession_eq_ok.mpr ⟨?_, ?_, micros, ?_, rfl⟩,
    rfl⟩
  · rw [← hs.derived hopen.stored hheld.session]
    exact hheld.session
  · exact truncated_lt_timestamp.mpr hunexpired
  · exact hheld.expiry

/-! ## Authorizing -/

/-- The row that a session is authorized by. -/
structure Authorizes (s : PairingStore) (fingerprint device origin : String) (now : Int)
    (authorization : OperatorSessionAuthorization) : Prop where
  row : ∃ id row principal micros, Open s id row origin principal ∧
    row.Holds device fingerprint micros ∧ now < timestamp micros ∧
    authorization = ⟨fingerprint, device, origin, principal, timestamp micros⟩

omit [SessionDigests] [UuidSource] in
theorem commits_sessionRecord {row : PairingRecord} :
    Commits (sessionRecord fingerprint) s row t ↔
      t = s ∧ ∃ id, s.pairings.find? (fun _ row => row.sessionFingerprint == some fingerprint) =
        some (id, row) := by
  unfold sessionRecord
  simp only [commits_bind, commits_read, commits_orReject, commits_pure]
  constructor
  · rintro ⟨_, _, ⟨rfl, rfl⟩, ⟨id, found⟩, _, ⟨hfind, rfl⟩, rfl, rfl⟩
    exact ⟨rfl, id, hfind⟩
  · rintro ⟨rfl, id, hfind⟩
    exact ⟨_, _, ⟨rfl, rfl⟩, (id, row), _, ⟨hfind, rfl⟩, rfl, rfl⟩

omit [SessionDigests] [UuidSource] in
theorem authorizes_of_commits {authorization : OperatorSessionAuthorization}
    (h : Commits (resolveOperatorSession fingerprint device origin now) s authorization t) :
    t = s ∧ Authorizes s fingerprint device origin now authorization := by
  unfold resolveOperatorSession at h
  simp only [commits_bind, commits_read, commits_sessionRecord, commits_ofResult, commits_require,
    commits_pure] at h
  obtain ⟨row, _, ⟨rfl, id, hfind⟩, _, _, ⟨hlive, rfl⟩, _, _, ⟨hdevice, rfl⟩, expiresAt, _,
    ⟨hsession, rfl⟩, _, _, ⟨rfl, rfl⟩, principal, _, ⟨hmanager, rfl⟩, rfl, rfl⟩ := h
  obtain ⟨hstored, -⟩ := Table.find?_eq_some hfind
  obtain ⟨hrevoked, horigin⟩ := PairingRecord.requireOriginAndLive_eq_ok.mp hlive
  obtain ⟨hfingerprint, hunexpired, micros, hmicros, rfl⟩ :=
    PairingRecord.requireSession_eq_ok.mp hsession
  refine ⟨rfl, id, row, principal, micros, ?_, ⟨hdevice, hfingerprint, hmicros⟩, hunexpired, rfl⟩
  exact ⟨hstored, hrevoked, horigin, PairingRecord.resolveManager_eq_ok.mp hmanager⟩

/-- A session is authorized exactly by an open row that holds it unexpired. -/
theorem Sound.commits_authorize (hs : Sound s) {authorization : OperatorSessionAuthorization} :
    Commits (authorizeOperatorSession fingerprint device origin now) s authorization t ↔
      t = s ∧ Authorizes s fingerprint device origin now authorization := by
  constructor
  · exact authorizes_of_commits
  · rintro ⟨rfl, id, row, principal, micros, hopen, hheld, hunexpired, rfl⟩
    unfold authorizeOperatorSession resolveOperatorSession
    simp only [commits_bind, commits_read, commits_sessionRecord, commits_ofResult,
      commits_require, commits_pure]
    refine ⟨row, _, ⟨rfl, id, hs.find_session hopen.stored hheld.session⟩, (), _,
      ⟨PairingRecord.requireOriginAndLive_eq_ok.mpr ⟨hopen.live, hopen.origin⟩, rfl⟩, (), _,
      ⟨hheld.device, rfl⟩, timestamp micros, _, ⟨?_, rfl⟩, _, _, ⟨rfl, rfl⟩, principal, _,
      ⟨PairingRecord.resolveManager_eq_ok.mpr hopen.manager, rfl⟩, rfl, rfl⟩
    exact PairingRecord.requireSession_eq_ok.mpr ⟨hheld.session, hunexpired, micros, hheld.expiry,
      rfl⟩

end Redemptions

end AgentsAssemble.Pairing
