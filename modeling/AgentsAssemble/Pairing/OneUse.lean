import AgentsAssemble.Pairing.PairingRuns

/-!
# Operator pairings: one use

What every state of a run promises of its pairings: the code of a row serves one device and one
session, a lost answer can be asked for again, and what is expired, revoked or foreign is refused.
-/

namespace AgentsAssemble.Pairing

open Foundation Tx
open Directory (Participant Room UserProfile localOperatorParticipantId localOperatorUserId)
open Persistence (PersistenceError UuidSource unaryUuid unaryUuid_injective unaryUuid_ne_empty)

section OneUse

variable [SessionDigests] [UrlParser] [UuidSource] {s t : PairingStore} {id : String}
  {row : PairingRecord} {token device origin fingerprint session : String} {now micros : Int}
  {redemption : OperatorPairingRedemption} {authorization : OperatorSessionAuthorization}

/-! ## Rows that answer -/

omit [SessionDigests] [UrlParser] [UuidSource] in
theorem PairingRecord.lastExpiry_of_unbound (h : row.deviceFingerprint = none) :
    row.lastExpiry = row.expiresAt := by
  unfold PairingRecord.lastExpiry
  rw [(PairingRecord.session_of_unbound h).2, Option.getD_none]

omit [SessionDigests] [UrlParser] [UuidSource] in
theorem PairingRecord.Holds.lastExpiry (h : row.Holds device session micros) :
    row.lastExpiry = micros := by
  unfold PairingRecord.lastExpiry
  rw [h.expiry, Option.getD_some]

omit [SessionDigests] [UrlParser] [UuidSource] in
theorem Open.incarnates {principal : RoomPrincipal} (h : Open s id row origin principal) :
    Incarnates s.host row.manager :=
  (resolveLocalRoomManager_eq_ok h.manager).2

/-- A redemption is answered by the row of its code: to its first device, or to the one that it
is bound to. -/
structure Serves (s : PairingStore) (id : String) (row : PairingRecord)
    (device session origin : String) (now : Int) : Prop where
  isOpen : ∃ principal, Open s id row origin principal
  bound : ∀ other, row.deviceFingerprint = some other → other = device
  held : ∀ other, row.sessionFingerprint = some other → other = session
  unexpired : now < timestamp row.lastExpiry

omit [UrlParser] in
theorem Redeems.serves (hs : Sound s) (h : Redeems s token device origin now redemption t)
    (hrow : s.pairings.lookup id = some row) (hcode : row.tokenFingerprint = token) :
    Serves s id row device (deriveSessionBearer token).fingerprint origin now := by
  cases h with
  | @first id' row' principal hopen hcode' hunbound hunexpired hunused =>
      obtain rfl := hs.codes hrow hopen.stored (hcode.trans hcode'.symm)
      obtain rfl := Option.some.inj (hrow.symm.trans hopen.stored)
      refine ⟨⟨principal, hopen⟩, ?_, ?_, ?_⟩
      · intro other hother
        rw [hunbound] at hother
        cases hother
      · intro other hother
        rw [(PairingRecord.session_of_unbound hunbound).1] at hother
        cases hother
      · rw [PairingRecord.lastExpiry_of_unbound hunbound]
        exact hunexpired
  | @again id' row' principal micros hopen hcode' hheld hunexpired =>
      obtain rfl := hs.codes hrow hopen.stored (hcode.trans hcode'.symm)
      obtain rfl := Option.some.inj (hrow.symm.trans hopen.stored)
      refine ⟨⟨principal, hopen⟩, ?_, ?_, ?_⟩
      · intro other hother
        exact Option.some.inj (hother.symm.trans hheld.device)
      · intro other hother
        exact Option.some.inj (hother.symm.trans hheld.session)
      · rw [hheld.lastExpiry]
        exact hunexpired

omit [UrlParser] in
/-- A session is authorized by the row that holds it. -/
theorem Authorizes.serves (hs : Sound s)
    (h : Authorizes s fingerprint device origin now authorization)
    (hrow : s.pairings.lookup id = some row) (hsession : row.sessionFingerprint = some fingerprint) :
    Serves s id row device fingerprint origin now ∧ row.deviceFingerprint = some device := by
  obtain ⟨id', row', principal, micros, hopen, hheld, hunexpired, -⟩ := h.row
  obtain rfl := hs.sessions hrow hopen.stored hsession hheld.session
  obtain rfl := Option.some.inj (hrow.symm.trans hopen.stored)
  refine ⟨⟨⟨principal, hopen⟩, ?_, ?_, ?_⟩, hheld.device⟩
  · intro other hother
    exact Option.some.inj (hother.symm.trans hheld.device)
  · intro other hother
    exact Option.some.inj (hother.symm.trans hheld.session)
  · rw [hheld.lastExpiry]
    exact hunexpired

/-! ## One use -/

/-- Neither the code of a row nor its session can be used at an instant. -/
structure Unusable (s : PairingStore) (row : PairingRecord) (now : Int) : Prop where
  code : ∀ device origin redemption t,
    ¬Commits (redeemOperatorPairing row.tokenFingerprint device origin now) s redemption t
  session : ∀ fingerprint device origin authorization t,
    row.sessionFingerprint = some fingerprint →
    ¬Commits (authorizeOperatorSession fingerprint device origin now) s authorization t

omit [UrlParser] in
theorem unusable_of_expired (hs : Sound s) (hrow : s.pairings.lookup id = some row)
    (hexpired : timestamp row.lastExpiry ≤ now) : Unusable s row now where
  code := by
    intro device origin redemption t hcommits
    have hserves := (redeems_of_commits hcommits).serves hs hrow rfl
    exact absurd hserves.unexpired (not_lt.mpr hexpired)
  session := by
    intro fingerprint device origin authorization t hsession hcommits
    obtain ⟨-, hauthorizes⟩ := authorizes_of_commits hcommits
    have hserves := (hauthorizes.serves hs hrow hsession).1
    exact absurd hserves.unexpired (not_lt.mpr hexpired)

/-- What a run leaves of its pairings for whoever asks next. -/
structure OneUse (server : PairingServer) : Prop where
  /-- A row stays bound to the one device and the one session that it holds. -/
  bound : ∀ {labels later id row row' device session micros}, Run Step server labels later →
    server.store.pairings.lookup id = some row → later.store.pairings.lookup id = some row' →
    row.Holds device session micros → row'.Holds device session micros
  /-- A code and a session are of one row. -/
  apart : ∀ {id id' row row'}, server.store.pairings.lookup id = some row →
    server.store.pairings.lookup id' = some row' →
    row.tokenFingerprint = row'.tokenFingerprint ∨
      row.sessionFingerprint.isSome ∧ row.sessionFingerprint = row'.sessionFingerprint → id = id'
  /-- A redemption that is answered leaves its row bound to its device. -/
  redeemed : ∀ {token device origin now redemption t},
    Commits (redeemOperatorPairing token device origin now) server.store redemption t →
    ∃ id row micros, t.pairings.lookup id = some row ∧ row.tokenFingerprint = token ∧
      row.Holds device redemption.authorization.sessionFingerprint micros ∧
      redemption.authorization.expiresAt = timestamp micros
  /-- The device is answered again as long as the row is open and its session lives, whatever the
  deadline of the code, and nothing is created. -/
  retried : ∀ {token device origin now redemption t labels later},
    Commits (redeemOperatorPairing token device origin now) server.store redemption t →
    Run Step ⟨t, now⟩ labels later →
    ∀ {id row origin' principal now'}, Open later.store id row origin' principal →
      (∃ first, t.pairings.lookup id = some first ∧ first.tokenFingerprint = token) →
      now' < redemption.authorization.expiresAt →
      ∃ again,
        Commits (redeemOperatorPairing token device origin' now') later.store again later.store ∧
        again.sessionBearer = redemption.sessionBearer ∧
        again.authorization.sessionFingerprint = redemption.authorization.sessionFingerprint ∧
        again.authorization.expiresAt = redemption.authorization.expiresAt
  /-- A code is redeemed only while its row is open, and by no device but the one that it is bound
  to. -/
  redeems : ∀ {id row device origin now redemption t},
    server.store.pairings.lookup id = some row →
    Commits (redeemOperatorPairing row.tokenFingerprint device origin now) server.store
      redemption t →
    row.revoked = false ∧ row.targetOrigin = origin ∧ Incarnates server.store.host row.manager ∧
      (∀ other, row.deviceFingerprint = some other → other = device) ∧
      now < timestamp row.lastExpiry
  /-- A session is authorized only while its row is open and it is not expired, for its device. -/
  authorizes : ∀ {id row fingerprint device origin now authorization t},
    server.store.pairings.lookup id = some row → row.sessionFingerprint = some fingerprint →
    Commits (authorizeOperatorSession fingerprint device origin now) server.store authorization t →
    t = server.store ∧ row.revoked = false ∧ row.targetOrigin = origin ∧
      Incarnates server.store.host row.manager ∧ row.deviceFingerprint = some device ∧
      now < timestamp row.lastExpiry
  /-- A session that no row holds is not authorized. -/
  held : ∀ {fingerprint device origin now authorization t},
    Commits (authorizeOperatorSession fingerprint device origin now) server.store authorization t →
    ∃ id row, server.store.pairings.lookup id = some row ∧
      row.sessionFingerprint = some fingerprint
  /-- A revocation is for good. -/
  revoked : ∀ {labels later id row row'}, Run Step server labels later →
    server.store.pairings.lookup id = some row → later.store.pairings.lookup id = some row' →
    row.revoked = true → row'.revoked = true
  revokes : ∀ {manager id session t row},
    Commits (revokeOperatorPairing manager id) server.store session t →
    t.pairings.lookup id = some row → row.revoked = true
  /-- The rows, so the unexpired ones, stay within the limits. -/
  total : Table.count (fun _ _ => true) server.store.pairings ≤ maxPairings
  room : ∀ roomId,
    Table.count (fun _ row => row.roomId == roomId) server.store.pairings ≤ maxRoomPairings
  /-- A row goes with its room, or when neither its code nor its session can still be used. -/
  removed : ∀ {label next id row}, Step label server next →
    server.store.pairings.lookup id = some row → next.store.pairings.lookup id = none →
    (∃ host, label.op = .changeHost host ∧ host.rooms.lookup row.roomId = none) ∨
      ∀ now, label.now ≤ now → Unusable server.store row now
  /-- A refused operation leaves the store as it was. -/
  refused : ∀ {label next error}, Step label server next → label.outcome = .error error →
    next.store = server.store

theorem Step.removed {label : PairingLabel} {server next : PairingServer}
    (h : Step label server next) (hrow : server.store.pairings.lookup id = some row)
    (hgone : next.store.pairings.lookup id = none) :
    (∃ host, label.op = .changeHost host ∧ host.rooms.lookup row.roomId = none) ∨
      timestamp row.lastExpiry ≤ label.now := by
  obtain ⟨-, -, hmove⟩ := h
  cases houtcome : label.outcome with
  | ok outcome =>
      rw [houtcome] at hmove
      exact (moves_of_commits hmove).removed hrow hgone
  | error e =>
      rw [houtcome] at hmove
      rw [hmove.2, hrow] at hgone
      cases hgone

omit [SessionDigests] [UrlParser] [UuidSource] in
/-- The row that a revocation leaves is revoked. -/
theorem revoked_of_commits {manager : LocalRoomManagerAuthority} {session : Option String}
    (h : Commits (revokeOperatorPairing manager id) s session t)
    (hrow : t.pairings.lookup id = some row) : row.revoked = true := by
  unfold revokeOperatorPairing at h
  simp only [commits_bind, commits_read, commits_ofResult] at h
  obtain ⟨_, _, ⟨rfl, rfl⟩, _, _, ⟨-, rfl⟩, _, _, ⟨rfl, rfl⟩, h⟩ := h
  split at h
  · rename_i hnone
    obtain ⟨-, rfl⟩ := commits_pure.mp h
    rw [hnone] at hrow
    cases hrow
  · simp only [commits_bind, commits_require, commits_pure, revokePairings, commits_write] at h
    obtain ⟨_, _, ⟨-, rfl⟩, _, _, rfl, -, rfl⟩ := h
    rw [Table.lookup_update] at hrow
    obtain ⟨old, -, rfl⟩ := Option.map_eq_some_iff.mp hrow
    rw [if_pos (beq_self_eq_true id)]
    rfl

omit [UrlParser] in
theorem sound_of_empty (h : s.pairings = ∅) : Sound s := by
  constructor
  case drawn =>
    intro id row hrow
    rw [h] at hrow
    cases hrow
  case codes =>
    intro id id' row row' hrow
    rw [h] at hrow
    cases hrow
  case sessions =>
    intro id id' row row' session hrow
    rw [h] at hrow
    cases hrow
  case derived =>
    intro id row session hrow
    rw [h] at hrow
    cases hrow
  case total =>
    rw [h]
    exact Nat.zero_le _
  case room =>
    intro roomId
    rw [h]
    exact Nat.zero_le _

/-- The device that redeemed a code is answered again in any later state in which the row is open
and the session lives. -/
theorem redeem_again_of_run (hs : Sound s)
    (h : Commits (redeemOperatorPairing token device origin now) s redemption t)
    {labels : List PairingLabel} {later : PairingServer} (hrun : Run Step ⟨t, now⟩ labels later)
    {origin' : String} {principal : RoomPrincipal} {now' : Int} {first : PairingRecord}
    (hopen : Open later.store id row origin' principal)
    (hfirst : t.pairings.lookup id = some first) (hcode : first.tokenFingerprint = token)
    (hlive : now' < redemption.authorization.expiresAt) :
    ∃ again,
      Commits (redeemOperatorPairing token device origin' now') later.store again later.store ∧
      again.sessionBearer = redemption.sessionBearer ∧
      again.authorization.sessionFingerprint = redemption.authorization.sessionFingerprint ∧
      again.authorization.expiresAt = redemption.authorization.expiresAt := by
  have hredeems := redeems_of_commits h
  have ht : Sound t := hredeems.sound hs
  obtain ⟨id', row', micros, hrow', hcode', hheld, hbearer, hexpires⟩ := hredeems.holds
  obtain rfl := ht.codes hfirst hrow' (hcode.trans hcode'.symm)
  have hlater : Sound later.store := sound_of_run ht hrun
  have hevolves : Evolves t later.store := evolves_of_run ht hrun
  have hsame := hevolves.later ht hrow' hopen.stored
  rw [hexpires] at hlive
  have hagain := hlater.redeem_again hopen (hsame.held hheld) hlive
  rw [hsame.code, hcode'] at hagain
  refine ⟨_, hagain, hbearer.symm, ?_, hexpires.symm⟩
  cases hredeems with
  | first => rfl
  | again => rfl

/-- A pairing is used once. -/
theorem operator_pairing_one_use {clock : Int} {labels : List PairingLabel}
    {server : PairingServer} (hempty : s.pairings = ∅)
    (hrun : Run Step ⟨s, clock⟩ labels server) : OneUse server := by
  have hstart : Sound s := sound_of_empty hempty
  have hs : Sound server.store := sound_of_run hstart hrun
  constructor
  case bound =>
    intro labels later id row row' device session micros hmore hrow hrow' hheld
    exact ((evolves_of_run hs hmore).later hs hrow hrow').held hheld
  case apart =>
    intro id id' row row' hrow hrow' hsame
    rcases hsame with hcode | ⟨hsome, hsession⟩
    · exact hs.codes hrow hrow' hcode
    · obtain ⟨session, hheld⟩ := Option.isSome_iff_exists.mp hsome
      exact hs.sessions hrow hrow' hheld (hsession.symm.trans hheld)
  case redeemed =>
    intro token device origin now redemption t hcommits
    have hredeems := redeems_of_commits hcommits
    obtain ⟨id, row, micros, hrow, hcode, hheld, -, hexpires⟩ := hredeems.holds
    refine ⟨id, row, micros, hrow, hcode, ?_, hexpires⟩
    cases hredeems with
    | first => exact hheld
    | again => exact hheld
  case retried =>
    intro token device origin now redemption t labels later hcommits hmore id row origin' principal
      now' hopen hfirst hlive
    obtain ⟨first, hstored, hcode⟩ := hfirst
    exact redeem_again_of_run hs hcommits hmore hopen hstored hcode hlive
  case redeems =>
    intro id row device origin now redemption t hrow hcommits
    have hserves := (redeems_of_commits hcommits).serves hs hrow rfl
    obtain ⟨principal, hopen⟩ := hserves.isOpen
    exact ⟨hopen.live, hopen.origin, hopen.incarnates, hserves.bound, hserves.unexpired⟩
  case authorizes =>
    intro id row fingerprint device origin now authorization t hrow hsession hcommits
    obtain ⟨hsame, hauthorizes⟩ := authorizes_of_commits hcommits
    obtain ⟨hserves, hdevice⟩ := hauthorizes.serves hs hrow hsession
    obtain ⟨principal, hopen⟩ := hserves.isOpen
    exact ⟨hsame, hopen.live, hopen.origin, hopen.incarnates, hdevice, hserves.unexpired⟩
  case held =>
    intro fingerprint device origin now authorization t hcommits
    obtain ⟨-, hauthorizes⟩ := authorizes_of_commits hcommits
    obtain ⟨id, row, principal, micros, hopen, hheld, -, -⟩ := hauthorizes.row
    exact ⟨id, row, hopen.stored, hheld.session⟩
  case revoked =>
    intro labels later id row row' hmore hrow hrow' hrevoked
    exact ((evolves_of_run hs hmore).later hs hrow hrow').revoked hrevoked
  case revokes =>
    intro manager id session t row hcommits hrow
    exact revoked_of_commits hcommits hrow
  case total => exact hs.total
  case room => exact hs.room
  case removed =>
    intro label next id row hstep hrow hgone
    rcases hstep.removed hrow hgone with hroom | hexpired
    · exact Or.inl hroom
    · exact Or.inr fun now hnow => unusable_of_expired hs hrow (hexpired.trans hnow)
  case refused =>
    intro label next error hstep hrejected
    obtain ⟨-, -, hmove⟩ := hstep
    rw [hrejected] at hmove
    exact hmove.2

end OneUse

/-! ## A sample pairing -/

namespace PairingSample

scoped instance : SessionDigests where
  sessionMac _ seed := seed
  fingerprint bearer := bearer

/-- Every URL is a canonical one. -/
scoped instance : UrlParser where
  parse url := some ⟨"https", url⟩

scoped instance : UuidSource where
  newV4 := unaryUuid
  newV4_injective := unaryUuid_injective
  newV4_ne_empty := unaryUuid_ne_empty
  isUuid _ := true

def manager : LocalRoomManagerAuthority :=
  { serverId := "server"
    authorityLineageId := "lineage"
    roomUid := "uid"
    manager := ⟨"lobby", localOperatorUserId, localOperatorParticipantId⟩ }

/-- A bootstrapped host whose operator is in one active room. -/
def host : Host :=
  { bootstrap := .complete ⟨"server", "lineage"⟩
    rooms := (∅ : Table String Room).insert "lobby"
      { roomId := "lobby"
        roomUid := "uid"
        label := "Lobby"
        status := .active
        createdAt := 0
        updatedAt := 0 }
    participants :=
      (∅ : Table (String × String) Participant).insert ("lobby", localOperatorParticipantId)
        { roomId := "lobby"
          participantId := localOperatorParticipantId
          displayName := "Operator"
          avatarImageUrl := ""
          participantType := "human"
          status := .joined
          role := .human
          ownerId := localOperatorUserId
          muted := false
          createdAt := 0
          updatedAt := 0 }
    profiles := (∅ : Table String UserProfile).insert localOperatorUserId
      ⟨localOperatorParticipantId, 1, "Operator", ""⟩ }

def unpaired : PairingStore :=
  { host, pairings := ∅, uuids := 0 }

/-- The step an operation takes at an instant. -/
def take (op : PairingOp) (now : Int) (server : PairingServer) : PairingLabel × PairingServer :=
  match (perform op now).run server.store with
  | .ok (outcome, store) => (⟨op, now, .ok outcome⟩, ⟨store, now⟩)
  | .error error => (⟨op, now, .error error⟩, ⟨server.store, now⟩)

theorem take_clock (op : PairingOp) (now : Int) (server : PairingServer) :
    (take op now server).2.clock = now := by
  unfold take
  split <;> rfl

theorem step_take (op : PairingOp) {now : Int} {server : PairingServer}
    (htime : server.clock ≤ now) : Step (take op now server).1 server (take op now server).2 := by
  unfold take Step
  split
  · rename_i hrun
    exact ⟨htime, rfl, hrun⟩
  · rename_i hrun
    exact ⟨htime, rfl, hrun, rfl⟩

/-- A pairing is created, and a device redeems its code. -/
def created : PairingLabel × PairingServer :=
  take (.create manager "code" "https://host") 0 ⟨unpaired, 0⟩

def redeemed : PairingLabel × PairingServer :=
  take (.redeem "code" "phone" "https://host") 1 created.2

theorem redeemed_run : Run Step ⟨unpaired, 0⟩ ([created.1] ++ [redeemed.1]) redeemed.2 := by
  refine Run.snoc (Run.single (step_take _ le_rfl)) (step_take _ ?_)
  rw [created, take_clock]
  exact Int.zero_le_ofNat 1

end PairingSample

open PairingSample in
/-- A device that redeemed a code holds the one session of its pairing. -/
theorem phone_pairing_one_use :
    redeemed.1.outcome.isOk = true ∧ OneUse redeemed.2 :=
  ⟨by decide +kernel, operator_pairing_one_use rfl redeemed_run⟩

end AgentsAssemble.Pairing
