import AgentsAssemble.Pairing.PairingRows

/-!
# Operator pairings: runs

Over every run: a pairing is bound to one device and to one session, its device may repeat the
redemption while the session lives, and rows that can still be used are not removed.
-/

namespace AgentsAssemble.Pairing

open Foundation Tx
open Persistence (PersistenceError UuidSource unaryUuid unaryUuid_injective unaryUuid_ne_empty)

/-! ## Runs -/

inductive PairingOp
  | create (manager : LocalRoomManagerAuthority) (tokenFingerprint targetOrigin : String)
  | redeem (tokenFingerprint device origin : String)
  | authorize (fingerprint device origin : String)
  | attendeeParent (fingerprint roomId : String)
  | revoke (manager : LocalRoomManagerAuthority) (pairingId : String)
  | leave (expected : OperatorSessionAuthorization)
  | revokeRoom (roomId : String)
  | changeHost (host : Host)

inductive PairingOutcome
  | pairing (pairing : OperatorPairing)
  | redemption (redemption : OperatorPairingRedemption)
  | authorization (authorization : OperatorSessionAuthorization)
  | parent (principal : RoomPrincipal) (expiresAt : Int)
  | revoked (fingerprint : Option String)
  | left (fingerprint : String)
  | roomRevoked (fingerprints : List String)
  | changed
  deriving DecidableEq

/-- The store and the instant of its last operation. -/
structure PairingServer where
  store : PairingStore
  clock : Int

/-- An operation at an instant, with its outcome. -/
structure PairingLabel where
  op : PairingOp
  now : Int
  outcome : Except PersistenceError PairingOutcome

section Runs

variable [SessionDigests] [UrlParser] [UuidSource]

def perform (op : PairingOp) (now : Int) : PairingTx PairingOutcome :=
  match op with
  | .create manager token origin => .pairing <$> createOperatorPairing manager token origin now
  | .redeem token device origin => .redemption <$> redeemOperatorPairing token device origin now
  | .authorize fingerprint device origin =>
      .authorization <$> authorizeOperatorSession fingerprint device origin now
  | .attendeeParent fingerprint roomId =>
      (fun found => .parent found.1 found.2) <$> requireAttendeeParent fingerprint roomId now
  | .revoke manager pairingId => .revoked <$> revokeOperatorPairing manager pairingId
  | .leave expected => .left <$> leaveOperatorSession expected now
  | .revokeRoom roomId => .roomRevoked <$> revokeRoomAccess roomId
  | .changeHost host => (fun _ => .changed) <$> changeHost host

/-- One operation, at an instant that is not before the last one. -/
def Step (label : PairingLabel) (s t : PairingServer) : Prop :=
  s.clock ≤ label.now ∧ t.clock = label.now ∧
    match label.outcome with
    | .ok outcome => Commits (perform label.op label.now) s.store outcome t.store
    | .error error => Rejects (perform label.op label.now) s.store error ∧ t.store = s.store

/-! ## What an operation can do -/

variable {s t : PairingStore}

/-- What a committed operation did to the store. -/
inductive Moves (s : PairingStore) (now : Int) : PairingOp → PairingStore → Prop
  | same {op : PairingOp} : Moves s now op s
  | created {manager : LocalRoomManagerAuthority} {token origin : String} {t : PairingStore}
      (creates : Creates s manager token origin now t) :
      Moves s now (.create manager token origin) t
  | redeemed {token device origin : String} {redemption : OperatorPairingRedemption}
      {t : PairingStore} (redeems : Redeems s token device origin now redemption t) :
      Moves s now (.redeem token device origin) t
  | revoked {op : PairingOp} (p : String → PairingRecord → Bool) :
      Moves s now op { s with pairings := s.pairings.update p PairingRecord.revoke }
  | hostChanged (host : Host) :
      Moves s now (.changeHost host)
        { s with
          host
          pairings := s.pairings.deleteWhere fun _ row =>
            (host.rooms.lookup row.roomId).isNone }

omit [SessionDigests] [UrlParser] [UuidSource] in
theorem revalidate_same {expected authorization : OperatorSessionAuthorization} {now : Int}
    (h : Commits (revalidateOperatorSession expected now) s authorization t) : t = s := by
  unfold revalidateOperatorSession at h
  simp only [commits_bind, commits_require, commits_pure] at h
  obtain ⟨_, _, hresolved, _, _, ⟨-, rfl⟩, -, rfl⟩ := h
  exact (authorizes_of_commits hresolved).1

omit [SessionDigests] [UrlParser] [UuidSource] in
theorem attendeeParent_same {fingerprint roomId : String} {now : Int}
    {parent : RoomPrincipal × Int}
    (h : Commits (requireAttendeeParent fingerprint roomId now) s parent t) : t = s := by
  unfold requireAttendeeParent at h
  simp only [commits_bind, commits_sessionRecord, commits_require, commits_ofResult, commits_read,
    commits_pure] at h
  obtain ⟨_, _, ⟨rfl, -⟩, _, _, ⟨-, rfl⟩, _, _, ⟨-, rfl⟩, _, _, ⟨-, rfl⟩, _, _, ⟨-, rfl⟩, -, rfl⟩ := h
  rfl

theorem moves_of_commits {op : PairingOp} {now : Int} {outcome : PairingOutcome}
    (h : Commits (perform op now) s outcome t) : Moves s now op t := by
  cases op with
  | create manager token origin =>
      obtain ⟨pairing, hcreate, -⟩ := commits_map.mp h
      exact .created (creates_of_commits hcreate)
  | redeem token device origin =>
      obtain ⟨redemption, hredeem, -⟩ := commits_map.mp h
      exact .redeemed (redeems_of_commits hredeem)
  | authorize fingerprint device origin =>
      obtain ⟨authorization, hauthorize, -⟩ := commits_map.mp h
      obtain ⟨rfl, -⟩ := authorizes_of_commits hauthorize
      exact .same
  | attendeeParent fingerprint roomId =>
      obtain ⟨parent, hparent, -⟩ := commits_map.mp h
      obtain rfl := attendeeParent_same hparent
      exact .same
  | revoke manager pairingId =>
      obtain ⟨fingerprint, hrevoke, -⟩ := commits_map.mp h
      unfold revokeOperatorPairing at hrevoke
      simp only [commits_bind, commits_read, commits_ofResult] at hrevoke
      obtain ⟨_, _, ⟨rfl, rfl⟩, _, _, ⟨-, rfl⟩, _, _, ⟨rfl, rfl⟩, hrevoke⟩ := hrevoke
      split at hrevoke
      · obtain ⟨-, rfl⟩ := commits_pure.mp hrevoke
        exact .same
      · simp only [commits_bind, commits_require, commits_pure, revokePairings,
          commits_write] at hrevoke
        obtain ⟨_, _, ⟨-, rfl⟩, _, _, rfl, -, rfl⟩ := hrevoke
        exact .revoked _
  | leave expected =>
      obtain ⟨fingerprint, hleave, -⟩ := commits_map.mp h
      unfold leaveOperatorSession revokePairings at hleave
      simp only [commits_bind, commits_write, commits_pure] at hleave
      obtain ⟨_, _, hcurrent, _, _, rfl, -, rfl⟩ := hleave
      obtain rfl := revalidate_same hcurrent
      exact .revoked _
  | revokeRoom roomId =>
      obtain ⟨fingerprints, hrevoke, -⟩ := commits_map.mp h
      unfold revokeRoomAccess revokePairings at hrevoke
      simp only [commits_bind, commits_read, commits_write, commits_pure] at hrevoke
      obtain ⟨_, _, ⟨-, rfl⟩, _, _, rfl, -, rfl⟩ := hrevoke
      exact .revoked _
  | changeHost host =>
      obtain ⟨_, hchange, -⟩ := commits_map.mp h
      obtain rfl := commits_write.mp hchange
      exact .hostChanged host

namespace Moves

variable {op : PairingOp} {now : Int}

omit [UrlParser] in
theorem preserves (h : Moves s now op t) (hs : Sound s) : Sound t ∧ Evolves s t := by
  cases h with
  | same => exact ⟨hs, .refl s⟩
  | created hcreates => exact ⟨hcreates.sound hs, hcreates.evolves⟩
  | redeemed hredeems => exact ⟨hredeems.sound hs, hredeems.evolves⟩
  | revoked p => exact ⟨(Narrows.of_revoke s p).sound hs, (Narrows.of_revoke s p).evolves⟩
  | hostChanged host =>
      have hnarrows := Narrows.of_delete s
        (fun _ row => (host.rooms.lookup row.roomId).isNone) host
      exact ⟨hnarrows.sound hs, hnarrows.evolves⟩

omit [UrlParser] in
/-- A row goes with its room, or because a sweep found it expired. -/
theorem removed (h : Moves s now op t) {id : String} {row : PairingRecord}
    (hrow : s.pairings.lookup id = some row) (hgone : t.pairings.lookup id = none) :
    (∃ host, op = .changeHost host ∧ host.rooms.lookup row.roomId = none) ∨
      timestamp row.lastExpiry ≤ now := by
  cases h with
  | same =>
      rw [hrow] at hgone
      cases hgone
  | @created manager token origin t hcreates =>
      by_cases hexpired : timestamp row.lastExpiry ≤ now
      · exact Or.inr hexpired
      · have hkept : (sweep s now).pairings.lookup id = some row := by
          refine Table.lookup_deleteWhere.mpr ⟨hrow, ?_⟩
          rw [decide_eq_false_iff_not, le_timestampMicros]
          exact hexpired
        rw [hcreates.store] at hgone
        rw [Table.lookup_insert_ite] at hgone
        split at hgone
        · cases hgone
        · rw [hkept] at hgone
          cases hgone
  | redeemed hredeems =>
      cases hredeems with
      | again hopen hcode hheld hunexpired =>
          rw [hrow] at hgone
          cases hgone
      | first hopen hcode hunbound hunexpired hunused =>
          rw [Redeems.lookup_boundStore, hrow] at hgone
          cases hgone
  | revoked p =>
      rw [Table.lookup_update, hrow] at hgone
      cases hgone
  | hostChanged host =>
      refine Or.inl ⟨host, rfl, ?_⟩
      cases hroom : host.rooms.lookup row.roomId with
      | none => rfl
      | some room =>
          have hkept : (s.pairings.deleteWhere fun _ row =>
              (host.rooms.lookup row.roomId).isNone).lookup id = some row := by
            refine Table.lookup_deleteWhere.mpr ⟨hrow, ?_⟩
            rw [hroom]
            rfl
          rw [hkept] at hgone
          cases hgone

end Moves

theorem Step.preserves {label : PairingLabel} {server next : PairingServer}
    (h : Step label server next) (hs : Sound server.store) :
    Sound next.store ∧ Evolves server.store next.store := by
  obtain ⟨-, -, hmove⟩ := h
  cases houtcome : label.outcome with
  | ok outcome =>
      rw [houtcome] at hmove
      exact (moves_of_commits hmove).preserves hs
  | error e =>
      rw [houtcome] at hmove
      rw [hmove.2]
      exact ⟨hs, .refl _⟩

theorem sound_of_run {labels : List PairingLabel} {server later : PairingServer}
    (hs : Sound server.store) (hrun : Run Step server labels later) : Sound later.store :=
  Run.invariant (I := fun server => Sound server.store)
    (fun _ _ _ hs hstep => (hstep.preserves hs).1) hs hrun

theorem evolves_of_run {labels : List PairingLabel} {server later : PairingServer}
    (hs : Sound server.store) (hrun : Run Step server labels later) :
    Evolves server.store later.store := by
  refine Run.relates (I := fun server : PairingServer => Sound server.store)
    (R := fun s t : PairingServer => Evolves s.store t.store)
    (fun s => Evolves.refl s.store) ?_ ?_ ?_ hs hrun
  · intro s t u hst htu
    exact hst.trans htu
  · intro label s t hs hstep
    exact (hstep.preserves hs).1
  · intro label s t hs hstep
    exact (hstep.preserves hs).2

end Runs

end AgentsAssemble.Pairing
