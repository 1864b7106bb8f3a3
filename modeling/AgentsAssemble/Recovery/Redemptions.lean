import AgentsAssemble.Foundation.Triples
import AgentsAssemble.Recovery.GuestRecovery

/-!
# What a redemption does

The invariant of the rows, and the two ways in which a redemption commits.  In a sound store no
constraint of the database stops one: every refusal is a decision.
-/

namespace AgentsAssemble.Recovery

open Foundation Tx
open Directory (Room RoomSettings invalidDocument)
open Persistence (PersistenceError rejected)
open Admission (InviteScope inviteScopePublic maxTimestampMicros sessionTtl)

/-! ## Secrets -/

section Secrets

variable [RecoverySecrets]

def sessionFingerprint (seed : String) : String :=
  (sessionBearer seed).fingerprint

def codeFingerprint (seed : String) : String :=
  (recoveryCode seed).fingerprint

theorem deriveSessionBearer_injective (purpose : SessionBearerPurpose) :
    Function.Injective fun seed => (deriveSessionBearer purpose seed).fingerprint := by
  intro seed seed' h
  have hbearer := RecoverySecrets.fingerprint_injective h
  have hmac := (String.append_right_inj _).mp hbearer
  exact RecoverySecrets.sessionMac_injective _ hmac

theorem sessionFingerprint_injective : Function.Injective sessionFingerprint :=
  deriveSessionBearer_injective .humanAdmission

theorem codeFingerprint_injective : Function.Injective codeFingerprint :=
  deriveSessionBearer_injective .guestIdentityRecovery

end Secrets

/-! ## Sound rows -/

/-- A code answers to a fingerprint. -/
def RecoveryCode.Mentions (code : RecoveryCode) (fingerprint : String) : Prop :=
  code.fingerprint = fingerprint ∨ code.previousFingerprint = some fingerprint

section Sound

variable [RecoverySecrets]

/-- A code is derived from a seed, and the one before it from an older seed; the seed of the code
is the key of the session that was opened with it. -/
structure CodeSound (seeds : Nat) (code : RecoveryCode) : Prop where
  seed : ∃ j < seeds, code.fingerprint = codeFingerprint (randomSeed j) ∧
    (∀ previous, code.previousFingerprint = some previous →
      ∃ i < j, previous = codeFingerprint (randomSeed i)) ∧
    ∀ key, code.sessionKey = some key → key = randomSeed j

/-- An invitation gave the user of a row its scope in the room. -/
def Granted (sessions : Table String SessionRow) (row : SessionRow) : Prop :=
  ∃ key admitted, sessions.lookup key = some admitted ∧ admitted.keyKind ≠ .recovery ∧
    admitted.userId = row.userId ∧ admitted.roomId = row.roomId ∧
      admitted.inviteScope = row.inviteScope

/-- An answer tells whose session it is, and how far and how long it goes. -/
structure Answers (result : GuestRecoveryResult) (row : SessionRow) : Prop where
  member : result.agentId = row.participantId
  room : result.meetingId = row.roomId
  scope : result.inviteScope = inviteScopePublic row.inviteScope
  expiry : result.expiresAt = row.expiresAt

/-- Every session is derived from its key, the recovered ones under the seeds that were drawn, and
no member has two active ones. -/
structure SessionsSound (seeds : Nat) (sessions : Table String SessionRow) : Prop where
  fingerprints : ∀ {key row}, sessions.lookup key = some row →
    row.sessionFingerprint = sessionFingerprint key
  seats : ∀ {key key' row row'}, sessions.lookup key = some row →
    sessions.lookup key' = some row' → row.state = .active → row'.state = .active →
      row.roomId = row'.roomId → row.participantId = row'.participantId → key = key'
  recovered : ∀ {key row}, sessions.lookup key = some row → row.keyKind = .recovery →
    ∃ j < seeds, key = randomSeed j
  admitted : ∀ {key row}, sessions.lookup key = some row → row.keyKind ≠ .recovery →
    ∀ j, key ≠ randomSeed j
  granted : ∀ {key row}, sessions.lookup key = some row → Granted sessions row
  answered : ∀ {key row result}, sessions.lookup key = some row → row.keyKind = .recovery →
    row.result = some result → Answers result row

/-- No fingerprint is that of two users. -/
structure CodesSound (seeds : Nat) (codes : Table String RecoveryCode) : Prop where
  derived : ∀ {userId code}, codes.lookup userId = some code → CodeSound seeds code
  owners : ∀ {userId userId' code code' fingerprint}, codes.lookup userId = some code →
    codes.lookup userId' = some code' → code.Mentions fingerprint →
      code'.Mentions fingerprint → userId = userId'

structure Sound (s : RecoveryStore) : Prop where
  sessions : SessionsSound s.seeds s.sessions
  codes : CodesSound s.seeds s.codes

variable {s : RecoveryStore}

/-- The next seed opens no session yet. -/
theorem Sound.fresh_session (h : Sound s) : s.sessions.lookup (randomSeed s.seeds) = none := by
  cases hrow : s.sessions.lookup (randomSeed s.seeds) with
  | none => rfl
  | some row =>
      by_cases hkind : row.keyKind = .recovery
      · obtain ⟨j, hj, hkey⟩ := h.sessions.recovered hrow hkind
        exact absurd (RecoverySecrets.randomSeed_injective hkey) hj.ne'
      · exact absurd rfl (h.sessions.admitted hrow hkind s.seeds)

/-- The code of the next seed is no code yet. -/
theorem Sound.fresh_code (h : Sound s) {userId : String} {code : RecoveryCode}
    (hcode : s.codes.lookup userId = some code) :
    ¬code.Mentions (codeFingerprint (randomSeed s.seeds)) := by
  obtain ⟨j, hj, hcurrent, hprevious, -⟩ := (h.codes.derived hcode).seed
  rintro (hsame | hsame)
  · have hseed := codeFingerprint_injective (hcurrent.symm.trans hsame)
    exact absurd (RecoverySecrets.randomSeed_injective hseed) hj.ne
  · obtain ⟨i, hi, hfingerprint⟩ := hprevious _ hsame
    have hseed := codeFingerprint_injective hfingerprint
    have hsame := RecoverySecrets.randomSeed_injective hseed
    omega

theorem Sound.codeIsFree (h : Sound s) (userId : String) :
    s.codeIsFree userId (codeFingerprint (randomSeed s.seeds)) = true := by
  unfold RecoveryStore.codeIsFree
  rw [Option.isNone_iff_eq_none, Option.eq_none_iff_forall_ne_some]
  rintro ⟨owner, code⟩ hfound
  obtain ⟨hstored, hsame⟩ := Table.find?_eq_some hfound
  rw [Bool.and_eq_true, beq_iff_eq] at hsame
  exact h.fresh_code hstored (Or.inl hsame.2)

/-- The session of a fingerprint is the one under its key. -/
theorem Sound.sessionOf (h : Sound s) {fingerprint key : String} {row : SessionRow}
    (hfound : s.sessionOf fingerprint = some (key, row)) :
    s.sessions.lookup key = some row ∧ fingerprint = sessionFingerprint key := by
  obtain ⟨hstored, hsame⟩ := Table.find?_eq_some hfound
  rw [beq_iff_eq] at hsame
  exact ⟨hstored, hsame.symm.trans (h.sessions.fingerprints hstored)⟩

theorem Sound.sessionOf_stored (h : Sound s) {key : String} {row : SessionRow}
    (hrow : s.sessions.lookup key = some row) :
    s.sessionOf (sessionFingerprint key) = some (key, row) := by
  refine Table.find?_of_unique hrow ?_ fun key' row' hrow' hsame => ?_
  · rw [beq_iff_eq]
    exact h.sessions.fingerprints hrow
  · rw [beq_iff_eq, h.sessions.fingerprints hrow'] at hsame
    exact sessionFingerprint_injective hsame

/-- The code of a fingerprint is that of one user. -/
theorem Sound.findCode (h : Sound s) {userId fingerprint : String} {code : RecoveryCode}
    (hcode : s.codes.lookup userId = some code) (hmentions : code.Mentions fingerprint) :
    s.findCode fingerprint = some (userId, code) := by
  refine Table.find?_of_unique hcode ?_ fun userId' code' hcode' hfound => ?_
  · rw [Bool.or_eq_true, beq_iff_eq, beq_iff_eq]
    exact hmentions
  · rw [Bool.or_eq_true, beq_iff_eq, beq_iff_eq] at hfound
    exact h.codes.owners hcode' hcode hfound hmentions

omit [RecoverySecrets] in
theorem findCode_eq_some {userId fingerprint : String} {code : RecoveryCode}
    (h : s.findCode fingerprint = some (userId, code)) :
    s.codes.lookup userId = some code ∧ code.Mentions fingerprint := by
  obtain ⟨hstored, hfound⟩ := Table.find?_eq_some h
  rw [Bool.or_eq_true, beq_iff_eq, beq_iff_eq] at hfound
  exact ⟨hstored, hfound⟩

end Sound

/-! ## Refusals -/

/-- The error is a decision of the host, or tells of a document that it cannot read. -/
inductive Refusal : PersistenceError → Prop
  | rejected (code message : String) : Refusal (rejected code message)
  | invalidDocument : Refusal invalidDocument

theorem refusal_invalidState (message : String) : Refusal (invalidState message) :=
  .rejected _ _

/-- A computation is only refused. -/
def Refuses {α : Type} (x : Except PersistenceError α) : Prop :=
  ∀ e, x = .error e → Refusal e

section Refuses

variable {α β : Type}

theorem refuses_ok (a : α) : Refuses (.ok a) := by
  intro e h
  cases h

theorem refuses_error {e : PersistenceError} (h : Refusal e) :
    Refuses (.error e : Except PersistenceError α) := by
  intro d hd
  cases hd
  exact h

theorem refuses_bind {x : Except PersistenceError α} {f : α → Except PersistenceError β}
    (hx : Refuses x) (hf : ∀ a, Refuses (f a)) : Refuses (x >>= f) := by
  intro e h
  cases hresult : x with
  | error d =>
      rw [hresult] at h
      cases h
      exact hx _ hresult
  | ok a =>
      rw [hresult] at h
      exact hf a e h

theorem refuses_ite {c : Prop} [Decidable c] {x y : Except PersistenceError α} (hx : Refuses x)
    (hy : Refuses y) : Refuses (if c then x else y) := by
  split_ifs
  · exact hx
  · exact hy

theorem refuses_required (found : Option α) (owner : String) : Refuses (required found owner) := by
  cases found with
  | none => exact refuses_error (refusal_invalidState _)
  | some value => exact refuses_ok value

theorem refuses_decodeBoundProfile (profile : Directory.UserProfile) (participantId : String) :
    Refuses (decodeBoundProfile profile participantId) :=
  refuses_ite (refuses_error (.rejected _ _))
    (refuses_ite (refuses_error (refusal_invalidState _)) (refuses_ok _))

theorem refuses_resolveLiveRow (host : Pairing.Host) (row : SessionRow) :
    Refuses (resolveLiveRow host row) := by
  unfold resolveLiveRow
  refine refuses_ite (refuses_error (refusal_invalidState _)) ?_
  refine refuses_bind (refuses_required _ _) fun room => ?_
  refine refuses_bind (refuses_required _ _) fun participant => ?_
  refine refuses_bind (refuses_required _ _) fun stored => ?_
  refine refuses_bind (refuses_decodeBoundProfile _ _) fun profile => ?_
  refine refuses_ite (refuses_error (refusal_invalidState _)) ?_
  refine refuses_ite (refuses_ok _) ?_
  refine refuses_ite (refuses_error (refusal_invalidState _)) ?_
  refine refuses_ite (refuses_ok _) ?_
  exact refuses_ite (refuses_error (refusal_invalidState _)) (refuses_ok _)

theorem refuses_resolveHumanSession (s : RecoveryStore) (fingerprint : String)
    (roomId : Option String) (now : Nat) :
    Refuses (resolveHumanSession s fingerprint roomId now) := by
  unfold resolveHumanSession
  cases s.sessionOf fingerprint with
  | none => exact refuses_ok _
  | some found =>
      exact refuses_ite (refuses_ok _)
        (refuses_ite (refuses_ok _) (refuses_resolveLiveRow s.host found.2))

theorem refuses_requirePublicAccountUser (userId : String) :
    Refuses (requirePublicAccountUser userId) :=
  refuses_ite (refuses_error (.rejected _ _)) (refuses_ok _)

theorem refuses_loadProfileForIdentity (host : Pairing.Host) (userId participantId : String) :
    Refuses (Pairing.loadProfileForIdentity host userId participantId) := by
  unfold Pairing.loadProfileForIdentity
  cases host.profiles.lookup userId with
  | none => exact refuses_error (.rejected _ _)
  | some profile =>
      exact refuses_ite (refuses_error (.rejected _ _))
        (refuses_ite (refuses_error (.rejected _ _)) (refuses_ok _))

theorem refuses_requireCompleteBootstrap (host : Pairing.Host) :
    Refuses (Pairing.requireCompleteBootstrap host) := by
  unfold Pairing.requireCompleteBootstrap
  cases host.bootstrap with
  | complete status => exact refuses_ok status
  | empty => exact refuses_error (.rejected _ _)
  | repairRequired => exact refuses_error (.rejected _ _)

theorem refuses_loadAccountUser (s : RecoveryStore) (userId : String) :
    Refuses (loadAccountUser s userId) := by
  unfold loadAccountUser
  cases s.host.profiles.lookup userId with
  | none => exact refuses_error (.rejected _ _)
  | some row =>
      exact refuses_bind (refuses_loadProfileForIdentity _ _ _) fun profile => refuses_ok _

theorem refuses_revalidateHumanSession (s : RecoveryStore) (expected : HumanSessionAuthorization)
    (now : Nat) : Refuses (revalidateHumanSession s expected now) := by
  unfold revalidateHumanSession
  refine refuses_bind (refuses_resolveHumanSession _ _ _ _) fun resolution => ?_
  cases resolution with
  | live authorization profile =>
      exact refuses_ite (refuses_error (refusal_invalidState _)) (refuses_ok _)
  | missing => exact refuses_error (.rejected _ _)
  | foreignRoom => exact refuses_error (.rejected _ _)
  | unavailable => exact refuses_error (.rejected _ _)

theorem refuses_resolveAccountUser (s : RecoveryStore) (authority : AccountAuthority) (now : Nat) :
    Refuses (resolveAccountUser s authority now) := by
  unfold resolveAccountUser
  refine refuses_bind (refuses_requireCompleteBootstrap _) fun _ => ?_
  cases authority with
  | localOperator =>
      exact refuses_bind (refuses_loadProfileForIdentity _ _ _) fun profile => refuses_ok _
  | browserDevice fingerprint =>
      dsimp only
      cases s.devices.lookup fingerprint with
      | none => exact refuses_ok none
      | some userId =>
          refine refuses_bind (refuses_requirePublicAccountUser _) fun _ => ?_
          exact refuses_bind (refuses_loadAccountUser _ _) fun user => refuses_ok _
  | humanSession authorization browserFingerprint =>
      refine refuses_bind (refuses_revalidateHumanSession _ _ _) fun found => ?_
      refine refuses_ite (refuses_error (.rejected _ _)) ?_
      refine refuses_bind (refuses_requirePublicAccountUser _) fun _ => ?_
      exact refuses_ite (refuses_error (.rejected _ _)) (refuses_ok _)

theorem refuses_revalidateAccountIdentity (s : RecoveryStore) (identity : AccountIdentity)
    (now : Nat) : Refuses (revalidateAccountIdentity s identity now) :=
  refuses_bind (refuses_resolveAccountUser _ _ _) fun _ =>
    refuses_ite (refuses_error (.rejected _ _)) (refuses_ok _)

theorem refuses_recoverySource (s : RecoveryStore) (userId roomId : String) (now : Nat) :
    Refuses (recoverySource s userId roomId now) := by
  unfold recoverySource
  refine refuses_bind (refuses_loadAccountUser _ _) fun user => ?_
  cases s.latestSession userId roomId with
  | none => exact refuses_error (.rejected _ _)
  | some source =>
      dsimp only
      split
      · exact refuses_ite (refuses_error (refusal_invalidState _))
          (refuses_ite (refuses_error (.rejected _ _))
            (refuses_ite (refuses_error (.rejected _ _)) (refuses_ok _)))
      · exact refuses_error .invalidDocument

end Refuses

end AgentsAssemble.Recovery
