import AgentsAssemble.Recovery.Outcomes

/-!
# Runs of guest recovery

Codes are issued and redeemed while the rest of the host admits, ends and removes sessions, in any
order.  Every transaction keeps the rows sound and changes of what is stored only what `Evolves`
allows.
-/

namespace AgentsAssemble.Recovery

open Foundation Tx
open Directory (Participant Room RoomSettings UserProfile)
open Persistence (PersistenceError unaryUuid unaryUuid_injective unaryUuid_ne_empty)
open Admission (SessionState inviteScopePublic)

/-! ## Steps -/

/-- Sessions that are removed, with the mentions of them. -/
def RecoveryStore.withoutSessions (s : RecoveryStore) (p : SessionRow → Bool) : RecoveryStore :=
  { s with
    sessions := s.sessions.deleteWhere fun _ row => p row
    codes := s.codes.update
      (fun _ code => (code.sessionKey.bind s.sessions.lookup).any p)
      fun code => { code with sessionKey := none } }

section Runs

variable [RecoverySecrets]

/-- What the rest of the host does to the rows: an admission by an invitation takes the seat of the
member, sessions are ended, and a room or a guest goes with its sessions. -/
inductive Elsewhere (s : RecoveryStore) (now : Nat) : RecoveryStore → Prop
  | administered (host : Pairing.Host) (settings : Table String RoomSettings)
      (devices : Table String String) : Elsewhere s now { s with host, settings, devices }
  | ended (p : SessionRow → Bool) : Elsewhere s now
      { s with
        sessions := s.sessions.update (fun _ row => row.state == .active && p row)
          SessionRow.end_ }
  | admitted {key : String} {row : SessionRow} (fresh : s.sessions.lookup key = none)
      (unseeded : ∀ j, key ≠ randomSeed j) (kind : row.keyKind ≠ .recovery)
      (fingerprint : row.sessionFingerprint = sessionFingerprint key)
      (capacity : capacityReached s row.roomId row.participantId now = false) :
      Elsewhere s now
        { s with sessions := (seatEnded row.roomId row.participantId s.sessions).insert key row }
  | roomDeleted (roomId : String) :
      Elsewhere s now (s.withoutSessions fun row => row.roomId == roomId)
  | guestRetired (userId : String) :
      Elsewhere s now
        { s.withoutSessions fun row => row.userId == userId with
          codes := (s.withoutSessions fun row => row.userId == userId).codes.erase userId }

/-- A redemption that was accepted, with its answer. -/
structure Accepted where
  request : GuestRecoveryRequest
  commit : GuestRecoveryCommit
  deriving DecidableEq, Repr

/-- A transaction of the host, and the redemption that it has accepted. -/
inductive Step (s : RecoveryStore) (now : Nat) : Option Accepted → RecoveryStore → Prop
  | issued {identity : AccountIdentity} {code : String} {t : RecoveryStore}
      (commits : Commits (issueGuestRecoveryCode identity now) s code t) : Step s now none t
  | redeemed {request : GuestRecoveryRequest} {commit : GuestRecoveryCommit} {t : RecoveryStore}
      (commits : Commits (redeemGuestRecoveryCode request now) s commit t) :
      Step s now (some ⟨request, commit⟩) t
  | elsewhere {t : RecoveryStore} (other : Elsewhere s now t) : Step s now none t

/-- A host before its first session. -/
def opened (host : Pairing.Host) (settings : Table String RoomSettings)
    (devices : Table String String) : RecoveryStore :=
  { host, settings, devices, sessions := ∅, codes := ∅, seeds := 0 }

/-- A run lists what it has accepted.  Its transactions take their times in any order, up to
`latest`. -/
inductive Run (latest : Nat) : List Accepted → RecoveryStore → Prop
  | opened (host : Pairing.Host) (settings : Table String RoomSettings)
      (devices : Table String String) : Run latest [] (opened host settings devices)
  | step {accepted : List Accepted} {s t : RecoveryStore} {now : Nat} {answer : Option Accepted}
      (run : Run latest accepted s) (due : now ≤ latest) (step : Step s now answer t) :
      Run latest (accepted ++ answer.toList) t

/-! ## Sound sessions -/

section Sessions

variable {seeds : Nat} {sessions : Table String SessionRow}

omit [RecoverySecrets] in
/-- An update keeps all of a row but its state. -/
theorem lookup_ended {p : String → SessionRow → Bool} {key : String} {row : SessionRow}
    (h : (sessions.update p SessionRow.end_).lookup key = some row) :
    ∃ stored, sessions.lookup key = some stored ∧ row.end_ = stored.end_ ∧
      (row.state = .active → row = stored) := by
  rw [Table.lookup_update] at h
  obtain ⟨stored, hstored, rfl⟩ := Option.map_eq_some_iff.mp h
  refine ⟨stored, hstored, ?_⟩
  split_ifs
  · exact ⟨rfl, fun hactive => absurd hactive SessionState.noConfusion⟩
  · exact ⟨rfl, fun _ => rfl⟩

omit [RecoverySecrets] in
theorem Granted.update {p : String → SessionRow → Bool} {row : SessionRow}
    (h : Granted sessions row) : Granted (sessions.update p SessionRow.end_) row := by
  obtain ⟨key, admitted, hadmitted, hkind, huser, hroom, hscope⟩ := h
  refine ⟨key, if p key admitted then admitted.end_ else admitted, ?_, ?_⟩
  · rw [Table.lookup_update, hadmitted, Option.map_some]
  · split_ifs
    · exact ⟨hkind, huser, hroom, hscope⟩
    · exact ⟨hkind, huser, hroom, hscope⟩

omit [RecoverySecrets] in
theorem Granted.of_end {row stored : SessionRow} (h : Granted sessions stored)
    (hsame : row.end_ = stored.end_) : Granted sessions row := by
  obtain ⟨key, admitted, hadmitted, hkind, huser, hroom, hscope⟩ := h
  exact ⟨key, admitted, hadmitted, hkind, huser.trans (congrArg SessionRow.userId hsame).symm,
    hroom.trans (congrArg SessionRow.roomId hsame).symm,
    hscope.trans (congrArg SessionRow.inviteScope hsame).symm⟩

omit [RecoverySecrets] in
theorem Answers.of_end {result : GuestRecoveryResult} {row stored : SessionRow}
    (h : Answers result stored) (hsame : row.end_ = stored.end_) : Answers result row where
  member := h.member.trans (congrArg SessionRow.participantId hsame).symm
  room := h.room.trans (congrArg SessionRow.roomId hsame).symm
  scope :=
    h.scope.trans (congrArg (fun row => inviteScopePublic row.inviteScope) hsame).symm
  expiry := h.expiry.trans (congrArg SessionRow.expiresAt hsame).symm

omit [RecoverySecrets] in
theorem Granted.insert {key : String} {row added : SessionRow} (h : Granted sessions row)
    (hfresh : sessions.lookup key = none) : Granted (sessions.insert key added) row := by
  obtain ⟨admittedKey, admitted, hadmitted, hrest⟩ := h
  refine ⟨admittedKey, admitted, ?_, hrest⟩
  rw [AList.lookup_insert_ne, hadmitted]
  rintro rfl
  rw [hfresh] at hadmitted
  cases hadmitted

theorem SessionsSound.mono {seeds' : Nat} (h : SessionsSound seeds sessions)
    (hseeds : seeds ≤ seeds') : SessionsSound seeds' sessions :=
  { h with
    recovered := fun hrow hkind => by
      obtain ⟨j, hj, hkey⟩ := h.recovered hrow hkind
      exact ⟨j, hj.trans_le hseeds, hkey⟩ }

theorem SessionsSound.update (h : SessionsSound seeds sessions)
    (p : String → SessionRow → Bool) : SessionsSound seeds (sessions.update p SessionRow.end_) where
  fingerprints := by
    intro key row hrow
    obtain ⟨stored, hstored, hsame, -⟩ := lookup_ended hrow
    have hfingerprint := congrArg SessionRow.sessionFingerprint hsame
    exact Eq.trans hfingerprint (h.fingerprints hstored :)
  seats := by
    intro key key' row row' hrow hrow' hactive hactive' hroom hparticipant
    obtain ⟨stored, hstored, -, heq⟩ := lookup_ended hrow
    obtain ⟨stored', hstored', -, heq'⟩ := lookup_ended hrow'
    obtain rfl := heq hactive
    obtain rfl := heq' hactive'
    exact h.seats hstored hstored' hactive hactive' hroom hparticipant
  recovered := by
    intro key row hrow hkind
    obtain ⟨stored, hstored, hsame, -⟩ := lookup_ended hrow
    exact h.recovered hstored ((congrArg SessionRow.keyKind hsame).symm.trans hkind)
  admitted := by
    intro key row hrow hkind
    obtain ⟨stored, hstored, hsame, -⟩ := lookup_ended hrow
    exact h.admitted hstored fun hother => hkind ((congrArg SessionRow.keyKind hsame).trans hother)
  granted := by
    intro key row hrow
    obtain ⟨stored, hstored, hsame, -⟩ := lookup_ended hrow
    exact (h.granted hstored).update.of_end hsame
  answered := by
    intro key row result hrow hkind hresult
    obtain ⟨stored, hstored, hsame, -⟩ := lookup_ended hrow
    have hanswers := h.answered hstored ((congrArg SessionRow.keyKind hsame).symm.trans hkind)
      ((congrArg SessionRow.result hsame).symm.trans hresult)
    exact hanswers.of_end hsame

/-- Sessions are removed with all of their user's, or with all of their room's. -/
theorem SessionsSound.deleteWhere (h : SessionsSound seeds sessions) {p : SessionRow → Bool}
    (hp : ∀ row row', row.userId = row'.userId → row.roomId = row'.roomId → p row = p row') :
    SessionsSound seeds (sessions.deleteWhere fun _ row => p row) where
  fingerprints := fun hrow => h.fingerprints (Table.lookup_deleteWhere.mp hrow).1
  seats := fun hrow hrow' =>
    h.seats (Table.lookup_deleteWhere.mp hrow).1 (Table.lookup_deleteWhere.mp hrow').1
  recovered := fun hrow => h.recovered (Table.lookup_deleteWhere.mp hrow).1
  admitted := fun hrow => h.admitted (Table.lookup_deleteWhere.mp hrow).1
  granted := by
    intro key row hrow
    obtain ⟨hstored, hkept⟩ := Table.lookup_deleteWhere.mp hrow
    obtain ⟨admittedKey, admitted, hadmitted, hkind, huser, hroom, hscope⟩ := h.granted hstored
    refine ⟨admittedKey, admitted, Table.lookup_deleteWhere.mpr ⟨hadmitted, ?_⟩, hkind, huser,
      hroom, hscope⟩
    rw [hp admitted row huser hroom, hkept]
  answered := fun hrow => h.answered (Table.lookup_deleteWhere.mp hrow).1

/-- The next session of a member, after the ones before it were ended. -/
theorem SessionsSound.insert (h : SessionsSound seeds sessions) {key : String} {row : SessionRow}
    (hfresh : sessions.lookup key = none)
    (hfingerprint : row.sessionFingerprint = sessionFingerprint key)
    (hrecovered : row.keyKind = .recovery → ∃ j < seeds, key = randomSeed j)
    (hadmitted : row.keyKind ≠ .recovery → ∀ j, key ≠ randomSeed j)
    (hgranted : row.keyKind = .recovery → Granted sessions row)
    (hanswered : ∀ result, row.keyKind = .recovery → row.result = some result →
      Answers result row) :
    SessionsSound seeds ((seatEnded row.roomId row.participantId sessions).insert key row) := by
  have hended := h.update fun _ other =>
    other.state == .active && other.isOf row.roomId row.participantId
  have hkey : (seatEnded row.roomId row.participantId sessions).lookup key = none := by
    rw [seatEnded, Table.lookup_update, hfresh, Option.map_none]
  have hfree : ∀ {key' other}, (seatEnded row.roomId row.participantId sessions).lookup key' =
      some other → other.state = .active →
        ¬(row.roomId = other.roomId ∧ row.participantId = other.participantId) := by
    rintro key' other hother hactive ⟨hroom, hparticipant⟩
    obtain ⟨stored, -, ⟨rfl, hseat⟩ | ⟨rfl, -⟩⟩ := lookup_seatEnded hother
    · have hof := hseat hactive
      rw [SessionRow.isOf, hroom, hparticipant, beq_self_eq_true, beq_self_eq_true] at hof
      cases hof
    · cases hactive
  constructor
  case fingerprints =>
    intro key' other hother
    rcases (Table.sets_insert _ _ _).cases hother with ⟨rfl, hrow⟩ | ⟨-, hrow⟩
    · obtain rfl := Option.some.inj hrow
      exact hfingerprint
    · exact hended.fingerprints hrow
  case seats =>
    intro key₁ key₂ row₁ row₂ h₁ h₂ hactive₁ hactive₂ hroom hparticipant
    rcases (Table.sets_insert _ _ _).cases h₁ with ⟨rfl, hrow₁⟩ | ⟨-, hrow₁⟩ <;>
      rcases (Table.sets_insert _ _ _).cases h₂ with ⟨rfl, hrow₂⟩ | ⟨-, hrow₂⟩
    · rfl
    · obtain rfl := Option.some.inj hrow₁
      exact absurd ⟨hroom, hparticipant⟩ (hfree hrow₂ hactive₂)
    · obtain rfl := Option.some.inj hrow₂
      exact absurd ⟨hroom.symm, hparticipant.symm⟩ (hfree hrow₁ hactive₁)
    · exact hended.seats hrow₁ hrow₂ hactive₁ hactive₂ hroom hparticipant
  case recovered =>
    intro key' other hother hkind
    rcases (Table.sets_insert _ _ _).cases hother with ⟨rfl, hrow⟩ | ⟨-, hrow⟩
    · obtain rfl := Option.some.inj hrow
      exact hrecovered hkind
    · exact hended.recovered hrow hkind
  case admitted =>
    intro key' other hother hkind
    rcases (Table.sets_insert _ _ _).cases hother with ⟨rfl, hrow⟩ | ⟨-, hrow⟩
    · obtain rfl := Option.some.inj hrow
      exact hadmitted hkind
    · exact hended.admitted hrow hkind
  case granted =>
    intro key' other hother
    rcases (Table.sets_insert _ _ _).cases hother with ⟨rfl, hrow⟩ | ⟨-, hrow⟩
    · obtain rfl := Option.some.inj hrow
      by_cases hkind : row.keyKind = .recovery
      · exact (hgranted hkind).update.insert hkey
      · exact ⟨key', row, AList.lookup_insert _, hkind, rfl, rfl, rfl⟩
    · exact (hended.granted hrow).insert hkey
  case answered =>
    intro key' other result hother hkind hresult
    rcases (Table.sets_insert _ _ _).cases hother with ⟨rfl, hrow⟩ | ⟨-, hrow⟩
    · obtain rfl := Option.some.inj hrow
      exact hanswered result hkind hresult
    · exact hended.answered hrow hkind hresult

end Sessions

/-! ## Sound codes -/

section Codes

variable {seeds : Nat} {codes : Table String RecoveryCode}

theorem CodeSound.mono {seeds' : Nat} {code : RecoveryCode} (h : CodeSound seeds code)
    (hseeds : seeds ≤ seeds') : CodeSound seeds' code := by
  obtain ⟨j, hj, hrest⟩ := h.seed
  exact ⟨j, hj.trans_le hseeds, hrest⟩

/-- A code that forgets its session. -/
theorem CodeSound.forget {code : RecoveryCode} (h : CodeSound seeds code) :
    CodeSound seeds { code with sessionKey := none } := by
  obtain ⟨j, hj, hcurrent, hprevious, -⟩ := h.seed
  refine ⟨j, hj, hcurrent, hprevious, fun key hkey => ?_⟩
  cases hkey

theorem CodesSound.mono {seeds' : Nat} (h : CodesSound seeds codes) (hseeds : seeds ≤ seeds') :
    CodesSound seeds' codes :=
  { h with derived := fun hcode => (h.derived hcode).mono hseeds }

omit [RecoverySecrets] in
/-- A code is stored as it was, or without its session. -/
theorem lookup_forgotten {p : String → RecoveryCode → Bool} {userId : String} {code : RecoveryCode}
    (h : (codes.update p fun code => { code with sessionKey := none }).lookup userId = some code) :
    ∃ stored, codes.lookup userId = some stored ∧
      (code = stored ∧ p userId stored = false ∨
        code = { stored with sessionKey := none } ∧ p userId stored = true) := by
  rw [Table.lookup_update] at h
  obtain ⟨stored, hstored, rfl⟩ := Option.map_eq_some_iff.mp h
  refine ⟨stored, hstored, ?_⟩
  split_ifs with hp
  · exact Or.inr ⟨rfl, hp⟩
  · exact Or.inl ⟨rfl, Bool.not_eq_true _ |>.mp hp⟩

theorem CodesSound.forget (h : CodesSound seeds codes) (p : String → RecoveryCode → Bool) :
    CodesSound seeds (codes.update p fun code => { code with sessionKey := none }) where
  derived := by
    intro userId code hcode
    obtain ⟨stored, hstored, ⟨rfl, -⟩ | ⟨rfl, -⟩⟩ := lookup_forgotten hcode
    · exact h.derived hstored
    · exact (h.derived hstored).forget
  owners := by
    intro userId userId' code code' fingerprint hcode hcode' hmentions hmentions'
    obtain ⟨stored, hstored, hsame⟩ := lookup_forgotten hcode
    obtain ⟨stored', hstored', hsame'⟩ := lookup_forgotten hcode'
    refine h.owners hstored hstored' (?_ : stored.Mentions fingerprint) ?_
    · rcases hsame with ⟨rfl, -⟩ | ⟨rfl, -⟩ <;> exact hmentions
    · rcases hsame' with ⟨rfl, -⟩ | ⟨rfl, -⟩ <;> exact hmentions'

theorem CodesSound.erase (h : CodesSound seeds codes) (userId : String) :
    CodesSound seeds (codes.erase userId) := by
  have hstored : ∀ {owner code}, (codes.erase userId).lookup owner = some code →
      codes.lookup owner = some code := by
    intro owner code hcode
    rw [Table.lookup_erase_ite] at hcode
    split_ifs at hcode
    exact hcode
  exact
    { derived := fun hcode => h.derived (hstored hcode)
      owners := fun hcode hcode' => h.owners (hstored hcode) (hstored hcode') }

/-- The next code of a user, in the place of the one before it. -/
theorem CodesSound.insert (h : CodesSound seeds codes) {userId : String} {code : RecoveryCode}
    (hcurrent : code.fingerprint = codeFingerprint (randomSeed seeds))
    (hprevious : ∀ previous, code.previousFingerprint = some previous →
      ∃ stored, codes.lookup userId = some stored ∧ stored.fingerprint = previous)
    (hkey : ∀ key, code.sessionKey = some key → key = randomSeed seeds)
    (hfresh : ∀ {owner other}, codes.lookup owner = some other →
      ¬other.Mentions (codeFingerprint (randomSeed seeds))) :
    CodesSound (seeds + 1) (codes.insert userId code) := by
  -- A fingerprint that the new code mentions is new, or its user's.
  have howner : ∀ {owner other fingerprint}, codes.lookup owner = some other →
      code.Mentions fingerprint → other.Mentions fingerprint → owner = userId := by
    rintro owner other fingerprint hother (rfl | hsame) hmentions
    · rw [hcurrent] at hmentions
      exact absurd hmentions (hfresh hother)
    · obtain ⟨stored, hstored, rfl⟩ := hprevious _ hsame
      exact h.owners hother hstored hmentions (Or.inl rfl)
  constructor
  case derived =>
    intro owner other hother
    rcases (Table.sets_insert _ _ _).cases hother with ⟨rfl, hrow⟩ | ⟨-, hrow⟩
    · obtain rfl := Option.some.inj hrow
      refine ⟨seeds, Nat.lt_succ_self _, hcurrent, fun previous hsame => ?_, hkey⟩
      obtain ⟨stored, hstored, rfl⟩ := hprevious _ hsame
      obtain ⟨i, hi, hfingerprint, -⟩ := (h.derived hstored).seed
      exact ⟨i, hi, hfingerprint⟩
    · exact (h.derived hrow).mono (Nat.le_succ _)
  case owners =>
    intro owner owner' other other' fingerprint hother hother' hmentions hmentions'
    rcases (Table.sets_insert _ _ _).cases hother with ⟨rfl, hrow⟩ | ⟨-, hrow⟩ <;>
      rcases (Table.sets_insert _ _ _).cases hother' with ⟨rfl, hrow'⟩ | ⟨-, hrow'⟩
    · rfl
    · obtain rfl := Option.some.inj hrow
      exact (howner hrow' hmentions hmentions').symm
    · obtain rfl := Option.some.inj hrow'
      exact howner hrow hmentions' hmentions
    · exact h.owners hrow hrow' hmentions hmentions'

end Codes

/-! ## Every transaction keeps the rows sound -/

section Sound

variable {s t : RecoveryStore} {now : Nat}

theorem sound_opened (host : Pairing.Host) (settings : Table String RoomSettings)
    (devices : Table String String) : Sound (opened host settings devices) := by
  have hsession : ∀ {key row}, (∅ : Table String SessionRow).lookup key ≠ some row := by
    intro key row
    rw [AList.lookup_empty]
    exact (Option.some_ne_none row).symm
  have hcode : ∀ {userId code}, (∅ : Table String RecoveryCode).lookup userId ≠ some code := by
    intro userId code
    rw [AList.lookup_empty]
    exact (Option.some_ne_none code).symm
  exact
    { sessions :=
        { fingerprints := fun h => absurd h hsession
          seats := fun h => absurd h hsession
          recovered := fun h => absurd h hsession
          admitted := fun h => absurd h hsession
          granted := fun h => absurd h hsession
          answered := fun h => absurd h hsession }
      codes :=
        { derived := fun h => absurd h hcode
          owners := fun h => absurd h hcode } }

theorem Sound.withoutSessions (h : Sound s) {p : SessionRow → Bool}
    (hp : ∀ row row', row.userId = row'.userId → row.roomId = row'.roomId → p row = p row') :
    Sound (s.withoutSessions p) :=
  ⟨h.sessions.deleteWhere hp,
    h.codes.forget fun _ code => (code.sessionKey.bind s.sessions.lookup).any p⟩

theorem Elsewhere.sound (h : Sound s) (hstep : Elsewhere s now t) : Sound t := by
  cases hstep with
  | administered host settings devices => exact ⟨h.sessions, h.codes⟩
  | ended p => exact ⟨h.sessions.update fun _ row => row.state == .active && p row, h.codes⟩
  | admitted fresh unseeded kind fingerprint capacity =>
      exact ⟨h.sessions.insert fresh fingerprint (fun hkind => absurd hkind kind)
        (fun _ => unseeded) (fun hkind => absurd hkind kind)
        (fun _ hkind => absurd hkind kind), h.codes⟩
  | roomDeleted roomId =>
      exact h.withoutSessions fun row row' _ hroom => by rw [hroom]
  | guestRetired userId =>
      have hwithout : Sound (s.withoutSessions fun row => row.userId == userId) :=
        h.withoutSessions fun row row' huser _ => by rw [huser]
      exact ⟨hwithout.sessions, hwithout.codes.erase userId⟩

theorem Redeems.sound (h : Sound s) {request : GuestRecoveryRequest}
    {commit : GuestRecoveryCommit} (hredeems : Redeems s request now commit t) : Sound t := by
  cases hredeems with
  | replayed => exact h
  | recovered found current source bound device others live expiry =>
      obtain ⟨key, row, hlatest, hscope, -⟩ := source.source
      obtain ⟨hrow, huser, hroom⟩ := latestSession_eq_some hlatest
      constructor
      · refine (h.sessions.mono (Nat.le_succ _)).insert h.fresh_session rfl
          (fun _ => ⟨s.seeds, Nat.lt_succ_self _, rfl⟩) (fun hkind => absurd rfl hkind)
          (fun _ => ?_) fun result _ hresult => ?_
        case refine_2 =>
          obtain rfl := Option.some.inj hresult
          exact ⟨rfl, source.bound, rfl, rfl⟩
        obtain ⟨grantKey, admitted, hadmitted, hkind, hgrant, hgrantRoom, hgrantScope⟩ :=
          h.sessions.granted hrow
        exact ⟨grantKey, admitted, hadmitted, hkind, hgrant.trans (huser.trans source.owner.symm),
          hgrantRoom.trans hroom, hgrantScope.trans hscope⟩
      · refine h.codes.insert rfl (fun previous hprevious => ⟨_, found.stored, ?_⟩)
          (fun key hkey => (Option.some.inj hkey).symm) h.fresh_code
        exact Option.some.inj hprevious

theorem Step.sound (h : Sound s) {answer : Option Accepted} (hstep : Step s now answer t) :
    Sound t := by
  cases hstep with
  | issued commits =>
      obtain ⟨userId, -, rfl⟩ := (issueGuestRecoveryCode_meets h _).commits commits
      refine ⟨h.sessions.mono (Nat.le_succ _), h.codes.insert rfl ?_ ?_ h.fresh_code⟩
      · intro previous hprevious
        cases hprevious
      · intro key hkey
        cases hkey
  | redeemed commits => exact ((redeemGuestRecoveryCode_meets h).commits commits).sound h
  | elsewhere other => exact other.sound h

theorem Run.sound {latest : Nat} {accepted : List Accepted} (h : Run latest accepted s) :
    Sound s := by
  induction h with
  | opened host settings devices => exact sound_opened host settings devices
  | step run due step ih => exact step.sound ih

end Sound

/-! ## Transactions keep what was stored -/

section Evolves

variable {s t : RecoveryStore} {now : Nat}

/-- Under the seeds that were drawn no session appears, a code stays or is that of the next seed,
and only the code of a session that is gone forgets it. -/
structure Evolves (s t : RecoveryStore) : Prop where
  seeds : s.seeds ≤ t.seeds
  sessions : ∀ {j row}, j < s.seeds → t.sessions.lookup (randomSeed j) = some row →
    ∃ stored, s.sessions.lookup (randomSeed j) = some stored ∧ row.end_ = stored.end_
  codes : ∀ {userId code}, t.codes.lookup userId = some code →
    (∃ stored, s.codes.lookup userId = some stored ∧ code.fingerprint = stored.fingerprint ∧
      code.previousFingerprint = stored.previousFingerprint ∧
        ∀ key, stored.sessionKey = some key → (t.sessions.lookup key).isSome = true →
          code.sessionKey = some key) ∨
    (code.fingerprint = codeFingerprint (randomSeed s.seeds) ∧
      ∀ previous, code.previousFingerprint = some previous →
        ∃ stored, s.codes.lookup userId = some stored ∧ stored.fingerprint = previous)

omit [RecoverySecrets] in
/-- Codes that stay as they are. -/
theorem evolves_codes {userId : String} {code : RecoveryCode}
    (h : s.codes.lookup userId = some code) :
    ∃ stored, s.codes.lookup userId = some stored ∧ code.fingerprint = stored.fingerprint ∧
      code.previousFingerprint = stored.previousFingerprint ∧
        ∀ key, stored.sessionKey = some key → (t.sessions.lookup key).isSome = true →
          code.sessionKey = some key :=
  ⟨code, h, rfl, rfl, fun _ hkey _ => hkey⟩

theorem evolves_self (s : RecoveryStore) : Evolves s s where
  seeds := le_rfl
  sessions := fun _ hrow => ⟨_, hrow, rfl⟩
  codes := fun hcode => Or.inl (evolves_codes hcode)

theorem evolves_withoutSessions (s : RecoveryStore) (p : SessionRow → Bool) :
    Evolves s (s.withoutSessions p) where
  seeds := le_rfl
  sessions := fun _ hrow => ⟨_, (Table.lookup_deleteWhere.mp hrow).1, rfl⟩
  codes := by
    intro userId code hcode
    obtain ⟨stored, hstored, ⟨rfl, -⟩ | ⟨rfl, hgone⟩⟩ := lookup_forgotten hcode
    · exact Or.inl (evolves_codes hstored)
    · refine Or.inl ⟨stored, hstored, rfl, rfl, fun key hkey hsession => ?_⟩
      obtain ⟨row, hrow⟩ := Option.isSome_iff_exists.mp hsession
      obtain ⟨hrow, hkept⟩ := Table.lookup_deleteWhere.mp hrow
      rw [hkey, Option.bind_some, hrow, Option.any_some, hkept] at hgone
      cases hgone

theorem Elsewhere.evolves (hstep : Elsewhere s now t) : Evolves s t := by
  cases hstep with
  | administered host settings devices =>
      exact ⟨le_rfl, fun _ hrow => ⟨_, hrow, rfl⟩, fun hcode => Or.inl (evolves_codes hcode)⟩
  | ended p =>
      refine ⟨le_rfl, fun _ hrow => ?_, fun hcode => Or.inl (evolves_codes hcode)⟩
      obtain ⟨stored, hstored, hsame, -⟩ := lookup_ended hrow
      exact ⟨stored, hstored, hsame⟩
  | admitted fresh unseeded kind fingerprint capacity =>
      refine ⟨le_rfl, fun {j} _ _ hrow => ?_, fun hcode => Or.inl (evolves_codes hcode)⟩
      rw [AList.lookup_insert_ne (unseeded j).symm] at hrow
      obtain ⟨stored, hstored, hsame, -⟩ := lookup_ended hrow
      exact ⟨stored, hstored, hsame⟩
  | roomDeleted roomId => exact evolves_withoutSessions s _
  | guestRetired userId =>
      have hwithout := evolves_withoutSessions s fun row => row.userId == userId
      refine ⟨hwithout.seeds, hwithout.sessions, fun hcode => ?_⟩
      rw [Table.lookup_erase_ite] at hcode
      split_ifs at hcode
      exact hwithout.codes hcode

theorem Redeems.evolves {request : GuestRecoveryRequest} {commit : GuestRecoveryCommit}
    (hredeems : Redeems s request now commit t) : Evolves s t := by
  cases hredeems with
  | replayed => exact evolves_self s
  | recovered found current source bound device others live expiry =>
      refine ⟨Nat.le_succ _, fun {j} _ hj hrow => ?_, fun hcode => ?_⟩
      · have hne : randomSeed j ≠ randomSeed s.seeds := fun hsame =>
          absurd (RecoverySecrets.randomSeed_injective hsame) hj.ne
        rw [AList.lookup_insert_ne hne] at hrow
        obtain ⟨stored, hstored, hsame, -⟩ := lookup_ended hrow
        exact ⟨stored, hstored, hsame⟩
      · rcases (Table.sets_insert _ _ _).cases hcode with ⟨rfl, hrow⟩ | ⟨-, hrow⟩
        · obtain rfl := Option.some.inj hrow
          refine Or.inr ⟨rfl, fun previous hprevious => ⟨_, found.stored, ?_⟩⟩
          exact Option.some.inj hprevious
        · exact Or.inl (evolves_codes hrow)

theorem Step.evolves (h : Sound s) {answer : Option Accepted} (hstep : Step s now answer t) :
    Evolves s t := by
  cases hstep with
  | issued commits =>
      obtain ⟨userId, -, rfl⟩ := (issueGuestRecoveryCode_meets h _).commits commits
      refine ⟨Nat.le_succ _, fun _ hrow => ⟨_, hrow, rfl⟩, fun hcode => ?_⟩
      rcases (Table.sets_insert _ _ _).cases hcode with ⟨rfl, hrow⟩ | ⟨-, hrow⟩
      · obtain rfl := Option.some.inj hrow
        refine Or.inr ⟨rfl, fun previous hprevious => ?_⟩
        cases hprevious
      · exact Or.inl (evolves_codes hrow)
  | redeemed commits => exact ((redeemGuestRecoveryCode_meets h).commits commits).evolves
  | elsewhere other => exact other.evolves

end Evolves

end Runs

/-! ## A sample run -/

namespace RecoverySample

scoped instance : RecoverySecrets where
  sessionMac _ seed := seed
  fingerprint bearer := bearer
  sessionMac_injective _ _ _ h := h
  fingerprint_injective _ _ h := h
  randomSeed := unaryUuid
  randomSeed_injective := unaryUuid_injective

/-- A guest is in the one room of the host. -/
def host : Pairing.Host :=
  { bootstrap := .complete ⟨"server", "lineage"⟩
    rooms := (∅ : Table String Room).insert "lobby"
      { roomId := "lobby"
        roomUid := "uid"
        label := "Lobby"
        status := .active
        createdAt := 0
        updatedAt := 0 }
    participants := (∅ : Table (String × String) Participant).insert ("lobby", "guest")
      { roomId := "lobby"
        participantId := "guest"
        displayName := "Guest"
        avatarImageUrl := ""
        participantType := "human"
        status := .joined
        role := .human
        ownerId := "user"
        muted := false
        createdAt := 0
        updatedAt := 0 }
    profiles := (∅ : Table String UserProfile).insert "user" ⟨"guest", 1, "Guest", ""⟩ }

def start : RecoveryStore :=
  opened host ((∅ : Table String RoomSettings).insert "lobby" (.defaults "Lobby"))
    ((∅ : Table String String).insert "laptop" "user")

/-- The session of the guest on the laptop, by an invitation to read. -/
def invited : SessionRow :=
  { keyKind := .oneUse
    sessionFingerprint := sessionFingerprint ""
    roomId := "lobby"
    userId := "user"
    participantId := "guest"
    clientKind := "browser"
    inviteScope := .readOnly
    browserCredentialFingerprint := "laptop"
    reusableIdentityFingerprint := none
    result := none
    admittedAt := 0
    expiresAt := 100
    state := .active }

def admitted : RecoveryStore :=
  { start with sessions := (seatEnded "lobby" "guest" start.sessions).insert "" invited }

def profile : UserProfile :=
  ⟨"guest", 1, "Guest", ""⟩

def identity : AccountIdentity :=
  { authority := .humanSession (humanSessionAuthorization invited profile) "laptop"
    user := some ⟨"user", "guest", profile⟩ }

/-- What a transaction leaves, if it commits. -/
def ran {α : Type} (x : RecoveryTx α) (s : RecoveryStore) : Option (α × RecoveryStore) :=
  (x s).toOption

theorem commits_ran {α : Type} {x : RecoveryTx α} {s : RecoveryStore} {done : α × RecoveryStore}
    (h : ran x s = some done) : Commits x s done.1 done.2 := by
  unfold ran at h
  cases hresult : x s with
  | error e =>
      rw [hresult] at h
      cases h
  | ok a =>
      rw [hresult] at h
      obtain rfl := Option.some.inj h
      exact hresult

def issued : Option (String × RecoveryStore) :=
  ran (issueGuestRecoveryCode identity 1) admitted

theorem issued_isSome : issued.isSome = true := by
  decide +kernel

/-- The code is redeemed on the phone. -/
def request : GuestRecoveryRequest :=
  { fingerprint := (issued.get issued_isSome).1
    device := "phone"
    roomId := "lobby"
    clientId := "browser" }

def redeemed : Option (GuestRecoveryCommit × RecoveryStore) :=
  ran (redeemGuestRecoveryCode request 2) (issued.get issued_isSome).2

theorem redeemed_isSome : redeemed.isSome = true := by
  decide +kernel

/-- The phone asks once more. -/
def repeated : Option (GuestRecoveryCommit × RecoveryStore) :=
  ran (redeemGuestRecoveryCode request 3) (redeemed.get redeemed_isSome).2

theorem repeated_isSome : repeated.isSome = true := by
  decide +kernel

theorem issued_run : Run 3 [] (issued.get issued_isSome).2 := by
  have hstart : Run 3 [] start := .opened host _ _
  have hadmitted : Elsewhere start 0 admitted :=
    .admitted rfl (fun j h => unaryUuid_ne_empty j h.symm) SessionKeyKind.noConfusion rfl rfl
  have hissued : Step admitted 1 none (issued.get issued_isSome).2 :=
    .issued (commits_ran (Option.some_get issued_isSome).symm)
  exact (hstart.step (Nat.zero_le 3) (.elsewhere hadmitted)).step (by decide) hissued

def first : Accepted :=
  ⟨request, (redeemed.get redeemed_isSome).1⟩

theorem first_commits : Commits (redeemGuestRecoveryCode request 2) (issued.get issued_isSome).2
    first.commit (redeemed.get redeemed_isSome).2 :=
  commits_ran (Option.some_get redeemed_isSome).symm

theorem redeemed_run : Run 3 [first] (redeemed.get redeemed_isSome).2 :=
  issued_run.step (by decide) (.redeemed first_commits)

def second : Accepted :=
  ⟨request, (repeated.get repeated_isSome).1⟩

theorem second_commits : Commits (redeemGuestRecoveryCode request 3)
    (redeemed.get redeemed_isSome).2 second.commit (repeated.get repeated_isSome).2 :=
  commits_ran (Option.some_get repeated_isSome).symm

theorem repeated_run : Run 3 [first, second] (repeated.get repeated_isSome).2 :=
  redeemed_run.step le_rfl (.redeemed second_commits)

end RecoverySample

end AgentsAssemble.Recovery
