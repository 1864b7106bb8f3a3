import AgentsAssemble.Recovery.RecoveryRuns

/-!
# The seats of recovered sessions

A redemption takes the seat of its member: it is never stopped by a constraint of the database, ends
the session that had the seat, and keeps the room and the host within their capacity.
-/

namespace AgentsAssemble.Recovery

open Foundation Tx
open Directory (RoomSettings)
open Persistence (PersistenceError)
open Admission (inviteScopePublic maxPublicRoomSessions maxPublicSessions)

/-! ## Taking a seat -/

section Seats

variable [RecoverySecrets] {s t : RecoveryStore} {now latest : Nat} {accepted : List Accepted}

/-- The one active session of a member of the room, which answers to the bearer of a redemption. -/
structure TakesSeat (s t : RecoveryStore) (request : GuestRecoveryRequest) (now : Nat)
    (commit : GuestRecoveryCommit) (key : String) (row : SessionRow) : Prop where
  stored : t.sessions.lookup key = some row
  active : row.state = .active
  bearer : row.sessionFingerprint = Pairing.SessionDigests.fingerprint commit.sessionBearer
  room : row.roomId = request.roomId
  device : row.browserCredentialFingerprint = request.device
  answers : Answers commit.result row
  granted : Granted t.sessions row
  alone : ∀ {key' row'}, t.sessions.lookup key' = some row' →
    row'.isOf row.roomId row.participantId = true → row'.state = .active → key' = key
  replaced : ∀ fingerprint, fingerprint ∈ commit.replacedSessionFingerprints ↔
    ∃ key' row', s.sessions.lookup key' = some row' ∧ key' ≠ key ∧
      row'.isOf row.roomId row.participantId = true ∧ row'.isLive now = true ∧
        row'.sessionFingerprint = fingerprint

omit [RecoverySecrets] in
theorem SessionRow.isOf_iff {roomId participantId : String} {row : SessionRow} :
    row.isOf roomId participantId = true ↔
      row.roomId = roomId ∧ row.participantId = participantId := by
  rw [SessionRow.isOf, Bool.and_eq_true, beq_iff_eq, beq_iff_eq]

omit [RecoverySecrets] in
theorem SessionRow.isLive_iff {row : SessionRow} :
    row.isLive now = true ↔ row.state = .active ∧ now < row.expiresAt := by
  rw [SessionRow.isLive, Bool.and_eq_true, beq_iff_eq, decide_eq_true_iff]

/-- Two active sessions of one member are one. -/
theorem Sound.seat_unique (hs : Sound s) {key key' roomId participantId : String}
    {row row' : SessionRow} (hrow : s.sessions.lookup key = some row)
    (hrow' : s.sessions.lookup key' = some row') (hof : row.isOf roomId participantId = true)
    (hof' : row'.isOf roomId participantId = true) (hactive : row.state = .active)
    (hactive' : row'.state = .active) : key' = key := by
  obtain ⟨rfl, rfl⟩ := SessionRow.isOf_iff.mp hof
  obtain ⟨hroom, hparticipant⟩ := SessionRow.isOf_iff.mp hof'
  exact hs.sessions.seats hrow' hrow hactive' hactive hroom hparticipant

theorem Redeems.takesSeat (hs : Sound s) {request : GuestRecoveryRequest}
    {commit : GuestRecoveryCommit} (h : Redeems s request now commit t) :
    ∃ key row, TakesSeat s t request now commit key row := by
  have ht := h.sound hs
  cases h with
  | @replayed userId seed code row result authorization profile found retired opened resolved stored
      live room owner device answer client =>
      obtain ⟨j, hj, -, -, hkey⟩ := (hs.codes.derived found.stored).seed
      have hactive := (SessionRow.isLive_iff.mp live).1
      have hself : row.isOf row.roomId row.participantId = true :=
        SessionRow.isOf_iff.mpr ⟨rfl, rfl⟩
      have hkind : row.keyKind = .recovery := by
        by_contra hother
        exact hs.sessions.admitted stored hother j (hkey _ opened)
      have halone : ∀ {key' row'}, s.sessions.lookup key' = some row' →
          row'.isOf row.roomId row.participantId = true → row'.state = .active → key' = seed :=
        fun hrow' hof hlive => hs.seat_unique stored hrow' hself hof hactive hlive
      refine ⟨seed, row, ?_⟩
      exact
        { stored := stored
          active := hactive
          bearer := hs.sessions.fingerprints stored
          room := room
          device := device
          answers := hs.sessions.answered stored hkind answer
          granted := hs.sessions.granted stored
          alone := halone
          replaced := by
            intro fingerprint
            constructor
            · intro hmem
              cases hmem
            · rintro ⟨key', row', hrow', hne, hof, hlive, -⟩
              exact absurd (halone hrow' hof (SessionRow.isLive_iff.mp hlive).1) hne }
  | @recovered userId code user room settings inviteScope replaced devices found current source
      bound device others live expiry =>
      -- What is stored under the seed that was drawn.
      obtain ⟨row, hrow⟩ : ∃ row, row = recoveredRow user request inviteScope
          (sessionFingerprint (randomSeed s.seeds))
          (recoveryResult user room settings inviteScope request.clientId now) now := ⟨_, rfl⟩
      rw [← hrow] at ht ⊢
      have hstored := AList.lookup_insert (seatEnded request.roomId user.participantId s.sessions)
        (a := randomSeed s.seeds) (b := row)
      have hroom : row.roomId = request.roomId := congrArg SessionRow.roomId hrow
      have hparticipant : row.participantId = user.participantId :=
        congrArg SessionRow.participantId hrow
      have hkind : row.keyKind = .recovery := congrArg SessionRow.keyKind hrow
      have hactive : row.state = .active := congrArg SessionRow.state hrow
      have hself : row.isOf row.roomId row.participantId = true :=
        SessionRow.isOf_iff.mpr ⟨rfl, rfl⟩
      refine ⟨randomSeed s.seeds, row, ?_⟩
      exact
        { stored := hstored
          active := hactive
          bearer := congrArg SessionRow.sessionFingerprint hrow
          room := hroom
          device := congrArg SessionRow.browserCredentialFingerprint hrow
          answers := ht.sessions.answered hstored hkind (congrArg SessionRow.result hrow)
          granted := ht.sessions.granted hstored
          alone := fun hrow' hof hlive => ht.seat_unique hstored hrow' hself hof hactive hlive
          replaced := by
            intro fingerprint
            rw [live fingerprint, hroom, hparticipant]
            constructor
            · rintro ⟨key', row', hrow', hof, hlive, hfingerprint⟩
              refine ⟨key', row', hrow', ?_, hof, hlive, hfingerprint⟩
              rintro rfl
              rw [hs.fresh_session] at hrow'
              cases hrow'
            · rintro ⟨key', row', hrow', -, hof, hlive, hfingerprint⟩
              exact ⟨key', row', hrow', hof, hlive, hfingerprint⟩ }

/-- In every run: a redemption that is accepted holds the one active session of its member, for the
room and the device of the request and within what an invitation has granted to its user, and tells
which live sessions it has ended; a redemption that is refused was refused by a decision of the
host, never by a constraint of the database. -/
theorem redemption_takes_seat (h : Run latest accepted s) (request : GuestRecoveryRequest)
    (now : Nat) :
    (∀ {commit t}, Commits (redeemGuestRecoveryCode request now) s commit t →
      ∃ key row, TakesSeat s t request now commit key row) ∧
    ∀ {e}, Rejects (redeemGuestRecoveryCode request now) s e → Refusal e := by
  have hmeets : Meets (redeemGuestRecoveryCode request now) s (Redeems s request now) Refusal :=
    redeemGuestRecoveryCode_meets h.sound
  exact ⟨fun hcommits => (hmeets.commits hcommits).takesSeat h.sound,
    fun hrejects => hmeets.rejects hrejects⟩

end Seats

open RecoverySample in
/-- The phone of the sample takes the seat of the laptop. -/
theorem phone_takes_seat : ∃ key row, TakesSeat (issued.get issued_isSome).2
    (redeemed.get redeemed_isSome).2 request 2 first.commit key row :=
  (redemption_takes_seat issued_run request 2).1 first_commits

/-! ## Capacity -/

section Capacity

variable [RecoverySecrets] {s t : RecoveryStore} {now latest : Nat} {accepted : List Accepted}

/-- The live sessions fit the host, and those of each room fit the room. -/
structure Within (sessions : Table String SessionRow) (now : Nat) : Prop where
  host : Table.count (fun _ row => row.isLive now) sessions ≤ maxPublicSessions
  room : ∀ roomId, Table.count (fun _ row => row.isLive now && row.roomId == roomId) sessions ≤
    maxPublicRoomSessions

section Within

variable {sessions sessions' : Table String SessionRow}

omit [RecoverySecrets] in
/-- Fewer sessions, and sessions that were ended, fit as well. -/
theorem Within.of_lookup (h : Within sessions now)
    (hold : ∀ {key row}, sessions'.lookup key = some row → row.state = .active →
      sessions.lookup key = some row) : Within sessions' now where
  host := by
    refine (Table.count_le_count _ fun key row hrow hlive => ?_).trans h.host
    exact ⟨row, hold hrow (SessionRow.isLive_iff.mp hlive).1, hlive⟩
  room := by
    intro roomId
    refine (Table.count_le_count _ fun key row hrow hlive => ?_).trans (h.room roomId)
    have hactive := (SessionRow.isLive_iff.mp (Bool.and_eq_true _ _ |>.mp hlive).1).1
    exact ⟨row, hold hrow hactive, hlive⟩

omit [RecoverySecrets] in
theorem count_insert_le {p : String → SessionRow → Bool} {key : String} {row : SessionRow}
    {limit : Nat} (hfresh : sessions.lookup key = none)
    (hrow : p key row = true → Table.count p sessions < limit)
    (hall : Table.count p sessions ≤ limit) :
    Table.count p (sessions.insert key row) ≤ limit := by
  rw [Table.count_insert, Table.count_erase_of_none _ hfresh]
  split_ifs with hp
  · exact hrow hp
  · exact hall

omit [RecoverySecrets] in
/-- The check of the capacity makes place for one more session of the member, also of those that
are still live later. -/
theorem Within.insert (h : Within s.sessions latest) (row : SessionRow) {key : String}
    (hfresh : s.sessions.lookup key = none) (hdue : now ≤ latest)
    (hcapacity : capacityReached s row.roomId row.participantId now = false) :
    Within ((seatEnded row.roomId row.participantId s.sessions).insert key row) latest := by
  rw [capacityReached, Bool.or_eq_false_iff, decide_eq_false_iff_not, decide_eq_false_iff_not,
    not_le, not_le] at hcapacity
  have hended : Within (seatEnded row.roomId row.participantId s.sessions) latest := by
    refine h.of_lookup fun hrow hactive => ?_
    obtain ⟨stored, hstored, ⟨rfl, -⟩ | ⟨rfl, -⟩⟩ := lookup_seatEnded hrow
    · exact hstored
    · cases hactive
  have hkey : (seatEnded row.roomId row.participantId s.sessions).lookup key = none := by
    rw [seatEnded, Table.lookup_update, hfresh, Option.map_none]
  -- The live sessions that remain are of other members, and were live when it was checked.
  have hremaining : ∀ {key' other}, (seatEnded row.roomId row.participantId s.sessions).lookup
      key' = some other → other.isLive latest = true →
        s.sessions.lookup key' = some other ∧ other.isLive now = true ∧
          other.isOf row.roomId row.participantId = false := by
    intro key' other hother hlive
    obtain ⟨hactive, hexpiry⟩ := SessionRow.isLive_iff.mp hlive
    obtain ⟨stored, hstored, ⟨rfl, hseat⟩ | ⟨rfl, -⟩⟩ := lookup_seatEnded hother
    · exact ⟨hstored, SessionRow.isLive_iff.mpr ⟨hactive, hdue.trans_lt hexpiry⟩, hseat hactive⟩
    · cases hactive
  constructor
  · refine count_insert_le hkey (fun _ => ?_) hended.host
    refine lt_of_le_of_lt (Table.count_le_count _ fun key' other hother hlive => ?_) hcapacity.1
    obtain ⟨hstored, hlive, hof⟩ := hremaining hother hlive
    exact ⟨other, hstored, by simp [hlive, hof]⟩
  · intro roomId
    refine count_insert_le hkey (fun hroom => ?_) (hended.room roomId)
    rw [Bool.and_eq_true, beq_iff_eq] at hroom
    obtain ⟨-, rfl⟩ := hroom
    refine lt_of_le_of_lt (Table.count_le_count _ fun key' other hother hlive => ?_) hcapacity.2
    rw [Bool.and_eq_true] at hlive
    obtain ⟨hstored, hnow, hof⟩ := hremaining hother hlive.1
    refine ⟨other, hstored, ?_⟩
    rw [SessionRow.isOf, hlive.2, Bool.true_and, beq_eq_false_iff_ne] at hof
    simp [hnow, hlive.2, hof]

end Within

theorem Elsewhere.within (h : Within s.sessions latest) (hdue : now ≤ latest)
    (hstep : Elsewhere s now t) : Within t.sessions latest := by
  cases hstep with
  | administered host settings devices => exact h
  | ended p =>
      refine h.of_lookup fun hrow hactive => ?_
      obtain ⟨stored, hstored, -, hsame⟩ := lookup_ended hrow
      rw [hsame hactive]
      exact hstored
  | admitted fresh unseeded kind fingerprint capacity => exact h.insert _ fresh hdue capacity
  | roomDeleted roomId => exact h.of_lookup fun hrow _ => (Table.lookup_deleteWhere.mp hrow).1
  | guestRetired userId => exact h.of_lookup fun hrow _ => (Table.lookup_deleteWhere.mp hrow).1

theorem Redeems.within (hs : Sound s) (h : Within s.sessions latest) (hdue : now ≤ latest)
    {request : GuestRecoveryRequest} {commit : GuestRecoveryCommit}
    (hredeems : Redeems s request now commit t) : Within t.sessions latest := by
  cases hredeems with
  | replayed => exact h
  | recovered found current source bound device others live expiry =>
      exact h.insert (recoveredRow _ _ _ _ _ _) hs.fresh_session hdue source.capacity

theorem Step.within (hs : Sound s) (h : Within s.sessions latest) (hdue : now ≤ latest)
    {answer : Option Accepted} (hstep : Step s now answer t) : Within t.sessions latest := by
  cases hstep with
  | issued commits =>
      obtain ⟨userId, -, rfl⟩ := (issueGuestRecoveryCode_meets hs _).commits commits
      exact h
  | redeemed commits => exact ((redeemGuestRecoveryCode_meets hs).commits commits).within hs h hdue
  | elsewhere other => exact other.within h hdue

/-- However admissions and redemptions are mixed, and in whatever order they take their times, the
sessions that are live in the end fit the host and their rooms. -/
theorem live_sessions_within_capacity (h : Run latest accepted s) : Within s.sessions latest := by
  induction h with
  | opened host settings devices => exact ⟨Nat.zero_le _, fun _ => Nat.zero_le _⟩
  | step run due step ih => exact step.within run.sound ih due

end Capacity

open RecoverySample in
theorem phone_within_capacity : Within (repeated.get repeated_isSome).2.sessions 3 :=
  live_sessions_within_capacity repeated_run

end AgentsAssemble.Recovery
