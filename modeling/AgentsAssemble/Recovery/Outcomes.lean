import AgentsAssemble.Foundation.Result
import AgentsAssemble.Recovery.Redemptions

/-!
# How a redemption ends

Run forward in a sound store, a redemption answers from the session of the last one, or opens a
session and rotates the code, or is refused.
-/

namespace AgentsAssemble.Recovery

open Foundation Tx
open Directory (Room RoomSettings UserProfile invalidDocument localOperatorUserId)
open Persistence (PersistenceError rejected)
open Admission (InviteScope maxTimestampMicros sessionTtl)

/-! ## The membership -/

section Source

variable {s : RecoveryStore} {userId roomId : String} {now : Nat}

theorem loadAccountUser_eq_ok {user : AccountUser} (h : loadAccountUser s userId = .ok user) :
    user.userId = userId := by
  unfold loadAccountUser at h
  cases hrow : s.host.profiles.lookup userId with
  | none =>
      rw [hrow] at h
      cases h
  | some row =>
      rw [hrow] at h
      obtain ⟨profile, -, hok⟩ := Result.bind_eq_ok.mp h
      cases hok
      rfl

theorem latestSession_eq_some {key : String} {row : SessionRow}
    (h : s.latestSession userId roomId = some (key, row)) :
    s.sessions.lookup key = some row ∧ row.userId = userId ∧ row.roomId = roomId := by
  obtain ⟨hmem, hfound⟩ := List.mem_filter.mp (List.argmax_mem h)
  simp only [Bool.and_eq_true, beq_iff_eq] at hfound
  exact ⟨Table.mem_rows.mp hmem, hfound.1.1.1, hfound.1.1.2⟩

/-- What the checks of a recovery have found. -/
structure SourceFound (s : RecoveryStore) (userId roomId : String) (now : Nat) (user : AccountUser)
    (room : Room) (inviteScope : InviteScope) : Prop where
  owner : user.userId = userId
  stored : s.host.rooms.lookup roomId = some room
  bound : room.roomId = roomId
  active : room.status = .active
  source : ∃ key row, s.latestSession userId roomId = some (key, row) ∧
    row.inviteScope = inviteScope ∧
      ∃ participant, s.host.participants.lookup (roomId, row.participantId) = some participant ∧
        participant.participantId = user.participantId ∧
          participant.participantType = "human" ∧ participant.status = .joined
  capacity : capacityReached s roomId user.participantId now = false

theorem recoverySource_eq_ok {user : AccountUser} {room : Room} {settings : RoomSettings}
    {inviteScope : InviteScope}
    (h : recoverySource s userId roomId now = .ok (user, room, settings, inviteScope)) :
    SourceFound s userId roomId now user room inviteScope := by
  unfold recoverySource at h
  obtain ⟨loaded, hload, h⟩ := Result.bind_eq_ok.mp h
  have huser := loadAccountUser_eq_ok hload
  cases hsource : s.latestSession userId roomId with
  | none =>
      rw [hsource] at h
      cases h
  | some source =>
      obtain ⟨key, row⟩ := source
      rw [hsource] at h
      dsimp only at h
      split at h
      · rename_i found foundSettings participant hroom hsettings hparticipant
        split_ifs at h with hbound hopen hcapacity
        cases h
        simp only [not_or, ne_eq, not_not] at hbound hopen
        exact
          { owner := huser
            stored := hroom
            bound := hbound.1
            active := hopen.1
            source := ⟨key, row, hsource, rfl, participant, hparticipant, hbound.2.2.1,
              hbound.2.2.2, hopen.2⟩
            capacity := Bool.not_eq_true _ |>.mp hcapacity }
      · cases h

end Source

/-! ## Seats -/

section Seats

variable {s : RecoveryStore} {now : Nat} {roomId participantId : String}

/-- The sessions of a member, ended. -/
def seatEnded (roomId participantId : String) (sessions : Table String SessionRow) :
    Table String SessionRow :=
  sessions.update (fun _ row => row.state == .active && row.isOf roomId participantId)
    SessionRow.end_

/-- Ending the expired sessions of a member and then its live ones ends all of them. -/
theorem endExpired_endLive (roomId participantId : String) (now : Nat)
    (sessions : Table String SessionRow) :
    (sessions.update (fun _ row => row.state == .active &&
        (row.isOf roomId participantId && decide (row.expiresAt ≤ now))) SessionRow.end_).update
      (fun _ row => row.state == .active &&
        (row.isOf roomId participantId && decide (now < row.expiresAt))) SessionRow.end_ =
      seatEnded roomId participantId sessions := by
  rw [Table.update_update, seatEnded]
  · congr 1
    funext _ row
    cases hactive : row.state == .active with
    | false => rfl
    | true =>
        by_cases hexpired : row.expiresAt ≤ now
        · simp [hexpired]
        · simp [not_le.mp hexpired]
  · intro _ row _
    rfl

theorem lookup_seatEnded {sessions : Table String SessionRow} {key : String} {row : SessionRow}
    (h : (seatEnded roomId participantId sessions).lookup key = some row) :
    ∃ stored, sessions.lookup key = some stored ∧
      (row = stored ∧ (stored.state = .active → stored.isOf roomId participantId = false) ∨
        row = stored.end_ ∧ stored.isOf roomId participantId = true) := by
  rw [seatEnded, Table.lookup_update] at h
  obtain ⟨stored, hstored, rfl⟩ := Option.map_eq_some_iff.mp h
  refine ⟨stored, hstored, ?_⟩
  split_ifs with hends
  · rw [Bool.and_eq_true] at hends
    exact Or.inr ⟨rfl, hends.2⟩
  · refine Or.inl ⟨rfl, fun hactive => ?_⟩
    rw [Bool.and_eq_true, beq_iff_eq, not_and, Bool.not_eq_true] at hends
    exact hends hactive

/-- The fingerprints are those of the live sessions of a member. -/
def LiveFingerprints (s : RecoveryStore) (roomId participantId : String) (now : Nat)
    (fingerprints : List String) : Prop :=
  ∀ fingerprint, fingerprint ∈ fingerprints ↔ ∃ key row, s.sessions.lookup key = some row ∧
    row.isOf roomId participantId = true ∧ row.isLive now = true ∧
      row.sessionFingerprint = fingerprint

/-- Both kinds of sessions of a member are ended, and the live ones are told. -/
theorem replaceSessions_meets (roomId participantId : String) (now : Nat) :
    Meets (do
      endSessions fun row => row.isOf roomId participantId && decide (row.expiresAt ≤ now)
      replaceLiveSessions roomId participantId now) s
      (fun replaced t => LiveFingerprints s roomId participantId now replaced ∧
        t = { s with sessions := seatEnded roomId participantId s.sessions }) fun _ => False := by
  unfold replaceLiveSessions endSessions
  apply Meets.write_bind
  apply Meets.read_bind
  apply Meets.write_bind
  refine .pure ⟨fun fingerprint => ?_, ?_⟩
  · rw [List.mem_map]
    constructor
    · rintro ⟨⟨key, row⟩, hmem, rfl⟩
      obtain ⟨hrow, hlive⟩ := List.mem_filter.mp hmem
      have hended := Table.mem_rows.mp hrow
      dsimp only at hended hlive ⊢
      rw [Table.lookup_update] at hended
      obtain ⟨stored, hstored, hsame⟩ := Option.map_eq_some_iff.mp hended
      split_ifs at hsame with hexpired
      · rw [← hsame] at hlive
        cases hlive
      · rw [← hsame] at hlive ⊢
        simp only [Bool.and_eq_true, beq_iff_eq, decide_eq_true_eq] at hlive
        refine ⟨key, stored, hstored, hlive.2.1, ?_, rfl⟩
        simp [SessionRow.isLive, hlive.1, hlive.2.2]
    · rintro ⟨key, row, hstored, hof, hlive, rfl⟩
      rw [SessionRow.isLive, Bool.and_eq_true, decide_eq_true_eq] at hlive
      refine ⟨(key, row), List.mem_filter.mpr ⟨Table.mem_rows.mpr ?_, ?_⟩, rfl⟩
      · rw [Table.lookup_update, hstored, Option.map_some, if_neg]
        simp [hlive.2]
      · simp [hlive.1, hlive.2, hof]
  · rw [← endExpired_endLive roomId participantId now]

end Seats

/-! ## The transaction -/

section Redeeming

variable [RecoverySecrets] {s : RecoveryStore} {now : Nat} {request : GuestRecoveryRequest}

/-- The code that a redemption starts from. -/
structure CodeFound (s : RecoveryStore) (request : GuestRecoveryRequest) (userId : String)
    (code : RecoveryCode) : Prop where
  bounded : request.Bounded
  stored : s.codes.lookup userId = some code
  mentions : code.Mentions request.fingerprint
  isPublic : userId ≠ localOperatorUserId

/-- What a committed redemption leaves behind. -/
inductive Redeems (s : RecoveryStore) (request : GuestRecoveryRequest) (now : Nat) :
    GuestRecoveryCommit → RecoveryStore → Prop
  | replayed {userId seed : String} {code : RecoveryCode} {row : SessionRow}
      {result : GuestRecoveryResult} {authorization : HumanSessionAuthorization}
      {profile : UserProfile} (found : CodeFound s request userId code)
      (retired : code.fingerprint ≠ request.fingerprint)
      (opened : code.sessionKey = some seed)
      (resolved : resolveHumanSession s (sessionFingerprint seed) (some request.roomId) now =
        .ok (.live authorization profile)) (stored : s.sessions.lookup seed = some row)
      (live : row.isLive now = true) (room : row.roomId = request.roomId)
      (owner : row.userId = userId)
      (device : row.browserCredentialFingerprint = request.device)
      (answer : row.result = some result) (client : result.clientId = request.clientId) :
      Redeems s request now
        { result
          sessionBearer := (sessionBearer seed).bearer
          recoveryCode := (recoveryCode seed).bearer
          replacedSessionFingerprints := [] } s
  | recovered {userId : String} {code : RecoveryCode} {user : AccountUser} {room : Room}
      {settings : RoomSettings} {inviteScope : InviteScope} {replaced : List String}
      {devices : Table String String} (found : CodeFound s request userId code)
      (current : code.fingerprint = request.fingerprint)
      (source : SourceFound s userId request.roomId now user room inviteScope)
      (bound : ∀ owner, s.devices.lookup request.device = some owner → owner = userId)
      (device : devices.lookup request.device = some userId)
      (others : ∀ other, other ≠ request.device → devices.lookup other = s.devices.lookup other)
      (live : LiveFingerprints s request.roomId user.participantId now replaced)
      (expiry : now + sessionTtl ≤ maxTimestampMicros) :
      Redeems s request now
        { result := recoveryResult user room settings inviteScope request.clientId now
          sessionBearer := (sessionBearer (randomSeed s.seeds)).bearer
          recoveryCode := (recoveryCode (randomSeed s.seeds)).bearer
          replacedSessionFingerprints := replaced }
        { s with
          devices
          sessions := (seatEnded request.roomId user.participantId s.sessions).insert
            (randomSeed s.seeds)
            (recoveredRow user request inviteScope (sessionFingerprint (randomSeed s.seeds))
              (recoveryResult user room settings inviteScope request.clientId now) now)
          codes := s.codes.insert userId ⟨codeFingerprint (randomSeed s.seeds),
            some code.fingerprint, some (randomSeed s.seeds)⟩
          seeds := s.seeds + 1 }

omit [RecoverySecrets] in
theorem requirePublicAccountUser_eq_ok {userId : String}
    (h : requirePublicAccountUser userId = .ok ()) : userId ≠ localOperatorUserId := by
  unfold requirePublicAccountUser at h
  split at h
  · cases h
  · assumption

omit [RecoverySecrets] in
theorem resolveLiveRow_live {row : SessionRow} {authorization : HumanSessionAuthorization}
    {profile : UserProfile}
    (h : resolveLiveRow s.host row = .ok (.live authorization profile)) :
    authorization = humanSessionAuthorization row profile := by
  unfold resolveLiveRow at h
  split at h
  · cases h
  obtain ⟨room, -, h⟩ := Result.bind_eq_ok.mp h
  obtain ⟨participant, -, h⟩ := Result.bind_eq_ok.mp h
  obtain ⟨stored, -, h⟩ := Result.bind_eq_ok.mp h
  obtain ⟨decoded, -, h⟩ := Result.bind_eq_ok.mp h
  repeat' split at h
  all_goals cases h
  rfl

omit [RecoverySecrets] in
theorem resolveHumanSession_live {fingerprint roomId : String}
    {authorization : HumanSessionAuthorization} {profile : UserProfile}
    (h : resolveHumanSession s fingerprint (some roomId) now = .ok (.live authorization profile)) :
    ∃ key row, s.sessionOf fingerprint = some (key, row) ∧ row.roomId = roomId ∧
      row.isLive now = true ∧ authorization = humanSessionAuthorization row profile := by
  unfold resolveHumanSession at h
  cases hfound : s.sessionOf fingerprint with
  | none =>
      rw [hfound] at h
      cases h
  | some found =>
      obtain ⟨key, row⟩ := found
      rw [hfound] at h
      dsimp only at h
      by_cases hforeign : roomId = row.roomId
      case neg =>
        rw [if_pos (by simpa using hforeign)] at h
        cases h
      rw [if_neg (by simpa using hforeign)] at h
      by_cases hdead : row.isLive now = false
      · rw [if_pos hdead] at h
        cases h
      rw [if_neg hdead] at h
      refine ⟨key, row, rfl, hforeign.symm, Bool.not_eq_false _ |>.mp hdead, ?_⟩
      exact resolveLiveRow_live h

theorem replay_meets (hs : Sound s) {userId seed : String} {code : RecoveryCode}
    (hfound : CodeFound s request userId code) (hretired : code.fingerprint ≠ request.fingerprint)
    (hseed : code.sessionKey = some seed) :
    Meets (replay userId seed request now) s (Redeems s request now) Refusal := by
  unfold replay
  apply Meets.read_bind
  refine Meets.ofResult_bind (refuses_resolveHumanSession _ _ _ _) fun resolution hresolved => ?_
  cases resolution with
  | live authorization profile =>
      dsimp only
      obtain ⟨key, row, hsession, hroom, hlive, rfl⟩ := resolveHumanSession_live hresolved
      obtain ⟨hrow, hsame⟩ := hs.sessionOf hsession
      obtain rfl := sessionFingerprint_injective hsame
      refine Meets.orReject_bind (fun hnone => ?_) fun stored hstored => ?_
      · exact absurd (hnone.symm.trans hrow) (Option.some_ne_none _).symm
      obtain rfl := Option.some.inj (hrow.symm.trans hstored)
      refine Meets.orReject_bind (fun _ => .invalidDocument) fun result hresult => ?_
      refine Meets.require_bind (fun _ => .rejected _ _) fun hsame => ?_
      exact .pure (.replayed hfound hretired hseed hresolved hrow hlive hroom hsame.1 hsame.2.1
        hresult hsame.2.2)
  | missing => exact .throw (.rejected _ _)
  | foreignRoom => exact .throw (.rejected _ _)
  | unavailable => exact .throw (.rejected _ _)

omit [RecoverySecrets] in
theorem bindAccountDevice_meets (userId device : String) :
    Meets (bindAccountDevice userId device) s (fun _ t =>
      (∀ owner, s.devices.lookup device = some owner → owner = userId) ∧
        ∃ devices : Table String String, devices.lookup device = some userId ∧
          (∀ other, other ≠ device → devices.lookup other = s.devices.lookup other) ∧
            t = { s with devices }) Refusal := by
  unfold bindAccountDevice
  apply Meets.read_bind
  cases howner : s.devices.lookup device with
  | some current =>
      dsimp only
      refine Meets.require (fun _ => .rejected _ _) fun hsame => ?_
      subst hsame
      refine ⟨fun owner hother => (Option.some.inj hother).symm, s.devices, howner,
        fun _ _ => rfl, rfl⟩
  | none =>
      dsimp only
      refine Meets.write ⟨fun owner hother => ?_, s.devices.insert device userId,
        AList.lookup_insert _, fun other hother => AList.lookup_insert_ne hother, rfl⟩
      cases hother

theorem drawSeed_meets :
    Meets drawSeed s (fun seed t => seed = randomSeed s.seeds ∧
      t = { s with seeds := s.seeds + 1 }) fun _ => False :=
  .of_commits rfl

/-- The seat that was ended takes the next session. -/
theorem insertSession_meets (hs : Sound s) (row : SessionRow)
    {devices : Table String String}
    (hfingerprint : row.sessionFingerprint = sessionFingerprint (randomSeed s.seeds))
    (hdevice : devices.lookup row.browserCredentialFingerprint = some row.userId)
    {t : RecoveryStore} (ht : t = { s with
      devices
      sessions := seatEnded row.roomId row.participantId s.sessions
      seeds := s.seeds + 1 }) :
    Meets (insertSession (randomSeed s.seeds) row) t (fun _ u =>
      u = { t with sessions := t.sessions.insert (randomSeed s.seeds) row }) fun _ => False := by
  subst ht
  unfold insertSession
  apply Meets.read_bind
  have hkey : (seatEnded row.roomId row.participantId s.sessions).lookup (randomSeed s.seeds) =
      none := by
    rw [seatEnded, Table.lookup_update, hs.fresh_session, Option.map_none]
  refine Meets.require_bind (fun hnot => hnot ⟨hkey, ?_⟩) fun _ => ?_
  · rw [RecoveryStore.sessionOf, Option.eq_none_iff_forall_ne_some]
    rintro ⟨key, other⟩ hfound
    obtain ⟨hother, hsame⟩ := Table.find?_eq_some hfound
    obtain ⟨stored, hstored, hended⟩ := lookup_seatEnded hother
    have hunchanged : other.sessionFingerprint = stored.sessionFingerprint := by
      rcases hended with ⟨rfl, -⟩ | ⟨rfl, -⟩ <;> rfl
    rw [beq_iff_eq, hunchanged, hs.sessions.fingerprints hstored, hfingerprint] at hsame
    rw [sessionFingerprint_injective hsame, hs.fresh_session] at hstored
    cases hstored
  refine Meets.require_bind (fun hnot => hnot ?_) fun _ => ?_
  · rw [Option.eq_none_iff_forall_ne_some]
    rintro ⟨key, other⟩ hfound
    obtain ⟨hother, hactive⟩ := Table.find?_eq_some hfound
    rw [Bool.and_eq_true, beq_iff_eq] at hactive
    obtain ⟨stored, -, hended⟩ := lookup_seatEnded hother
    rcases hended with ⟨rfl, hseat⟩ | ⟨rfl, -⟩
    · rw [hseat hactive.1] at hactive
      cases hactive.2
    · cases hactive.1
  refine Meets.require_bind (fun hnot => hnot hdevice) fun _ => ?_
  exact .write rfl

/-- The next code takes the place of the one that was redeemed. -/
theorem rotateCode_meets (hs : Sound s) {userId : String} {code : RecoveryCode}
    (hcode : s.codes.lookup userId = some code) {t : RecoveryStore} (ht : t.codes = s.codes) :
    Meets (rotateCode userId code (codeFingerprint (randomSeed s.seeds)) (randomSeed s.seeds)) t
      (fun _ u => u = { t with
        codes := t.codes.insert userId ⟨codeFingerprint (randomSeed s.seeds),
          some code.fingerprint, some (randomSeed s.seeds)⟩ }) fun _ => False := by
  unfold rotateCode
  apply Meets.read_bind
  refine Meets.require_bind (fun hnot => hnot ?_) fun _ => ?_
  · have hfree := hs.codeIsFree userId
    rwa [RecoveryStore.codeIsFree, ← ht] at hfree
  refine Meets.require_bind (fun hnot => hnot ?_) fun _ => .write rfl
  rw [id_eq, ht, Option.eq_none_iff_forall_ne_some]
  rintro ⟨owner, other⟩ hfound
  obtain ⟨hother, hsame⟩ := Table.find?_eq_some hfound
  rw [Bool.and_eq_true, bne_iff_ne, beq_iff_eq] at hsame
  exact hsame.1 (hs.codes.owners hother hcode (Or.inr hsame.2) (Or.inl rfl))

theorem recover_meets (hs : Sound s) {userId : String} {code : RecoveryCode}
    (hfound : CodeFound s request userId code)
    (hcurrent : code.fingerprint = request.fingerprint) :
    Meets (recover userId code request now) s (Redeems s request now) Refusal := by
  unfold recover
  apply Meets.read_bind
  refine Meets.ofResult_bind (refuses_recoverySource _ _ _ _) fun source hresult => ?_
  obtain ⟨user, room, settings, inviteScope⟩ := source
  dsimp only
  have hsource := recoverySource_eq_ok hresult
  refine (bindAccountDevice_meets userId request.device).bind ?_
  rintro ⟨⟩ _ ⟨hbound, devices, hdevice, hothers, rfl⟩
  rw [← bind_assoc]
  refine (replaceSessions_meets request.roomId user.participantId now).safe.bind ?_
  rintro replaced _ ⟨hlive, rfl⟩
  refine drawSeed_meets.safe.bind ?_
  rintro _ _ ⟨rfl, rfl⟩
  dsimp only
  refine Meets.require_bind (fun _ => .rejected _ _) fun hexpiry => ?_
  refine (insertSession_meets hs (recoveredRow user request inviteScope _ _ now) rfl
    (hdevice.trans (congrArg some hsource.owner.symm)) rfl).safe.bind ?_
  rintro ⟨⟩ _ rfl
  refine (rotateCode_meets hs hfound.stored (by rfl)).safe.bind ?_
  rintro ⟨⟩ _ rfl
  exact .pure (.recovered hfound hcurrent hsource hbound hdevice hothers hlive hexpiry)

theorem redeemGuestRecoveryCode_meets (hs : Sound s) :
    Meets (redeemGuestRecoveryCode request now) s (Redeems s request now) Refusal := by
  unfold redeemGuestRecoveryCode
  refine Meets.require_bind (fun _ => .rejected _ _) fun hbounded => ?_
  apply Meets.read_bind
  refine Meets.orReject_bind (fun _ => .rejected _ _) fun found hresult => ?_
  obtain ⟨userId, code⟩ := found
  obtain ⟨hstored, hmentions⟩ := findCode_eq_some hresult
  dsimp only
  refine Meets.ofResult_bind (refuses_requirePublicAccountUser _) fun _ hpublic => ?_
  have hfound : CodeFound s request userId code :=
    { bounded := hbounded
      stored := hstored
      mentions := hmentions
      isPublic := requirePublicAccountUser_eq_ok hpublic }
  refine Meets.ite (fun hretired => ?_) fun hcurrent => ?_
  · refine Meets.orReject_bind (fun _ => .rejected _ _) fun seed hseed => ?_
    exact replay_meets hs hfound hretired hseed
  · exact recover_meets hs hfound (not_not.mp hcurrent)

/-- A code that was issued takes the place of the user's code, and mentions nothing else. -/
theorem issueGuestRecoveryCode_meets (hs : Sound s) (identity : AccountIdentity) :
    Meets (issueGuestRecoveryCode identity now) s (fun code t => ∃ userId,
      code = (recoveryCode (randomSeed s.seeds)).bearer ∧
        t = { s with
          codes := s.codes.insert userId ⟨codeFingerprint (randomSeed s.seeds), none, none⟩
          seeds := s.seeds + 1 }) Refusal := by
  unfold issueGuestRecoveryCode
  refine Meets.require_bind (fun _ => .rejected _ _) fun _ => ?_
  refine drawSeed_meets.safe.bind ?_
  rintro _ _ ⟨rfl, rfl⟩
  dsimp only
  apply Meets.read_bind
  refine Meets.ofResult_bind (refuses_revalidateAccountIdentity _ _ _) fun current _ => ?_
  refine Meets.orReject_bind (fun _ => .rejected _ _) fun user _ => ?_
  apply Meets.read_bind
  refine Meets.require_bind (fun hnot => absurd (hs.codeIsFree user.userId) hnot) fun _ => ?_
  apply Meets.write_bind
  exact .pure ⟨user.userId, rfl, rfl⟩

end Redeeming

end AgentsAssemble.Recovery
