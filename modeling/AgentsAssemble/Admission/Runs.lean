import AgentsAssemble.Admission.Accounting

/-!
# Human admission: runs

Over every run: the uses of an invite are its new admissions, the live sessions
stay within capacity, and the exact retry of an admission is answered with what
the admission committed.
-/

namespace AgentsAssemble.Admission

open Foundation Domain Tx
open Directory (Room RoomSettings UserProfile localOperatorParticipantId)
open Persistence (RoomStatus UuidSource unaryUuid unaryUuid_injective unaryUuid_ne_empty)

section Runs

variable [AdmissionDigests] {s t : HumanStore} {request : PreparedHumanAdmission} {now : Nat}

/-! ## Capacity -/

omit [AdmissionDigests] in
theorem isLive_eq_true {session : HumanRoomSession} :
    session.isLive now = true ↔ session.state = .active ∧ now < session.expiresAt := by
  simp [HumanRoomSession.isLive, HumanRoomSession.isActive]

omit [AdmissionDigests] in
/-- The live sessions of a later instant are live ones of an earlier instant. -/
theorem liveCount_le {earlier later : Nat} {p q : HumanRoomSession → Bool}
    (hstored : ∀ key session, t.sessions.lookup key = some session → session.state = .active →
      s.sessions.lookup key = some session)
    (htime : earlier ≤ later) (hpq : ∀ session, p session = true → q session = true) :
    t.liveCount later p ≤ s.liveCount earlier q := by
  refine Table.count_le_count _ fun key session hsession hcounted => ?_
  obtain ⟨hlive, hp⟩ := Bool.and_eq_true_iff.mp hcounted
  obtain ⟨hactive, hexpires⟩ := isLive_eq_true.mp hlive
  refine ⟨session, hstored key session hsession hactive, Bool.and_eq_true_iff.mpr ⟨?_, hpq _ hp⟩⟩
  exact isLive_eq_true.mpr ⟨hactive, lt_of_le_of_lt htime hexpires⟩

omit [AdmissionDigests] in
theorem WithinCapacity.ends {earlier later : Nat} (h : WithinCapacity s earlier)
    (hends : Ends s.sessions t.sessions) (htime : earlier ≤ later) : WithinCapacity t later where
  total moment hmoment := by
    refine le_trans ?_ (h.total moment (htime.trans hmoment))
    exact liveCount_le (fun _ _ => hends.active) le_rfl fun _ hp => hp
  room moment roomId hmoment := by
    refine le_trans ?_ (h.room moment roomId (htime.trans hmoment))
    exact liveCount_le (fun _ _ => hends.active) le_rfl fun _ hp => hp

/-- The sessions that live beside a new one are those of the other members. -/
theorem Admits.liveCount_le {invite : HumanInvite} {userId participantId : String}
    {commit : HumanAdmissionCommit} {later : Nat} {p : HumanRoomSession → Bool}
    (h : Admits s request invite now userId participantId commit t) (htime : now ≤ later) :
    t.liveCount later p ≤ s.liveCount now (fun session =>
      p session && !session.isOf invite.roomId participantId) +
      (if p (newSession request invite (admissionKey request invite) userId participantId
        commit.result now) then 1 else 0) := by
  have hunused : (endSessionsOf invite.roomId participantId s.sessions).lookup
      (admissionKey request invite) = none := by
    unfold endSessionsOf
    rw [Table.lookup_update, h.unused]
    rfl
  unfold HumanStore.liveCount
  rw [h.sessions, Table.count_insert, Table.count_erase_of_none _ hunused]
  refine Nat.add_le_add ?_ ?_
  · refine Table.count_le_count _ fun key session hsession hcounted => ?_
    obtain ⟨hlive, hp⟩ := Bool.and_eq_true_iff.mp hcounted
    obtain ⟨hactive, hexpires⟩ := isLive_eq_true.mp hlive
    obtain ⟨hstored, hother⟩ := active_of_endSessionsOf hsession hactive
    have hearlier := isLive_eq_true.mpr ⟨hactive, lt_of_le_of_lt htime hexpires⟩
    refine ⟨session, hstored, Bool.and_eq_true_iff.mpr ⟨hearlier, ?_⟩⟩
    rw [Bool.and_eq_true_iff, hother]
    exact ⟨hp, rfl⟩
  · split
    · rename_i hcounted
      rw [if_pos (Bool.and_eq_true_iff.mp hcounted).2]
    · exact Nat.zero_le _

theorem Admits.withinCapacity {invite : HumanInvite} {userId participantId : String}
    {commit : HumanAdmissionCommit} {earlier : Nat} (hcapacity : WithinCapacity s earlier)
    (htime : earlier ≤ now) (h : Admits s request invite now userId participantId commit t) :
    WithinCapacity t now := by
  have hfree := h.capacity
  simp only [capacityReached, Bool.or_eq_false_iff, decide_eq_false_iff_not, not_le] at hfree
  constructor
  case total =>
    intro moment hmoment
    have hcount := h.liveCount_le (p := fun _ => true) hmoment
    simp only [Bool.true_and, if_true] at hcount
    have := hfree.1
    omega
  case room =>
    intro moment roomId hmoment
    have hcount := h.liveCount_le (p := fun session => session.roomId == roomId) hmoment
    by_cases hroom : invite.roomId = roomId
    · subst hroom
      have hothers : s.liveCount now (fun session => session.roomId == invite.roomId &&
          !session.isOf invite.roomId participantId) ≤
          s.liveCount now (fun session => session.roomId == invite.roomId &&
            session.participantId != participantId) := by
        refine Admission.liveCount_le (fun _ _ hsession _ => hsession) le_rfl fun session hp => ?_
        simp only [HumanRoomSession.isOf, Bool.and_eq_true, beq_iff_eq, Bool.not_eq_true',
          Bool.and_eq_false_imp, bne_iff_ne] at hp ⊢
        exact ⟨hp.1, fun hid => Bool.eq_false_iff.mp (hp.2 hp.1) (beq_iff_eq.mpr hid)⟩
      have hone : (newSession request invite (admissionKey request invite) userId participantId
          commit.result now).roomId == invite.roomId := beq_self_eq_true _
      rw [if_pos hone] at hcount
      have := hfree.2
      omega
    · have hnone : ¬((newSession request invite (admissionKey request invite) userId participantId
          commit.result now).roomId == roomId) = true := fun heq => hroom (beq_iff_eq.mp heq)
      rw [if_neg hnone] at hcount
      have hothers : s.liveCount now (fun session => session.roomId == roomId &&
          !session.isOf invite.roomId participantId) ≤
          s.liveCount now (fun session => session.roomId == roomId) :=
        Admission.liveCount_le (fun _ _ hsession _ => hsession) le_rfl fun _ hp =>
          (Bool.and_eq_true_iff.mp hp).1
      have := hcapacity.room now roomId htime
      omega

/-! ## What an admission is remembered by -/

/-- The store still holds the invite and the session that the request was admitted with. -/
structure Remembered (s : HumanStore) (request : PreparedHumanAdmission)
    (commit : HumanAdmissionCommit) : Prop where
  held : ∃ invite session, s.invites.lookup invite.inviteId = some invite ∧
    request.credential.selects invite = true ∧ CredentialBound invite request.credential ∧
    (invite.isReusable = true → MeetingMatches request invite) ∧
    s.sessions.lookup (admissionKey request invite) = some session ∧
    session.payloadHash = payloadHash request.payload ∧ session.result = commit.result ∧
    commit.sessionBearer = sessionBearer (admissionKey request invite)

theorem Remembered.evolve {commit : HumanAdmissionCommit} (h : Remembered s request commit)
    (hev : Evolves s t) : Remembered t request commit := by
  obtain ⟨invite, session, hstored, hselects, hbound, hmeeting, hsession, hhash, hresult,
    hbearer⟩ := h.held
  obtain ⟨later, hlater, hterms⟩ := hev.invites _ _ hstored
  obtain ⟨session', hsession', hsessionTerms⟩ := hev.sessions _ _ hsession
  have hkey : admissionKey request later = admissionKey request invite := by
    unfold admissionKey
    rw [hterms.isReusable_eq]
  have hid : later.inviteId = invite.inviteId := by
    rw [hterms]
  refine ⟨later, session', hid ▸ hlater, (hterms.selects_eq _).trans hselects,
    hbound.sameTerms hterms, fun hmany => ?_, hkey ▸ hsession', ?_, ?_, hkey ▸ hbearer⟩
  · unfold MeetingMatches
    rw [hterms.roomId_eq]
    exact hmeeting (hterms.isReusable_eq ▸ hmany)
  · rw [hsessionTerms]
    exact hhash
  · rw [hsessionTerms]
    exact hresult

/-- Whatever `admit_human` answers with, the store remembers. -/
theorem Decides.remembered {decision : HumanAdmissionDecision} {commit : HumanAdmissionCommit}
    (hdecides : Decides s request now decision t) (hdecision : decision = .admitted commit) :
    Remembered t request commit := by
  cases hdecides with
  | notFound => cases hdecision
  | gated hgate => cases hdecision
  | refused hrejection => cases hdecision
  | @retried invite room session hselected hbound hgate hsession =>
      unfold sessionAnswer at hdecision
      split at hdecision
      · cases hdecision
      · rename_i hhash
        split at hdecision
        · rename_i hlive
          obtain ⟨-, hexpires⟩ := isLive_eq_true.mp hlive
          obtain rfl := HumanAdmissionDecision.admitted.inj hdecision
          have hstore : retryStore s request (admissionKey request invite) now = s := by
            unfold retryStore
            rw [hsession]
            exact if_neg fun hexpired => absurd hexpired.2.2 (not_le.mpr hexpires)
          rw [hstore]
          refine ⟨invite, session, hselected.stored, hselected.selects, hbound, fun hmany => ?_,
            hsession, not_not.mp hhash, rfl, rfl⟩
          exact (inviteGate_eq_none.mp (hgate hmany)).2
        · cases hdecision
  | @admitted invite room userId participantId _ _ hselected hbound hmeeting hadmits =>
      obtain rfl := HumanAdmissionDecision.admitted.inj hdecision
      have hterms : invite.SameTerms { invite with useCount := invite.useCount + 1 } := rfl
      refine ⟨{ invite with useCount := invite.useCount + 1 },
        newSession request invite (admissionKey request invite) userId participantId _ now, ?_, ?_,
        hbound.sameTerms rfl, fun _ => hmeeting, ?_, rfl, rfl, hadmits.bearer⟩
      · rw [hadmits.invites]
        exact (Table.sets_insert s.invites _ _).at_key
      · exact (hterms.selects_eq request.credential).trans hselected.selects
      · rw [hadmits.sessions]
        exact (Table.sets_insert _ _ _).at_key

/-! ## Exact retries -/

/-- The answer to a retry: what was committed, without its events. -/
def replayOf (commit : HumanAdmissionCommit) : HumanAdmissionCommit :=
  { commit with events := [], replacedSessionFingerprints := [], deduplicated := true }

variable [UuidSource]

/-- A remembered admission whose session is live is answered again, and nothing changes. -/
theorem exact_retry (hs : Sound s) {commit : HumanAdmissionCommit}
    (h : Remembered s request commit) {invite : HumanInvite} {session : HumanRoomSession}
    (hstored : s.invites.lookup invite.inviteId = some invite)
    (hselects : request.credential.selects invite = true)
    (hsession : s.sessions.lookup (admissionKey request invite) = some session)
    (hlive : session.isLive now = true)
    (hopen : invite.isReusable = true → invite.revoked = false ∧ now < invite.expiresAt ∧
      invite.useCount < invite.effectiveUseLimit) :
    Commits (admitHuman request now) s (.admitted (replayOf commit)) s := by
  obtain ⟨invite', session', hstored', hselects', hbound, hmeeting, hsession', hhash, hresult,
    hbearer⟩ := h.held
  obtain ⟨-, rfl⟩ := hs.invites.selects_unique hstored' hstored hselects' hselects
  obtain rfl := Option.some.inj (hsession'.symm.trans hsession)
  obtain ⟨hactive, hexpires⟩ := isLive_eq_true.mp hlive
  obtain ⟨owner, howner, hroomId, -, hkeyOf⟩ := (hs.sessions hsession).invite
  obtain ⟨-, rfl, -, -⟩ :=
    hkeyOf.unique hs.invites howner hstored (keyOf_admissionKey hselects)
  obtain ⟨-, room, settings, hroom, hroomActive⟩ := hs.seated hsession hactive
  have hselected : Selected s request.credential owner room :=
    ⟨hstored, hselects, settings, hroomId ▸ hroom⟩
  have hanswer : sessionAnswer request (admissionKey request owner) now session' =
      .admitted (replayOf commit) := by
    unfold sessionAnswer replayOf
    rw [if_neg (not_not.mpr hhash), if_pos hlive, hresult, hbearer]
  have hstore : retryStore s request (admissionKey request owner) now = s := by
    unfold retryStore
    rw [hsession]
    exact if_neg fun hexpired => absurd hexpired.2.2 (not_le.mpr hexpires)
  have hretry := exactAdmission_meets hs hselected now
  rw [hsession, Option.map_some, hanswer, hstore] at hretry
  have hmeets : Meets (admitHuman request now) s
      (fun decision t => decision = .admitted (replayOf commit) ∧ t = s) Never := by
    unfold admitHuman
    refine Meets.bind (Meets.of_commits (loadInviteAndRoom_selected hs hselected)) ?_
    rintro found t ⟨rfl, ht⟩
    subst t
    refine Meets.bind (Meets.of_commits
      (requireCredentialBinding_commits.mpr ⟨hbound, rfl⟩ : Commits _ s () s)) ?_
    rintro ⟨⟩ t ⟨-, ht⟩
    subst t
    by_cases hreuse : owner.isReusable = true
    · have hkey : admissionKey request owner = request.reusableAdmissionKey := if_pos hreuse
      have hkind : admissionKeyKind owner = .reusable := if_pos hreuse
      obtain ⟨hrevoked, hinviteExpires, hlimit⟩ := hopen hreuse
      have hgate : inviteGate request owner room now = none :=
        inviteGate_eq_none.mpr ⟨⟨hrevoked, hinviteExpires, hlimit, hroomActive⟩, hmeeting hreuse⟩
      rw [if_pos hreuse, if_pos hreuse, ← hkey, ← hkind]
      apply Meets.pure_bind
      rw [hgate]
      refine Meets.bind hretry ?_
      rintro answer t ⟨rfl, ht⟩
      exact .pure ⟨rfl, ht⟩
    · have hkey : admissionKey request owner = request.oneUseAdmissionKey := if_neg hreuse
      have hkind : admissionKeyKind owner = .oneUse := if_neg hreuse
      rw [if_neg hreuse, if_neg hreuse, ← hkey, ← hkind]
      refine Meets.bind hretry ?_
      rintro answer t ⟨rfl, ht⟩
      exact .pure ⟨rfl, ht⟩
  obtain ⟨decision, t, hcommits, rfl, ht⟩ := hmeets.exists_commits
  subst t
  exact hcommits

/-! ## The ledger of a run -/

/-- The label is an admission that committed. -/
def HumanLabel.Admitted (label : HumanLabel) (request : PreparedHumanAdmission)
    (commit : HumanAdmissionCommit) : Prop :=
  label.op = .admitHuman request ∧ label.outcome = .ok (.decision (.admitted commit))

/-- The label is a new admission through the invite. -/
def HumanLabel.admitsThrough (invite : HumanInvite) (label : HumanLabel) : Bool :=
  match label.op, label.outcome with
  | .admitHuman request, .ok (.decision (.admitted commit)) =>
      request.credential.selects invite && !commit.deduplicated
  | _, _ => false

/-- What holds after every run. -/
structure Ledger (labels : List HumanLabel) (server : HumanServer) : Prop where
  sound : Sound server.store
  capacity : WithinCapacity server.store server.clock
  remembered : ∀ label ∈ labels, ∀ request commit, label.Admitted request commit →
    Remembered server.store request commit
  uses : ∀ inviteId invite, server.store.invites.lookup inviteId = some invite →
    invite.useCount = labels.countP (HumanLabel.admitsThrough invite)

omit [AdmissionDigests] [UuidSource] in
/-- Whether a label admits through an invite depends on the terms of the invite. -/
theorem admitsThrough_sameTerms {invite later : HumanInvite} (h : invite.SameTerms later) :
    HumanLabel.admitsThrough later = HumanLabel.admitsThrough invite := by
  funext label
  unfold HumanLabel.admitsThrough
  split
  · rw [h.selects_eq]
  · rfl

omit [UuidSource] in
/-- No remembered admission went through an invite that is not stored yet. -/
theorem countP_admitsThrough_eq_zero {labels : List HumanLabel} {inviteId : String}
    {invite : HumanInvite} (ht : Sound t) (hev : Evolves s t)
    (hremembered : ∀ label ∈ labels, ∀ request commit, label.Admitted request commit →
      Remembered s request commit)
    (hnew : s.invites.lookup inviteId = none) (hstored : t.invites.lookup inviteId = some invite) :
    labels.countP (HumanLabel.admitsThrough invite) = 0 := by
  rw [List.countP_eq_zero]
  intro label hlabel hadmits
  unfold HumanLabel.admitsThrough at hadmits
  split at hadmits
  · rename_i request commit hop houtcome
    obtain ⟨old, _, hold, hselects, -⟩ :=
      (hremembered label hlabel request commit ⟨hop, houtcome⟩).held
    obtain ⟨later, hlater, hterms⟩ := hev.invites _ _ hold
    obtain ⟨hid, -⟩ := ht.invites.selects_unique hstored hlater
      (Bool.and_eq_true_iff.mp hadmits).1 ((hterms.selects_eq _).trans hselects)
    subst hid
    cases hnew.symm.trans hold
  · cases hadmits

/-- The label is not a new admission. -/
def HumanLabel.Settled (label : HumanLabel) : Prop :=
  ∀ request commit, label.Admitted request commit → commit.deduplicated = true

omit [AdmissionDigests] [UuidSource] in
theorem HumanLabel.Settled.admitsThrough {label : HumanLabel} (h : label.Settled)
    (invite : HumanInvite) : label.admitsThrough invite = false := by
  unfold HumanLabel.admitsThrough
  split
  · rename_i request commit hop houtcome
    rw [h request commit ⟨hop, houtcome⟩]
    exact Bool.and_false _
  · rfl

omit [UuidSource] in
/-- A step that opens no session keeps the ledger. -/
theorem Ledger.settled {labels : List HumanLabel} {label : HumanLabel} {server next : HumanServer}
    (h : Ledger labels server) (hclock : server.clock ≤ next.clock)
    (hpreserves : Preserves server.store next.store) (hsettled : label.Settled)
    (hremembered : ∀ request commit, label.Admitted request commit →
      Remembered next.store request commit) :
    Ledger (labels ++ [label]) next := by
  constructor
  case sound => exact hpreserves.sound
  case capacity => exact h.capacity.ends hpreserves.ends hclock
  case remembered =>
    intro other hother request commit hadmitted
    rcases List.mem_append.mp hother with hbefore | hlatest
    · exact (h.remembered other hbefore request commit hadmitted).evolve hpreserves.evolves
    · obtain rfl := List.mem_singleton.mp hlatest
      exact hremembered request commit hadmitted
  case uses =>
    intro inviteId invite hinvite
    rw [List.countP_append, List.countP_singleton, hsettled.admitsThrough, if_neg nofun,
      Nat.add_zero]
    rcases hpreserves.uses inviteId invite hinvite with ⟨old, hold, hterms, huses⟩ | ⟨hnew, hzero⟩
    · rw [huses, h.uses inviteId old hold, admitsThrough_sameTerms hterms]
    · rw [hzero, countP_admitsThrough_eq_zero hpreserves.sound hpreserves.evolves h.remembered hnew
        hinvite]
      rfl

omit [UuidSource] in
theorem retryStore_preserves (hs : Sound s) (key : String) :
    Preserves s (retryStore s request key now) := by
  unfold retryStore
  cases hsession : s.sessions.lookup key with
  | none => exact .refl hs
  | some session =>
      dsimp only
      split
      · exact preserves_endSession hs hsession
      · exact .refl hs

omit [UuidSource] in
/-- A decision either opens no session or is a new admission. -/
theorem Decides.cases {decision : HumanAdmissionDecision} (hs : Sound s)
    (h : Decides s request now decision t) :
    (Preserves s t ∧ ∀ commit, decision = .admitted commit → commit.deduplicated = true) ∨
    ∃ invite room userId participantId commit, decision = .admitted commit ∧
      Selected s request.credential invite room ∧
      Admits s request invite now userId participantId commit t := by
  cases h with
  | notFound => exact Or.inl ⟨.refl hs, nofun⟩
  | gated hgate => exact Or.inl ⟨.refl hs, nofun⟩
  | refused hrejection => exact Or.inl ⟨.refl hs, nofun⟩
  | retried hselected hbound hgate hsession =>
      refine Or.inl ⟨retryStore_preserves hs _, fun commit hcommit => ?_⟩
      unfold sessionAnswer at hcommit
      split at hcommit
      · cases hcommit
      · split at hcommit
        · obtain rfl := HumanAdmissionDecision.admitted.inj hcommit
          rfl
        · cases hcommit
  | admitted hselected hbound hmeeting hadmits =>
      exact Or.inr ⟨_, _, _, _, _, rfl, hselected, hadmits⟩

omit [UuidSource] in
/-- A new admission keeps the ledger, charging its invite once. -/
theorem Ledger.admits {labels : List HumanLabel} {server next : HumanServer}
    {request : PreparedHumanAdmission} {invite : HumanInvite} {room : Room}
    {userId participantId : String} {commit : HumanAdmissionCommit} (h : Ledger labels server)
    (hclock : server.clock ≤ next.clock)
    (hselected : Selected server.store request.credential invite room)
    (hadmits : Admits server.store request invite next.clock userId participantId commit next.store)
    (hremembered : Remembered next.store request commit) :
    Ledger (labels ++ [⟨.admitHuman request, next.clock, .ok (.decision (.admitted commit))⟩])
      next := by
  have hev := hadmits.evolves hselected.stored
  constructor
  case sound => exact hadmits.sound h.sound hselected
  case capacity => exact hadmits.withinCapacity h.capacity hclock
  case remembered =>
    intro other hother request' commit' hadmitted
    rcases List.mem_append.mp hother with hbefore | hlatest
    · exact (h.remembered other hbefore request' commit' hadmitted).evolve hev
    · obtain rfl := List.mem_singleton.mp hlatest
      obtain ⟨hop, houtcome⟩ := hadmitted
      cases hop
      cases houtcome
      exact hremembered
  case uses =>
    intro inviteId later hlater
    rw [List.countP_append, List.countP_singleton]
    rw [hadmits.invites] at hlater
    rcases (Table.sets_insert _ _ _).cases hlater with ⟨rfl, hnew⟩ | ⟨hne, hold⟩
    · obtain rfl := Option.some.inj hnew
      have hterms : invite.SameTerms { invite with useCount := invite.useCount + 1 } := rfl
      have hlabel : HumanLabel.admitsThrough { invite with useCount := invite.useCount + 1 }
          ⟨.admitHuman request, next.clock, .ok (.decision (.admitted commit))⟩ = true := by
        show (request.credential.selects _ && !commit.deduplicated) = true
        rw [hterms.selects_eq, hselected.selects, hadmits.deduplicated]
        rfl
      rw [if_pos hlabel, admitsThrough_sameTerms hterms]
      have huses := h.uses _ invite hselected.stored
      push_cast
      omega
    · have hlabel : HumanLabel.admitsThrough later
          ⟨.admitHuman request, next.clock, .ok (.decision (.admitted commit))⟩ = false := by
        show (request.credential.selects _ && !commit.deduplicated) = false
        rw [Bool.and_eq_false_imp]
        intro hselects
        have hsame := (h.sound.invites.selects_unique hold hselected.stored hselects
          hselected.selects).1
        exact absurd hsame hne
      rw [hlabel, if_neg nofun, Nat.add_zero]
      exact h.uses inviteId later hold

theorem Ledger.step {labels : List HumanLabel} {label : HumanLabel} {server next : HumanServer}
    (h : Ledger labels server) (hstep : Step label server next) :
    Ledger (labels ++ [label]) next := by
  obtain ⟨op, now, outcome⟩ := label
  obtain ⟨htime, hroom, hclock, hmove⟩ := hstep
  dsimp only at htime hroom hclock hmove
  have hlater : server.clock ≤ next.clock := hclock ▸ htime
  cases outcome with
  | error e =>
      obtain ⟨-, hsame⟩ := hmove
      have hpreserves : Preserves server.store next.store := by
        rw [hsame]
        exact .refl h.sound
      refine h.settled hlater hpreserves (fun _ _ hadmitted => ?_)
        fun _ _ hadmitted => ?_
      · cases hadmitted.2
      · cases hadmitted.2
  | ok outcome =>
      by_cases hadmits : ∃ request, op = .admitHuman request
      · obtain ⟨request, rfl⟩ := hadmits
        obtain ⟨decision, hdecision, rfl⟩ := commits_map.mp hmove
        have hdecides := (admitHuman_meets h.sound hroom).commits hdecision
        have hremembered : ∀ commit, decision = .admitted commit →
            Remembered next.store request commit := fun commit hcommit =>
          hdecides.remembered hcommit
        subst now
        rcases hdecides.cases h.sound with ⟨hpreserves, hdeduplicated⟩ |
          ⟨invite, room, userId, participantId, commit, rfl, hselected, hadmits⟩
        · refine h.settled hlater hpreserves (fun request' commit hadmitted => ?_)
            fun request' commit hadmitted => ?_
          · obtain ⟨hop, houtcome⟩ := hadmitted
            cases houtcome
            exact hdeduplicated commit rfl
          · obtain ⟨hop, houtcome⟩ := hadmitted
            cases hop
            cases houtcome
            exact hremembered commit rfl
        · exact h.admits hlater hselected hadmits (hremembered commit rfl)
      · have hpreserves := perform_preserves h.sound (fun request hop => hadmits ⟨request, hop⟩)
          hmove
        refine h.settled hlater hpreserves (fun request _ hadmitted => ?_)
          fun request _ hadmitted => ?_
        · exact absurd ⟨request, hadmitted.1⟩ hadmits
        · exact absurd ⟨request, hadmitted.1⟩ hadmits

omit [UuidSource] in
theorem HumanStore.Fresh.ledger (h : s.Fresh) (clock : Nat) : Ledger [] ⟨s, clock⟩ := by
  have hcount : ∀ moment p, s.liveCount moment p = 0 := by
    intro moment p
    unfold HumanStore.liveCount
    rw [h.sessions]
    rfl
  constructor
  case sound =>
    constructor
    case rooms => exact h.rooms _ _
    case participants => exact h.participants _ _ _
    case profiles => exact h.profiles _ _
    case devices =>
      intro browser userId profile hdevice
      rw [h.devices] at hdevice
      cases hdevice
    case invites =>
      rw [h.invites]
      exact ⟨nofun, nofun, nofun, nofun⟩
    case avatars =>
      rw [h.prejoinAvatars]
      exact nofun
    case sessions =>
      rw [h.sessions]
      exact nofun
    case seated =>
      rw [h.sessions]
      exact nofun
    case single =>
      rw [h.sessions]
      exact nofun
  case capacity =>
    refine ⟨fun moment _ => ?_, fun moment roomId _ => ?_⟩
    · rw [hcount]
      exact Nat.zero_le _
    · rw [hcount]
      exact Nat.zero_le _
  case remembered => exact fun _ h => nomatch h
  case uses =>
    intro inviteId invite hinvite
    rw [h.invites] at hinvite
    cases hinvite

theorem ledger_of_run {s : HumanStore} {clock : Nat} {labels : List HumanLabel}
    {server : HumanServer} (hfresh : s.Fresh) (hrun : Run Step ⟨s, clock⟩ labels server) :
    Ledger labels server :=
  hrun.invariant_labels (fun _ _ _ _ hledger hstep => hledger.step hstep) (hfresh.ledger clock)

/-! ## The account -/

/-- What a run leaves for whoever is admitted next. -/
structure Accounted (labels : List HumanLabel) (server : HumanServer) : Prop where
  /-- The use count is the number of new admissions, within the limit. -/
  uses : ∀ inviteId invite, server.store.invites.lookup inviteId = some invite →
    invite.useCount = labels.countP (HumanLabel.admitsThrough invite) ∧
      invite.useCount ≤ invite.effectiveUseLimit
  /-- An exact retry with an active session is answered again and changes nothing. -/
  retried : ∀ label ∈ labels, ∀ request commit, label.Admitted request commit →
    ∀ invite session now, server.store.invites.lookup invite.inviteId = some invite →
      request.credential.selects invite = true →
      server.store.sessions.lookup (admissionKey request invite) = some session →
      session.isLive now = true →
      (invite.isReusable = true → invite.revoked = false ∧ now < invite.expiresAt ∧
        invite.useCount < invite.effectiveUseLimit) →
      Commits (admitHuman request now) server.store (.admitted (replayOf commit)) server.store
  /-- At most one active session for a member of a room. -/
  single : ∀ key key' session session', server.store.sessions.lookup key = some session →
    server.store.sessions.lookup key' = some session' → session.state = .active →
    session'.state = .active → session.roomId = session'.roomId →
    session.participantId = session'.participantId → key = key'
  /-- An active session belongs to a joined participant in an active room. -/
  seated : ∀ key session, server.store.sessions.lookup key = some session →
    session.state = .active → Seated server.store session.roomId session.participantId
  /-- No admission finds stored authority invalid. -/
  valid : ∀ request now e, now + sessionTtl ≤ maxTimestampMicros →
    Rejects (admitHuman request now) server.store e → e.isInvalidState = false
  capacity : WithinCapacity server.store server.clock
  /-- A rejected admission leaves the store, but for the session it finds expired. -/
  rejected : ∀ request now rejection t,
    Commits (admitHuman request now) server.store (.rejected rejection) t →
    now + sessionTtl ≤ maxTimestampMicros →
    t = server.store ∨ rejection = .sessionUnavailable ∧
      ∃ key session, server.store.sessions.lookup key = some session ∧
        session.expiresAt ≤ now ∧
        t = { server.store with sessions := server.store.sessions.insert key session.end_ }

omit [UuidSource] in
theorem Decides.rejected_store {rejection : HumanAdmissionRejection}
    {decision : HumanAdmissionDecision} (h : Decides s request now decision t)
    (hdecision : decision = .rejected rejection) :
    t = s ∨ rejection = .sessionUnavailable ∧
      ∃ key session, s.sessions.lookup key = some session ∧ session.expiresAt ≤ now ∧
        t = { s with sessions := s.sessions.insert key session.end_ } := by
  cases h with
  | notFound => exact Or.inl rfl
  | gated hgate => exact Or.inl rfl
  | refused hrejection => exact Or.inl rfl
  | @retried invite room session hselected hbound hgate hsession =>
      unfold retryStore
      rw [hsession]
      dsimp only
      split
      · rename_i hexpired
        obtain ⟨hhash, -, hexpires⟩ := hexpired
        have hlive : ¬session.isLive now = true := fun hlive =>
          absurd hexpires (not_le.mpr (isLive_eq_true.mp hlive).2)
        unfold sessionAnswer at hdecision
        rw [if_neg (not_not.mpr hhash), if_neg hlive] at hdecision
        obtain rfl := HumanAdmissionDecision.rejected.inj hdecision
        exact Or.inr ⟨rfl, _, session, hsession, hexpires, rfl⟩
      · exact Or.inl rfl
  | admitted hselected hbound hmeeting hadmits => cases hdecision

/-- The step an operation takes at an instant. -/
def take (op : HumanOp) (now : Nat) (server : HumanServer) : HumanLabel × HumanServer :=
  match (perform op now).run server.store with
  | .ok (outcome, t) => (⟨op, now, .ok outcome⟩, ⟨t, now⟩)
  | .error e => (⟨op, now, .error e⟩, ⟨server.store, now⟩)

theorem take_op (op : HumanOp) (now : Nat) (server : HumanServer) :
    (take op now server).1.op = op := by
  unfold take
  split <;> rfl

theorem take_clock (op : HumanOp) (now : Nat) (server : HumanServer) :
    (take op now server).2.clock = now := by
  unfold take
  split <;> rfl

theorem step_take (op : HumanOp) {server : HumanServer} (htime : server.clock ≤ now)
    (hroom : now + sessionTtl ≤ maxTimestampMicros) :
    Step (take op now server).1 server (take op now server).2 := by
  unfold take Step
  cases hrun : (perform op now).run server.store with
  | ok result => exact ⟨htime, hroom, rfl, hrun⟩
  | error e => exact ⟨htime, hroom, rfl, hrun, rfl⟩

theorem human_admission_accounted {s : HumanStore} {clock : Nat} {labels : List HumanLabel}
    {server : HumanServer} (hfresh : s.Fresh) (hrun : Run Step ⟨s, clock⟩ labels server) :
    Accounted labels server := by
  have h := ledger_of_run hfresh hrun
  constructor
  case uses =>
    intro inviteId invite hinvite
    obtain ⟨-, -, -, -, hlimit⟩ := decodeHumanInvite_eq_ok (h.sound.invites.decodes hinvite)
    exact ⟨h.uses inviteId invite hinvite, hlimit⟩
  case retried =>
    intro label hlabel request commit hadmitted invite session now hstored hselects hsession hlive
      hopen
    exact exact_retry h.sound (h.remembered label hlabel request commit hadmitted) hstored hselects
      hsession hlive hopen
  case single =>
    intro key key' session session' hsession hsession'
    exact h.sound.single hsession hsession'
  case seated =>
    intro key session hsession
    exact h.sound.seated hsession
  case valid =>
    intro request now e hroom hrejects
    exact (admitHuman_meets h.sound hroom).rejects hrejects
  case capacity => exact h.capacity
  case rejected =>
    intro request now rejection t hcommits hroom
    exact ((admitHuman_meets h.sound hroom).commits hcommits).rejected_store rfl

end Runs

/-! ## A reusable invite at its limit -/

namespace Sample

/-- Two texts in one: each character of the first behind a mark. -/
def pairChars (a b : List Char) : List Char :=
  match a with
  | [] => 'e' :: b
  | c :: a => 'c' :: c :: pairChars a b

theorem pairChars_injective {a b a' b' : List Char} (h : pairChars a b = pairChars a' b') :
    a = a' ∧ b = b' := by
  induction a generalizing a' with
  | nil =>
      cases a' with
      | nil => exact ⟨rfl, (List.cons.inj h).2⟩
      | cons c a' => exact absurd (List.cons.inj h).1 (by decide)
  | cons c a ih =>
      cases a' with
      | nil => exact absurd (List.cons.inj h).1 (by decide)
      | cons c' a' =>
          obtain ⟨-, hrest⟩ := List.cons.inj h
          obtain ⟨hc, htail⟩ := List.cons.inj hrest
          obtain ⟨ha, hb⟩ := ih htail
          exact ⟨by rw [hc, ha], hb⟩

scoped instance : AdmissionDigests where
  tokenFingerprint := id
  tokenFingerprint_injective := Function.injective_id
  oneUseKey c b r := String.ofList ('o' :: pairChars c.toList (pairChars b.toList r.toList))
  oneUseKey_injective := by
    intro c b r c' b' r' h
    obtain ⟨hc, h⟩ := pairChars_injective (List.cons.inj (String.ofList_inj.mp h)).2
    obtain ⟨hb, hr⟩ := pairChars_injective h
    exact ⟨String.toList_inj.mp hc, String.toList_inj.mp hb, String.toList_inj.mp hr⟩
  reusableKey c b := String.ofList ('r' :: pairChars c.toList b.toList)
  reusableKey_injective := by
    intro c b c' b' h
    obtain ⟨hc, hb⟩ := pairChars_injective (List.cons.inj (String.ofList_inj.mp h)).2
    exact ⟨String.toList_inj.mp hc, String.toList_inj.mp hb⟩
  oneUseKey_ne_reusableKey := by
    intro c b r c' b' h
    exact absurd (List.cons.inj (String.ofList_inj.mp h)).1 (by decide)
  payloadHash payload := payload.displayName
  avatarCustodyFingerprint c b := c ++ b
  sessionBearer key := key

scoped instance : UuidSource where
  newV4 := unaryUuid
  newV4_injective := unaryUuid_injective
  newV4_ne_empty := unaryUuid_ne_empty
  isUuid _ := true

/-- One active room with its local owner. -/
def lobby : HumanStore :=
  { rooms := AList.singleton "lobby"
      (⟨"lobby", "uid", "Lobby", .active, 0, 0⟩, RoomSettings.defaults "Lobby")
    invites := ∅
    profiles := ∅
    devices := ∅
    participants := AList.singleton ("lobby", localOperatorParticipantId)
      ⟨"lobby", localOperatorParticipantId, "Host", "", "human", .joined, .human, "", false, 0, 0⟩
    sessions := ∅
    prejoinAvatars := ∅
    profileAvatars := ∅
    events := []
    uuids := 0 }

theorem lobby_fresh : lobby.Fresh where
  invites := rfl
  sessions := rfl
  devices := rfl
  prejoinAvatars := rfl
  rooms := by
    intro roomId row hrow
    obtain ⟨rfl, rfl⟩ := Prod.mk.inj (List.mem_singleton.mp (Table.mem_rows.mpr hrow))
    exact ⟨rfl, by decide +kernel⟩
  participants := by
    intro roomId participantId row hrow
    obtain ⟨hkey, rfl⟩ := Prod.mk.inj (List.mem_singleton.mp (Table.mem_rows.mpr hrow))
    obtain ⟨rfl, rfl⟩ := Prod.mk.inj hkey
    exact ⟨rfl, rfl⟩
  profiles := nofun

/-- The request of a browser under the join code of the invite. -/
def requestOf (browser : String) : PreparedHumanAdmission :=
  { credential := .joinCode (joinCodeFingerprint "code")
    browserCredentialFingerprint := browser
    requestId := "first"
    payload := ⟨"", "", "human", "", "client", none⟩ }

def twoUses : NewHumanInvite :=
  { signedToken := "token"
    joinCode := "code"
    baseParticipantId := "guest"
    displayName := "Guest"
    inviteScope := .readWrite
    maxUses := 2
    expiresAt := 1000
    createdAt := 0 }

/-- The invite is created and two browsers are admitted through it. -/
def opened : HumanLabel × HumanServer := take (.createInvite "lobby" twoUses) 0 ⟨lobby, 0⟩
def first : HumanLabel × HumanServer := take (.admitHuman (requestOf "aaaaaaaaaaaa")) 1 opened.2
def second : HumanLabel × HumanServer := take (.admitHuman (requestOf "bbbbbbbbbbbb")) 2 first.2

theorem opened_run :
    Run Step ⟨lobby, 0⟩ ([opened.1] ++ [first.1] ++ [second.1]) second.2 := by
  refine Run.snoc (Run.snoc (Run.single (step_take _ le_rfl (by decide))) (step_take _ ?_ ?_))
    (step_take _ ?_ ?_)
  · rw [opened, take_clock]
    exact Nat.zero_le _
  · decide
  · rw [first, take_clock]
    exact Nat.le_succ _
  · decide

/-- The commit of an admission that was answered. -/
def commitOf (label : HumanLabel) : Option HumanAdmissionCommit :=
  match label.outcome with
  | .ok (.decision (.admitted commit)) => some commit
  | _ => none

theorem admitted_of_commitOf {label : HumanLabel} {request : PreparedHumanAdmission}
    {commit : HumanAdmissionCommit} (hop : label.op = .admitHuman request)
    (h : commitOf label = some commit) : label.Admitted request commit := by
  unfold commitOf at h
  split at h
  · rename_i found houtcome
    obtain rfl := Option.some.inj h
    exact ⟨hop, houtcome⟩
  · cases h

end Sample

open Sample in
/-- Two admissions use up an invite for two. -/
theorem two_admissions_accounted :
    Accounted ([opened.1] ++ [first.1] ++ [second.1]) second.2 :=
  human_admission_accounted lobby_fresh opened_run

open Sample in
/-- At the use limit the exact retry of a reusable admission is rejected, though its session is
active and the invite neither revoked nor expired. -/
theorem reusable_retry_rejected_at_limit :
    ¬ ∀ (s : HumanStore) (clock : Nat) (labels : List HumanLabel) (server : HumanServer),
      s.Fresh → Run Step ⟨s, clock⟩ labels server →
      ∀ label ∈ labels, ∀ request commit, label.Admitted request commit →
      ∀ invite session now, server.clock ≤ now →
        server.store.invites.lookup invite.inviteId = some invite →
        request.credential.selects invite = true → invite.isReusable = true →
        server.store.sessions.lookup (admissionKey request invite) = some session →
        session.isLive now = true → invite.revoked = false → now < invite.expiresAt →
        Commits (admitHuman request now) server.store (.admitted (replayOf commit))
          server.store := by
  intro hclaim
  obtain ⟨commit, hcommit⟩ : ∃ commit, commitOf first.1 = some commit :=
    Option.isSome_iff_exists.mp (by decide +kernel)
  have hadmitted : first.1.Admitted (requestOf "aaaaaaaaaaaa") commit :=
    admitted_of_commitOf (take_op _ _ _) hcommit
  obtain ⟨invite, hinvite, hchecks⟩ := (Option.any_eq_true _ _).mp
    (by decide +kernel : (second.2.store.invites.lookup "aai1.token").any (fun invite =>
      decide (invite.inviteId = "aai1.token") &&
        ((requestOf "aaaaaaaaaaaa").credential.selects invite && (invite.isReusable &&
          ((second.2.store.sessions.lookup (admissionKey (requestOf "aaaaaaaaaaaa") invite)).any
            (HumanRoomSession.isLive 3) && (!invite.revoked && decide (3 < invite.expiresAt))))))
      = true)
  simp only [Bool.and_eq_true, decide_eq_true_eq, Bool.not_eq_true'] at hchecks
  obtain ⟨hid, hselects, hreusable, hlive, hrevoked, hexpires⟩ := hchecks
  obtain ⟨session, hsession, hsessionLive⟩ := (Option.any_eq_true _ _).mp hlive
  have hretry := hclaim lobby 0 _ _ lobby_fresh opened_run first.1 (by simp) _ commit hadmitted
    invite session 3 (by rw [second, take_clock]; decide) (hid ▸ hinvite) hselects hreusable
    hsession hsessionLive hrevoked hexpires
  have hrejected : ((admitHuman (requestOf "aaaaaaaaaaaa") 3).run second.2.store).toOption.any
      (fun result => decide (result.1 = .rejected .inviteUseLimitReached)) = true := by
    decide +kernel
  unfold Commits at hretry
  rw [hretry] at hrejected
  cases hrejected

end AgentsAssemble.Admission
