import AgentsAssemble.Recovery.RecoveryRuns

/-!
# What a recovery code is good for

A redemption that was accepted stays settled: its code opened one session, to which it leads again
for the same request only, until the code after it is redeemed or replaced.
-/

namespace AgentsAssemble.Recovery

open Foundation Tx
open Directory (RoomSettings UserProfile localOperatorUserId)
open Persistence (PersistenceError)

/-! ## Settled redemptions -/

section Settled

variable [RecoverySecrets] {s t : RecoveryStore} {now : Nat} {answer : Accepted}

/-- The redemption of the code of seed `i` opened the session of seed `j`, for `owner`. -/
structure SettledAt (s : RecoveryStore) (answer : Accepted) (owner : String) (i j : Nat) :
    Prop where
  order : i < j
  drawn : j < s.seeds
  redeemed : answer.request.fingerprint = codeFingerprint (randomSeed i)
  bearer : answer.commit.sessionBearer = (sessionBearer (randomSeed j)).bearer
  next : answer.commit.recoveryCode = (recoveryCode (randomSeed j)).bearer
  client : answer.commit.result.clientId = answer.request.clientId
  isPublic : owner ≠ localOperatorUserId
  bounded : answer.request.Bounded
  session : ∀ {row}, s.sessions.lookup (randomSeed j) = some row →
    row.userId = owner ∧ row.roomId = answer.request.roomId ∧
      row.browserCredentialFingerprint = answer.request.device ∧
        row.result = some answer.commit.result
  retired : ∀ {userId code}, s.codes.lookup userId = some code →
    code.fingerprint ≠ answer.request.fingerprint
  current : ∀ {userId code}, s.codes.lookup userId = some code →
    code.fingerprint = codeFingerprint (randomSeed j) →
      userId = owner ∧ code.previousFingerprint = some answer.request.fingerprint ∧
        ((s.sessions.lookup (randomSeed j)).isSome = true → code.sessionKey = some (randomSeed j))
  previous : ∀ {userId code}, s.codes.lookup userId = some code →
    code.previousFingerprint = some answer.request.fingerprint →
      code.fingerprint = codeFingerprint (randomSeed j)

def Settled (s : RecoveryStore) (answer : Accepted) : Prop :=
  ∃ owner i j, SettledAt s answer owner i j

theorem codeFingerprint_randomSeed_inj {i j : Nat}
    (h : codeFingerprint (randomSeed i) = codeFingerprint (randomSeed j)) : i = j :=
  RecoverySecrets.randomSeed_injective (codeFingerprint_injective h)

theorem SettledAt.evolves {owner : String} {i j : Nat} (h : SettledAt s answer owner i j)
    (hevolves : Evolves s t) : SettledAt t answer owner i j :=
  { h with
    drawn := h.drawn.trans_le hevolves.seeds
    session := by
      intro row hrow
      obtain ⟨stored, hstored, hsame⟩ := hevolves.sessions h.drawn hrow
      obtain ⟨howner, hroom, hdevice, hresult⟩ := h.session hstored
      exact ⟨(congrArg SessionRow.userId hsame).trans howner,
        (congrArg SessionRow.roomId hsame).trans hroom,
        (congrArg SessionRow.browserCredentialFingerprint hsame).trans hdevice,
        (congrArg SessionRow.result hsame).trans hresult⟩
    retired := by
      intro userId code hcode hsame
      rcases hevolves.codes hcode with ⟨stored, hstored, hfingerprint, -⟩ | ⟨hfingerprint, -⟩
      · exact h.retired hstored (hfingerprint.symm.trans hsame)
      · rw [h.redeemed, hfingerprint] at hsame
        have hseed := codeFingerprint_randomSeed_inj hsame
        have horder := h.order
        have hdrawn := h.drawn
        omega
    current := by
      intro userId code hcode hsame
      rcases hevolves.codes hcode with
        ⟨stored, hstored, hfingerprint, hprevious, hkey⟩ | ⟨hfingerprint, -⟩
      · obtain ⟨howner, hbefore, hopened⟩ := h.current hstored (hfingerprint.symm.trans hsame)
        refine ⟨howner, hprevious.trans hbefore, fun hsession => hkey _ (hopened ?_) hsession⟩
        obtain ⟨row, hrow⟩ := Option.isSome_iff_exists.mp hsession
        obtain ⟨stored, hstored, -⟩ := hevolves.sessions h.drawn hrow
        rw [hstored, Option.isSome_some]
      · rw [hfingerprint] at hsame
        exact absurd (codeFingerprint_randomSeed_inj hsame) h.drawn.ne'
    previous := by
      intro userId code hcode hsame
      rcases hevolves.codes hcode with ⟨stored, hstored, hfingerprint, hprevious, -⟩ | ⟨-, hnext⟩
      · exact hfingerprint.trans (h.previous hstored (hprevious.symm.trans hsame))
      · obtain ⟨stored, hstored, hfingerprint⟩ := hnext _ hsame
        exact absurd hfingerprint (h.retired hstored) }

/-- An accepted redemption is settled where it commits. -/
theorem Redeems.settled (hs : Sound s) {request : GuestRecoveryRequest}
    {commit : GuestRecoveryCommit} (h : Redeems s request now commit t) :
    Settled t ⟨request, commit⟩ := by
  cases h with
  | @replayed userId seed code row result authorization profile found retired opened resolved stored
      live room owner device answer client =>
      obtain ⟨j, hj, hcurrent, hprevious, hkey⟩ := (hs.codes.derived found.stored).seed
      have hmentioned := found.mentions.resolve_left retired
      obtain ⟨i, hi, hfingerprint⟩ := hprevious _ hmentioned
      obtain rfl := hkey _ opened
      refine ⟨userId, i, j, ?_⟩
      exact
        { order := hi
          drawn := hj
          redeemed := hfingerprint
          bearer := rfl
          next := rfl
          client := client
          isPublic := found.isPublic
          bounded := found.bounded
          session := by
            intro other hother
            obtain rfl := Option.some.inj (stored.symm.trans hother)
            exact ⟨owner, room, device, answer⟩
          retired := by
            intro other otherCode hother hsame
            obtain rfl := hs.codes.owners hother found.stored (Or.inl hsame) found.mentions
            obtain rfl := Option.some.inj (found.stored.symm.trans hother)
            exact retired hsame
          current := by
            intro other otherCode hother hsame
            obtain rfl := hs.codes.owners hother found.stored (Or.inl hsame) (Or.inl hcurrent)
            obtain rfl := Option.some.inj (found.stored.symm.trans hother)
            exact ⟨rfl, hmentioned, fun _ => opened⟩
          previous := by
            intro other otherCode hother hsame
            obtain rfl := hs.codes.owners hother found.stored (Or.inr hsame) found.mentions
            obtain rfl := Option.some.inj (found.stored.symm.trans hother)
            exact hcurrent }
  | @recovered userId code user room settings inviteScope replaced devices found current source
      bound device others live expiry =>
      obtain ⟨i, hi, hcurrent, -⟩ := (hs.codes.derived found.stored).seed
      refine ⟨userId, i, s.seeds, ?_⟩
      exact
        { order := hi
          drawn := Nat.lt_succ_self _
          redeemed := current.symm.trans hcurrent
          bearer := rfl
          next := rfl
          client := rfl
          isPublic := found.isPublic
          bounded := found.bounded
          session := by
            intro row hrow
            rw [AList.lookup_insert] at hrow
            obtain rfl := Option.some.inj hrow
            exact ⟨source.owner, rfl, rfl, rfl⟩
          retired := by
            intro other otherCode hother hsame
            rcases (Table.sets_insert _ _ _).cases hother with ⟨rfl, hrow⟩ | ⟨hne, hrow⟩
            · obtain rfl := Option.some.inj hrow
              exact hs.fresh_code found.stored (Or.inl (current.trans hsame.symm))
            · exact hne (hs.codes.owners hrow found.stored (Or.inl hsame) (Or.inl current))
          current := by
            intro other otherCode hother hsame
            rcases (Table.sets_insert _ _ _).cases hother with ⟨rfl, hrow⟩ | ⟨-, hrow⟩
            · obtain rfl := Option.some.inj hrow
              exact ⟨rfl, congrArg some current, fun _ => rfl⟩
            · exact absurd (Or.inl hsame) (hs.fresh_code hrow)
          previous := by
            intro other otherCode hother hsame
            rcases (Table.sets_insert _ _ _).cases hother with ⟨rfl, hrow⟩ | ⟨hne, hrow⟩
            · obtain rfl := Option.some.inj hrow
              rfl
            · exact absurd (hs.codes.owners hrow found.stored (Or.inr hsame) (Or.inl current))
                hne }

theorem Step.settles (hs : Sound s) {accepted : Option Accepted}
    (hstep : Step s now accepted t) : ∀ answer ∈ accepted, Settled t answer := by
  cases hstep with
  | issued commits =>
      intro answer hanswer
      cases hanswer
  | redeemed commits =>
      intro answer hanswer
      obtain rfl := Option.some.inj hanswer
      exact ((redeemGuestRecoveryCode_meets hs).commits commits).settled hs
  | elsewhere other =>
      intro answer hanswer
      cases hanswer

/-- Whatever a run has accepted is settled. -/
theorem Run.settled {latest : Nat} {accepted : List Accepted} (h : Run latest accepted s) :
    ∀ answer ∈ accepted, Settled s answer := by
  induction h with
  | opened host settings devices =>
      intro answer hanswer
      cases hanswer
  | step run due step ih =>
      intro answer hanswer
      rcases List.mem_append.mp hanswer with hbefore | hnow
      · obtain ⟨owner, i, j, hsettled⟩ := ih answer hbefore
        exact ⟨owner, i, j, hsettled.evolves (step.evolves run.sound)⟩
      · exact step.settles run.sound answer (Option.mem_toList.mp hnow)

/-! ## One code, one session -/

/-- The answer to a redemption that is repeated. -/
def GuestRecoveryCommit.again (commit : GuestRecoveryCommit) : GuestRecoveryCommit :=
  { commit with replacedSessionFingerprints := [] }

/-- Of two accepted redemptions, the later one is the same request when the code is the same, and is
of the same code when the session is the same.  It does not return the code that the earlier one
has redeemed. -/
structure Follows (earlier later : Accepted) : Prop where
  sameCode : later.request.fingerprint = earlier.request.fingerprint →
    later.request = earlier.request ∧ later.commit = earlier.commit.again
  sameSession : later.commit.sessionBearer = earlier.commit.sessionBearer →
    later.request.fingerprint = earlier.request.fingerprint
  successor : earlier.request.fingerprint ≠
    Pairing.SessionDigests.fingerprint later.commit.recoveryCode

theorem sessionBearer_randomSeed_inj {i j : Nat}
    (h : (sessionBearer (randomSeed i)).bearer = (sessionBearer (randomSeed j)).bearer) : i = j :=
  RecoverySecrets.randomSeed_injective
    (sessionFingerprint_injective (congrArg Pairing.SessionDigests.fingerprint h))

theorem SettledAt.follows (hs : Sound s) {owner : String} {i j : Nat}
    (h : SettledAt s answer owner i j) {request : GuestRecoveryRequest}
    {commit : GuestRecoveryCommit} (hredeems : Redeems s request now commit t) :
    Follows answer ⟨request, commit⟩ := by
  cases hredeems with
  | @replayed userId seed code row result authorization profile found retired opened resolved stored
      live room owner device answered client =>
      obtain ⟨k, hk, hcurrent, -, hkey⟩ := (hs.codes.derived found.stored).seed
      obtain rfl := hkey _ opened
      have hmentioned := found.mentions.resolve_left retired
      refine ⟨fun hsame => ?_, fun hsame => ?_, fun hsame => ?_⟩
      · have hnext := h.previous found.stored (hmentioned.trans (congrArg some hsame))
        obtain rfl := codeFingerprint_randomSeed_inj (hcurrent.symm.trans hnext)
        obtain ⟨-, hroom, hdevice, hresult⟩ := h.session stored
        obtain rfl := Option.some.inj (answered.symm.trans hresult)
        constructor
        · obtain ⟨fingerprint, requestDevice, roomId, clientId⟩ := request
          obtain rfl := hsame
          obtain rfl := device.symm.trans hdevice
          obtain rfl := room.symm.trans hroom
          obtain rfl := client.symm.trans h.client
          rfl
        · rw [GuestRecoveryCommit.again, h.bearer, h.next]
      · obtain rfl := sessionBearer_randomSeed_inj (hsame.trans h.bearer)
        obtain ⟨-, hprevious, -⟩ := h.current found.stored hcurrent
        exact Option.some.inj (hmentioned.symm.trans hprevious)
      · exact h.retired found.stored (hcurrent.trans hsame.symm)
  | recovered found current source bound device others live expiry =>
      refine ⟨fun hsame => ?_, fun hsame => ?_, fun hsame => ?_⟩
      · exact absurd (current.trans hsame) (h.retired found.stored)
      · exact absurd (sessionBearer_randomSeed_inj (hsame.trans h.bearer)) h.drawn.ne'
      · have hseed := codeFingerprint_randomSeed_inj (h.redeemed.symm.trans hsame)
        have horder := h.order
        have hdrawn := h.drawn
        omega

theorem Step.follows (hs : Sound s) {accepted : Option Accepted}
    (hstep : Step s now accepted t) {earlier : Accepted} (h : Settled s earlier) :
    ∀ later ∈ accepted, Follows earlier later := by
  obtain ⟨owner, i, j, hsettled⟩ := h
  intro later hlater
  cases hstep with
  | issued commits => cases hlater
  | redeemed commits =>
      obtain rfl := Option.some.inj hlater
      exact hsettled.follows hs ((redeemGuestRecoveryCode_meets hs).commits commits)
  | elsewhere other => cases hlater

/-- In every run a code leads to one session and a session comes of one code: whoever presents a
code again is answered as the first time, for the same request only, and not any more once the code
after it was redeemed. -/
theorem one_session_per_code {latest : Nat} {accepted : List Accepted}
    (h : Run latest accepted s) : accepted.Pairwise Follows := by
  induction h with
  | opened host settings devices => exact List.Pairwise.nil
  | @step accepted s t now answer run due step ih =>
      rw [List.pairwise_append]
      refine ⟨ih, ?_, fun earlier hearlier later hlater => ?_⟩
      · cases answer with
        | none => exact List.Pairwise.nil
        | some answer => exact List.pairwise_singleton _ _
      · exact step.follows run.sound (run.settled earlier hearlier) later
          (Option.mem_toList.mp hlater)

end Settled

open RecoverySample in
/-- The phone of the sample is answered twice. -/
theorem phone_keeps_one_session : [first, second].Pairwise Follows :=
  one_session_per_code repeated_run

/-! ## Retries -/

section Retries

variable [RecoverySecrets] {s t : RecoveryStore} {now : Nat} {answer : Accepted}

/-- The code that a redemption returned is the current one of its user. -/
def NextIsCurrent (s : RecoveryStore) (answer : Accepted) : Prop :=
  ∃ userId code, s.codes.lookup userId = some code ∧
    code.fingerprint = Pairing.SessionDigests.fingerprint answer.commit.recoveryCode

/-- The session that a redemption opened is live. -/
def SessionIsLive (s : RecoveryStore) (answer : Accepted) (now : Nat) : Prop :=
  ∃ authorization profile,
    resolveHumanSession s (Pairing.SessionDigests.fingerprint answer.commit.sessionBearer)
      (some answer.request.roomId) now = .ok (.live authorization profile)

theorem SettledAt.replays (hs : Sound s) {owner : String} {i j : Nat}
    (h : SettledAt s answer owner i j) (hnext : NextIsCurrent s answer)
    (hlive : SessionIsLive s answer now) :
    Commits (redeemGuestRecoveryCode answer.request now) s answer.commit.again s := by
  obtain ⟨userId, code, hcode, hcurrent⟩ := hnext
  obtain ⟨authorization, profile, hresolved⟩ := hlive
  rw [h.next] at hcurrent
  rw [h.bearer] at hresolved
  obtain ⟨key, row, hsession, -, -, rfl⟩ := resolveHumanSession_live hresolved
  obtain ⟨hrow, hsame⟩ := hs.sessionOf hsession
  obtain rfl := sessionFingerprint_injective hsame
  obtain ⟨rfl, hprevious, hopened⟩ := h.current hcode hcurrent
  obtain ⟨huser, hroom, hdevice, hresult⟩ := h.session hrow
  have hfound := hs.findCode hcode (Or.inr hprevious)
  have hmeets : Meets (redeemGuestRecoveryCode answer.request now) s
      (fun commit t => commit = answer.commit.again ∧ t = s) fun _ => False := by
    unfold redeemGuestRecoveryCode
    refine Meets.require_bind (fun hnot => hnot h.bounded) fun _ => ?_
    apply Meets.read_bind
    refine Meets.orReject_bind (fun hnone => ?_) fun found hlookup => ?_
    · exact absurd (hfound.symm.trans hnone) (Option.some_ne_none _)
    obtain rfl := Option.some.inj (hfound.symm.trans hlookup)
    dsimp only
    refine Meets.ofResult_bind (fun e herror => ?_) fun _ _ => ?_
    · rw [requirePublicAccountUser, if_neg h.isPublic] at herror
      cases herror
    rw [if_pos (h.retired hcode), hopened (by rw [hrow, Option.isSome_some])]
    refine Meets.orReject_bind (fun hnone => ?_) fun seed hseed => ?_
    · cases hnone
    obtain rfl := Option.some.inj hseed
    unfold replay
    apply Meets.read_bind
    refine Meets.ofResult_bind (fun e herror => ?_) fun resolution hresolution => ?_
    · cases hresolved.symm.trans herror
    obtain rfl := Except.ok.inj (hresolved.symm.trans hresolution)
    refine Meets.orReject_bind (fun hnone => ?_) fun stored hstored => ?_
    · exact absurd (hrow.symm.trans hnone) (Option.some_ne_none _)
    obtain rfl := Option.some.inj (hrow.symm.trans hstored)
    refine Meets.orReject_bind (fun hnone => ?_) fun result hanswer => ?_
    · exact absurd (hresult.symm.trans hnone) (Option.some_ne_none _)
    obtain rfl := Option.some.inj (hresult.symm.trans hanswer)
    refine Meets.require_bind (fun hnot => hnot ⟨huser, hdevice, h.client⟩) fun _ => .pure ⟨?_, rfl⟩
    rw [GuestRecoveryCommit.again, h.bearer, h.next]
  obtain ⟨commit, t, hcommits, rfl, rfl⟩ := hmeets.exists_commits
  exact hcommits

/-- A redemption that a run has accepted is accepted again exactly while the code that it returned
is current and the session that it opened is live.  The answer is the same then, and the store
stays as it is. -/
theorem retry_accepted_iff {latest : Nat} {accepted : List Accepted} (h : Run latest accepted s)
    (hanswer : answer ∈ accepted) (now : Nat) {commit : GuestRecoveryCommit} :
    Commits (redeemGuestRecoveryCode answer.request now) s commit t ↔
      NextIsCurrent s answer ∧ SessionIsLive s answer now ∧ commit = answer.commit.again ∧
        t = s := by
  obtain ⟨owner, i, j, hsettled⟩ := h.settled answer hanswer
  constructor
  · intro hcommits
    have hredeems := (redeemGuestRecoveryCode_meets h.sound).commits hcommits
    obtain ⟨-, hcommit⟩ := (hsettled.follows h.sound hredeems).sameCode rfl
    cases hredeems with
    | @replayed userId seed code row result authorization profile found retired opened resolved =>
        obtain ⟨k, -, hcurrent, -, hkey⟩ := (h.sound.codes.derived found.stored).seed
        obtain rfl := hkey _ opened
        have hnext := hsettled.previous found.stored (found.mentions.resolve_left retired)
        obtain rfl := codeFingerprint_randomSeed_inj (hcurrent.symm.trans hnext)
        refine ⟨⟨userId, code, found.stored, ?_⟩, ⟨authorization, profile, ?_⟩, hcommit, rfl⟩
        · rw [hsettled.next]
          exact hcurrent
        · rw [hsettled.bearer]
          exact resolved
    | recovered found current => exact absurd current (hsettled.retired found.stored)
  · rintro ⟨hnext, hlive, rfl, rfl⟩
    exact hsettled.replays h.sound hnext hlive

end Retries

open RecoverySample in
theorem phone_retry_accepted : NextIsCurrent (redeemed.get redeemed_isSome).2 first ∧
    SessionIsLive (redeemed.get redeemed_isSome).2 first 3 ∧ second.commit = first.commit.again ∧
      (repeated.get repeated_isSome).2 = (redeemed.get redeemed_isSome).2 :=
  (retry_accepted_iff redeemed_run (List.mem_singleton_self first) 3).mp second_commits

end AgentsAssemble.Recovery
