import AgentsAssemble.System.Endings

/-!
# The lifecycle as moves

A launch or a stop touches the session around its turn.  The three launch
results that overwrite the runtime status keep a turn only where there is none.
-/

namespace AgentsAssemble.System

open Foundation Domain Persistence Protocol Tx

section Lifecycle

/-! ## Reservations -/

section Reserving

variable [OperationHash]

theorem claim_core {request : LifecycleRequest} {s s' : Store} {u : Unit}
    (h : Commits (claimLifecycleCommand request) s u s') : coreOf s' = coreOf s := by
  simp only [claimLifecycleCommand, commits_bind, commits_read] at h
  obtain ⟨_, _, ⟨rfl, rfl⟩, _, s, ⟨rfl, rfl⟩, h⟩ := h
  split at h
  · simp only [commits_bind, commits_require] at h
    obtain ⟨_, _, ⟨-, rfl⟩, _, _, ⟨-, rfl⟩, _, _, ⟨-, rfl⟩, -, rfl⟩ := h
    rfl
  · simp only [commits_bind, commits_read, commits_require, commits_write] at h
    obtain ⟨_, _, ⟨rfl, rfl⟩, _, _, ⟨-, rfl⟩, rfl⟩ := h
    rfl

theorem commits_requirePendingReservation {request : LifecycleRequest}
    {row : LifecycleReservationRow} {s s' : Store}
    (h : Commits (requirePendingReservation request) s row s') : s' = s := by
  simp only [requirePendingReservation, commits_bind, commits_read, commits_orReject] at h
  obtain ⟨_, _, ⟨-, rfl⟩, -, rfl⟩ := h
  rfl

theorem finish_core {request : LifecycleRequest} {s s' : Store} {u : Unit}
    (h : Commits (finishLifecycleCommand request) s u s') : coreOf s' = coreOf s := by
  simp only [finishLifecycleCommand, commits_bind, commits_write] at h
  obtain ⟨row, t, hrow, rfl⟩ := h
  obtain rfl := commits_requirePendingReservation hrow
  rfl

theorem reject_core [TextServices] {request : LifecycleRequest} {code message : String}
    {s s' : Store} {u : Unit}
    (h : Commits (rejectLifecycleCommand request code message) s u s') :
    coreOf s' = coreOf s := by
  simp only [rejectLifecycleCommand, commits_bind, commits_require, commits_write] at h
  obtain ⟨_, _, ⟨-, rfl⟩, row, t, hrow, rfl⟩ := h
  obtain rfl := commits_requirePendingReservation hrow
  rfl

theorem commits_requireOwnedReservation {request : LifecycleRequest} {s s' : Store} {u : Unit}
    (h : Commits (requireOwnedReservation request) s u s') : s' = s := by
  simp only [requireOwnedReservation, commits_bind, commits_read, commits_require] at h
  obtain ⟨row, t, hrow, _, _, ⟨-, rfl⟩, -, rfl⟩ := h
  exact commits_requirePendingReservation hrow

end Reserving

/-! ## Launches -/

theorem commits_loadLaunchSession {sid : String} {a : DurableAgentSession} {s s' : Store}
    (h : Commits (loadLaunchSession sid) s a s') :
    s.sessions.lookup a.sessionId = some a ∧ a.sessionId = sid ∧ s' = s := by
  simp only [loadLaunchSession, commits_bind, commits_read, commits_require,
    commits_loadSession, commits_pure] at h
  obtain ⟨_, _, ⟨-, rfl⟩, _, _, ⟨-, rfl⟩, a, _, ⟨ha, hid, -, rfl⟩, _, _, ⟨-, rfl⟩, rfl, rfl⟩ := h
  exact ⟨hid.symm ▸ ha, hid, rfl⟩

/-- A turn that a start intent may be laid over is busy, not stopping. -/
theorem busy_of_not_stop {a : DurableAgentSession} (hshape : TurnShape a)
    (ha : ActiveTurn a) (haction : a.lifecycleIntentAction ≠ .stop) :
    a.runtimeStatus = .busy := by
  refine ha.runtime.resolve_right fun hstop => ?_
  exact haction (hshape.stopping hstop).1

/-- The status after a launch touched it: a live one stays. -/
def launchStatus (status : AgentRuntimeStatus) : AgentRuntimeStatus :=
  if AgentRuntimeStatus.isLive status then status else .starting

theorem launchStatus_cases (status : AgentRuntimeStatus) :
    (launchStatus status = status ∧ status ≠ .stopping) ∨ launchStatus status = .starting := by
  rw [launchStatus]
  split
  · rename_i hlive
    refine Or.inl ⟨rfl, ?_⟩
    rintro rfl
    cases hlive
  · exact Or.inr rfl

/-- A launch keeps the turn of a session that is not being stopped. -/
theorem keeps_launch {a b : DurableAgentSession} (hs : SameTurn a b)
    (haction : a.lifecycleIntentAction ≠ .stop) (haction' : b.lifecycleIntentAction ≠ .stop)
    (hstatus : b.runtimeStatus = launchStatus a.runtimeStatus)
    (hruntime : a.runtime.Complete → b.runtime = a.runtime) : KeepsTurn a b := by
  refine KeepsTurn.of_cases hs (fun h ha => ⟨Or.inl ?_, hruntime (h.custody ha), ?_⟩)
    (fun _ hc => ?_) fun _ hstop => ?_
  · rw [hstatus, busy_of_not_stop h ha haction]
    rfl
  · exact iff_of_false (fun hb => haction' hb.1) fun hb => haction hb.1
  · rw [hstatus]
    rcases launchStatus_cases a.runtimeStatus with ⟨hsame, -⟩ | hstarting
    · rw [hsame]
      exact hc.runtime
    · rw [hstarting]
      nofun
  · rw [hstatus] at hstop
    rcases launchStatus_cases a.runtimeStatus with ⟨hsame, hne⟩ | hstarting
    · exact absurd (hsame.symm.trans hstop) hne
    · rw [hstarting] at hstop
      cases hstop

theorem matchingStartIntent_ok {a : DurableAgentSession} {operationId : String}
    {incomplete : Bool} (h : matchingStartIntent a operationId = .ok incomplete) :
    a.lifecycleIntentAction ≠ .stop ∧
      (incomplete = true → a.HasIntent .start operationId .prepared) := by
  rw [matchingStartIntent] at h
  split at h
  · rename_i hempty
    obtain rfl := Except.ok.inj h
    simp only [DurableAgentSession.lifecycleIntentIsEmpty, Bool.and_eq_true,
      beq_iff_eq] at hempty
    refine ⟨?_, nofun⟩
    rw [hempty.1.1]
    nofun
  split at h
  · cases h
  rename_i hmatch
  simp only [not_or, Decidable.not_not] at hmatch
  split at h
  · rename_i hprepared
    obtain rfl := Except.ok.inj h
    refine ⟨?_, fun _ => ⟨hmatch.1, hmatch.2, hprepared⟩⟩
    rw [hmatch.1]
    nofun
  all_goals cases h

variable [UuidSource] [CaseFold] {P : Permit}

omit [UuidSource] [CaseFold] in
theorem commits_requireReaddable {session : DurableAgentSession} {participant : Participant}
    {s s' : Store} {u : Unit} (h : Commits (requireReaddable session participant) s u s') :
    session.activeTurnId = "" ∧ s' = s := by
  simp only [requireReaddable, commits_bind, commits_require] at h
  obtain ⟨_, _, ⟨-, rfl⟩, hreaddable, rfl⟩ := h
  exact ⟨hreaddable.2.2.2.2.2.1, rfl⟩

theorem path_commitReaddListing {principal : AuthenticatedPrincipal}
    {session : DurableAgentSession} {participant : Participant} {now : Nat} {s s' : Store}
    {commit : AgentTurnCommit} (hstored : s.sessions.lookup session.sessionId = some session)
    (hclear : P.careful → session.activeTurnId = "")
    (h : Commits (commitReaddListing principal session participant now) s commit s') :
    Path P (coreOf s) (coreOf s') := by
  simp only [commitReaddListing, commits_bind, commits_saveParticipantExact] at h
  obtain ⟨_, t, hsaved, _, t₁, ⟨-, rfl⟩, event, t₂, hevent, h⟩ := h
  obtain ⟨-, rfl⟩ := commits_pure.mp h
  have hsame : SameTurn session { session with
      status := .available, runtimeStatus := .stopped, lastError := "", lastErrorCode := "" } :=
    ⟨rfl, rfl, rfl, rfl, rfl, rfl, rfl, rfl, rfl, rfl, rfl, rfl⟩
  have hsave : Path P _ _ := path_saveTouch hsaved hstored hsame fun hcareful =>
    KeepsTurn.of_clear hsame (hclear hcareful) (by rintro ⟨⟩) (by rintro ⟨⟩)
  exact hsave.trans (publishes_appendSessionEvent hevent (by decide) rfl).path

omit [UuidSource] [CaseFold] in
theorem commits_loadAgentParticipant {participantId : String} {participant : Participant}
    {s s' : Store} (h : Commits (loadAgentParticipant participantId) s participant s') :
    s' = s := by
  simp only [loadAgentParticipant, commits_bind, commits_loadParticipant, commits_require,
    commits_pure] at h
  obtain ⟨_, _, ⟨-, rfl⟩, _, _, ⟨-, rfl⟩, -, rfl⟩ := h
  rfl

/-- What `prepare_agent_launch` must not list as re-added: a session that kept a turn under
its own prepared start. -/
def ListsCarefully (s : Store) (request : LifecycleRequest) : Prop :=
  request.startRequested = false → ∀ a, s.sessions.lookup request.agentId = some a →
    a.lifecycleIntentIsEmpty = false → a.activeTurnId = ""

/-- The tail of a launch preparation: a listing or a prepared start. -/
theorem path_launchIntent [OperationHash] {request : LifecycleRequest}
    {a : DurableAgentSession} {participant : Participant} {incomplete : Bool} {now : Nat}
    {s s' : Store} {commit : AgentTurnCommit}
    (hstored : s.sessions.lookup a.sessionId = some a)
    (hmatch : matchingStartIntent a request.operationId = .ok incomplete)
    (hclear : P.careful → request.startRequested = false → a.activeTurnId = "")
    (h : Commits (if request.startRequested = false then do
        finishLifecycleCommand request
        commitReaddListing request.principal a participant now
      else do
        saveSession (if incomplete then a else prepareLaunchSession a request.operationId)
        pure { events := [], nextAssignments := [] }) s commit s') :
    Path P (coreOf s) (coreOf s') := by
  split at h
  · rename_i hlisting
    obtain ⟨_, t, hfinish, h⟩ := commits_bind.mp h
    have hcore := finish_core hfinish
    have hstored' : t.sessions.lookup a.sessionId = some a := by
      rw [show t.sessions = s.sessions from congrArg RoomCore.sessions hcore]
      exact hstored
    rw [← hcore]
    exact path_commitReaddListing hstored' (fun hp => hclear hp hlisting) h
  · simp only [commits_bind, commits_pure] at h
    obtain ⟨_, t, hsaved, -, rfl⟩ := h
    obtain ⟨haction, hprepared⟩ := matchingStartIntent_ok hmatch
    have hsame : SameTurn a
        (if incomplete then a else prepareLaunchSession a request.operationId) := by
      cases incomplete with
      | true => exact SameTurn.refl a
      | false => exact ⟨rfl, rfl, rfl, rfl, rfl, rfl, rfl, rfl, rfl, rfl, rfl, rfl⟩
    refine path_saveTouch hsaved hstored hsame fun _ => ?_
    cases incomplete with
    | true => exact KeepsTurn.of_custody hsame rfl rfl rfl rfl
    | false => exact keeps_launch hsame haction (by rintro ⟨⟩) rfl fun _ => rfl

theorem path_prepareLaunch [OperationHash] {request : LifecycleRequest} {now : Nat}
    {s s' : Store} {commit : AgentTurnCommit} (hcareful : P.careful → ListsCarefully s request)
    (h : Commits (prepareAgentLaunch request now) s commit s') :
    Path P (coreOf s) (coreOf s') := by
  simp only [prepareAgentLaunch, authorizeControl, requireLaunchAction,
    requireValidTurnAuthority, commits_bind, commits_require, commits_loadActiveParticipant,
    commits_ofResult] at h
  obtain ⟨_, _, ⟨-, rfl⟩, _, _, ⟨haction, rfl⟩, _, s, ⟨-, -, -, rfl⟩, _, t, hclaim, a, t₁, ha, _,
    _, ⟨-, rfl⟩, participant, t₂, hparticipant, _, _, ⟨-, rfl⟩, _, _, ⟨-, rfl⟩, _, _, ⟨-, rfl⟩,
    incomplete, t₃, ⟨hmatch, rfl⟩, h⟩ := h
  obtain rfl := commits_loadAgentParticipant hparticipant
  obtain ⟨hstored, hid, rfl⟩ := commits_loadLaunchSession ha
  have hcore := claim_core hclaim
  have hsessions : t₃.sessions = s.sessions := congrArg RoomCore.sessions hcore
  have hclear : P.careful → request.startRequested = false → incomplete = true →
      a.activeTurnId = "" := by
    intro hp hlisting hincomplete
    obtain ⟨hstart, -, -⟩ := (matchingStartIntent_ok hmatch).2 hincomplete
    refine hcareful hp hlisting a (hid ▸ hsessions ▸ hstored) ?_
    rw [DurableAgentSession.lifecycleIntentIsEmpty, hstart]
    rfl
  rw [← hcore]
  split at h
  · obtain ⟨_, t, hreaddable, hrest⟩ := commits_bind.mp h
    obtain ⟨hturn, rfl⟩ := commits_requireReaddable hreaddable
    exact path_launchIntent hstored hmatch (fun _ _ => hturn) hrest
  · rename_i hrepeat
    refine path_launchIntent hstored hmatch (fun hp hlisting => hclear hp hlisting ?_) h
    have hreadd : request.action = readdAction := by
      simp only [LifecycleRequest.startRequested, Bool.or_eq_false_iff, bne_eq_false_iff_eq]
        at hlisting
      exact hlisting.1
    cases incomplete with
    | true => rfl
    | false => exact absurd ⟨hreadd, rfl⟩ hrepeat

omit [UuidSource] [CaseFold] in
/-- An identity that extends a complete one is the same. -/
theorem extends_complete {stored next : RuntimeIdentity} (hcomplete : stored.Complete)
    (h : extendsIdentity stored.handleId next.handleId = true ∧
      extendsIdentity stored.ownerId next.ownerId = true ∧
      extendsIdentity stored.leaseToken next.leaseToken = true) : next = stored := by
  obtain ⟨hhandle, howner, hlease⟩ := hcomplete
  obtain ⟨shandle, sowner, slease⟩ := stored
  obtain ⟨nhandle, nowner, nlease⟩ := next
  simp only [extendsIdentity, Bool.or_eq_true, beq_iff_eq] at h
  obtain ⟨h₁, h₂, h₃⟩ := h
  rw [h₁.resolve_left hhandle, h₂.resolve_left howner, h₃.resolve_left hlease]

theorem path_authorizeLaunch [OperationHash] {request : LifecycleRequest}
    {runtime : RuntimeIdentity} {s s' : Store} {u : Unit}
    (h : Commits (authorizeAgentStartEffect request runtime) s u s') :
    Path P (coreOf s) (coreOf s') := by
  simp only [authorizeAgentStartEffect, authorizeStartEffect, requireLaunchAction,
    requireIntent, commits_bind, commits_require, commits_loadActiveParticipant,
    commits_pure] at h
  obtain ⟨_, _, ⟨-, rfl⟩, _, _, ⟨-, -, -, rfl⟩, _, t, hreserved, a, t₁, ha, authorized, t₂,
    ⟨_, _, ⟨hintent, rfl⟩, _, _, ⟨⟨-, hextends⟩, rfl⟩, rfl, rfl⟩, hsaved⟩ := h
  obtain rfl := commits_requireOwnedReservation hreserved
  obtain ⟨hstored, -, rfl⟩ := commits_loadLaunchSession ha
  have hsame : SameTurn a (authorizedStartSession a runtime) :=
    ⟨rfl, rfl, rfl, rfl, rfl, rfl, rfl, rfl, rfl, rfl, rfl, rfl⟩
  have haction : a.lifecycleIntentAction ≠ .stop := by
    rw [hintent.1]
    rintro ⟨⟩
  exact path_saveTouch hsaved hstored hsame fun _ => keeps_launch hsame haction haction rfl
    fun hcomplete => extends_complete hcomplete hextends

omit [CaseFold] in
theorem publishes_joinedEvents {principal : AuthenticatedPrincipal}
    {session : DurableAgentSession} {participant : Participant} {now : Nat}
    {events : List RoomEvent} {s s' : Store}
    (h : Commits (joinedEvents principal session participant now) s events s') :
    Publishes s events s' := by
  rw [joinedEvents] at h
  split at h
  · obtain ⟨rfl, rfl⟩ := commits_pure.mp h
    exact Publishes.refl _
  · obtain ⟨joined, t, hjoined, h⟩ := commits_bind.mp h
    obtain ⟨rfl, rfl⟩ := commits_pure.mp h
    exact publishes_appendSessionEvent hjoined (by decide) rfl

omit [UuidSource] [CaseFold] in
/-- A launch result keeps the turn where it reuses the runtime or where there is none. -/
theorem keeps_started {a : DurableAgentSession} {started : AgentRuntimeStarted}
    (hintent : a.lifecycleIntentAction = .start) (hruntime : a.runtime = started.runtime)
    (hclear : started.runtimeReused = false → a.activeTurnId = "") :
    KeepsTurn a (applyRuntimeStarted a started) := by
  have haction : a.lifecycleIntentAction ≠ .stop := by
    rw [hintent]
    nofun
  refine KeepsTurn.of_cases ⟨rfl, rfl, rfl, rfl, rfl, rfl, rfl, rfl, rfl, rfl, rfl, rfl⟩
    (fun h ha => ⟨Or.inl ?_, hruntime.symm, ?_⟩) (fun _ hc => ?_) fun h hstop => ?_
  · have hreused : started.runtimeReused = true := by
      by_contra hne
      exact ha.turnId (hclear (by simpa using hne))
    show (if started.runtimeReused && AgentRuntimeStatus.isReusable a.runtimeStatus
      then a.runtimeStatus else .idle) = .busy
    rw [hreused, busy_of_not_stop h ha haction]
    rfl
  · exact iff_of_false (by rintro ⟨⟨⟩, -⟩) fun hb => haction hb.1
  · show (if started.runtimeReused && AgentRuntimeStatus.isReusable a.runtimeStatus
      then a.runtimeStatus else .idle) ≠ .busy
    split
    · exact hc.runtime
    · nofun
  · have hstatus : (if started.runtimeReused && AgentRuntimeStatus.isReusable a.runtimeStatus
      then a.runtimeStatus else .idle) = .stopping := hstop
    split at hstatus
    · exact absurd (h.stopping hstatus).1 haction
    · cases hstatus

theorem path_completeLaunch [OperationHash] {request : LifecycleRequest}
    {started : AgentRuntimeStarted} {now : Nat} {s s' : Store} {commit : AgentTurnCommit}
    (hclear : P.careful → started.runtimeReused = false → ∀ a,
      s.sessions.lookup request.agentId = some a → a.activeTurnId = "")
    (h : Commits (completeAgentLaunch request started now) s commit s') :
    Path P (coreOf s) (coreOf s') := by
  simp only [completeAgentLaunch, requireLaunchAction, validateRuntimeStarted, requireIntent,
    commits_bind, commits_require, commits_loadActiveParticipant,
    commits_saveParticipantExact] at h
  obtain ⟨_, _, ⟨-, rfl⟩, _, s, ⟨-, -, -, rfl⟩, a, t, ha, h⟩ := h
  obtain ⟨hstored, hid, rfl⟩ := commits_loadLaunchSession ha
  obtain ⟨_, _, ⟨_, _, ⟨-, rfl⟩, _, _, ⟨hruntime, rfl⟩, _, _, ⟨-, rfl⟩, _, _, ⟨-, rfl⟩, -, rfl⟩,
    _, t, ⟨hintent, rfl⟩, _, t₁, hfinish, _, t₂, hsaved, participant, t₃, hparticipant, _, t₄,
    ⟨-, rfl⟩, joined, t₅, hjoined, attached, t₆, hattached, state, t₇, hstate, h⟩ := h
  obtain ⟨-, rfl⟩ := commits_pure.mp h
  obtain rfl := commits_loadAgentParticipant hparticipant
  have hcore := finish_core hfinish
  have hstored' : t₁.sessions.lookup a.sessionId = some a := by
    rw [show t₁.sessions = t.sessions from congrArg RoomCore.sessions hcore]
    exact hstored
  have hsave : Path P (coreOf t₁) (coreOf t₃) := by
    refine path_saveTouch hsaved hstored'
      ⟨rfl, rfl, rfl, rfl, rfl, rfl, rfl, rfl, rfl, rfl, rfl, rfl⟩ fun hp => ?_
    exact keeps_started hintent.1 hruntime fun hreused =>
      hclear hp hreused a (hid ▸ hstored)
  rw [← hcore]
  have hevents := ((publishes_joinedEvents hjoined).trans
    (publishes_appendSessionEvent hattached (by decide) rfl)).trans
    (publishes_appendStateEvent hstate)
  exact hsave.trans hevents.path

/-! ## Launches that fail -/

section Failing

variable [TextServices]

omit [UuidSource] [CaseFold] in
/-- A launch failure keeps the turn unless it gives the runtime of one up. -/
theorem keeps_launchFailed {a : DurableAgentSession} {errorCode message : String}
    {clearRuntimeIdentity : Bool} (hintent : a.lifecycleIntentAction = .start)
    (hclear : clearRuntimeIdentity = true → a.activeTurnId = "") :
    KeepsTurn a (launchFailedSession a errorCode message clearRuntimeIdentity) := by
  have haction : a.lifecycleIntentAction ≠ .stop := by
    rw [hintent]
    nofun
  have hstatus : (launchFailedSession a errorCode message clearRuntimeIdentity).runtimeStatus =
      if clearRuntimeIdentity || a.runtime == .none then .error else a.runtimeStatus := rfl
  refine KeepsTurn.of_cases ⟨rfl, rfl, rfl, rfl, rfl, rfl, rfl, rfl, rfl, rfl, rfl, rfl⟩
    (fun h ha => ?_) (fun _ hc => ?_) fun h hstop => ?_
  · have hkept : clearRuntimeIdentity = false := by
      by_contra hne
      exact ha.turnId (hclear (by simpa using hne))
    have howned : (a.runtime == RuntimeIdentity.none) = false := by
      rw [beq_eq_false_iff_ne]
      intro hnone
      exact (h.custody ha).1 (by rw [hnone]; rfl)
    refine ⟨Or.inl ?_, ?_, iff_of_false (by rintro ⟨⟨⟩, -⟩) fun hb => haction hb.1⟩
    · rw [hstatus, hkept, howned]
      exact busy_of_not_stop h ha haction
    · show (if clearRuntimeIdentity then RuntimeIdentity.none else a.runtime) = a.runtime
      rw [hkept]
      rfl
  · rw [hstatus]
    split
    · nofun
    · exact hc.runtime
  · rw [hstatus] at hstop
    split at hstop
    · cases hstop
    · exact absurd (h.stopping hstop).1 haction

theorem path_launchFailure [OperationHash] {request : LifecycleRequest}
    {errorCode message : String} {expectedStatus : AgentLifecycleIntentStatus}
    {clearRuntimeIdentity : Bool} {now : Nat} {s s' : Store} {commit : AgentTurnCommit}
    (hclear : P.careful → clearRuntimeIdentity = true → ∀ a,
      s.sessions.lookup request.agentId = some a → a.activeTurnId = "")
    (h : Commits (commitAgentLaunchFailure request errorCode message expectedStatus
      clearRuntimeIdentity now) s commit s') : Path P (coreOf s) (coreOf s') := by
  simp only [commitAgentLaunchFailure, requireIntent, commits_bind, commits_require,
    commits_loadActiveParticipant, commits_loadSession] at h
  obtain ⟨_, _, ⟨-, -, -, rfl⟩, a, _, ⟨ha, hid, -, rfl⟩, _, s, ⟨hintent, rfl⟩, _, t, hreject, _,
    t₁, hsaved, error, t₂, herror, state, t₃, hstate, h⟩ := h
  obtain ⟨-, rfl⟩ := commits_pure.mp h
  have hcore := reject_core hreject
  have hstored : t.sessions.lookup a.sessionId = some a := by
    rw [show t.sessions = s.sessions from congrArg RoomCore.sessions hcore, hid]
    exact ha
  have hsave : Path P (coreOf t) (coreOf t₁) := by
    refine path_saveTouch hsaved hstored
      ⟨rfl, rfl, rfl, rfl, rfl, rfl, rfl, rfl, rfl, rfl, rfl, rfl⟩ fun hp => ?_
    exact keeps_launchFailed hintent.1 fun hcleared => hclear hp hcleared a ha
  rw [← hcore]
  exact hsave.trans
    ((publishes_appendErrorEvent herror).trans (publishes_appendStateEvent hstate)).path

theorem path_markLaunchUnconfirmed {principal : AuthenticatedPrincipal}
    {agentId operationId runtimeHandleId runtimeOwnerId errorCode message : String}
    {now : Nat} {s s' : Store} {commit : AgentTurnCommit}
    (hclear : P.careful → ∀ a, s.sessions.lookup agentId = some a → a.activeTurnId = "")
    (h : Commits (markAgentStartUnconfirmed principal agentId operationId runtimeHandleId
      runtimeOwnerId errorCode message now) s commit s') : Path P (coreOf s) (coreOf s') := by
  simp only [markAgentStartUnconfirmed, requireIntent, commits_bind, commits_require,
    commits_loadActiveParticipant, commits_loadSession] at h
  obtain ⟨_, _, ⟨-, -, -, rfl⟩, a, _, ⟨ha, hid, -, rfl⟩, _, _, ⟨-, rfl⟩, _, s, ⟨-, rfl⟩, _, t,
    hsaved, error, t₁, herror, state, t₂, hstate, h⟩ := h
  obtain ⟨-, rfl⟩ := commits_pure.mp h
  have hsame : SameTurn a (startUnconfirmedSession a errorCode message) :=
    ⟨rfl, rfl, rfl, rfl, rfl, rfl, rfl, rfl, rfl, rfl, rfl, rfl⟩
  have hsave : Path P (coreOf s) (coreOf t) :=
    path_saveTouch hsaved (hid.symm ▸ ha) hsame fun hp =>
      KeepsTurn.of_clear hsame (hclear hp a ha) (by rintro ⟨⟩) (by rintro ⟨⟩)
  exact hsave.trans
    ((publishes_appendErrorEvent herror).trans (publishes_appendStateEvent hstate)).path

end Failing

/-! ## Stops -/

omit [UuidSource] [CaseFold] in
theorem commits_confirmedExit {session : DurableAgentSession} {exited : Bool} {s s' : Store}
    (h : Commits (failedSessionHasConfirmedRuntimeExit session) s exited s') :
    s' = s ∧ (exited = true → session.runtimeStatus = .error) := by
  rw [failedSessionHasConfirmedRuntimeExit] at h
  split at h
  · obtain ⟨rfl, rfl⟩ := commits_pure.mp h
    exact ⟨rfl, nofun⟩
  rename_i herror
  simp only [not_or, Decidable.not_not] at herror
  refine ⟨?_, fun _ => herror.1⟩
  simp only [commits_bind, commits_orReject] at h
  obtain ⟨active, s, ⟨-, rfl⟩, h⟩ := h
  split at h
  · exact (commits_pure.mp h).2
  split at h
  · exact (commits_pure.mp h).2
  split at h
  · exact (commits_pure.mp h).2
  · simp only [commits_bind, commits_loadExecutionIn, commits_pure] at h
    obtain ⟨_, _, ⟨-, -, -, -, rfl⟩, -, rfl⟩ := h
    rfl

omit [UuidSource] [CaseFold] in
theorem commits_resumeStopIntent {session : DurableAgentSession} {operationId : String}
    {s s' : Store} {u : Unit} (h : Commits (resumeStopIntent session operationId) s u s') :
    s' = s := by
  simp only [resumeStopIntent, commits_bind, commits_require] at h
  obtain ⟨_, s, ⟨-, rfl⟩, h⟩ := h
  split at h
  · exact (commits_pure.mp h).2
  · exact (commits_require.mp h).2
  all_goals exact (commits_throw.mp h).elim

omit [UuidSource] [CaseFold] in
/-- A stop intent laid over an empty one keeps the turn. -/
theorem keeps_stopIntent {a : DurableAgentSession} {operationId : String} {exited : Bool}
    (hempty : a.lifecycleIntentIsEmpty = true)
    (hexited : exited = true → a.runtimeStatus = .error) :
    KeepsTurn a (withStopIntent a operationId exited) := by
  simp only [DurableAgentSession.lifecycleIntentIsEmpty, Bool.and_eq_true,
    beq_iff_eq] at hempty
  have haction : a.lifecycleIntentAction ≠ .stop := by
    rw [hempty.1.1]
    nofun
  refine KeepsTurn.of_cases ⟨rfl, rfl, rfl, rfl, rfl, rfl, rfl, rfl, rfl, rfl, rfl, rfl⟩
    (fun h ha => ⟨ha.runtime, rfl, ?_⟩) (fun _ hc => hc.runtime) fun h hstop =>
      absurd (h.stopping hstop).1 haction
  have hkept : exited = false := by
    by_contra hne
    have herror := hexited (by simpa using hne)
    rcases ha.runtime with hbusy | hstop
    · rw [hbusy] at herror
      cases herror
    · rw [hstop] at herror
      cases herror
  rw [hkept]
  exact iff_of_false (by rintro ⟨-, ⟨⟩⟩) fun hb => haction hb.1

theorem path_prepareStop [OperationHash] {request : LifecycleRequest} {now : Nat}
    {s s' : Store} {commit : AgentTurnCommit}
    (h : Commits (prepareAgentStop request now) s commit s') :
    Path P (coreOf s) (coreOf s') := by
  simp only [prepareAgentStop, authorizeControl, requireValidTurnAuthority, commits_bind,
    commits_require, commits_loadActiveParticipant, commits_loadSession] at h
  obtain ⟨_, _, ⟨-, rfl⟩, _, _, ⟨-, rfl⟩, _, _, ⟨-, -, -, rfl⟩, a, _, ⟨ha, hid, -, rfl⟩, _, s,
    ⟨-, rfl⟩, _, t, hclaim, h⟩ := h
  have hcore := claim_core hclaim
  have hstored : t.sessions.lookup a.sessionId = some a := by
    rw [show t.sessions = s.sessions from congrArg RoomCore.sessions hcore, hid]
    exact ha
  rw [← hcore]
  split at h
  · simp only [commits_bind] at h
    obtain ⟨_, t₁, hfinish, state, t₂, hstate, h⟩ := h
    obtain ⟨-, rfl⟩ := commits_pure.mp h
    rw [← finish_core hfinish]
    exact (publishes_appendStateEvent hstate).path
  simp only [commits_bind, commits_require] at h
  obtain ⟨_, t, ⟨-, rfl⟩, h⟩ := h
  split at h
  · simp only [commits_bind, commits_pure] at h
    obtain ⟨_, t₁, hresume, -, rfl⟩ := h
    obtain rfl := commits_resumeStopIntent hresume
    exact Relation.ReflTransGen.refl
  · rename_i hempty
    simp only [commits_bind, commits_require, commits_pure] at h
    obtain ⟨exited, t₁, hexit, _, t₂, hsaved, _, _, ⟨-, rfl⟩, -, rfl⟩ := h
    obtain ⟨rfl, hexited⟩ := commits_confirmedExit hexit
    refine path_saveTouch hsaved hstored
      ⟨rfl, rfl, rfl, rfl, rfl, rfl, rfl, rfl, rfl, rfl, rfl, rfl⟩ fun _ => ?_
    exact keeps_stopIntent (by simpa using hempty) hexited

theorem path_failStop [OperationHash] [TextServices] {request : LifecycleRequest}
    {errorCode message : String} {now : Nat} {s s' : Store} {commit : AgentTurnCommit}
    (h : Commits (failAgentStopBeforeEffect request errorCode message now) s commit s') :
    Path P (coreOf s) (coreOf s') := by
  simp only [failAgentStopBeforeEffect, requireIntent, commits_bind, commits_require,
    commits_loadSession] at h
  obtain ⟨a, _, ⟨ha, hid, -, rfl⟩, _, s, ⟨hintent, rfl⟩, _, t, hreject, _, t₁, hsaved, error,
    t₂, herror, state, t₃, hstate, h⟩ := h
  obtain ⟨-, rfl⟩ := commits_pure.mp h
  have hcore := reject_core hreject
  have hstored : t.sessions.lookup a.sessionId = some a := by
    rw [show t.sessions = s.sessions from congrArg RoomCore.sessions hcore, hid]
    exact ha
  have hsave : Path P (coreOf t) (coreOf t₁) := by
    refine path_saveTouch hsaved hstored
      ⟨rfl, rfl, rfl, rfl, rfl, rfl, rfl, rfl, rfl, rfl, rfl, rfl⟩ fun _ => ?_
    refine KeepsTurn.of_intent ⟨rfl, rfl, rfl, rfl, rfl, rfl, rfl, rfl, rfl, rfl, rfl, rfl⟩ rfl
      rfl (fun hshape hstop => ?_) (iff_of_false (by rintro ⟨⟨⟩, -⟩) fun hb => ?_)
    · exact absurd hintent.2.2 (hshape.stopping hstop).2
    · exact absurd (hb.2.symm.trans hintent.2.2) (by rintro ⟨⟩)
  rw [← hcore]
  exact hsave.trans
    ((publishes_appendErrorEvent herror).trans (publishes_appendStateEvent hstate)).path

theorem path_authorizeStop [OperationHash] {request : LifecycleRequest} {s s' : Store}
    {u : Unit} (h : Commits (authorizeAgentStopEffect request) s u s') :
    Path P (coreOf s) (coreOf s') := by
  simp only [authorizeAgentStopEffect, requireIntent, commits_bind, commits_require,
    commits_loadActiveParticipant, commits_loadSession] at h
  obtain ⟨_, _, ⟨-, -, -, rfl⟩, _, t, hreserved, a, _, ⟨ha, hid, -, rfl⟩, _, _, ⟨hintent, rfl⟩,
    _, s, ⟨-, rfl⟩, hsaved⟩ := h
  obtain rfl := commits_requireOwnedReservation hreserved
  have hstored : s.sessions.lookup a.sessionId = some a := hid.symm ▸ ha
  refine path_saveTouch hsaved hstored
    ⟨rfl, rfl, rfl, rfl, rfl, rfl, rfl, rfl, rfl, rfl, rfl, rfl⟩ fun _ => ?_
  refine KeepsTurn.of_cases ⟨rfl, rfl, rfl, rfl, rfl, rfl, rfl, rfl, rfl, rfl, rfl, rfl⟩
    (fun _ _ => ⟨Or.inr rfl, rfl, iff_of_false (by rintro ⟨-, ⟨⟩⟩) fun hb => ?_⟩)
    (by rintro _ _ ⟨⟩) fun _ _ => ⟨hintent.1, by rintro ⟨⟩⟩
  exact absurd (hb.2.symm.trans hintent.2.2) (by rintro ⟨⟩)

theorem path_recordStop {sessionId operationId : String} {now : Nat} {s s' : Store} {u : Unit}
    (hsound : Sound (coreOf s))
    (h : Commits (recordAgentStopEffect sessionId operationId now) s u s') :
    Path P (coreOf s) (coreOf s') := by
  simp only [recordAgentStopEffect, requireIntent, commits_bind, commits_require,
    commits_loadSession] at h
  obtain ⟨a, _, ⟨ha, hid, -, rfl⟩, _, s, ⟨hintent, rfl⟩, event, t, hterminal, hsaved⟩ := h
  exact path_confirmedStop hsound (hid.symm ▸ ha) hintent.1 hterminal hsaved

theorem path_markStopUnconfirmed [TextServices] {principal : AuthenticatedPrincipal}
    {agentId operationId errorCode message : String} {now : Nat} {s s' : Store}
    {commit : AgentTurnCommit} (hrestores : P.restores agentId)
    (h : Commits (markAgentStopUnconfirmed principal agentId operationId errorCode message now)
      s commit s') : Path P (coreOf s) (coreOf s') := by
  simp only [markAgentStopUnconfirmed, requireIntent, commits_bind, commits_require,
    commits_loadActiveParticipant, commits_loadSession, commits_orReject] at h
  obtain ⟨_, _, ⟨-, -, -, rfl⟩, a, _, ⟨ha, hid, -, rfl⟩, _, _, ⟨hintent, rfl⟩, active, s,
    ⟨hactive, rfl⟩, h⟩ := h
  have hstored : s.sessions.lookup a.sessionId = some a := hid.symm ▸ ha
  have hunapplied : ¬ StopApplied a := fun hb => absurd (hb.2.symm.trans hintent.2.2) (by rintro ⟨⟩)
  split at h
  · simp only [commits_bind, commits_pure, commits_saveParticipantExact] at h
    obtain ⟨_, s, ⟨rfl, rfl⟩, _, t, hsaved, participant, t₁, hparticipant, _, t₂, ⟨-, rfl⟩, error,
      t₃, herror, state, t₄, hstate, -, rfl⟩ := h
    obtain rfl := commits_loadAgentParticipant hparticipant
    have hsave : Path P (coreOf s) (coreOf t₁) := by
      refine path_saveTouch hsaved hstored
        ⟨rfl, rfl, rfl, rfl, rfl, rfl, rfl, rfl, rfl, rfl, rfl, rfl⟩ fun _ => ?_
      exact KeepsTurn.of_intent ⟨rfl, rfl, rfl, rfl, rfl, rfl, rfl, rfl, rfl, rfl, rfl, rfl⟩ rfl
        rfl (fun _ _ => ⟨hintent.1, by rintro ⟨⟩⟩) (iff_of_false (by rintro ⟨-, ⟨⟩⟩) hunapplied)
    exact hsave.trans
      ((publishes_appendErrorEvent herror).trans (publishes_appendStateEvent hstate)).path
  · rename_i hinactive
    simp only [commits_bind, commits_pure, commits_saveParticipantExact] at h
    obtain ⟨pending, t₀, hmerged, _, s, ⟨rfl, rfl⟩, _, t, hsaved, participant, t₁, hparticipant, _,
      t₂, ⟨-, rfl⟩, error, t₃, herror, state, t₄, hstate, -, rfl⟩ := h
    obtain rfl := commits_loadAgentParticipant hparticipant
    obtain ⟨-, rfl, rfl⟩ := commits_mergedTurnQueue hmerged
    rw [Bool.not_eq_true] at hinactive
    rw [hinactive] at hactive
    have hclear := (activeTurnAuthority_eq_false.mp hactive).2
    have hrestored : SameTurn (restoreQueue a (keptInputs s.events a.ownedInputs))
        (stopUnconfirmedSession { restoreQueue a (keptInputs s.events a.ownedInputs) with
          runtimeStatus := .disconnected
          providerSessionActive := false
          providerSessionReused := false } errorCode message) :=
      ⟨rfl, rfl, rfl, rfl, rfl, rfl, rfl, rfl, rfl, rfl, rfl, rfl⟩
    have hsave : Path P (coreOf s) (coreOf t₁) :=
      path_saveSession hsaved hstored (.detach _ (hid.symm ▸ hrestores)
        (ended_of_restore hrestored (by rintro ⟨⟩) (by rintro ⟨⟩)) (keepsCursor_of_restore hrestored)
        fun _ hne => absurd hclear.turnId hne)
    exact hsave.trans
      ((publishes_appendErrorEvent herror).trans (publishes_appendStateEvent hstate)).path

theorem path_finalizeStop [OperationHash] [TextServices] {request : LifecycleRequest}
    {now : Nat} {s s' : Store} {commit : AgentTurnCommit} (hsound : Sound (coreOf s))
    (hrestores : P.restores request.agentId)
    (h : Commits (finalizeAgentStop request now) s commit s') :
    Path P (coreOf s) (coreOf s') := by
  simp only [finalizeAgentStop, detachConfirmedSession, requireIntent, commits_bind,
    commits_require, commits_loadActiveParticipant, commits_loadActiveRoom,
    commits_loadSession, commits_pure, commits_saveParticipantExact] at h
  obtain ⟨_, _, ⟨-, -, -, rfl⟩, _, _, ⟨-, rfl, rfl⟩, a, _, ⟨ha, hid, -, rfl⟩, _, s,
    ⟨hintent, rfl⟩, _, t, hfinish, h⟩ := h
  obtain ⟨events, t₁, ⟨pending, t₂, hmerged, _, t₃, hsaved, participant, t₄, hparticipant, _, t₅,
    ⟨-, rfl⟩, event, t₆, hevent, state, t₇, hstate, rfl, rfl⟩, commit', t₈, hassigned, -, rfl⟩ := h
  obtain rfl := commits_loadAgentParticipant hparticipant
  obtain ⟨-, rfl, rfl⟩ := commits_mergedTurnQueue hmerged
  have hcore := finish_core hfinish
  rw [← hcore] at hsound ⊢
  have hstored : t₂.sessions.lookup a.sessionId = some a := by
    rw [show t₂.sessions = s.sessions from congrArg RoomCore.sessions hcore, hid]
    exact ha
  have hrestored : SameTurn (restoreQueue a (keptInputs t₂.events a.ownedInputs))
      (detachedSession a (keptInputs t₂.events a.ownedInputs)) :=
    ⟨rfl, rfl, rfl, rfl, rfl, rfl, rfl, rfl, rfl, rfl, rfl, rfl⟩
  have hsave : Path P (coreOf t₂) (coreOf t₄) :=
    path_saveSession hsaved hstored (.detach _ (hid.symm ▸ hrestores)
      (ended_of_restore hrestored (by rintro ⟨⟩) (by rintro ⟨⟩)) (keepsCursor_of_restore hrestored)
      fun _ _ => ⟨hintent.1, hintent.2.2⟩)
  have hpath := hsave.trans ((publishes_appendSessionEvent hevent (by decide) rfl).trans
    (publishes_appendStateEvent hstate)).path
  exact hpath.trans (path_assignPendingIn (Path.sound hsound hpath) hassigned)

end Lifecycle

end AgentsAssemble.System
