import AgentsAssemble.System.Endings
import AgentsAssemble.System.Polls
import AgentsAssemble.System.Routes

/-!
# Reported ends

The ends a provider reports itself: a message, a vote or a decline.  Each one
consumes the inflight inputs, and a published message is routed in the same
transaction.
-/

namespace AgentsAssemble.System

open Foundation Domain Persistence Protocol Tx

section Reported

/-! ## What the transaction checked -/

theorem applyProviderSessionTransition_same {session session' : DurableAgentSession}
    {providerSessionId : Option String}
    (h : applyProviderSessionTransition session providerSessionId = .ok session') :
    SameTurn session session' := by
  cases providerSessionId with
  | none =>
      obtain rfl := Except.ok.inj h
      exact SameTurn.refl _
  | some next =>
      rw [applyProviderSessionTransition] at h
      split at h
      · cases h
      · obtain rfl := Except.ok.inj h
        exact ⟨rfl, rfl, rfl, rfl, rfl, rfl, rfl, rfl, rfl, rfl, rfl, rfl⟩

/-- The inflight cursor of the session names a stored event. -/
def CursorStored (events : List RoomEvent) (session : DurableAgentSession) : Prop :=
  ∃ source ∈ events, source.id = session.inputUpToEventId ∧ source.seq = session.inputUpToSeq

theorem commits_validateInputCursor {session : DurableAgentSession} {s s' : Store} {u : Unit}
    (h : Commits (validateInputCursor session) s u s') :
    CursorStored s.events session ∧ s' = s := by
  simp only [validateInputCursor, commits_bind, commits_read, commits_ofResult,
    commits_require] at h
  obtain ⟨_, s, ⟨rfl, rfl⟩, valid, _, ⟨hvalid, rfl⟩, rfl, rfl⟩ := h
  rw [inputCursorIsValid] at hvalid
  obtain ⟨found, hfound, hvalid⟩ := Result.bind_eq_ok.mp hvalid
  have hboth := Result.pure_eq_ok.mp hvalid
  rw [Bool.and_eq_true] at hboth
  cases found with
  | none => cases hboth.2
  | some source =>
      obtain ⟨hmem, hid⟩ := findEvent_some hfound
      exact ⟨⟨source, hmem, hid, beq_iff_eq.mp hboth.2⟩, rfl⟩

theorem commits_validatePublicationTarget {session : DurableAgentSession}
    {targetAgentId : String} {s s' : Store} {u : Unit}
    (h : Commits (validatePublicationTarget session targetAgentId) s u s') : s' = s := by
  rw [validatePublicationTarget] at h
  split at h
  · exact (commits_pure.mp h).2
  · simp only [commits_bind, commits_require, commits_read, commits_loadSession,
      commits_loadParticipant] at h
    obtain ⟨_, _, ⟨-, rfl⟩, _, _, ⟨rfl, rfl⟩, _, _, ⟨-, rfl⟩, _, _, ⟨-, -, -, rfl⟩, _, _,
      ⟨-, rfl⟩, -, rfl⟩ := h
    rfl

/-- The consumed session has no turn and stands at the inflight cursor. -/
theorem ended_of_complete {a session : DurableAgentSession} (hsame : SameTurn a session) :
    Ended a (completeSessionState session session.inputUpToEventId session.inputUpToSeq)
      a.pendingInputs :=
  ⟨hsame.sessionId, hsame.participantId, hsame.generation, hsame.pending,
    ⟨rfl, nofun, rfl, rfl, rfl, rfl, rfl⟩, nofun⟩

variable [UuidSource]

theorem publishes_dispositionEvents {session : DurableAgentSession} {turnId : String}
    {disposition : ProviderTurnDisposition} {now : Nat} {events : List RoomEvent}
    {s s' : Store} (h : Commits (dispositionEvents session turnId disposition now) s events s') :
    Publishes s events s' ∧ (disposition.routesFirstEvent = true → events = []) := by
  cases disposition with
  | completed routes =>
      obtain ⟨rfl, rfl⟩ := commits_pure.mp h
      exact ⟨Publishes.refl _, fun _ => rfl⟩
  | declined reason =>
      obtain ⟨rfl, rfl⟩ := commits_pure.mp h
      exact ⟨Publishes.refl _, fun _ => rfl⟩
  | rejected code message =>
      obtain ⟨error, t, herror, h⟩ := commits_bind.mp h
      obtain ⟨rfl, rfl⟩ := commits_pure.mp h
      exact ⟨publishes_errorEvent herror, nofun⟩

variable [CaseFold] [TextServices] {P : Permit}

/-! ## The finalization -/

/-- The published events are in the log and newer than everything the turn started from. -/
structure Newest (c : RoomCore) (s : Store) (published : List RoomEvent) : Prop where
  sound : Sound c
  sessions : s.sessions = c.sessions
  log : ∀ e ∈ published, e ∈ s.events ∧ e.isDeleted = false ∧ nextSeq c.events ≤ e.seq

/-- The consuming settlement with what follows it: the route and the floor.

`c` is the room before anything was published, `s` the one whose row was rewritten. -/
theorem ends_apply {c : RoomCore} {finalization : ProviderTurnFinalization}
    {a session : DurableAgentSession} {row row' : ExecutionRow}
    {published logged : List RoomEvent} {seed now : Nat} {s t t₁ s' : Store}
    {commit : AgentTurnCommit} (hsound : Sound (coreOf s))
    (hlog : LogStep c.events s.events)
    (hlive : LiveTurn (coreOf s) a row) (hrewrites : Rewrites (coreOf s) t a row')
    (hterm : Terminates row row') (hlogged : Publishes t logged t₁)
    (hsame : SameTurn a session) (hturn : finalization.turnId = row.turnId)
    (hconsumes : P.consumes (a.sessionId, a.turnGeneration)) (hroutes : P.routes)
    (hcursor : CursorStored c.events a) (hnewest : Newest c t₁ published)
    (h : Commits (finalization.apply session published seed now) t₁ commit s') :
    Ends P (coreOf s) (coreOf s') (a.sessionId, a.turnGeneration) := by
  simp only [ProviderTurnFinalization.apply, commits_bind] at h
  obtain ⟨errors, t₂, herrors, finished, t₃, hfinished, _, t₄, hsaved, state, t₅, hstate, h⟩ := h
  obtain ⟨herrors, hnone⟩ := publishes_dispositionEvents herrors
  have hpublishes := hlogged.trans herrors
  have hcompleted := ended_of_complete hsame
  rw [hturn] at hfinished
  obtain ⟨source, hsource, hid, hseq⟩ := hcursor
  obtain ⟨source', hsource', hid'⟩ := hlog.kept source hsource
  have hcontinues := hlog.same source hsource source' hsource' hid'
  have hevents : t₂.events = s.events ++ (logged ++ errors) := by
    rw [hpublishes.store, show t.events = s.events from congrArg RoomCore.events hrewrites.core]
  have hsettled := ends_settle (P := P) hlive hrewrites hterm hpublishes hsame.sessionId hfinished
    (.consumed source' hconsumes hcompleted (hevents ▸ List.mem_append_left _ hsource')
      (hid'.trans hid) (hcontinues.seq.trans hseq) hsame.upTo hsame.cursor) hsaved
  have hstated := publishes_sessionStateEvent hstate
  have hended := hsettled.trans hstated.path
  have hpath := hended.path
  have hsettledSound := Path.sound hsound hpath
  have hfinal : t₅.events = t₂.events ++ [finished] ++ [state] := by
    obtain ⟨-, rfl⟩ := commits_internalEvent.mp hfinished
    obtain ⟨-, rfl⟩ := commits_saveSession.mp hsaved
    rw [hstated.store]
    rfl
  have hsessions : t₅.sessions = t₁.sessions.insert a.sessionId
      (completeSessionState session session.inputUpToEventId session.inputUpToSeq) := by
    obtain ⟨-, rfl⟩ := commits_internalEvent.mp hfinished
    obtain ⟨-, rfl⟩ := commits_saveSession.mp hsaved
    have hkept : t₂.sessions = t₁.sessions := by rw [herrors.store]
    rw [hstated.store]
    show t₂.sessions.insert session.sessionId _ = _
    rw [hkept, hsame.sessionId]
  have hstep : LogStep c.events t₅.events := hlog.trans (Path.logStep hsound hpath)
  split at h
  · rename_i hroute
    obtain rfl := hnone hroute
    simp only [commits_bind, commits_orReject, commits_pure, List.append_nil] at h
    obtain ⟨event, t₅, ⟨hhead, rfl⟩, _, t₆, hrouted, commit', t₇, hassigned, -, rfl⟩ := h
    obtain ⟨hstored, hkept, hnew⟩ := hnewest.log event (List.mem_of_mem_head? hhead)
    have hunrouted : Unrouted (coreOf t₅) event.seq := by
      refine Unrouted.of_step hnewest.sound hstep hnew fun sid b hb => ?_
      have hb' : t₅.sessions.lookup sid = some b := hb
      rw [hsessions] at hb'
      rcases (Table.sets_insert t₁.sessions a.sessionId _).cases hb' with ⟨rfl, hset⟩ | ⟨-, hold⟩
      · obtain rfl := Option.some.inj hset
        have ha : t₁.sessions.lookup a.sessionId = some a := by
          have hsame' : t₁.sessions = s.sessions := by
            rw [hlogged.store]
            exact congrArg RoomCore.sessions hrewrites.core
          rw [hsame']
          exact hlive.stored
        rw [hnewest.sessions] at ha
        refine ⟨a, ha, fun input hinput => ?_, Or.inr ⟨source, hsource, ?_⟩⟩
        · rw [DurableAgentSession.ownedInputs, hcompleted.clear.inflight, List.nil_append,
            hcompleted.pending] at hinput
          exact List.mem_append_right _ hinput
        · exact hseq.trans hsame.cursor.symm
      · rw [hnewest.sessions] at hold
        exact ⟨b, hold, fun input hinput => hinput, Or.inl rfl⟩
    have hmem : event ∈ t₅.events := by
      rw [hfinal, hevents]
      have hlogged' : t₁.events = s.events ++ logged := by
        rw [hlogged.store, show t.events = s.events from congrArg RoomCore.events hrewrites.core]
      rw [hlogged'] at hstored
      simp only [List.append_nil]
      exact List.mem_append_left _ (List.mem_append_left _ hstored)
    have hroute' := hended.trans (path_routeMessage hroutes hsettledSound hmem hkept hunrouted
      hrouted)
    exact hroute'.trans (path_assignPendingIn (Path.sound hsound hroute'.path) hassigned)
  · simp only [commits_bind, commits_pure] at h
    obtain ⟨commit', t₆, hassigned, -, rfl⟩ := h
    exact hended.trans (path_assignPendingIn hsettledSound hassigned)

/-! ## Messages and declines -/

omit [CaseFold] [TextServices] in
theorem publishes_agentFinalEvent {session : DurableAgentSession}
    {turnId providerTurnId sourceEventId content targetAgentId : String} {now : Nat}
    {e : RoomEvent} {s s' : Store}
    (h : Commits (agentFinalEvent session turnId providerTurnId sourceEventId content
      targetAgentId now) s e s') :
    Publishes s [e] s' ∧ e.seq = nextSeq s.events ∧ e.isDeleted = false := by
  simp only [agentFinalEvent, commits_bind, commits_require] at h
  obtain ⟨_, s, ⟨-, rfl⟩, h⟩ := h
  refine ⟨publishes_internalEvent h (by decide) rfl, ?_⟩
  obtain ⟨rfl, -⟩ := commits_internalEvent.mp h
  exact ⟨rfl, rfl⟩

/-- The session of the key runs its generation. -/
def RunsGeneration (s : Store) (key : TurnKey) : Prop :=
  ∃ a, s.sessions.lookup key.1 = some a ∧ a.turnGeneration = key.2

theorem ends_completeMessage {sessionId : String} {authority : ProviderTurnAuthority}
    {content targetAgentId : String} {seed now : Nat} {s s' : Store} {commit : AgentTurnCommit}
    (hsound : Sound (coreOf s))
    (hconsumes : RunsGeneration s (authority.sessionId, authority.turnGeneration) →
      P.consumes (authority.sessionId, authority.turnGeneration)) (hroutes : P.routes)
    (h : Commits (completeMessage sessionId authority content targetAgentId seed now)
      s commit s') :
    Ends P (coreOf s) (coreOf s') (authority.sessionId, authority.turnGeneration) := by
  simp only [completeMessage, validateIdentifier, commits_bind, commits_require,
    commits_loadActiveRoom, commits_loadSession, commits_requireActiveTurn,
    commits_ofResult] at h
  obtain ⟨_, _, ⟨-, rfl⟩, _, _, ⟨-, rfl⟩, _, _, ⟨-, rfl, rfl⟩, a, _, ⟨ha, hid, -, rfl⟩, _, s,
    ⟨hactive, -, -, rfl⟩, h⟩ := h
  obtain ⟨_, t, hterminal, _, t₁, hcursor, _, t₂, htarget, session, t₃, ⟨hsession, rfl⟩, event, t₄,
    hevent, happly⟩ := h
  obtain ⟨hcursor, rfl⟩ := commits_validateInputCursor hcursor
  obtain rfl := commits_validatePublicationTarget htarget
  obtain ⟨row, hterminal⟩ := commits_terminalizeOrdinaryExecution hterminal
  have hlive := terminalizes_live hterminal (SameTurn.refl a) (hid.symm ▸ ha) hactive
  have hsame := applyProviderSessionTransition_same hsession
  obtain ⟨hpublished, hseq, hkept⟩ := publishes_agentFinalEvent hevent
  have habsent := terminalizes_absent hsound hterminal (SameTurn.refl a) hlive
  have hstored : t₃.events = s.events ∧ t₃.sessions = s.sessions := by
    rw [hterminal.store]
    exact ⟨rfl, rfl⟩
  rw [← terminalizes_key hterminal (SameTurn.refl a)] at hconsumes ⊢
  rw [hstored.1] at hcursor
  refine ends_apply hsound hsound.log.step_refl hlive
    (terminalizes_rewrites hterminal (SameTurn.refl a) habsent)
    (terminalizes_row hterminal) hpublished hsame hterminal.turnId.symm
    (hconsumes ⟨a, hid.symm ▸ ha, rfl⟩) hroutes hcursor ⟨hsound, ?_, fun e he => ?_⟩ happly
  · rw [hpublished.store]
    exact hstored.2
  · rw [List.mem_singleton.mp he, hpublished.store]
    refine ⟨List.mem_append_right _ (List.mem_singleton.mpr rfl), hkept, ?_⟩
    rw [hseq, hstored.1]
    exact Nat.le_refl _

theorem ends_decline {sessionId : String} {authority : ProviderTurnAuthority}
    {reasonCode : String} {seed now : Nat} {s s' : Store} {commit : AgentTurnCommit}
    (hsound : Sound (coreOf s))
    (hconsumes : RunsGeneration s (authority.sessionId, authority.turnGeneration) →
      P.consumes (authority.sessionId, authority.turnGeneration)) (hroutes : P.routes)
    (h : Commits (decline sessionId authority reasonCode seed now) s commit s') :
    Ends P (coreOf s) (coreOf s') (authority.sessionId, authority.turnGeneration) := by
  simp only [decline, validateIdentifier, commits_bind, commits_require,
    commits_loadActiveRoom, commits_loadSession, commits_requireActiveTurn,
    commits_ofResult] at h
  obtain ⟨_, _, ⟨-, rfl⟩, _, _, ⟨-, rfl⟩, _, _, ⟨-, rfl, rfl⟩, a, _, ⟨ha, hid, -, rfl⟩, _, s,
    ⟨hactive, -, -, rfl⟩, h⟩ := h
  obtain ⟨_, t, hterminal, _, t₁, hcursor, session, t₂, ⟨hsession, rfl⟩, happly⟩ := h
  obtain ⟨hcursor, rfl⟩ := commits_validateInputCursor hcursor
  obtain ⟨row, hterminal⟩ := commits_terminalizeOrdinaryExecution hterminal
  have hlive := terminalizes_live hterminal (SameTurn.refl a) (hid.symm ▸ ha) hactive
  have habsent := terminalizes_absent hsound hterminal (SameTurn.refl a) hlive
  have hstored : t₂.events = s.events ∧ t₂.sessions = s.sessions := by
    rw [hterminal.store]
    exact ⟨rfl, rfl⟩
  rw [← terminalizes_key hterminal (SameTurn.refl a)] at hconsumes ⊢
  rw [hstored.1] at hcursor
  refine ends_apply hsound hsound.log.step_refl hlive
    (terminalizes_rewrites hterminal (SameTurn.refl a) habsent)
    (terminalizes_row hterminal) (Publishes.refl t₂)
    (applyProviderSessionTransition_same hsession) hterminal.turnId.symm
    (hconsumes ⟨a, hid.symm ▸ ha, rfl⟩) hroutes hcursor ⟨hsound, hstored.2, fun e he => ?_⟩ happly
  cases he

/-! ## Votes -/

omit [TextServices] in
/-- What became of the vote of a turn: its event, or a rejection without a trace. -/
theorem path_attemptVote {principal : AuthenticatedPrincipal} {participant : Participant}
    {command : VoteCommand} {now : Nat} {s s' : Store} {result : Except PersistenceError RoomEvent}
    {outcome : OrdinaryOutcome} {disposition : ProviderTurnDisposition}
    {published : List RoomEvent} (hclock : P.clock now)
    (h : Commits (attempt (applyVoteCommand principal participant command (nextSeq s.events) now))
      s result s')
    (hresult : voteDisposition command result = .ok (outcome, disposition, published)) :
    Path P (coreOf s) (coreOf s') ∧
      coreOf s' = { coreOf s with
        events := s'.events
        voteStates := s'.voteStates
        voteBallots := s'.voteBallots
        uuids := s'.uuids } ∧
      ∀ e ∈ published, e ∈ s'.events ∧ e.isDeleted = false ∧ nextSeq s.events ≤ e.seq := by
  rcases commits_attempt.mp h with ⟨event, rfl, hvote⟩ | ⟨error, rfl, -, rfl⟩
  · obtain ⟨hpublished, hpath⟩ := path_applyVote hclock hvote
    obtain ⟨-, -, rfl⟩ := Prod.mk.inj (Except.ok.inj hresult) |>.imp_right Prod.mk.inj
    have hevents : s'.events = s.events ++ [event] := congrArg RoomCore.events hpublished.core
    have huuids : s'.uuids = s.uuids + 1 := congrArg RoomCore.uuids hpublished.core
    refine ⟨hpath, ?_, fun e he => ?_⟩
    · rw [hpublished.core, hevents, huuids]
    · rw [List.mem_singleton.mp he, hevents]
      exact ⟨List.mem_append_right _ (List.mem_singleton.mpr rfl), hpublished.quiet.kept,
        Nat.le_of_eq hpublished.seq.symm⟩
  · refine ⟨Relation.ReflTransGen.refl, rfl, ?_⟩
    cases error <;> simp only [voteDisposition] at hresult
    case commandRejected code message =>
      split at hresult
      · obtain ⟨-, -, rfl⟩ := Prod.mk.inj (Except.ok.inj hresult) |>.imp_right Prod.mk.inj
        intro e he
        cases he
      · cases hresult
    all_goals cases hresult

theorem ends_completeVote {sessionId : String} {authority : ProviderTurnAuthority}
    {command : VoteCommand} {seed now : Nat} {s s' : Store} {commit : AgentTurnCommit}
    (hsound : Sound (coreOf s)) (hclock : P.clock now)
    (hconsumes : RunsGeneration s (authority.sessionId, authority.turnGeneration) →
      P.consumes (authority.sessionId, authority.turnGeneration)) (hroutes : P.routes)
    (h : Commits (completeVote sessionId authority command seed now) s commit s') :
    Ends P (coreOf s) (coreOf s') (authority.sessionId, authority.turnGeneration) := by
  simp only [completeVote, validateIdentifier, nextSequence, commits_bind, commits_require,
    commits_loadActiveRoom, commits_loadSession, commits_requireActiveTurn,
    commits_ofResult, commits_loadParticipant, commits_read] at h
  obtain ⟨_, _, ⟨-, rfl⟩, _, _, ⟨-, rfl⟩, _, _, ⟨-, rfl, rfl⟩, a, _, ⟨ha, hid, -, rfl⟩, _, _,
    ⟨hactive, -, -, rfl⟩, _, t₀, hcursor, session, _, ⟨hsession, rfl⟩, participant, _, ⟨-, rfl⟩,
    principal, _, ⟨-, rfl⟩, sequence, s, ⟨rfl, rfl⟩, h⟩ := h
  obtain ⟨hcursor, rfl⟩ := commits_validateInputCursor hcursor
  obtain ⟨result, _, hvote, ⟨outcome, disposition, published⟩, t, ⟨hresult, rfl⟩, _, t₁,
    hterminal, happly⟩ := h
  obtain ⟨hpath, hcore, hnew⟩ := path_attemptVote (P := P) hclock hvote hresult
  have hsound' := Path.sound hsound hpath
  have hsame := applyProviderSessionTransition_same hsession
  obtain ⟨row, hterminal⟩ := commits_terminalizeOrdinaryExecution hterminal
  have hsessions : t.sessions = s.sessions := congrArg RoomCore.sessions hcore
  have hstored : t.sessions.lookup a.sessionId = some a := by
    rw [hsessions, hid]
    exact ha
  have hlive := terminalizes_live hterminal hsame hstored hactive
  have habsent := terminalizes_absent hsound' hterminal hsame hlive
  have hkept : t₁.events = t.events ∧ t₁.sessions = t.sessions := by
    rw [hterminal.store]
    exact ⟨rfl, rfl⟩
  rw [← terminalizes_key hterminal hsame] at hconsumes ⊢
  refine Ends.after hpath (ends_apply (c := coreOf s) hsound' (Path.logStep hsound hpath) hlive
    (terminalizes_rewrites hterminal hsame habsent) (terminalizes_row hterminal)
    (Publishes.refl t₁) hsame hterminal.turnId.symm (hconsumes ⟨a, hid.symm ▸ ha, rfl⟩) hroutes
    hcursor ⟨hsound, hkept.2.trans hsessions, fun e he => ?_⟩ happly)
  rw [hkept.1]
  exact hnew e he

end Reported

end AgentsAssemble.System
