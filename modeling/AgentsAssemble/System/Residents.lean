import AgentsAssemble.System.Lifecycles
import AgentsAssemble.System.Shifts
import AgentsAssemble.Persistence.Members

/-!
# Members as moves

A mute or an operator's interrupt prepares an interrupt of the running turn; a
removal discards the pending inputs, and its cleanup the rest.
-/

namespace AgentsAssemble.System

open Foundation Domain Persistence Protocol Tx

section Members

variable [UuidSource] [CaseFold] {P : Permit}

/-! ## Creation -/

omit [UuidSource] [CaseFold] in
theorem latestMessageCursor_cases (events : List RoomEvent) :
    latestMessageCursor events = ("", 0) ∨
      ∃ e ∈ events, latestMessageCursor events = (e.id, e.seq) := by
  rw [latestMessageCursor]
  split
  · rename_i event hhead
    have hmem := List.mem_of_mem_head? hhead
    rw [List.mem_insertionSort] at hmem
    exact Or.inr ⟨event, List.mem_of_mem_filter hmem, rfl⟩
  · exact Or.inl rfl

theorem path_createAgent {principal : AuthenticatedPrincipal} {draft : SelectedDraft}
    {now : Nat} {s s' : Store} {commit : AgentTurnCommit}
    (h : Commits (createAgentRecords principal draft.toAgentSessionDraft now) s commit s') :
    Path P (coreOf s) (coreOf s') := by
  simp only [createAgentRecords, authorizeControl, commits_bind, commits_require,
    commits_loadActiveParticipant, commits_read, commits_ofResult, commits_write] at h
  obtain ⟨_, _, ⟨-, rfl⟩, _, _, ⟨-, -, -, rfl⟩, _, _, ⟨rfl, rfl⟩, _, _, ⟨habsent, rfl⟩, _, _,
    ⟨rfl, rfl⟩, _, _, ⟨-, rfl⟩, _, _, ⟨rfl, rfl⟩, card, _, ⟨-, rfl⟩, _, s, ⟨-, rfl⟩, _, t,
    rfl, event, t₁, hevent, h⟩ := h
  obtain ⟨-, rfl⟩ := commits_pure.mp h
  simp only [Bool.and_eq_true, beq_iff_eq] at habsent
  let created := createdSession draft.toAgentSessionDraft (latestMessageCursor s.events)
  have hcreates : Creates (coreOf s) created := by
    refine ⟨habsent.1, rfl, draft.canonicalId, rfl, ⟨rfl, (by rintro ⟨⟩), rfl, rfl, rfl, rfl, rfl⟩, (by rintro ⟨⟩),
      ?_⟩
    show ((latestMessageCursor s.events).1 = "" ∧ (latestMessageCursor s.events).2 = 0) ∨
      ∃ e ∈ s.events, e.id = (latestMessageCursor s.events).1 ∧
        e.seq = (latestMessageCursor s.events).2
    rcases latestMessageCursor_cases s.events with hnone | ⟨e, he, hlatest⟩
    · rw [hnone]
      exact Or.inl ⟨rfl, rfl⟩
    · rw [hlatest]
      exact Or.inr ⟨e, he, rfl, rfl⟩
  have hcreate : Path P (coreOf s)
      { coreOf s with sessions := s.sessions.insert draft.agentId created } :=
    Relation.ReflTransGen.single (Move.create created _ hcreates (Table.sets_insert _ _ _))
  exact hcreate.trans (publishes_appendSessionEvent hevent (by decide) rfl).path

/-! ## Mutes and interrupts -/

omit [CaseFold] in
theorem publishes_mutedEvent {principal : AuthenticatedPrincipal} {participant : Participant}
    {now : Nat} {e : RoomEvent} {s s' : Store}
    (h : Commits (publishMutedEvent principal participant now) s e s') :
    Publishes s [e] s' := by
  obtain ⟨rfl, rfl⟩ := commits_publishMutedEvent.mp h
  refine publishes_publish s rfl rfl ⟨?_, rfl⟩
  show ("participant_muted" : String) ≠ "turn_finished"
  decide

omit [UuidSource] [CaseFold] in
theorem sessionForParticipant_mem {sessions : List DurableAgentSession} {participantId : String}
    {session : DurableAgentSession}
    (h : sessionForParticipant sessions participantId = .ok session) : session ∈ sessions := by
  rw [sessionForParticipant] at h
  split at h
  · cases h
  · rename_i found hfound
    obtain rfl := Except.ok.inj h
    have hmem : found ∈ sessions.filter fun session => session.participantId == participantId := by
      rw [hfound]
      exact List.mem_singleton.mpr rfl
    exact List.mem_of_mem_filter hmem
  · cases h

omit [CaseFold] in
theorem commits_mutedSession {participant : Participant} {found : Option DurableAgentSession}
    {s s' : Store} (hsound : Sound (coreOf s)) (h : Commits (mutedSession participant) s found s') :
    s' = s ∧ ∀ session, found = some session →
      s.sessions.lookup session.sessionId = some session := by
  by_cases hhuman : participant.participantType = "human"
  · rw [mutedSession, if_pos hhuman] at h
    obtain ⟨rfl, rfl⟩ := commits_pure.mp h
    exact ⟨rfl, fun _ hnone => nomatch hnone⟩
  by_cases hagent : participant.participantType = "agent"
  · rw [mutedSession, if_neg hhuman, if_pos hagent] at h
    obtain ⟨sessions, _, hsessions, hrest⟩ := commits_bind.mp h
    obtain ⟨rfl, -, rfl⟩ := commits_loadRoomSessions.mp hsessions
    obtain ⟨session, _, hfound, hpure⟩ := commits_bind.mp hrest
    obtain ⟨hfound, rfl⟩ := commits_ofResult.mp hfound
    obtain ⟨rfl, rfl⟩ := commits_pure.mp hpure
    refine ⟨rfl, fun other hother => ?_⟩
    obtain rfl := Option.some.inj hother
    exact (roomSessions_stored hsound.sessions).1 session (sessionForParticipant_mem hfound)
  · rw [mutedSession, if_neg hhuman, if_neg hagent] at h
    exact (commits_throw.mp h).elim

theorem path_muteAgentSession [TextServices] {session : DurableAgentSession} {muted : Bool}
    {now : Nat} {s s' : Store} {mutation : ParticipantMuteMutation} (hsound : Sound (coreOf s))
    (hstored : s.sessions.lookup session.sessionId = some session)
    (h : Commits (muteAgentSession session muted now) s mutation s') :
    Path P (coreOf s) (coreOf s') := by
  rw [muteAgentSession] at h
  obtain ⟨_, _, hcustody, hrest⟩ := commits_bind.mp h
  obtain ⟨-, rfl⟩ := commits_require.mp hcustody
  split at hrest
  · obtain ⟨active, t, hactive, hprepare⟩ := commits_bind.mp hrest
    obtain ⟨-, ht⟩ := commits_ofResult.mp hactive
    subst ht
    split at hprepare
    · simp only [commits_bind, commits_loadExecutionIn] at hprepare
      obtain ⟨execution, t', ⟨-, hrow, hsid, hgen, ht'⟩, effect, t, heffect, hpure⟩ := hprepare
      obtain ⟨-, rfl⟩ := commits_pure.mp hpure
      subst ht'
      have hkey : execution.key = (session.sessionId, session.turnGeneration) := by
        rw [ProviderTurnExecution.key, hsid, hgen]
      rw [← hkey] at hrow
      exact path_prepareInterrupt hrow heffect
    · obtain ⟨-, rfl⟩ := commits_pure.mp hprepare
      exact Relation.ReflTransGen.refl
  · obtain ⟨_, t, hsaved, hassign⟩ := commits_bind.mp hrest
    simp only [commits_bind, commits_loadActiveRoom] at hassign
    obtain ⟨_, _, ⟨-, rfl, rfl⟩, commit, t', hassigned, hpure⟩ := hassign
    obtain ⟨-, rfl⟩ := commits_pure.mp hpure
    have hsave : Path P _ _ := path_saveCustody hsaved hstored
      ⟨rfl, rfl, rfl, rfl, rfl, rfl, rfl, rfl, rfl, rfl, rfl, rfl⟩ rfl rfl rfl rfl
    exact hsave.trans (path_assignPendingIn (Path.sound hsound hsave) hassigned)

theorem path_mute [TextServices] {principal : AuthenticatedPrincipal} {update : ParticipantMute}
    {now : Nat} {s s' : Store} {mutation : ParticipantMuteMutation} (hsound : Sound (coreOf s))
    (h : Commits (executeParticipantMute principal update now) s mutation s') :
    Path P (coreOf s) (coreOf s') := by
  simp only [executeParticipantMute, parseMute, commits_bind, commits_require,
    commits_loadActiveParticipant, commits_read, commits_orReject,
    commits_saveParticipantExact] at h
  obtain ⟨_, _, ⟨-, -, -, rfl⟩, _, _, ⟨-, rfl⟩, _, _, ⟨-, rfl⟩, _, _, ⟨rfl, rfl⟩, participant, _,
    ⟨-, rfl⟩, _, _, ⟨-, rfl⟩, _, s, ⟨-, rfl⟩, hrest⟩ := h
  obtain ⟨found, t₀, hfound, _, t, ⟨-, rfl⟩, event, t₁, hevent, hrest⟩ := hrest
  obtain ⟨rfl, hstored⟩ := commits_mutedSession hsound hfound
  have hpublished := publishes_mutedEvent hevent
  have hpath : Path P (coreOf t₀) (coreOf t₁) := hpublished.path
  split at hrest
  · obtain ⟨-, rfl⟩ := commits_pure.mp hrest
    exact hpath
  · rename_i session
    obtain ⟨mutation, t₂, hmuted, hpure⟩ := commits_bind.mp hrest
    obtain ⟨-, rfl⟩ := commits_pure.mp hpure
    have hkept : t₁.sessions.lookup session.sessionId = some session := by
      rw [hpublished.store]
      exact hstored session rfl
    exact hpath.trans (path_muteAgentSession (Path.sound hsound hpath) hkept hmuted)

omit [UuidSource] [CaseFold] in
theorem commits_loadInterruptibleSession {agentId : String} {session : DurableAgentSession}
    {execution : ProviderTurnExecution} {s s' : Store}
    (h : Commits (loadInterruptibleSession agentId) s (session, execution) s') :
    s' = s ∧ s.sessions.lookup session.sessionId = some session ∧
      s.executions.lookup execution.key = some execution.toExecutionRow := by
  simp only [loadInterruptibleSession, commits_bind, commits_loadSession, commits_require,
    commits_read, commits_loadExecutionIn] at h
  obtain ⟨a, _, ⟨ha, hid, -, rfl⟩, participant, _, hparticipant, _, _, ⟨-, rfl⟩, hrest⟩ := h
  obtain rfl := commits_loadAgentParticipant hparticipant
  obtain ⟨_, _, ⟨-, rfl⟩, _, _, ⟨-, rfl⟩, _, _, ⟨-, rfl⟩, x, _, ⟨-, hrow, hsid, hgen, rfl⟩, effect,
    _, heffect, _, _, ⟨-, rfl⟩, _, _, ⟨-, rfl⟩, hpure⟩ := hrest
  obtain ⟨rfl, -, -⟩ := commits_loadOptionalEffectIn heffect
  obtain ⟨hpair, rfl⟩ := commits_pure.mp hpure
  obtain ⟨rfl, rfl⟩ := Prod.mk.inj hpair
  refine ⟨rfl, ?_, ?_⟩
  · rw [hid]
    exact ha
  · rw [ProviderTurnExecution.key, hsid, hgen]
    exact hrow

omit [CaseFold] in
theorem prepareInterrupt_sessions {execution : ProviderTurnExecution}
    {cause : ProviderTurnInterruptCause} {effect : ProviderTurnInterruptEffect} {s s' : Store}
    (hrow : s.executions.lookup execution.key = some execution.toExecutionRow)
    (h : Commits (prepareInterruptEffect execution cause) s effect s') :
    s'.sessions = s.sessions := by
  obtain ⟨-, t, ht, -, -, hstore, -⟩ := commits_prepareInterruptEffect hrow h
  rw [hstore, ht]
  rcases insertPreparedEffect_cases execution.key (UuidSource.newV4 s.uuids) cause
    { s with uuids := s.uuids + 1 } with hkept | ⟨-, -, hprepared⟩
  · rw [hkept]
  · rw [hprepared]

theorem path_interrupt {principal : AuthenticatedPrincipal} {agentId : String} {now : Nat}
    {s s' : Store} {mutation : ParticipantMuteMutation}
    (h : Commits (executeAgentInterrupt principal agentId now) s mutation s') :
    Path P (coreOf s) (coreOf s') := by
  simp only [executeAgentInterrupt, authorizeControl, commits_bind, commits_require,
    commits_loadActiveParticipant] at h
  obtain ⟨_, _, ⟨-, rfl⟩, _, _, ⟨-, -, -, rfl⟩, found, _, hfound, hrest⟩ := h
  obtain ⟨session, execution⟩ := found
  obtain ⟨rfl, hstored, hrow⟩ := commits_loadInterruptibleSession hfound
  obtain ⟨effect, t, heffect, _, t₁, hsaved, event, t₂, hevent, hpure⟩ := hrest
  obtain ⟨-, rfl⟩ := commits_pure.mp hpure
  have hprepared := path_prepareInterrupt (P := P) hrow heffect
  rw [← prepareInterrupt_sessions hrow heffect] at hstored
  have hsave : Path P (coreOf t) (coreOf t₁) := path_saveCustody hsaved hstored
    (SameTurn.refl session) rfl rfl rfl rfl
  exact (hprepared.trans hsave).trans (publishes_appendStateEvent hevent).path

/-! ## Cleanup -/

theorem path_requestCleanup {sessionId : String} {s s' : Store} {u : Unit}
    (hcleans : P.cleans sessionId) (h : Commits (requestRuntimeCleanup sessionId) s u s') :
    Path P (coreOf s) (coreOf s') := by
  simp only [requestRuntimeCleanup, requireValidTurnAuthority, commits_bind,
    commits_loadSession, commits_require, commits_write] at h
  obtain ⟨a, _, ⟨ha, hid, -, rfl⟩, _, s, ⟨-, rfl⟩, _, t, rfl, hsaved⟩ := h
  obtain ⟨-, rfl⟩ := commits_saveSession.mp hsaved
  rw [← hid] at ha hcleans
  let retired : DurableAgentSession := { a with pendingInputs := [] }
  have hretire : Path P (coreOf s)
      { coreOf s with sessions := s.sessions.insert a.sessionId retired } :=
    Relation.ReflTransGen.single
      (Move.session a retired _ ha (.retire hcleans) (Table.sets_insert _ _ _))
  refine hretire.tail (Move.session retired _ _ (AList.lookup_insert _)
    (.touch _ ?_ fun _ => ?_) (Table.sets_insert_insert _ _ _ _))
  · exact ⟨rfl, rfl, rfl, rfl, rfl, rfl, rfl, rfl, rfl, rfl, rfl, rfl⟩
  · exact KeepsTurn.of_custody
      ⟨rfl, rfl, rfl, rfl, rfl, rfl, rfl, rfl, rfl, rfl, rfl, rfl⟩ rfl rfl rfl rfl

/-- The queue of a cleaned session goes, and nothing else of its turn. -/
theorem path_cleanedSession {a : DurableAgentSession} {participant : Participant} {s s' : Store}
    {u : Unit} (hcleans : P.cleans a.sessionId)
    (hstored : s.sessions.lookup a.sessionId = some a)
    (hauthority : activeTurnAuthority a ≠ none) (hturn : a.activeTurnId = "")
    (hsaved : Commits (saveSession (cleanedSession a participant)) s u s') :
    Path P (coreOf s) (coreOf s') := by
  obtain ⟨-, rfl⟩ := commits_saveSession.mp hsaved
  have hclear : ClearTurn a :=
    (activeTurnAuthority_ne_none.mp hauthority).2.resolve_left fun hactive =>
      hactive.turnId hturn
  let retired : DurableAgentSession := { a with pendingInputs := [] }
  have hretire : Path P (coreOf s)
      { coreOf s with sessions := s.sessions.insert a.sessionId retired } :=
    Relation.ReflTransGen.single
      (Move.session a retired _ hstored (.retire hcleans) (Table.sets_insert _ _ _))
  have hsame : SameTurn retired (cleanedSession a participant) :=
    ⟨rfl, rfl, rfl, rfl, hclear.inflight.symm, rfl, rfl, rfl, rfl, rfl, rfl, rfl⟩
  refine hretire.tail (Move.session retired _ _ (AList.lookup_insert _)
    (.touch _ hsame fun _ => ?_) (Table.sets_insert_insert _ _ _ _))
  exact KeepsTurn.of_clear hsame hturn nofun nofun

theorem path_finishCleanup [TextServices] {sessionId : String} {now : Nat} {s s' : Store}
    {commit : Option AgentTurnCommit} (hsound : Sound (coreOf s)) (hcleans : P.cleans sessionId)
    (h : Commits (finishCleanupIn sessionId now) s commit s') :
    Path P (coreOf s) (coreOf s') := by
  rw [finishCleanupIn] at h
  obtain ⟨cleanup, _, hcleanup, hrest⟩ := commits_bind.mp h
  obtain ⟨-, rfl⟩ := commits_read.mp hcleanup
  split at hrest
  · obtain ⟨-, rfl⟩ := commits_pure.mp hrest
    exact Relation.ReflTransGen.refl
  simp only [requireValidTurnAuthority, commits_bind, commits_loadSession, commits_require,
    commits_read] at hrest
  obtain ⟨a, _, ⟨ha, hid, -, rfl⟩, _, _, ⟨hauthority, rfl⟩, blocking, _, ⟨-, rfl⟩, hrest⟩ := hrest
  split at hrest
  · obtain ⟨-, rfl⟩ := commits_pure.mp hrest
    exact Relation.ReflTransGen.refl
  rename_i hcustody
  simp only [not_or, Decidable.not_not] at hcustody
  obtain ⟨participant, _, hparticipant, hclean⟩ := commits_bind.mp hrest
  obtain rfl := commits_loadAgentParticipant hparticipant
  simp only [commits_bind, commits_write, loadRoomWithSettings, commits_read] at hclean
  obtain ⟨_, t, hsaved, _, t₁, rfl, event, _, hevent, _, t₂, ⟨rfl, rfl⟩, hwake⟩ := hclean
  rw [← hid] at ha hcleans
  have hclean := path_cleanedSession hcleans ha hauthority hcustody.1.2.2.2.2.2.2 hsaved
  have hpublish : Path P (coreOf t) (coreOf t₂) := (publishes_sessionStateEvent hevent).path
  have hpath := hclean.trans hpublish
  split at hwake
  · obtain ⟨commit, t₃, hassigned, hpure⟩ := commits_bind.mp hwake
    obtain ⟨-, rfl⟩ := commits_pure.mp hpure
    exact hpath.trans (path_assignPendingIn (Path.sound hsound hpath) hassigned)
  · obtain ⟨commit, t₃, hnone, hpure⟩ := commits_bind.mp hwake
    obtain ⟨-, rfl⟩ := commits_pure.mp hnone
    obtain ⟨-, rfl⟩ := commits_pure.mp hpure
    exact hpath

end Members

end AgentsAssemble.System
