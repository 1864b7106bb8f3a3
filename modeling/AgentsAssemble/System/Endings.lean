import AgentsAssemble.Persistence.Reconciliation
import AgentsAssemble.Protocol.History
import AgentsAssemble.System.Scheduling

/-!
# Ends of turns

A turn ends by one settlement move: its execution becomes terminal, its effect
is finalized, one finish event is published and its session is cleared.  The
transactions differ in the outcome and in what they do with the inflight inputs.
-/

namespace AgentsAssemble.System

open Foundation Domain Persistence Protocol Tx

section Restoring

/-! ## The restored queue -/

theorem findEvent_deletedIn {events : List RoomEvent} {id : String} {e : RoomEvent}
    (h : findEvent events id = .ok (some e)) : deletedIn events id = e.isDeleted := by
  simp only [findEvent] at h
  split at h
  swap
  · cases h
  rename_i hlength
  have hhead := Except.ok.inj h
  have hfilter : events.filter (fun event => event.id == id) = [e] := by
    cases hrows : events.filter (fun event => event.id == id) with
    | nil =>
        rw [hrows] at hhead
        cases hhead
    | cons first rest =>
        rw [hrows] at hhead hlength
        obtain rfl := Option.some.inj hhead
        simp only [List.length_cons] at hlength
        rw [List.eq_nil_of_length_eq_zero (by omega : rest.length = 0)]
  calc deletedIn events id
      = (events.filter fun event => event.id == id).any RoomEvent.isDeleted := by
        rw [List.any_filter]
        rfl
    _ = e.isDeleted := by
        rw [hfilter, List.any_cons, List.any_nil, Bool.or_false]

theorem undeletedInputs_ok {events : List RoomEvent} {inputs out : List QueuedRoomInput}
    (h : undeletedInputs events inputs = .ok out) : out = keptInputs events inputs := by
  induction inputs generalizing out with
  | nil =>
      obtain rfl := Except.ok.inj h
      rfl
  | cons input inputs ih =>
      rw [undeletedInputs] at h
      obtain ⟨found, hfound, h⟩ := Result.bind_eq_ok.mp h
      cases found with
      | none => exact (Result.throw_eq_ok.mp h).elim
      | some event =>
          obtain ⟨rest, hrest, h⟩ := Result.bind_eq_ok.mp h
          obtain rfl := Result.pure_eq_ok.mp h
          rw [keptInputs, List.filter_cons, findEvent_deletedIn hfound, ih hrest]
          cases event.isDeleted with
          | true => rfl
          | false => rfl

theorem commits_mergedTurnQueue {session : DurableAgentSession} {s s' : Store}
    {pending : List QueuedRoomInput} (h : Commits (mergedTurnQueue session) s pending s') :
    CanonicalQueue session.ownedInputs ∧ pending = keptInputs s.events session.ownedInputs ∧
      s' = s := by
  simp only [mergedTurnQueue, commits_bind, commits_orReject, commits_read,
    commits_ofResult] at h
  obtain ⟨merged, s, ⟨hmerged, rfl⟩, _, _, ⟨rfl, rfl⟩, hrestored, rfl⟩ := h
  obtain ⟨rfl, hcanonical⟩ := mergeRoomInputs_eq_some.mp hmerged
  exact ⟨hcanonical, undeletedInputs_ok hrestored, rfl⟩

/-- A session that was restored and left in no running state has ended its turn. -/
theorem ended_of_restore {session b : DurableAgentSession} {pending : List QueuedRoomInput}
    (h : SameTurn (restoreQueue session pending) b) (hbusy : b.runtimeStatus ≠ .busy)
    (hstopping : b.runtimeStatus ≠ .stopping) : Ended session b pending :=
  ⟨h.sessionId, h.participantId, h.generation, h.pending,
    ⟨h.turnId, hbusy, h.phase, h.inflight, h.source, h.upTo, h.cursor⟩, hstopping⟩

theorem keepsCursor_of_restore {session b : DurableAgentSession}
    {pending : List QueuedRoomInput} (h : SameTurn (restoreQueue session pending) b) :
    KeepsCursor session b :=
  ⟨h.syncId, h.syncSeq⟩

/-! ## The settlement move -/

/-- The row of a turn that reached its outcome. -/
structure Terminates (row row' : ExecutionRow) : Prop where
  executionId : row'.executionId = row.executionId
  participantId : row'.participantId = row.participantId
  turnId : row'.turnId = row.turnId
  runtime : row'.runtime = row.runtime
  terminal : row'.phase.isBlocking = false

/-- The live turn of a session, as the transaction that ends it finds it. -/
structure LiveTurn (c : RoomCore) (a : DurableAgentSession) (row : ExecutionRow) : Prop where
  stored : c.sessions.lookup a.sessionId = some a
  active : ActiveTurn a
  storedRow : c.executions.lookup (a.sessionId, a.turnGeneration) = some row
  blocking : row.phase.isBlocking = true
  turnId : row.turnId = a.activeTurnId

variable [UuidSource] [CaseFold] {P : Permit}

/-- The transaction rewrote the row of the turn and its effect, and nothing else. -/
structure Rewrites (c : RoomCore) (s : Store) (a : DurableAgentSession) (row' : ExecutionRow) :
    Prop where
  core : coreOf s = { c with
    executions := c.executions.insert (a.sessionId, a.turnGeneration) row'
    effects := s.effects }
  effect : Table.Sets c.effects s.effects (a.sessionId, a.turnGeneration)
    ((c.effects.lookup (a.sessionId, a.turnGeneration)).map finalizeEffect)
  requeue : c.effects.lookup (a.sessionId, a.turnGeneration) ≠ none →
    row'.requeueFinalized = true

theorem ends_settle {c : RoomCore} {a a' b : DurableAgentSession} {row row' : ExecutionRow}
    {s s₁ s₂ s₃ : Store} {errors : List RoomEvent} {status : String}
    {providerTurnId reasonCode : Option String} {now : Nat} {finished : RoomEvent} {u : Unit}
    (hlive : LiveTurn c a row) (hrewrites : Rewrites c s a row') (hterm : Terminates row row')
    (herrors : Publishes s errors s₁) (hsession : a'.sessionId = a.sessionId)
    (hfinished : Commits (turnFinishedEvent a' row.turnId status providerTurnId reasonCode now)
      s₁ finished s₂)
    (hsettlement : Settlement P { c with events := s₁.events, uuids := s₁.uuids } a b row')
    (hsaved : Commits (saveSession b) s₂ u s₃) :
    Ends P c (coreOf s₃) (a.sessionId, a.turnGeneration) := by
  obtain ⟨hevent, hs₂⟩ := commits_internalEvent.mp hfinished
  have hevents : s.events = c.events := congrArg RoomCore.events hrewrites.core
  have huuids : s.uuids = c.uuids := congrArg RoomCore.uuids hrewrites.core
  let c₁ : RoomCore := { c with events := c.events ++ errors, uuids := s₁.uuids }
  have hlog : Move P c c₁ := by
    refine Move.log errors s₁.uuids ?_ herrors.quiet
    rw [← hevents, ← huuids]
    exact herrors.fresh
  have hlogged : s₁.events = c.events ++ errors := by
    rw [herrors.store, ← hevents]
  rw [hlogged] at hsettlement
  have hsettles : Settles P c₁ a b row row' finished (s₁.uuids + 1) := by
    refine ⟨hlive.stored, hlive.active, hlive.storedRow, hlive.blocking, hlive.turnId,
      hterm.turnId, hterm.executionId, hterm.participantId, hterm.runtime, hterm.terminal,
      hrewrites.requeue, hevent ▸ rfl, hevent ▸ rfl, hevent ▸ congrArg some hsession,
      hevent ▸ rfl, ?_, hsettlement⟩
    refine Fresh.single (Nat.le_refl _) (Nat.lt_succ_self _) (hevent ▸ rfl) ?_
    rw [hevent, show c₁.events = s₁.events from hlogged.symm]
    exact Nat.le_refl _
  have hcore : coreOf s₃ =
      { c₁ with
        sessions := c.sessions.insert a.sessionId b
        executions := c.executions.insert (a.sessionId, a.turnGeneration) row'
        effects := s.effects
        uuids := s₁.uuids + 1
        events := c₁.events ++ [finished] } := by
    have hpublished : coreOf s₂ =
        { coreOf s₁ with events := s₁.events ++ [finished], uuids := s₁.uuids + 1 } := by
      rw [hs₂]
      rfl
    rw [coreOf_saveSession hsaved, hpublished, herrors.core, hrewrites.core, hlogged,
      hsettlement.identity.1]
  rw [hcore]
  refine ⟨?_, fun stored hstored => ?_, row', AList.lookup_insert _, hterm.terminal⟩
  · exact (Relation.ReflTransGen.single hlog).tail (Move.settle a b row row' finished _ _ _ _
      hsettles (Table.sets_insert _ _ _) (Table.sets_insert _ _ _) hrewrites.effect)
  · obtain rfl := Option.some.inj (hlive.storedRow.symm.trans hstored)
    exact hlive.blocking

/-- The settlement that puts the undeleted inflight inputs back. -/
theorem ends_restore {c : RoomCore} {a a' b : DurableAgentSession} {row row' : ExecutionRow}
    {s s₁ s₂ s₃ s₄ : Store} {errors : List RoomEvent} {pending : List QueuedRoomInput}
    {status : String} {providerTurnId reasonCode : Option String} {now : Nat}
    {finished : RoomEvent} {u : Unit} (hlive : LiveTurn c a row)
    (hrewrites : Rewrites c s a row') (hterm : Terminates row row')
    (herrors : Publishes s errors s₁) (hsame : SameTurn a a')
    (hfinished : Commits (turnFinishedEvent a' row.turnId status providerTurnId reasonCode now)
      s₁ finished s₂) (hmerged : Commits (mergedTurnQueue a') s₂ pending s₃)
    (hsaved : Commits (saveSession b) s₃ u s₄) (hrestores : P.restores a.sessionId)
    (hrestored : SameTurn (restoreQueue a pending) b) (hbusy : b.runtimeStatus ≠ .busy)
    (hstopping : b.runtimeStatus ≠ .stopping) :
    Ends P c (coreOf s₄) (a.sessionId, a.turnGeneration) := by
  obtain ⟨-, rfl, rfl⟩ := commits_mergedTurnQueue hmerged
  have hended := ended_of_restore hrestored hbusy hstopping
  have hkept : keptInputs s₃.events a'.ownedInputs = keptInputs s₁.events a.ownedInputs := by
    obtain ⟨rfl, rfl⟩ := commits_internalEvent.mp hfinished
    rw [hsame.owned]
    refine keptInputs_append_quiet (fun e he => ?_) _
    rw [List.mem_singleton.mp he]
    rfl
  rw [hkept] at hended
  exact ends_settle hlive hrewrites hterm herrors hsame.sessionId hfinished
    (.restored hrestores hended (keepsCursor_of_restore hrestored)) hsaved

/-! ## Ordinary outcomes -/

omit [CaseFold] in
/-- A live turn has no finalized effect, so an unfenced turn has no effect at all. -/
theorem effect_absent {s : Store} (hsound : Sound (coreOf s)) {key : TurnKey}
    {row : ExecutionRow} (hrow : s.executions.lookup key = some row)
    (hblocking : row.phase.isBlocking = true) (hunfenced : hasUnfinalizedEffect s key = false) :
    s.effects.lookup key = none := by
  cases heffect : s.effects.lookup key with
  | none => rfl
  | some effect =>
      rw [hasUnfinalizedEffect, heffect, bne_eq_false_iff_eq] at hunfenced
      obtain ⟨row', hrow', hfinal, -⟩ := hsound.rows.effects key effect heffect
      obtain rfl := Option.some.inj (hrow.symm.trans hrow')
      rw [hfinal.mp hunfenced] at hblocking
      cases hblocking

omit [UuidSource] [CaseFold] in
theorem isBlocking_of_isStarted {phase : ProviderTurnExecutionPhase}
    (h : phase.isStarted = true) : phase.isBlocking = true := by
  cases phase <;> first | rfl | cases h

omit [UuidSource] [CaseFold] in
theorem isBlocking_outcome (outcome : OrdinaryOutcome) : outcome.phase.isBlocking = false := by
  cases outcome <;> rfl

omit [UuidSource] [CaseFold] in
/-- The turn of the stored session is the one the provider reports on. -/
theorem terminalizes_key {s s' : Store} {a session : DurableAgentSession}
    {authority : ProviderTurnAuthority} {outcome : OrdinaryOutcome} {row : ExecutionRow}
    (h : Terminalizes s session authority outcome row s') (hsame : SameTurn a session) :
    (a.sessionId, a.turnGeneration) = (authority.sessionId, authority.turnGeneration) := by
  rw [← hsame.sessionId, ← hsame.generation, h.runs.1, h.runs.2.2.1]

omit [UuidSource] [CaseFold] in
/-- What an ordinary termination ends. -/
theorem terminalizes_live {s s' : Store} {a session : DurableAgentSession}
    {authority : ProviderTurnAuthority} {outcome : OrdinaryOutcome} {row : ExecutionRow}
    (h : Terminalizes s session authority outcome row s') (hsame : SameTurn a session)
    (hstored : s.sessions.lookup a.sessionId = some a)
    (hactive : activeTurnAuthority a = some true) :
    LiveTurn (coreOf s) a row := by
  refine ⟨hstored, (activeTurnAuthority_eq_true.mp hactive).2, ?_,
    isBlocking_of_isStarted h.started, ?_⟩
  · rw [terminalizes_key h hsame]
    exact h.stored
  · rw [h.turnId, ← hsame.turnId]
    exact h.runs.2.1.symm

omit [UuidSource] [CaseFold] in
theorem terminalizes_row {s s' : Store} {session : DurableAgentSession}
    {authority : ProviderTurnAuthority} {outcome : OrdinaryOutcome} {row : ExecutionRow}
    (_ : Terminalizes s session authority outcome row s') :
    Terminates row
      { row with phase := outcome.phase, providerTurnId := authority.providerTurnId } :=
  ⟨rfl, rfl, rfl, rfl, isBlocking_outcome outcome⟩

omit [UuidSource] [CaseFold] in
/-- Without an effect the rewrite of the row is the whole change. -/
theorem rewrites_of_absent {s s' : Store} {a : DurableAgentSession} {row' : ExecutionRow}
    (habsent : s.effects.lookup (a.sessionId, a.turnGeneration) = none)
    (h : s' = { s with
      executions := s.executions.insert (a.sessionId, a.turnGeneration) row' }) :
    Rewrites (coreOf s) s' a row' := by
  subst h
  refine ⟨rfl, Table.sets_of_lookup ?_, fun hne => absurd habsent hne⟩
  rw [show (coreOf s).effects = s.effects from rfl, habsent]
  rfl

omit [UuidSource] [CaseFold] in
theorem terminalizes_rewrites {s s' : Store} {a session : DurableAgentSession}
    {authority : ProviderTurnAuthority} {outcome : OrdinaryOutcome} {row : ExecutionRow}
    (h : Terminalizes s session authority outcome row s') (hsame : SameTurn a session)
    (habsent : s.effects.lookup (a.sessionId, a.turnGeneration) = none) :
    Rewrites (coreOf s) s' a
      { row with phase := outcome.phase, providerTurnId := authority.providerTurnId } := by
  refine rewrites_of_absent habsent ?_
  rw [h.store, terminalizes_key h hsame]

omit [CaseFold] in
/-- An ordinary termination is refused while the turn has an effect. -/
theorem terminalizes_absent {s s' : Store} {a session : DurableAgentSession}
    {authority : ProviderTurnAuthority} {outcome : OrdinaryOutcome} {row row' : ExecutionRow}
    (hsound : Sound (coreOf s)) (h : Terminalizes s session authority outcome row s')
    (hsame : SameTurn a session) (hlive : LiveTurn (coreOf s) a row') :
    s.effects.lookup (a.sessionId, a.turnGeneration) = none := by
  refine effect_absent hsound hlive.storedRow hlive.blocking ?_
  rw [terminalizes_key h hsame]
  exact h.unfenced

omit [UuidSource] [CaseFold] in
theorem confirmRuntimeStop_same {session session' : DurableAgentSession}
    {confirmed : Option RuntimeIdentity}
    (h : confirmRuntimeStop session confirmed = .ok session') : SameTurn session session' := by
  cases confirmed with
  | none =>
    obtain rfl := Except.ok.inj h
    exact SameTurn.refl _
  | some runtime =>
    simp only [confirmRuntimeStop] at h
    split at h
    · obtain rfl := Except.ok.inj h
      exact ⟨rfl, rfl, rfl, rfl, rfl, rfl, rfl, rfl, rfl, rfl, rfl, rfl⟩
    · cases h

omit [UuidSource] [CaseFold] in
theorem failedSession_restored {session session' : DurableAgentSession}
    (hsame : SameTurn session session') (pending : List QueuedRoomInput)
    (code message : String) :
    SameTurn (restoreQueue session pending) (failedSession session' pending code message) :=
  ⟨hsame.sessionId, hsame.participantId, hsame.generation, rfl, rfl, rfl, rfl, rfl, rfl, rfl,
    hsame.syncId, hsame.syncSeq⟩

variable [TextServices]

theorem ends_fail {sessionId : String} {authority : ProviderTurnAuthority}
    {errorCode message : String} {confirmed : Option RuntimeIdentity} {now : Nat}
    {s s' : Store} {commit : AgentTurnCommit} (hsound : Sound (coreOf s))
    (hrestores : P.restores sessionId)
    (h : Commits (fail sessionId authority errorCode message confirmed now) s commit s') :
    Ends P (coreOf s) (coreOf s') (authority.sessionId, authority.turnGeneration) := by
  simp only [fail, commits_bind, commits_loadActiveRoom, commits_loadSession,
    commits_requireActiveTurn, commits_ofResult] at h
  obtain ⟨_, _, ⟨-, rfl, rfl⟩, a, _, ⟨ha, rfl, -, rfl⟩, _, s, ⟨hactive, -, -, rfl⟩, h⟩ := h
  obtain ⟨_, t, hterminal, a', _, ⟨hconfirm, rfl⟩, h⟩ := h
  obtain ⟨error, t₁, herror, finished, t₂, hfinished, pending, t₃, hmerged, _, t₄, hsaved,
    state, t₅, hstate, commit', t₆, hassigned, h⟩ := h
  obtain ⟨-, rfl⟩ := commits_pure.mp h
  obtain ⟨row, hterminal⟩ := commits_terminalizeOrdinaryExecution hterminal
  have hlive := terminalizes_live hterminal (SameTurn.refl a) ha hactive
  have hsame := confirmRuntimeStop_same hconfirm
  have habsent := terminalizes_absent hsound hterminal (SameTurn.refl a) hlive
  rw [← hterminal.turnId] at hfinished
  have hrestored := ends_restore hlive
    (terminalizes_rewrites hterminal (SameTurn.refl a) habsent)
    (terminalizes_row hterminal) (publishes_errorEvent herror) hsame hfinished hmerged hsaved
    hrestores (failedSession_restored hsame pending _ _) (by rintro ⟨⟩) (by rintro ⟨⟩)
  have hended := hrestored.trans (publishes_sessionStateEvent hstate).path
  rw [terminalizes_key hterminal (SameTurn.refl a)] at hended
  exact hended.trans (path_assignPendingIn (Path.sound hsound hended.path) hassigned)

/-! ## Turns that never reached their provider -/

omit [UuidSource] [CaseFold] [TextServices] in
/-- A loaded execution that describes the active turn of its session. -/
theorem live_of_loaded {s : Store} {session : DurableAgentSession} {row : ExecutionRow}
    {generation : Nat} (hstored : s.sessions.lookup session.sessionId = some session)
    (hactive : activeTurnAuthority session = some true)
    (hrow : s.executions.lookup (session.sessionId, generation) = some row)
    (hturn : row.turnId = session.activeTurnId) (hgeneration : generation = session.turnGeneration)
    (hblocking : row.phase.isBlocking = true) : LiveTurn (coreOf s) session row :=
  ⟨hstored, (activeTurnAuthority_eq_true.mp hactive).2, hgeneration ▸ hrow, hblocking, hturn⟩

theorem path_provenNoEffect {session : DurableAgentSession} {execution : ProviderTurnExecution}
    {now : Nat} {s s' : Store} {commit : AgentTurnCommit} (hsound : Sound (coreOf s))
    (hlive : LiveTurn (coreOf s) session execution.toExecutionRow)
    (hkey : execution.key = (session.sessionId, session.turnGeneration))
    (hrestores : P.restores session.sessionId)
    (h : Commits (finalizeProvenNoEffectTaskDeath session execution now) s commit s') :
    Path P (coreOf s) (coreOf s') := by
  simp only [finalizeProvenNoEffectTaskDeath, commits_bind, commits_loadActiveRoom,
    commits_requireNoEffect, commits_updateExecution] at h
  obtain ⟨_, _, ⟨-, rfl, rfl⟩, _, s, ⟨hunfenced, rfl⟩, _, t, ⟨row, hrow, -, hstore⟩, h⟩ := h
  obtain ⟨error, t₁, herror, finished, t₂, hfinished, pending, t₃, hmerged, _, t₄, hsaved,
    state, t₅, hstate, commit', t₆, hassigned, h⟩ := h
  obtain ⟨-, rfl⟩ := commits_pure.mp h
  rw [hkey] at hrow hunfenced hstore
  obtain rfl := Option.some.inj (hlive.storedRow.symm.trans hrow)
  have habsent := effect_absent hsound hrow hlive.blocking hunfenced
  have hrewrites : Rewrites (coreOf s) t session
      { execution.toExecutionRow with phase := .failed, requeueFinalized := true } :=
    rewrites_of_absent habsent hstore
  have hrestored := ends_restore hlive hrewrites ⟨rfl, rfl, rfl, rfl, rfl⟩
    (publishes_errorEvent herror) (SameTurn.refl session) hfinished hmerged hsaved hrestores
    (failedSession_restored (SameTurn.refl session) pending _ _) (by rintro ⟨⟩) (by rintro ⟨⟩)
  have hpath := (hrestored.trans (publishes_sessionStateEvent hstate).path).path
  exact hpath.trans (path_assignPendingIn (Path.sound hsound hpath) hassigned)

/-! ## Effects by their id -/

omit [TextServices] [CaseFold] in
/-- The effect a transaction loaded for a turn is the one its id names. -/
theorem updateEffect_loaded {s t : Store} {key : TurnKey} {effect : ProviderTurnInterruptEffect}
    {guard : EffectRow → Bool} {update : EffectRow → EffectRow} {error : PersistenceError}
    {u : Unit} (hsound : Sound (coreOf s)) (hloaded : effectOf s key = some effect)
    (h : Commits (updateEffect effect.effectId guard update error) s u t) :
    ∃ row execution, s.effects.lookup key = some row ∧ s.executions.lookup key = some execution ∧
      effect = joinEffect key row execution ∧ guard row = true ∧
      t = { s with effects := s.effects.insert key (update row) } := by
  obtain ⟨row, execution, hrow, hexecution, rfl⟩ := effectOf_eq_some hloaded
  obtain ⟨key', row', hrow', hid, hguard, hstore⟩ := commits_updateEffect h
  obtain rfl := hsound.rows.effectIds key' key row' row hrow' hrow hid
  obtain rfl := Option.some.inj (hrow'.symm.trans hrow)
  exact ⟨row', execution, hrow, hexecution, rfl, hguard, hstore⟩

/-! ## Retained runtimes -/

omit [CaseFold] [TextServices] in
theorem publishes_interruptErrorEvents {session : DurableAgentSession} {turnId : String}
    {cause : ProviderTurnInterruptCause} {now : Nat} {events : List RoomEvent} {s s' : Store}
    (h : Commits (interruptErrorEvents session turnId cause now) s events s') :
    Publishes s events s' := by
  cases cause with
  | participantMuted =>
      obtain ⟨rfl, rfl⟩ := commits_pure.mp h
      exact Publishes.refl _
  | agentInterrupt =>
      obtain ⟨error, t, herror, h⟩ := commits_bind.mp h
      obtain ⟨rfl, rfl⟩ := commits_pure.mp h
      exact publishes_errorEvent herror

/-- The row of an interrupted turn. -/
def interruptedRow (row : ExecutionRow) : ExecutionRow :=
  { row with phase := .interrupted, requeueFinalized := true }

omit [CaseFold] [TextServices] in
theorem commits_terminalizeRetainedInterrupt {expected : ProviderTurnInterruptEffect}
    {s s' : Store} {u : Unit} (hsound : Sound (coreOf s))
    (h : Commits (terminalizeRetainedInterrupt expected) s u s') :
    ∃ row effect, s.executions.lookup expected.key = some row ∧
      s.effects.lookup expected.key = some effect ∧ row.phase = .quiescing ∧
      effect.phase = .issuedWaitingQuiescence ∧ row.turnId = expected.turnId ∧
      s' = { s with
        executions := s.executions.insert expected.key (interruptedRow row)
        effects := s.effects.insert expected.key (finalizeEffect effect) } := by
  simp only [terminalizeRetainedInterrupt, requireExactEffect, commits_bind,
    commits_loadExecutionIn, commits_require, commits_loadEffectIn] at h
  obtain ⟨execution, _, ⟨-, hrow, hsid, hgen, rfl⟩, _, _, ⟨hchecked, rfl⟩, effect, _,
    ⟨-, heffect, rfl⟩, _, _, ⟨-, rfl⟩, _, s, ⟨hphase, rfl⟩, h⟩ := h
  obtain ⟨_, t, hupdate, h⟩ := h
  obtain ⟨row, execution', heffectRow, -, hjoin, -, rfl⟩ :=
    updateEffect_loaded hsound heffect hupdate
  obtain ⟨row', hrow', -, rfl⟩ := commits_updateExecution.mp h
  have hkey : execution.key = expected.key := by
    rw [ProviderTurnExecution.key, hsid, hgen]
    rfl
  rw [hkey] at hrow' ⊢
  obtain rfl := Option.some.inj (hrow.symm.trans hrow')
  rw [hjoin] at hphase
  exact ⟨_, row, hrow, heffectRow, hchecked.1, hphase, hchecked.2.2.2.1, rfl⟩

theorem path_finalizeRetained {expected : ProviderTurnInterruptEffect} {now : Nat}
    {s s' : Store} {commit : AgentTurnCommit} (hsound : Sound (coreOf s))
    (hrestores : P.restores expected.sessionId)
    (h : Commits (finalizeRetainedIn expected now) s commit s') :
    Path P (coreOf s) (coreOf s') := by
  simp only [finalizeRetainedIn, requireEffectAuthority, commits_bind, commits_loadSession,
    commits_orReject, commits_require] at h
  obtain ⟨a, _, ⟨ha, hid, -, rfl⟩, active, _, ⟨hactive, rfl⟩, _, s, ⟨⟨rfl, hruns⟩, rfl⟩, h⟩ := h
  obtain ⟨_, t, hterminal, errors, t₁, herrors, finished, t₂, hfinished, pending, t₃, hmerged,
    _, t₄, hsaved, state, t₅, hstate, h⟩ := h
  obtain ⟨row, effect, hrow, heffect, hphase, -, hturn, rfl⟩ :=
    commits_terminalizeRetainedInterrupt hsound hterminal
  have hkey : expected.key = (a.sessionId, a.turnGeneration) := by
    rw [ProviderTurnInterruptEffect.key, hid, hruns.2.2.1]
  rw [hkey] at hrow heffect
  have hlive : LiveTurn (coreOf s) a row :=
    live_of_loaded (hid.symm ▸ ha) hactive hrow (hturn.trans hruns.2.1.symm) rfl
      (by rw [hphase]; rfl)
  have hrewrites : Rewrites (coreOf s)
      { s with
        executions := s.executions.insert expected.key (interruptedRow row)
        effects := s.effects.insert expected.key (finalizeEffect effect) } a
      (interruptedRow row) := by
    rw [hkey]
    refine ⟨rfl, ?_, fun _ => rfl⟩
    rw [show (coreOf s).effects.lookup (a.sessionId, a.turnGeneration) = some effect from heffect]
    exact Table.sets_insert _ _ _
  rw [← hlive.turnId] at hfinished
  have hrestored := ends_restore hlive hrewrites ⟨rfl, rfl, rfl, rfl, rfl⟩
    (publishes_interruptErrorEvents herrors) (SameTurn.refl a) hfinished hmerged hsaved
    (hid.symm ▸ hrestores) ⟨rfl, rfl, rfl, rfl, rfl, rfl, rfl, rfl, rfl, rfl, rfl, rfl⟩
    (by rintro ⟨⟩) (by rintro ⟨⟩)
  have hpath := (hrestored.trans (publishes_sessionStateEvent hstate).path).path
  refine hpath.trans ?_
  split at h
  · simp only [commits_bind, commits_loadActiveRoom, commits_pure] at h
    obtain ⟨_, _, ⟨-, rfl, rfl⟩, _, _, hassigned, -, rfl⟩ := h
    exact path_assignPendingIn (Path.sound hsound hpath) hassigned
  · simp only [commits_bind, commits_pure] at h
    obtain ⟨_, _, ⟨-, rfl⟩, -, rfl⟩ := h
    exact Relation.ReflTransGen.refl

/-! ## Confirmed stops and runtimes that are gone -/

/-- An effect loaded for the turn, or the proof that it has none. -/
def LoadedEffect (s : Store) (key : TurnKey) (effect : Option ProviderTurnInterruptEffect) :
    Prop :=
  (effect = none ∧ s.effects.lookup key = none) ∨
    ∃ x, effect = some x ∧ effectOf s key = some x

omit [CaseFold] [TextServices] in
theorem commits_terminalizeWithEffect {a : DurableAgentSession}
    {execution : ProviderTurnExecution} {effect : Option ProviderTurnInterruptEffect}
    {phase : ProviderTurnExecutionPhase} {error : PersistenceError} {s s' : Store} {u : Unit}
    (hsound : Sound (coreOf s))
    (hkey : execution.key = (a.sessionId, a.turnGeneration))
    (hrow : s.executions.lookup (a.sessionId, a.turnGeneration) = some execution.toExecutionRow)
    (heffect : LoadedEffect s (a.sessionId, a.turnGeneration) effect)
    (h : Commits (terminalizeWithEffect execution effect phase error) s u s') :
    Rewrites (coreOf s) s' a
      { execution.toExecutionRow with phase, requeueFinalized := true } := by
  simp only [terminalizeWithEffect, commits_bind, commits_updateExecution] at h
  obtain ⟨_, t, ⟨row, hrow', -, hstore⟩, h⟩ := h
  rw [hkey] at hrow' hstore
  obtain rfl := Option.some.inj (hrow.symm.trans hrow')
  rcases heffect with ⟨rfl, habsent⟩ | ⟨x, rfl, hloaded⟩
  · obtain ⟨-, rfl⟩ := commits_pure.mp h
    exact rewrites_of_absent habsent hstore
  · obtain ⟨row, execution', hrowEffect, -, rfl⟩ := effectOf_eq_some hloaded
    obtain ⟨key', row', hrowEffect', hid, -, rfl⟩ := commits_updateEffect h
    subst hstore
    obtain rfl := hsound.rows.effectIds key' _ row' row hrowEffect' hrowEffect hid
    obtain rfl := Option.some.inj (hrowEffect'.symm.trans hrowEffect)
    refine ⟨rfl, ?_, fun _ => rfl⟩
    rw [show (coreOf s).effects.lookup (a.sessionId, a.turnGeneration) = some row'
      from hrowEffect]
    exact Table.sets_insert _ _ _

omit [UuidSource] [CaseFold] [TextServices] in
theorem exactStopTurnIsTerminal_ok {session : DurableAgentSession}
    {execution : ProviderTurnExecution} {effect : Option ProviderTurnInterruptEffect}
    {terminal : Bool} (h : exactStopTurnIsTerminal session execution effect = .ok terminal) :
    execution.turnId = session.activeTurnId ∧
      (terminal = true → execution.phase = .interrupted ∧ execution.requeueFinalized = true) ∧
      (terminal = false → execution.phase.isBlocking = true) := by
  rw [exactStopTurnIsTerminal] at h
  split at h
  · cases h
  rename_i hexact
  simp only [not_or, Decidable.not_not] at hexact
  split at h
  · rename_i hterminal
    split at h
    · obtain rfl := Except.ok.inj h
      exact ⟨hexact.2.1, fun _ => hterminal, nofun⟩
    · cases h
  · split at h
    · cases h
    rename_i hopen
    obtain rfl := Except.ok.inj h
    simp only [not_or, Bool.not_eq_false] at hopen
    exact ⟨hexact.2.1, nofun, fun _ => hopen.1⟩

omit [TextServices] in
/-- A confirmed stop ends the active turn, or finds it ended, and keeps its fields. -/
theorem path_confirmedStop {a : DurableAgentSession} {now : Nat} {s t s' : Store}
    {event : Option RoomEvent} {u : Unit} (hsound : Sound (coreOf s))
    (hstored : s.sessions.lookup a.sessionId = some a)
    (haction : a.lifecycleIntentAction = .stop)
    (h : Commits (terminalizeConfirmedStopTurn a now) s event t)
    (hsaved : Commits (saveSession { a with lifecycleIntentStatus := .effectApplied }) t u s') :
    Path P (coreOf s) (coreOf s') := by
  have hsame : SameTurn a { a with lifecycleIntentStatus := .effectApplied } :=
    ⟨rfl, rfl, rfl, rfl, rfl, rfl, rfl, rfl, rfl, rfl, rfl, rfl⟩
  have happlied : StopApplied { a with lifecycleIntentStatus := .effectApplied } := ⟨haction, rfl⟩
  simp only [terminalizeConfirmedStopTurn, commits_bind, commits_orReject] at h
  obtain ⟨active, s, ⟨hactive, rfl⟩, h⟩ := h
  split at h
  · rename_i hclear
    obtain ⟨-, rfl⟩ := commits_pure.mp h
    rw [hclear] at hactive
    have hturn := (activeTurnAuthority_eq_false.mp hactive).2
    exact path_saveTouch hsaved hstored hsame fun _ =>
      KeepsTurn.of_clear hsame hturn.turnId hturn.runtime fun _ => ⟨haction, by rintro ⟨⟩⟩
  rename_i hrunning
  rw [Bool.not_eq_false] at hrunning
  simp only [commits_bind, commits_loadExecutionIn, commits_ofResult] at h
  obtain ⟨execution, _, ⟨-, hrow, hsid, hgen, rfl⟩, effect, t₁, heffect, terminal, s,
    ⟨hterminal, hs⟩, h⟩ := h
  obtain ⟨rfl, -, hloaded⟩ := commits_loadOptionalEffectIn heffect
  subst hs
  obtain ⟨hturn, hended, hopen⟩ := exactStopTurnIsTerminal_ok hterminal
  have hkey : execution.key = (a.sessionId, a.turnGeneration) := by
    rw [ProviderTurnExecution.key, hsid, hgen]
  split at h
  · rename_i hdone
    obtain ⟨-, rfl⟩ := commits_pure.mp h
    obtain ⟨hphase, hrequeue⟩ := hended hdone
    exact path_saveSession hsaved hstored (.applied _ execution.toExecutionRow hsame happlied rfl
      rfl hrow hphase hrequeue)
  rename_i hlive
  rw [Bool.not_eq_true] at hlive
  obtain ⟨_, t₂, hterminalized, finished, t₃, hfinished, h⟩ := by
    simpa only [commits_bind] using h
  obtain ⟨-, rfl⟩ := commits_pure.mp h
  rw [hsid, hgen] at hloaded
  have hrewrites := commits_terminalizeWithEffect hsound hkey hrow hloaded hterminalized
  rw [hrunning] at hactive
  have hsettled := ends_settle (P := P)
    (live_of_loaded hstored hactive hrow hturn rfl (hopen hlive)) hrewrites
    ⟨rfl, rfl, rfl, rfl, rfl⟩ (Publishes.refl t₂) rfl hfinished
    (.stopped hsame happlied rfl rfl rfl rfl) hsaved
  exact hsettled.path

omit [CaseFold] [TextServices] in
theorem publishes_runtimeGoneErrorEvents {session : DurableAgentSession} {turnId : String}
    {cause : Option ProviderTurnInterruptCause} {now : Nat} {events : List RoomEvent}
    {s s' : Store} (h : Commits (runtimeGoneErrorEvents session turnId cause now) s events s') :
    Publishes s events s' := by
  cases cause with
  | none =>
      obtain ⟨error, t, herror, h⟩ := commits_bind.mp h
      obtain ⟨rfl, rfl⟩ := commits_pure.mp h
      exact publishes_errorEvent herror
  | some cause => exact publishes_interruptErrorEvents h

theorem path_runtimeGoneSession {session : DurableAgentSession}
    {execution : ProviderTurnExecution} {cause : Option ProviderTurnInterruptCause}
    {floorProgression : FloorProgression} {now : Nat} {s t s' : Store} {row' : ExecutionRow}
    {commit : AgentTurnCommit} (hsound : Sound (coreOf s))
    (hlive : LiveTurn (coreOf s) session execution.toExecutionRow)
    (hrewrites : Rewrites (coreOf s) t session row')
    (hterm : Terminates execution.toExecutionRow row') (hrestores : P.restores session.sessionId)
    (h : Commits (finalizeRuntimeGoneSession session execution cause floorProgression now)
      t commit s') : Path P (coreOf s) (coreOf s') := by
  simp only [finalizeRuntimeGoneSession, commits_bind, commits_loadParticipant,
    commits_saveParticipantExact] at h
  obtain ⟨errors, t₁, herrors, finished, t₂, hfinished, pending, t₃, hmerged, _, t₄, hsaved,
    participant, _, ⟨-, rfl⟩, _, t₅, ⟨-, rfl⟩, state, t₆, hstate, h⟩ := h
  have hrestored := ends_restore hlive hrewrites hterm
    (publishes_runtimeGoneErrorEvents herrors) (SameTurn.refl session) hfinished hmerged hsaved
    hrestores ⟨rfl, rfl, rfl, rfl, rfl, rfl, rfl, rfl, rfl, rfl, rfl, rfl⟩ (by rintro ⟨⟩) (by rintro ⟨⟩)
  have hpath := (hrestored.trans (publishes_sessionStateEvent hstate).path).path
  refine hpath.trans ?_
  split at h
  · simp only [commits_bind, commits_loadActiveRoom, commits_pure] at h
    obtain ⟨_, _, ⟨-, rfl, rfl⟩, _, _, hassigned, -, rfl⟩ := h
    exact path_assignPendingIn (Path.sound hsound hpath) hassigned
  · simp only [commits_bind, commits_pure] at h
    obtain ⟨_, _, ⟨-, rfl⟩, -, rfl⟩ := h
    exact Relation.ReflTransGen.refl

omit [UuidSource] [CaseFold] [TextServices] in
theorem validateCandidate_ok {session : DurableAgentSession}
    {execution : ProviderTurnExecution} (h : validateCandidate session execution = .ok ()) :
    execution.phase.isBlocking = true ∧ activeTurnAuthority session = some true ∧
      session.sessionId = execution.sessionId ∧ execution.Matches session := by
  rw [validateCandidate] at h
  split at h
  · assumption
  · cases h

omit [UuidSource] [CaseFold] [TextServices] in
theorem commits_requireCandidateEffect {expected current : Option ProviderTurnInterruptEffect}
    {s s' : Store} {u : Unit} (h : Commits (requireCandidateEffect expected current) s u s') :
    s' = s := by
  cases expected with
  | none =>
      cases current with
      | none => exact (commits_pure.mp h).2
      | some current => exact (commits_throw.mp h).elim
  | some expected =>
      cases current with
      | none => exact (commits_throw.mp h).elim
      | some current =>
          simp only [requireCandidateEffect, requireExactEffect, commits_bind,
            commits_require] at h
          obtain ⟨_, _, ⟨-, rfl⟩, -, rfl⟩ := h
          rfl

omit [UuidSource] [CaseFold] [TextServices] in
theorem stopEffectIsConfirmed_action {s : Store} {session : DurableAgentSession}
    (h : stopEffectIsConfirmedByRuntimeGone s session = .ok true) :
    session.lifecycleIntentAction = .stop := by
  rw [stopEffectIsConfirmedByRuntimeGone] at h
  split at h
  · cases h
  · rename_i hstop
    simp only [not_or, Decidable.not_not] at hstop
    exact hstop.1

theorem path_finalizeRuntimeGone {candidate : ProviderTurnReconciliationCandidate}
    {floorProgression : FloorProgression} {now : Nat} {s s' : Store}
    {commit : AgentTurnCommit} (hsound : Sound (coreOf s))
    (hrestores : P.restores candidate.execution.sessionId)
    (h : Commits (finalizeRuntimeGoneIn candidate floorProgression now) s commit s') :
    Path P (coreOf s) (coreOf s') := by
  simp only [finalizeRuntimeGoneIn, commits_bind, commits_loadSession, commits_loadExecutionIn,
    commits_require, commits_ofResult, commits_read] at h
  obtain ⟨a, _, ⟨ha, hid, -, rfl⟩, execution, _, ⟨-, hrow, hsid, hgen, rfl⟩, _, _,
    ⟨hexpected, rfl⟩, _, t, ⟨hvalid, rfl⟩, effect, s, heffect, _, t, hcandidate, _, _,
    ⟨rfl, rfl⟩, stopping, s, ⟨hstopping, rfl⟩, h⟩ := h
  obtain ⟨rfl, -, hloaded⟩ := commits_loadOptionalEffectIn heffect
  obtain rfl := commits_requireCandidateEffect hcandidate
  obtain ⟨hblocking, hactive, -, hmatches⟩ := validateCandidate_ok hvalid
  rw [← hgen, hmatches.2.2.1, ← hid] at hrow hloaded
  rw [← hid] at ha hrestores
  split at h
  · rename_i hstop
    rw [hstop] at hstopping
    simp only [commits_bind, commits_pure] at h
    obtain ⟨event, t, hterminal, _, t', hsaved, -, rfl⟩ := h
    exact path_confirmedStop hsound ha (stopEffectIsConfirmed_action hstopping) hterminal hsaved
  · obtain ⟨_, t, hterminal, h⟩ := commits_bind.mp h
    have hkey : execution.key = (a.sessionId, a.turnGeneration) := by
      rw [ProviderTurnExecution.key, hsid, hid, hmatches.2.2.1]
    have hrewrites := commits_terminalizeWithEffect hsound hkey hrow hloaded hterminal
    refine path_runtimeGoneSession hsound
      (live_of_loaded ha hactive hrow hmatches.2.1 rfl hblocking) hrewrites
      ⟨rfl, rfl, rfl, rfl, ?_⟩ hrestores h
    show (if effect.isSome then ProviderTurnExecutionPhase.interrupted
      else ProviderTurnExecutionPhase.failed).isBlocking = false
    split <;> rfl

/-! ## Turns proved not to have started -/

theorem path_finalizeNotStarted {candidate : ProviderTurnReconciliationCandidate} {now : Nat}
    {s s' : Store} {commit : AgentTurnCommit} (hsound : Sound (coreOf s))
    (hrestores : P.restores candidate.execution.sessionId)
    (h : Commits (finalizeProviderTurnNotStarted candidate now) s commit s') :
    Path P (coreOf s) (coreOf s') := by
  simp only [finalizeProviderTurnNotStarted, commits_bind, commits_require, commits_loadSession,
    commits_loadExecutionIn, commits_ofResult] at h
  obtain ⟨_, _, ⟨-, rfl⟩, a, _, ⟨ha, hid, -, rfl⟩, execution, _, ⟨-, hrow, hsid, hgen, rfl⟩, _,
    t, ⟨hvalid, rfl⟩, effect, s, heffect, _, s₁, ⟨-, rfl⟩, h⟩ := h
  obtain ⟨rfl, -, -⟩ := commits_loadOptionalEffectIn heffect
  obtain ⟨hblocking, hactive, -, hmatches⟩ := validateCandidate_ok hvalid
  rw [← hgen, hmatches.2.2.1, ← hid] at hrow
  rw [← hid] at ha hrestores
  refine path_provenNoEffect hsound (live_of_loaded ha hactive hrow hmatches.2.1 rfl hblocking)
    ?_ hrestores h
  rw [ProviderTurnExecution.key, hsid, hid, hmatches.2.2.1]

end Restoring

end AgentsAssemble.System
