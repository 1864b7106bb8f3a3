import AgentsAssemble.Protocol.Turns

/-!
# Turn authority over moves

The session row and the execution rows tell the same story: a session with a
turn has exactly one live execution, and the two agree on every custody
column.  The exception is a confirmed stop, whose execution ended first.
-/

namespace AgentsAssemble.Protocol

open Foundation Domain Persistence

/-! ## Shapes -/

theorem ActiveTurn.of_same {a b : DurableAgentSession} (h : ActiveTurn a) (hs : SameTurn a b)
    (hstatus : b.runtimeStatus = a.runtimeStatus) : ActiveTurn b := by
  refine ⟨?_, ?_, ?_, ?_, ?_, ?_⟩
  · rw [hs.turnId]
    exact h.turnId
  · rw [hstatus]
    exact h.runtime
  · rw [hs.phase]
    exact h.phase
  · rw [hs.inflight, hs.source]
    exact h.source
  · rw [hs.source, hs.upTo]
    exact h.upTo
  · rw [hs.cursor]
    exact h.cursor

theorem ClearTurn.of_same {a b : DurableAgentSession} (h : ClearTurn a) (hs : SameTurn a b)
    (hstatus : b.runtimeStatus ≠ .busy) : ClearTurn b := by
  refine ⟨?_, hstatus, ?_, ?_, ?_, ?_, ?_⟩
  · rw [hs.turnId, h.turnId]
  · rw [hs.phase, h.phase]
  · rw [hs.inflight, h.inflight]
  · rw [hs.source, h.source]
  · rw [hs.upTo, h.upTo]
  · rw [hs.cursor, h.cursor]

theorem SameTurn.symm {a b : DurableAgentSession} (h : SameTurn a b) : SameTurn b a :=
  ⟨h.sessionId.symm, h.participantId.symm, h.generation.symm, h.pending.symm,
    h.inflight.symm, h.turnId.symm, h.phase.symm, h.source.symm, h.upTo.symm, h.cursor.symm,
    h.syncId.symm, h.syncSeq.symm⟩

/-- A confirmed stop keeps the shape of the turn it stops. -/
theorem TurnShape.stopped {a b : DurableAgentSession} (h : TurnShape a) (hs : SameTurn a b)
    (happlied : StopApplied b) (hstatus : b.runtimeStatus = a.runtimeStatus)
    (hruntime : b.runtime = a.runtime) : TurnShape b := by
  refine ⟨?_, fun _ => ⟨happlied.1, by simp [happlied.2]⟩, fun hb => ?_⟩
  · rcases h.tuple with ha | hc
    · exact Or.inl (ActiveTurn.of_same ha hs hstatus)
    · exact Or.inr (ClearTurn.of_same hc hs (hstatus ▸ hc.runtime))
  · rw [hruntime]
    exact h.custody (ActiveTurn.of_same hb hs.symm hstatus.symm)

theorem TurnShape.ended {a b : DurableAgentSession} {pending : List QueuedRoomInput}
    (h : Ended a b pending) : TurnShape b :=
  ⟨Or.inr h.clear, fun hstop => absurd hstop h.settled,
    fun hactive => absurd h.clear hactive.not_clear⟩

/-- The pending inputs are no part of the turn. -/
theorem TurnShape.withPending {a : DurableAgentSession} (h : TurnShape a)
    (pending : List QueuedRoomInput) : TurnShape { a with pendingInputs := pending } := by
  refine ⟨?_, h.stopping, fun hb => h.custody ?_⟩
  · rcases h.tuple with ha | hc
    · exact Or.inl ⟨ha.turnId, ha.runtime, ha.phase, ha.source, ha.upTo, ha.cursor⟩
    · exact Or.inr ⟨hc.turnId, hc.runtime, hc.phase, hc.inflight, hc.source, hc.upTo,
        hc.cursor⟩
  · exact ⟨hb.turnId, hb.runtime, hb.phase, hb.source, hb.upTo, hb.cursor⟩

/-! ## The link -/

/-- The execution row describes the turn of the session. -/
structure RowMatches (session : DurableAgentSession) (row : ExecutionRow) : Prop where
  turnId : row.turnId = session.activeTurnId
  participantId : row.participantId = session.participantId
  runtime : row.runtime = session.runtime
  applied : StopApplied session → row.phase = .interrupted ∧ row.requeueFinalized = true
  live : ¬ StopApplied session → row.phase.isBlocking = true

structure Linked (c : RoomCore) : Prop where
  shape : ∀ sid a, c.sessions.lookup sid = some a → TurnShape a
  owned : ∀ sid a gen row, c.sessions.lookup sid = some a →
    c.executions.lookup (sid, gen) = some row → row.phase.isBlocking = true →
    a.activeTurnId ≠ "" ∧ gen = a.turnGeneration ∧ ¬ StopApplied a
  running : ∀ sid a, c.sessions.lookup sid = some a → a.activeTurnId ≠ "" →
    ∃ row, c.executions.lookup (sid, a.turnGeneration) = some row ∧ RowMatches a row

section Machine

variable {P : Permit} {c c' : RoomCore}

/-- The session part of the link for one changed session. -/
structure SessionLinked (c : RoomCore) (sid : String) (b : DurableAgentSession) : Prop where
  shape : TurnShape b
  owned : ∀ gen row, c.executions.lookup (sid, gen) = some row →
    row.phase.isBlocking = true →
    b.activeTurnId ≠ "" ∧ gen = b.turnGeneration ∧ ¬ StopApplied b
  running : b.activeTurnId ≠ "" →
    ∃ row, c.executions.lookup (sid, b.turnGeneration) = some row ∧ RowMatches b row

theorem Linked.session (h : Linked c) {sid : String} {a : DurableAgentSession}
    (ha : c.sessions.lookup sid = some a) : SessionLinked c sid a :=
  ⟨h.shape sid a ha, fun gen row => h.owned sid a gen row ha, h.running sid a ha⟩

theorem linked_of_sessions (h : ∀ sid a, c.sessions.lookup sid = some a →
    SessionLinked c sid a) : Linked c :=
  ⟨fun sid a ha => (h sid a ha).shape, fun sid a gen row ha => (h sid a ha).owned gen row,
    fun sid a ha => (h sid a ha).running⟩

/-- A session without a turn and without a live execution. -/
theorem SessionLinked.clear {sid : String} {b : DurableAgentSession} (hshape : TurnShape b)
    (hclear : b.activeTurnId = "")
    (hrows : ∀ gen row, c.executions.lookup (sid, gen) = some row →
      row.phase.isBlocking = false) : SessionLinked c sid b := by
  refine ⟨hshape, fun gen row hrow hblocking => ?_, fun hactive => absurd hclear hactive⟩
  rw [hrows gen row hrow] at hblocking
  cases hblocking

theorem SessionLinked.keeps {a b : DurableAgentSession} (h : SessionLinked c a.sessionId a)
    (hs : SameTurn a b) (hk : KeepsTurn a b) : SessionLinked c a.sessionId b := by
  refine ⟨hk.shape h.shape, fun gen row hrow hblocking => ?_, fun hactive => ?_⟩
  · obtain ⟨hactive, hgen, hstop⟩ := h.owned gen row hrow hblocking
    rw [hs.turnId, hs.generation, hk.applied h.shape hactive]
    exact ⟨hactive, hgen, hstop⟩
  · rw [hs.turnId] at hactive
    obtain ⟨row, hrow, hm⟩ := h.running hactive
    have happlied := hk.applied h.shape hactive
    refine ⟨row, hs.generation ▸ hrow, hm.turnId.trans hs.turnId.symm,
      hm.participantId.trans hs.participantId.symm,
      hm.runtime.trans (hk.runtime h.shape hactive).symm, fun hb => ?_, fun hb => ?_⟩
    · exact hm.applied (happlied.mp hb)
    · exact hm.live fun ha => hb (happlied.mpr ha)

/-- The session of a stop that is now confirmed; its execution already ended. -/
theorem SessionLinked.applied {a b : DurableAgentSession} {row : ExecutionRow}
    (hshape : TurnShape a) (hs : SameTurn a b) (happlied : StopApplied b)
    (hstatus : b.runtimeStatus = a.runtimeStatus) (hruntime : b.runtime = a.runtime)
    (hrow : c.executions.lookup (a.sessionId, a.turnGeneration) = some row)
    (hterminal : row.phase = .interrupted) (hrequeue : row.requeueFinalized = true)
    (hmatches : a.activeTurnId ≠ "" → row.turnId = a.activeTurnId ∧
      row.participantId = a.participantId ∧ row.runtime = a.runtime)
    (hrows : ∀ gen r, c.executions.lookup (a.sessionId, gen) = some r →
      r.phase.isBlocking = false) : SessionLinked c a.sessionId b := by
  refine ⟨hshape.stopped hs happlied hstatus hruntime, fun gen r hr hblocking => ?_,
    fun hactive => ?_⟩
  · rw [hrows gen r hr] at hblocking
    cases hblocking
  · rw [hs.turnId] at hactive
    obtain ⟨hturn, hpart, hrun⟩ := hmatches hactive
    exact ⟨row, hs.generation ▸ hrow, hturn.trans hs.turnId.symm,
      hpart.trans hs.participantId.symm, hrun.trans hruntime.symm,
      fun _ => ⟨hterminal, hrequeue⟩, fun hnot => absurd happlied hnot⟩

theorem SessionLinked.withPending {a : DurableAgentSession}
    (h : SessionLinked c a.sessionId a) (pending : List QueuedRoomInput) :
    SessionLinked c a.sessionId { a with pendingInputs := pending } :=
  ⟨h.shape.withPending pending, h.owned, fun hactive =>
    let ⟨row, hrow, hm⟩ := h.running hactive
    ⟨row, hrow, hm.turnId, hm.participantId, hm.runtime, hm.applied, hm.live⟩⟩

theorem SessionChange.linked {a b : DurableAgentSession} (hcareful : P.careful)
    (h : SessionLinked c a.sessionId a) (hc : SessionChange P c a b) :
    SessionLinked c a.sessionId b := by
  cases hc with
  | touch _ same keeps => exact h.keeps same (keeps hcareful)
  | applied _ row same happlied hstatus hruntime hrow hterminal hrequeue =>
      refine SessionLinked.applied h.shape same happlied hstatus hruntime hrow hterminal
        hrequeue (fun hactive => ?_) fun gen r hr => ?_
      · obtain ⟨stored, hstored, hm⟩ := h.running hactive
        obtain rfl := Option.some.inj (hstored.symm.trans hrow)
        exact ⟨hm.turnId, hm.participantId, hm.runtime⟩
      · by_contra hne
        obtain ⟨-, rfl, -⟩ := h.owned gen r hr (by simpa using hne)
        obtain rfl := Option.some.inj (hr.symm.trans hrow)
        rw [hterminal] at hne
        exact hne rfl
  | enqueue => exact h.withPending _
  | drop => exact h.withPending _
  | retire => exact h.withPending _
  | detach _ _ ended _ hstop =>
      refine SessionLinked.clear (TurnShape.ended ended) ended.clear.turnId
        fun gen row hrow => ?_
      by_contra hne
      obtain ⟨hactive, -, hnot⟩ := h.owned gen row hrow (by simpa using hne)
      exact hnot (hstop hcareful hactive)

variable [UuidSource]

theorem Settles.linked {a b : DurableAgentSession} {row row' : ExecutionRow}
    {finished : RoomEvent} {uuids : Nat} {d : RoomCore} (hsound : Sound c) (h : Linked c)
    (guard : Settles P c a b row row' finished uuids)
    (setsRow : Table.Sets c.executions d.executions (a.sessionId, a.turnGeneration)
      (some row')) : SessionLinked d a.sessionId b := by
  have hlinked := h.session guard.stored
  have hrows : ∀ gen r, d.executions.lookup (a.sessionId, gen) = some r →
      r.phase.isBlocking = false := by
    intro gen r hr
    rcases setsRow.cases hr with ⟨-, hnew⟩ | ⟨hne, hold⟩
    · obtain rfl := Option.some.inj hnew
      exact guard.terminal
    · by_contra hblocking
      apply hne
      rw [hsound.rows.single _ _ _ _ _ hold guard.storedRow (by simpa using hblocking)
        guard.blocking]
  cases guard.settlement with
  | consumed _ _ ended =>
      exact SessionLinked.clear (TurnShape.ended ended) ended.clear.turnId hrows
  | restored _ ended =>
      exact SessionLinked.clear (TurnShape.ended ended) ended.clear.turnId hrows
  | stopped same happlied hstatus hruntime hterminal hrequeue =>
      refine SessionLinked.applied hlinked.shape same happlied hstatus hruntime
        setsRow.at_key hterminal hrequeue (fun hactive => ?_) hrows
      obtain ⟨stored, hstored, hm⟩ := hlinked.running hactive
      obtain rfl := Option.some.inj (hstored.symm.trans guard.storedRow)
      exact ⟨guard.turnId.trans hm.turnId, guard.participantId.trans hm.participantId,
        guard.runtime.trans hm.runtime⟩

variable [CaseFold]

theorem Move.linked (hcareful : P.careful) (hsound : Sound c) (h : Linked c)
    (hm : Move P c c') : Linked c' := by
  have frame : ∀ {d : RoomCore} {sid : String} {x : DurableAgentSession},
      SessionLinked c sid x →
      (∀ gen, d.executions.lookup (sid, gen) = c.executions.lookup (sid, gen)) →
      SessionLinked d sid x := by
    intro d sid x hx hrows
    refine ⟨hx.shape, fun gen row hrow => hx.owned gen row (hrows gen ▸ hrow), fun hactive => ?_⟩
    rw [hrows]
    exact hx.running hactive
  cases hm with
  | log => exact ⟨h.shape, h.owned, h.running⟩
  | edit => exact ⟨h.shape, h.owned, h.running⟩
  | tombstone => exact ⟨h.shape, h.owned, h.running⟩
  | vote => exact ⟨h.shape, h.owned, h.running⟩
  | session a b sessions stored change sets =>
      refine linked_of_sessions fun sid x hx => ?_
      rcases sets.cases hx with ⟨rfl, hb⟩ | ⟨-, hx⟩
      · obtain rfl := Option.some.inj hb
        exact frame (change.linked hcareful (h.session stored)) fun _ => rfl
      · exact frame (h.session hx) fun _ => rfl
  | create a sessions guard sets =>
      refine linked_of_sessions fun sid x hx => ?_
      rcases sets.cases hx with ⟨rfl, ha⟩ | ⟨-, hx⟩
      · obtain rfl := Option.some.inj ha
        refine SessionLinked.clear ⟨Or.inr guard.clear, fun hstop => absurd hstop guard.settled,
          fun hactive => absurd guard.clear hactive.not_clear⟩ guard.clear.turnId
          fun gen row hrow => ?_
        obtain ⟨owner, howner, -⟩ := hsound.rows.owner _ gen row hrow
        rw [guard.absent] at howner
        cases howner
      · exact frame (h.session hx) fun _ => rfl
  | assign a b row envelope sessions executions _ guard sets setsRow =>
      refine linked_of_sessions fun sid x hx => ?_
      rcases sets.cases hx with ⟨rfl, hb⟩ | ⟨hne, hx⟩
      · obtain rfl := Option.some.inj hb
        have hnot : ¬ StopApplied b := by
          intro happlied
          have hintent := guard.next.intent.trans guard.intent
          rw [happlied.1] at hintent
          cases hintent
        have hrun : row.runtime = b.runtime := guard.runtime.trans guard.next.runtime.symm
        refine ⟨⟨Or.inl guard.next.active, fun hstop => ?_, fun _ => ?_⟩,
          fun gen r hr hblocking => ?_, fun _ => ?_⟩
        · rw [guard.next.busy] at hstop
          cases hstop
        · rw [guard.next.runtime]
          exact guard.custody
        · rcases setsRow.cases hr with ⟨hkey, -⟩ | ⟨-, hold⟩
          · exact ⟨guard.next.active.turnId, (Prod.mk.inj hkey).2, hnot⟩
          · rw [guard.insertable.unblocked gen r hold] at hblocking
            cases hblocking
        · refine ⟨row, setsRow.at_key, guard.next.turnId.symm,
            guard.participantId.trans guard.next.participantId.symm, hrun,
            fun happlied => absurd happlied hnot, fun _ => ?_⟩
          rw [guard.phase]
          rfl
      · refine frame (h.session hx) fun gen => setsRow.off_key ?_
        rintro hkey
        exact hne (Prod.mk.inj hkey).1
  | settle a b row row' finished uuids sessions executions effects guard sets setsRow =>
      refine linked_of_sessions fun sid x hx => ?_
      rcases sets.cases hx with ⟨rfl, hb⟩ | ⟨hne, hx⟩
      · obtain rfl := Option.some.inj hb
        exact guard.linked hsound h setsRow
      · refine frame (h.session hx) fun gen => setsRow.off_key ?_
        rintro hkey
        exact hne (Prod.mk.inj hkey).1
  | shift key row row' effectKey effect effect' executions effects guard setsRow =>
      have hs := guard.shift
      refine ⟨h.shape, fun sid a gen r ha hr hblocking => ?_, fun sid a ha hactive => ?_⟩
      · rcases setsRow.cases hr with ⟨hkey, hnew⟩ | ⟨-, hold⟩
        · obtain rfl := Option.some.inj hnew
          exact h.owned sid a gen row ha (hkey ▸ guard.storedRow) (hs.live hblocking)
        · exact h.owned sid a gen r ha hold hblocking
      · obtain ⟨stored, hstored, hm⟩ := h.running sid a ha hactive
        by_cases hkey : (sid, a.turnGeneration) = key
        · rw [hkey] at hstored ⊢
          obtain rfl := Option.some.inj (hstored.symm.trans guard.storedRow)
          refine ⟨row', setsRow.at_key, hs.turnId.trans hm.turnId,
            hs.participantId.trans hm.participantId, hs.runtime.trans hm.runtime,
            fun happlied => ?_, fun hnot => hs.blocking (hm.live hnot)⟩
          have hterminal := hm.applied happlied
          rw [hs.terminal (by rw [hterminal.1]; rfl)]
          exact hterminal
        · exact ⟨stored, (setsRow.off_key hkey).trans hstored, hm⟩

theorem Path.linked (hcareful : P.careful) (hsound : Sound c) (h : Linked c)
    (hp : Path P c c') : Linked c' := by
  have hboth : Sound c' ∧ Linked c' :=
    Path.invariant (I := fun d => Sound d ∧ Linked d)
      (fun _ _ hd hm => ⟨hm.sound hd.1, hm.linked hcareful hd.1 hd.2⟩) ⟨hsound, h⟩ hp
  exact hboth.2

end Machine

end AgentsAssemble.Protocol
