import AgentsAssemble.System.Operations
import AgentsAssemble.Protocol.Authority

/-!
# Paths of the store

How the writes of a transaction appear as moves: published events, saved
sessions and updated rows.
-/

namespace AgentsAssemble.System

open Foundation Domain Persistence Protocol Tx

section Paths

/-! ## Turns that survive -/

/-- A change of the lifecycle intent that keeps the status and the runtime of the turn. -/
theorem KeepsTurn.of_intent {a b : DurableAgentSession} (hs : SameTurn a b)
    (hstatus : b.runtimeStatus = a.runtimeStatus) (hruntime : b.runtime = a.runtime)
    (hstopping : TurnShape a → b.runtimeStatus = .stopping →
      b.lifecycleIntentAction = .stop ∧ b.lifecycleIntentStatus ≠ .prepared)
    (happlied : StopApplied b ↔ StopApplied a) : KeepsTurn a b := by
  refine ⟨fun h => ⟨?_, hstopping h, fun hb => ?_⟩, fun _ _ => hruntime, fun _ _ => happlied⟩
  · rcases h.tuple with ha | hc
    · exact Or.inl (Protocol.ActiveTurn.of_same ha hs hstatus)
    · exact Or.inr (Protocol.ClearTurn.of_same hc hs (hstatus ▸ hc.runtime))
  · rw [hruntime]
    exact h.custody (Protocol.ActiveTurn.of_same hb hs.symm hstatus.symm)

/-- Everything the shape of a turn depends on is the same. -/
theorem KeepsTurn.of_custody {a b : DurableAgentSession} (hs : SameTurn a b)
    (hstatus : b.runtimeStatus = a.runtimeStatus) (hruntime : b.runtime = a.runtime)
    (haction : b.lifecycleIntentAction = a.lifecycleIntentAction)
    (hintent : b.lifecycleIntentStatus = a.lifecycleIntentStatus) : KeepsTurn a b := by
  refine KeepsTurn.of_intent hs hstatus hruntime (fun h => ?_) ?_
  · rw [hstatus, haction, hintent]
    exact h.stopping
  · rw [StopApplied, StopApplied, haction, hintent]

/-- A turnless session may take any status but the two of a turn. -/
theorem KeepsTurn.of_clear {a b : DurableAgentSession} (hs : SameTurn a b)
    (hclear : a.activeTurnId = "") (hbusy : b.runtimeStatus ≠ .busy)
    (hstopping : b.runtimeStatus = .stopping →
      b.lifecycleIntentAction = .stop ∧ b.lifecycleIntentStatus ≠ .prepared) :
    KeepsTurn a b := by
  refine ⟨fun h => ?_, fun _ hne => absurd hclear hne, fun _ hne => absurd hclear hne⟩
  have hturn := Protocol.ClearTurn.of_same (h.clear hclear) hs hbusy
  exact ⟨Or.inr hturn, hstopping, fun hactive => absurd hturn hactive.not_clear⟩

/-- A change that treats a running turn and a turnless session apart. -/
theorem KeepsTurn.of_cases {a b : DurableAgentSession} (hs : SameTurn a b)
    (hactive : TurnShape a → ActiveTurn a →
      (b.runtimeStatus = .busy ∨ b.runtimeStatus = .stopping) ∧ b.runtime = a.runtime ∧
        (StopApplied b ↔ StopApplied a))
    (hclear : TurnShape a → ClearTurn a → b.runtimeStatus ≠ .busy)
    (hstopping : TurnShape a → b.runtimeStatus = .stopping →
      b.lifecycleIntentAction = .stop ∧ b.lifecycleIntentStatus ≠ .prepared) :
    KeepsTurn a b := by
  refine ⟨fun h => ⟨?_, hstopping h, fun hb => ?_⟩, fun h hne => (hactive h (h.active hne)).2.1,
    fun h hne => (hactive h (h.active hne)).2.2⟩
  · rcases h.tuple with ha | hc
    · refine Or.inl ⟨hs.turnId ▸ ha.turnId, (hactive h ha).1, hs.phase ▸ ha.phase, ?_, ?_,
        hs.cursor ▸ ha.cursor⟩
      · rw [hs.inflight, hs.source]
        exact ha.source
      · rw [hs.source, hs.upTo]
        exact ha.upTo
    · exact Or.inr (Protocol.ClearTurn.of_same hc hs (hclear h hc))
  · have ha := h.active (hs.turnId ▸ hb.turnId)
    rw [(hactive h ha).2.1]
    exact h.custody ha

variable [UuidSource]

/-! ## Publishing -/

/-- The transaction appended these events, and drew fresh ids for them. -/
structure Publishes (s : Store) (added : List RoomEvent) (s' : Store) : Prop where
  store : s' = { s with events := s.events ++ added, uuids := s'.uuids }
  fresh : Fresh s.events s.uuids added s'.uuids
  quiet : ∀ e ∈ added, Quiet e

theorem Publishes.refl (s : Store) : Publishes s [] s :=
  ⟨by rw [List.append_nil], Fresh.none (Nat.le_refl _), by simp⟩

theorem Publishes.trans {s t u : Store} {a b : List RoomEvent} (h : Publishes s a t)
    (h' : Publishes t b u) : Publishes s (a ++ b) u := by
  have hstore := h.store
  have hevents : t.events = s.events ++ a := by rw [hstore]
  refine ⟨?_, ?_, ?_⟩
  · rw [h'.store, hevents, hstore, List.append_assoc]
  · have hfresh := h'.fresh
    rw [hevents] at hfresh
    exact h.fresh.append hfresh
  · intro e he
    rcases List.mem_append.mp he with he | he
    · exact h.quiet e he
    · exact h'.quiet e he

theorem Publishes.core {s s' : Store} {added : List RoomEvent} (h : Publishes s added s') :
    coreOf s' = { coreOf s with events := s.events ++ added, uuids := s'.uuids } := by
  conv_lhs => rw [h.store]
  rfl

theorem publishes_draw (s : Store) : Publishes s [] { s with uuids := s.uuids + 1 } :=
  ⟨by simp, Fresh.none (Nat.le_succ _), by simp⟩

theorem publishes_publish (s : Store) {event : RoomEvent}
    (hid : event.id = UuidSource.newV4 s.uuids) (hseq : event.seq = nextSeq s.events)
    (hquiet : Quiet event) : Publishes s [event] (s.publish event) := by
  refine ⟨rfl, ?_, ?_⟩
  · exact Fresh.single (Nat.le_refl _) (Nat.lt_succ_self _) hid (Nat.le_of_eq hseq.symm)
  · intro e he
    rw [List.mem_singleton.mp he]
    exact hquiet

/-- The internal events that end no turn. -/
theorem publishes_internalEvent {session : DurableAgentSession} {eventType : String}
    {actorIsAgent : Bool} {content : Option String} {extra : EventExtra} {now : Nat}
    {e : RoomEvent} {s s' : Store}
    (h : Commits (internalEvent session eventType actorIsAgent content extra now) s e s')
    (htype : eventType ≠ "turn_finished") (hkept : extra.messageDeleted = none) :
    Publishes s [e] s' := by
  obtain ⟨rfl, rfl⟩ := commits_internalEvent.mp h
  refine publishes_publish s rfl rfl ⟨htype, ?_⟩
  show (extra.messageDeleted == some true) = false
  rw [hkept]
  rfl

theorem publishes_errorEvent {session : DurableAgentSession}
    {turnId errorCode message : String} {now : Nat} {e : RoomEvent} {s s' : Store}
    (h : Commits (errorEvent session turnId errorCode message now) s e s') :
    Publishes s [e] s' :=
  publishes_internalEvent h (by decide) rfl

theorem publishes_sessionStateEvent {session : DurableAgentSession} {now : Nat}
    {e : RoomEvent} {s s' : Store} (h : Commits (sessionStateEvent session now) s e s') :
    Publishes s [e] s' :=
  publishes_internalEvent h (by decide) rfl

theorem publishes_appendSessionEvent {principal : AuthenticatedPrincipal}
    {session : DurableAgentSession} {eventType : String} {content : Option String}
    {extra : EventExtra} {now : Nat} {e : RoomEvent} {s s' : Store}
    (h : Commits (appendSessionEvent principal session eventType content extra now) s e s')
    (htype : eventType ≠ "turn_finished") (hkept : extra.messageDeleted = none) :
    Publishes s [e] s' := by
  obtain ⟨rfl, rfl⟩ := commits_appendSessionEvent.mp h
  refine publishes_publish s rfl rfl ⟨htype, ?_⟩
  show (extra.messageDeleted == some true) = false
  rw [hkept]
  rfl

theorem publishes_appendStateEvent {principal : AuthenticatedPrincipal}
    {session : DurableAgentSession} {now : Nat} {e : RoomEvent} {s s' : Store}
    (h : Commits (appendStateEvent principal session now) s e s') : Publishes s [e] s' :=
  publishes_appendSessionEvent h (by decide) rfl

theorem publishes_appendErrorEvent {principal : AuthenticatedPrincipal}
    {session : DurableAgentSession} {errorCode message : String} {now : Nat} {e : RoomEvent}
    {s s' : Store}
    (h : Commits (appendErrorEvent principal session errorCode message now) s e s') :
    Publishes s [e] s' :=
  publishes_appendSessionEvent h (by decide) rfl

/-! ## Moves -/

variable [CaseFold] {P : Permit}

theorem Publishes.path {s s' : Store} {added : List RoomEvent} (h : Publishes s added s') :
    Path P (coreOf s) (coreOf s') := by
  rw [h.core]
  exact Relation.ReflTransGen.single (Move.log added s'.uuids h.fresh h.quiet)

omit [UuidSource] [CaseFold] in
theorem coreOf_saveSession {s s' : Store} {a : DurableAgentSession} {u : Unit}
    (h : Commits (saveSession a) s u s') :
    coreOf s' = { coreOf s with sessions := (coreOf s).sessions.insert a.sessionId a } := by
  obtain ⟨-, rfl⟩ := commits_saveSession.mp h
  rfl

/-- Saving a changed session is a move. -/
theorem path_saveSession {s s' : Store} {a b : DurableAgentSession} {u : Unit}
    (h : Commits (saveSession b) s u s')
    (hstored : s.sessions.lookup a.sessionId = some a)
    (hchange : SessionChange P (coreOf s) a b) : Path P (coreOf s) (coreOf s') := by
  obtain ⟨-, rfl⟩ := commits_saveSession.mp h
  refine Relation.ReflTransGen.single (Move.session a b _ hstored hchange ?_)
  rw [hchange.identity.1]
  exact Table.sets_insert s.sessions a.sessionId b

theorem path_saveTouch {s s' : Store} {a b : DurableAgentSession} {u : Unit}
    (h : Commits (saveSession b) s u s')
    (hstored : s.sessions.lookup a.sessionId = some a) (hsame : SameTurn a b)
    (hkeeps : P.careful → KeepsTurn a b) : Path P (coreOf s) (coreOf s') :=
  path_saveSession h hstored (.touch b hsame hkeeps)

/-- Saving a session with the same turn, status, runtime and intent. -/
theorem path_saveCustody {s s' : Store} {a b : DurableAgentSession} {u : Unit}
    (h : Commits (saveSession b) s u s') (hstored : s.sessions.lookup a.sessionId = some a)
    (hsame : SameTurn a b) (hstatus : b.runtimeStatus = a.runtimeStatus)
    (hruntime : b.runtime = a.runtime)
    (haction : b.lifecycleIntentAction = a.lifecycleIntentAction)
    (hintent : b.lifecycleIntentStatus = a.lifecycleIntentStatus) :
    Path P (coreOf s) (coreOf s') :=
  path_saveTouch h hstored hsame fun _ =>
    KeepsTurn.of_custody hsame hstatus hruntime haction hintent

end Paths

end AgentsAssemble.System
