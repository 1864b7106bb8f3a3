import AgentsAssemble.Persistence.State

/-!
# Rows

Loading and saving the rows of the room, the event log and fresh identifiers.
Each function has one lemma that says what its committed run returned and how
it left the store.
-/

namespace AgentsAssemble.Persistence

open Foundation Domain Tx

/-! ## Identifiers and sequences -/

section Uuid

variable [UuidSource]

/-- `Uuid::new_v4().to_string()`. -/
def drawUuid : RoomTx String :=
  fun s => .ok (UuidSource.newV4 s.uuids, { s with uuids := s.uuids + 1 })

@[simp] theorem commits_drawUuid {s s' : Store} {id : String} :
    Commits drawUuid s id s' ↔
      id = UuidSource.newV4 s.uuids ∧ s' = { s with uuids := s.uuids + 1 } := by
  constructor
  · intro h
    have h' : (Except.ok (UuidSource.newV4 s.uuids, { s with uuids := s.uuids + 1 }) :
      Except PersistenceError (String × Store)) = .ok (id, s') := h
    simp only [Except.ok.injEq, Prod.mk.injEq] at h'
    exact ⟨h'.1.symm, h'.2.symm⟩
  · rintro ⟨rfl, rfl⟩
    rfl

@[simp] theorem rejects_drawUuid {s : Store} {e : PersistenceError} :
    Rejects drawUuid s e ↔ False := by
  constructor
  · intro h
    have h' : (Except.ok (UuidSource.newV4 s.uuids, { s with uuids := s.uuids + 1 }) :
      Except PersistenceError (String × Store)) = .error e := h
    cases h'
  · exact False.elim

end Uuid

/-- `COALESCE(MAX(seq), 0) + 1`. -/
def nextSeq (events : List RoomEvent) : Nat :=
  (events.map RoomEvent.seq).foldr max 0 + 1

def nextSequence : RoomTx Nat :=
  read fun s => nextSeq s.events

theorem seq_lt_nextSeq {events : List RoomEvent} {event : RoomEvent} (h : event ∈ events) :
    event.seq < nextSeq events := by
  induction events with
  | nil => cases h
  | cons head tail ih =>
      have hfold : nextSeq (head :: tail) = max head.seq (nextSeq tail - 1) + 1 := rfl
      rw [hfold]
      rcases List.mem_cons.mp h with rfl | h
      · omega
      · have := ih h
        omega

/-! ## Room, participants and sessions -/

def loadRoomWithSettings : RoomTx (Room × RoomSettings) :=
  read fun s => (s.room, s.settings)

def loadActiveRoom : RoomTx (Room × RoomSettings) := do
  let (room, settings) ← loadRoomWithSettings
  require (room.status = .active)
    (rejected "room_inactive" "Closed or archived rooms do not accept commands.")
  pure (room, settings)

@[simp] theorem commits_loadActiveRoom {s s' : Store} {r : Room × RoomSettings} :
    Commits loadActiveRoom s r s' ↔
      s.room.status = .active ∧ r = (s.room, s.settings) ∧ s' = s := by
  simp only [loadActiveRoom, loadRoomWithSettings, commits_bind, commits_read, commits_require,
    commits_pure]
  constructor
  · rintro ⟨a, s₁, ⟨rfl, rfl⟩, _, s₂, ⟨hactive, rfl⟩, rfl, rfl⟩
    exact ⟨hactive, rfl, rfl⟩
  · rintro ⟨hactive, rfl, rfl⟩
    exact ⟨_, _, ⟨rfl, rfl⟩, (), _, ⟨hactive, rfl⟩, rfl, rfl⟩

def loadParticipant (participantId : String) : RoomTx Participant := do
  let participants ← read Store.participants
  orReject (participants.lookup participantId) .participantMissing

@[simp] theorem commits_loadParticipant {id : String} {p : Participant} {s s' : Store} :
    Commits (loadParticipant id) s p s' ↔ s.participants.lookup id = some p ∧ s' = s := by
  simp [loadParticipant, commits_bind, and_comm]

/-- The joined member of the active room behind a principal. -/
def loadActiveParticipant (participantId : String) : RoomTx Participant := do
  let _ ← loadActiveRoom
  let participant ← loadParticipant participantId
  require (participant.participantId = participantId ∧ participant.status = .joined)
    (rejected "session_revoked" "This room session has ended.")
  pure participant

@[simp] theorem commits_loadActiveParticipant {id : String} {p : Participant} {s s' : Store} :
    Commits (loadActiveParticipant id) s p s' ↔
      s.room.status = .active ∧ s.participants.lookup id = some p ∧
        (p.participantId = id ∧ p.status = .joined) ∧ s' = s := by
  simp only [loadActiveParticipant, commits_bind, commits_loadActiveRoom,
    commits_loadParticipant, commits_require, commits_pure]
  constructor
  · rintro ⟨r, s₁, ⟨hroom, rfl, rfl⟩, q, s₂, ⟨hq, rfl⟩, _, s₃, ⟨hmember, rfl⟩, rfl, rfl⟩
    exact ⟨hroom, hq, hmember, rfl⟩
  · rintro ⟨hroom, hp, hmember, rfl⟩
    exact ⟨_, _, ⟨hroom, rfl, rfl⟩, p, _, ⟨hp, rfl⟩, (), _, ⟨hmember, rfl⟩, rfl, rfl⟩

/-- Updates an existing participant row. -/
def saveParticipantExact (participantId : String) (participant : Participant) :
    RoomTx Unit := do
  let participants ← read Store.participants
  require (participants.lookup participantId ≠ none) .participantMissing
  write fun s => { s with participants := s.participants.insert participantId participant }

@[simp] theorem commits_saveParticipantExact {id : String} {p : Participant} {u : Unit}
    {s s' : Store} :
    Commits (saveParticipantExact id p) s u s' ↔
      s.participants.lookup id ≠ none ∧
        s' = { s with participants := s.participants.insert id p } := by
  simp [saveParticipantExact, commits_bind]

def loadSession (sessionId : String) : RoomTx DurableAgentSession := do
  let sessions ← read Store.sessions
  let session ← orReject (sessions.lookup sessionId)
    (rejected "not_found" ("Agent session " ++ sessionId ++ " was not found."))
  require (session.sessionId = sessionId ∧ session.participantId = sessionId)
    (rejected "stored_agent_identity_invalid"
      "Stored Agent Session identity differs from its row.")
  pure session

@[simp] theorem commits_loadSession {id : String} {a : DurableAgentSession} {s s' : Store} :
    Commits (loadSession id) s a s' ↔
      s.sessions.lookup id = some a ∧ a.sessionId = id ∧ a.participantId = id ∧ s' = s := by
  simp only [loadSession, commits_bind, commits_read, commits_orReject, commits_require,
    commits_pure]
  constructor
  · rintro ⟨t, s₁, ⟨rfl, rfl⟩, b, s₂, ⟨hb, rfl⟩, _, s₃, ⟨⟨h₁, h₂⟩, rfl⟩, rfl, rfl⟩
    exact ⟨hb, h₁, h₂, rfl⟩
  · rintro ⟨hb, h₁, h₂, rfl⟩
    exact ⟨_, _, ⟨rfl, rfl⟩, a, _, ⟨hb, rfl⟩, (), _, ⟨⟨h₁, h₂⟩, rfl⟩, rfl, rfl⟩

/-- Updates an existing session row. -/
def saveSession (session : DurableAgentSession) : RoomTx Unit := do
  let sessions ← read Store.sessions
  require (sessions.lookup session.sessionId ≠ none)
    (rejected "not_found" "Agent session was not found.")
  write fun s => { s with sessions := s.sessions.insert session.sessionId session }

@[simp] theorem commits_saveSession {a : DurableAgentSession} {u : Unit} {s s' : Store} :
    Commits (saveSession a) s u s' ↔
      s.sessions.lookup a.sessionId ≠ none ∧
        s' = { s with sessions := s.sessions.insert a.sessionId a } := by
  simp [saveSession, commits_bind]

/-- The sessions of the room by ascending id, at most 64. -/
def loadRoomSessions : RoomTx (List DurableAgentSession) := do
  let sessions ← read Store.sessions
  let rows := (sessions.sorted (· ≤ ·)).map Prod.snd
  require (rows.length ≤ 64)
    (rejected "agent_session_capacity" "This room exceeds its Agent Session capacity.")
  pure rows

@[simp] theorem commits_loadRoomSessions {as : List DurableAgentSession} {s s' : Store} :
    Commits loadRoomSessions s as s' ↔
      as = (s.sessions.sorted (· ≤ ·)).map Prod.snd ∧ as.length ≤ 64 ∧ s' = s := by
  simp only [loadRoomSessions, commits_bind, commits_read, commits_require, commits_pure]
  constructor
  · rintro ⟨t, s₁, ⟨rfl, rfl⟩, _, s₂, ⟨h, rfl⟩, rfl, rfl⟩
    exact ⟨rfl, h, rfl⟩
  · rintro ⟨rfl, h, rfl⟩
    exact ⟨_, _, ⟨rfl, rfl⟩, (), _, ⟨h, rfl⟩, rfl, rfl⟩

/-! ## The event log -/

/-- The stored event with this id; two rows with one id are corrupt state. -/
def findEvent (events : List RoomEvent) (eventId : String) :
    Except PersistenceError (Option RoomEvent) :=
  let rows := events.filter fun event => event.id == eventId
  if rows.length ≤ 1 then
    .ok rows.head?
  else
    .error (rejected "invalid_state" "Stored room event identity is not unique.")

def loadEvent (eventId : String) : RoomTx (Option RoomEvent) := do
  let found ← read fun s => findEvent s.events eventId
  ofResult found

@[simp] theorem commits_loadEvent {id : String} {e : Option RoomEvent} {s s' : Store} :
    Commits (loadEvent id) s e s' ↔ findEvent s.events id = .ok e ∧ s' = s := by
  simp only [loadEvent, commits_bind, commits_read, commits_ofResult]
  constructor
  · rintro ⟨found, s₁, ⟨rfl, rfl⟩, h, rfl⟩
    exact ⟨h, rfl⟩
  · rintro ⟨h, rfl⟩
    exact ⟨_, _, ⟨rfl, rfl⟩, h, rfl⟩

theorem findEvent_some {events : List RoomEvent} {id : String} {e : RoomEvent}
    (h : findEvent events id = .ok (some e)) : e ∈ events ∧ e.id = id := by
  simp only [findEvent] at h
  split at h
  · simp only [Except.ok.injEq] at h
    have hmem := List.mem_of_head? h
    simpa using hmem
  · cases h

/-- Under distinct ids the lookup finds every stored event. -/
theorem findEvent_of_mem {events : List RoomEvent} {e : RoomEvent}
    (hnodup : (events.map RoomEvent.id).Nodup) (hmem : e ∈ events) :
    findEvent events e.id = .ok (some e) := by
  have hfilter : events.filter (fun event => event.id == e.id) = [e] := by
    induction events with
    | nil => cases hmem
    | cons head tail ih =>
        rw [List.map_cons, List.nodup_cons] at hnodup
        obtain ⟨hhead, htail⟩ := hnodup
        rcases List.mem_cons.mp hmem with rfl | hmem
        · have hrest : tail.filter (fun event => event.id == e.id) = [] := by
            rw [List.filter_eq_nil_iff]
            intro event hevent
            simp only [beq_iff_eq]
            intro heq
            exact hhead (heq ▸ List.mem_map_of_mem hevent)
          simp [hrest]
        · have hne : head.id ≠ e.id := fun heq => hhead (heq ▸ List.mem_map_of_mem hmem)
          simp [hne, ih htail hmem]
  simp [findEvent, hfilter]

def replaceEvent (event : RoomEvent) : RoomTx Unit := do
  let events ← read Store.events
  require (∃ stored ∈ events, stored.seq = event.seq)
    (rejected "invalid_state" "Stored room event disappeared during its mutation.")
  write fun s => { s with
    events := s.events.map fun stored => if stored.seq = event.seq then event else stored }

@[simp] theorem commits_replaceEvent {e : RoomEvent} {u : Unit} {s s' : Store} :
    Commits (replaceEvent e) s u s' ↔
      (∃ stored ∈ s.events, stored.seq = e.seq) ∧
        s' = { s with
          events := s.events.map fun stored => if stored.seq = e.seq then e else stored } := by
  simp [replaceEvent, commits_bind]

def insertEvent (event : RoomEvent) : RoomTx Unit := do
  let events ← read Store.events
  require (0 < event.seq ∧ ∀ stored ∈ events, stored.seq ≠ event.seq)
    (constraintViolation "room_events")
  write fun s => { s with events := s.events ++ [event] }

@[simp] theorem commits_insertEvent {e : RoomEvent} {u : Unit} {s s' : Store} :
    Commits (insertEvent e) s u s' ↔
      (0 < e.seq ∧ ∀ stored ∈ s.events, stored.seq ≠ e.seq) ∧
        s' = { s with events := s.events ++ [e] } := by
  simp [insertEvent, commits_bind]

section Internal

variable [UuidSource]

/-- The store after one more event has been appended under a fresh id. -/
def Store.publish (s : Store) (event : RoomEvent) : Store :=
  { s with
    events := s.events ++ [event]
    uuids := s.uuids + 1 }

/-- An event about an agent session, published by the room or by the agent itself. -/
def internalEventOf (s : Store) (session : DurableAgentSession) (eventType : String)
    (actorIsAgent : Bool) (content : Option String) (extra : EventExtra) (now : Nat) :
    RoomEvent :=
  let participantId := if actorIsAgent then session.participantId else "room-system"
  let participantType := if actorIsAgent then "agent" else "system"
  { id := UuidSource.newV4 s.uuids
    seq := nextSeq s.events
    createdAt := now
    eventType
    actor := ⟨participantId, participantType⟩
    participantId := some session.participantId
    participantType := some "agent"
    actorId := some participantId
    actorType := some participantType
    displayName := some session.displayName
    content
    messageKind := if eventType = "message_final" then some "message" else none
    extra }

def internalEvent (session : DurableAgentSession) (eventType : String)
    (actorIsAgent : Bool) (content : Option String) (extra : EventExtra) (now : Nat) :
    RoomTx RoomEvent := do
  let event ← read fun s => internalEventOf s session eventType actorIsAgent content extra now
  let _ ← drawUuid
  insertEvent event
  pure event

@[simp] theorem commits_internalEvent {session : DurableAgentSession} {eventType : String}
    {actorIsAgent : Bool} {content : Option String} {extra : EventExtra} {now : Nat}
    {e : RoomEvent} {s s' : Store} :
    Commits (internalEvent session eventType actorIsAgent content extra now) s e s' ↔
      e = internalEventOf s session eventType actorIsAgent content extra now ∧
        s' = s.publish e := by
  simp only [internalEvent, commits_bind, commits_read, commits_drawUuid, commits_insertEvent,
    commits_pure, Store.publish]
  constructor
  · rintro ⟨e', s₁, ⟨rfl, rfl⟩, id, s₂, ⟨rfl, rfl⟩, _, s₃, ⟨-, rfl⟩, rfl, rfl⟩
    exact ⟨rfl, rfl⟩
  · rintro ⟨rfl, rfl⟩
    refine ⟨_, _, ⟨rfl, rfl⟩, _, _, ⟨rfl, rfl⟩, (), _, ⟨⟨?_, ?_⟩, rfl⟩, rfl, rfl⟩
    · simp [internalEventOf, nextSeq]
    · intro stored hstored
      exact Nat.ne_of_lt (seq_lt_nextSeq hstored)

end Internal

/-! ## Executions and effects -/

def maxI64 : Nat := 2 ^ 63 - 1

/-- `i64::try_from`, with the error of the calling module. -/
def generationI64 (generation : Nat) (error : PersistenceError) : RoomTx Unit :=
  require (generation ≤ maxI64) error

@[simp] theorem commits_generationI64 {generation : Nat} {error : PersistenceError} {u : Unit}
    {s s' : Store} :
    Commits (generationI64 generation error) s u s' ↔ generation ≤ maxI64 ∧ s' = s :=
  commits_require

def invalidExecution : PersistenceError :=
  rejected "stored_turn_execution_invalid"
    "Stored provider turn execution authority is invalid."

def staleExecution : PersistenceError :=
  rejected "stale_provider_turn"
    "Provider turn execution authority changed before this operation."

def invalidEffect : PersistenceError :=
  rejected "stored_turn_effect_invalid" "Stored provider turn effect authority is invalid."

def staleEffect : PersistenceError :=
  rejected "stale_provider_turn_effect"
    "Provider turn effect authority changed before this operation."

def unresolvedEffect : PersistenceError :=
  .commandUnresolved "provider_turn_effect_unresolved"
    "The exact provider turn effect is owned by recovery or remains unresolved."

def loadExecutionIn (sessionId : String) (turnGeneration : Nat) :
    RoomTx ProviderTurnExecution := do
  generationI64 turnGeneration invalidExecution
  let executions ← read Store.executions
  let row ← orReject (executions.lookup (sessionId, turnGeneration)) staleExecution
  pure { toExecutionRow := row, sessionId, turnGeneration }

@[simp] theorem commits_loadExecutionIn {sid : String} {gen : Nat}
    {x : ProviderTurnExecution} {s s' : Store} :
    Commits (loadExecutionIn sid gen) s x s' ↔
      gen ≤ maxI64 ∧ s.executions.lookup (sid, gen) = some x.toExecutionRow ∧
        x.sessionId = sid ∧ x.turnGeneration = gen ∧ s' = s := by
  simp only [loadExecutionIn, generationI64, commits_bind, commits_read, commits_require,
    commits_orReject, commits_pure]
  constructor
  · rintro ⟨_, s₁, ⟨hgen, rfl⟩, t, s₂, ⟨rfl, rfl⟩, row, s₃, ⟨hrow, rfl⟩, rfl, rfl⟩
    exact ⟨hgen, hrow, rfl, rfl, rfl⟩
  · rintro ⟨hgen, hrow, rfl, rfl, rfl⟩
    exact ⟨(), _, ⟨hgen, rfl⟩, _, _, ⟨rfl, rfl⟩, _, _, ⟨hrow, rfl⟩, rfl, rfl⟩

/-- The join of an effect with the custody columns of its execution. -/
def joinEffect (key : TurnKey) (effect : EffectRow) (execution : ExecutionRow) :
    ProviderTurnInterruptEffect :=
  { sessionId := key.1
    turnGeneration := key.2
    effectId := effect.effectId
    cause := effect.cause
    phase := effect.phase
    executionId := execution.executionId
    participantId := execution.participantId
    turnId := execution.turnId
    startDispatchNonce := execution.startDispatchNonce
    runtime := execution.runtime
    dispatchNonce := effect.dispatchNonce }

def effectOf (s : Store) (key : TurnKey) : Option ProviderTurnInterruptEffect := do
  let effect ← s.effects.lookup key
  let execution ← s.executions.lookup key
  pure (joinEffect key effect execution)

def loadEffectIn (sessionId : String) (turnGeneration : Nat) :
    RoomTx ProviderTurnInterruptEffect := do
  generationI64 turnGeneration invalidEffect
  let effect ← read fun s => effectOf s (sessionId, turnGeneration)
  orReject effect staleEffect

@[simp] theorem commits_loadEffectIn {sid : String} {gen : Nat}
    {x : ProviderTurnInterruptEffect} {s s' : Store} :
    Commits (loadEffectIn sid gen) s x s' ↔
      gen ≤ maxI64 ∧ effectOf s (sid, gen) = some x ∧ s' = s := by
  simp only [loadEffectIn, generationI64, commits_bind, commits_read, commits_require,
    commits_orReject]
  constructor
  · rintro ⟨_, s₁, ⟨hgen, rfl⟩, o, s₂, ⟨rfl, rfl⟩, hx, rfl⟩
    exact ⟨hgen, hx, rfl⟩
  · rintro ⟨hgen, hx, rfl⟩
    exact ⟨(), _, ⟨hgen, rfl⟩, _, _, ⟨rfl, rfl⟩, hx, rfl⟩

def loadOptionalEffectIn (sessionId : String) (turnGeneration : Nat) :
    RoomTx (Option ProviderTurnInterruptEffect) := do
  generationI64 turnGeneration invalidEffect
  let effects ← read Store.effects
  match effects.lookup (sessionId, turnGeneration) with
  | none => pure none
  | some _ => some <$> loadEffectIn sessionId turnGeneration

theorem commits_loadOptionalEffectIn {sid : String} {gen : Nat}
    {x : Option ProviderTurnInterruptEffect} {s s' : Store}
    (h : Commits (loadOptionalEffectIn sid gen) s x s') :
    s' = s ∧ gen ≤ maxI64 ∧ ((x = none ∧ s.effects.lookup (sid, gen) = none) ∨
      ∃ effect, x = some effect ∧ effectOf s (sid, gen) = some effect) := by
  simp only [loadOptionalEffectIn, commits_bind, commits_generationI64, commits_read] at h
  obtain ⟨_, s, ⟨hgen, rfl⟩, _, _, ⟨rfl, rfl⟩, h⟩ := h
  split at h
  · rename_i hnone
    obtain ⟨rfl, rfl⟩ := commits_pure.mp h
    exact ⟨rfl, hgen, Or.inl ⟨rfl, hnone⟩⟩
  · obtain ⟨effect, heffect, rfl⟩ := commits_map.mp h
    obtain ⟨-, heffect, rfl⟩ := commits_loadEffectIn.mp heffect
    exact ⟨rfl, hgen, Or.inr ⟨effect, rfl, heffect⟩⟩

/-- An effect is read with the custody of its execution. -/
theorem effectOf_eq_some {s : Store} {key : TurnKey} {x : ProviderTurnInterruptEffect}
    (h : effectOf s key = some x) :
    ∃ effect execution, s.effects.lookup key = some effect ∧
      s.executions.lookup key = some execution ∧ x = joinEffect key effect execution := by
  obtain ⟨effect, heffect, h⟩ := Option.bind_eq_some_iff.mp h
  obtain ⟨execution, hexecution, h⟩ := Option.bind_eq_some_iff.mp h
  exact ⟨effect, execution, heffect, hexecution, (Option.some.inj h).symm⟩

/-- An interrupt effect of this turn is not finalized yet. -/
def hasUnfinalizedEffect (s : Store) (key : TurnKey) : Bool :=
  match s.effects.lookup key with
  | none => false
  | some effect => effect.phase != .finalized

/-- Updates the one execution row under `key` that satisfies `guard`. -/
def updateExecution (key : TurnKey) (guard : ExecutionRow → Bool)
    (update : ExecutionRow → ExecutionRow) (error : PersistenceError) : RoomTx Unit := do
  let executions ← read Store.executions
  let row ← orReject ((executions.lookup key).filter guard) error
  write fun s => { s with executions := s.executions.insert key (update row) }

@[simp] theorem commits_updateExecution {key : TurnKey} {guard : ExecutionRow → Bool}
    {update : ExecutionRow → ExecutionRow} {error : PersistenceError} {u : Unit}
    {s s' : Store} :
    Commits (updateExecution key guard update error) s u s' ↔
      ∃ row, s.executions.lookup key = some row ∧ guard row = true ∧
        s' = { s with executions := s.executions.insert key (update row) } := by
  simp only [updateExecution, commits_bind, commits_read, commits_orReject, commits_write,
    Option.filter_eq_some_iff]
  constructor
  · rintro ⟨t, s₁, ⟨rfl, rfl⟩, row, s₂, ⟨⟨hrow, hguard⟩, rfl⟩, rfl⟩
    exact ⟨row, hrow, hguard, rfl⟩
  · rintro ⟨row, hrow, hguard, rfl⟩
    exact ⟨_, _, ⟨rfl, rfl⟩, row, _, ⟨⟨hrow, hguard⟩, rfl⟩, rfl⟩

/-- Updates the one effect row with this id that satisfies `guard`. -/
def updateEffect (effectId : String) (guard : EffectRow → Bool)
    (update : EffectRow → EffectRow) (error : PersistenceError) : RoomTx Unit := do
  let effects ← read Store.effects
  let (key, row) ← orReject
    ((effects.find? fun _ row => row.effectId == effectId).filter fun entry => guard entry.2)
    error
  write fun s => { s with effects := s.effects.insert key (update row) }

theorem commits_updateEffect {effectId : String} {guard : EffectRow → Bool}
    {update : EffectRow → EffectRow} {error : PersistenceError} {u : Unit} {s s' : Store}
    (h : Commits (updateEffect effectId guard update error) s u s') :
    ∃ key row, s.effects.lookup key = some row ∧ row.effectId = effectId ∧
      guard row = true ∧ s' = { s with effects := s.effects.insert key (update row) } := by
  simp only [updateEffect, commits_bind, commits_read, commits_orReject,
    Option.filter_eq_some_iff] at h
  obtain ⟨t, s₁, ⟨rfl, rfl⟩, ⟨key, row⟩, s₂, ⟨⟨hfind, hguard⟩, rfl⟩, hwrite⟩ := h
  obtain ⟨hrow, hid⟩ := Table.find?_eq_some hfind
  exact ⟨key, row, hrow, by simpa using hid, hguard, commits_write.mp hwrite⟩

/-- The one effect row with this id is updated where it satisfies the guard. -/
theorem updateEffect_commits {key : TurnKey} {row : EffectRow} {guard : EffectRow → Bool}
    {s : Store} (update : EffectRow → EffectRow) (error : PersistenceError)
    (hrow : s.effects.lookup key = some row) (hguard : guard row = true)
    (hunique : ∀ k r, s.effects.lookup k = some r → r.effectId = row.effectId → k = key) :
    Commits (updateEffect row.effectId guard update error) s ()
      { s with effects := s.effects.insert key (update row) } := by
  have hfind := Table.find?_of_unique (p := fun _ r => r.effectId == row.effectId) hrow
    (beq_self_eq_true _) fun k r hr hid => hunique k r hr (beq_iff_eq.mp hid)
  simp only [updateEffect, commits_bind, commits_read, commits_orReject,
    Option.filter_eq_some_iff]
  exact ⟨_, s, ⟨rfl, rfl⟩, (key, row), s, ⟨⟨hfind, hguard⟩, rfl⟩, commits_write.mpr rfl⟩

end AgentsAssemble.Persistence
