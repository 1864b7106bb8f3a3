import Mathlib.Algebra.Order.Ring.Nat
import Mathlib.Tactic.Common
import Mathlib.Data.List.Nodup

/-!
# Agent Sessions

The durable session row, with the public fields and the private ones side by
side.  `activeTurnAuthority` is the check every scheduler transaction makes
before it trusts the turn fields of a session.
-/

namespace AgentsAssemble.Domain

inductive AgentSessionStatus
  | available
  | attached
  | unavailable
  | detached
  | error
  deriving DecidableEq, Repr

inductive AgentRuntimeStatus
  | stopped
  | starting
  | idle
  | busy
  | paused
  | stopping
  | disconnected
  | recovering
  | error
  deriving DecidableEq, Repr

inductive AgentTurnPhase
  | none
  | thinking
  | streaming
  deriving DecidableEq, Repr

inductive AgentLifecycleAction
  | none
  | start
  | stop
  deriving DecidableEq, Repr

inductive AgentLifecycleIntentStatus
  | none
  | prepared
  | effectInflight
  | unconfirmed
  | effectApplied
  deriving DecidableEq, Repr

inductive RoomInputDeliveryKind
  | orderedObservation
  | ambientObservation
  deriving DecidableEq, Repr

structure QueuedRoomInput where
  eventId : String
  deliveryKind : RoomInputDeliveryKind
  deriving DecidableEq, Repr

inductive AgentRuntimeCustody
  | server
  | external
  deriving DecidableEq, Repr

/-- Handle, owner and lease of the runtime process behind a session. -/
structure RuntimeIdentity where
  handleId : String
  ownerId : String
  leaseToken : String
  deriving DecidableEq, Repr

def RuntimeIdentity.none : RuntimeIdentity := ⟨"", "", ""⟩

/-- Handle, owner and lease are all present. -/
def RuntimeIdentity.Complete (runtime : RuntimeIdentity) : Prop :=
  runtime.handleId ≠ "" ∧ runtime.ownerId ≠ "" ∧ runtime.leaseToken ≠ ""

instance (runtime : RuntimeIdentity) : Decidable runtime.Complete :=
  inferInstanceAs (Decidable (_ ∧ _ ∧ _))

/-- The stored Agent Session.  Sequence cursors are `0` when unset, as in the row. -/
structure DurableAgentSession where
  sessionId : String
  participantId : String
  displayName : String
  status : AgentSessionStatus := .available
  runtimeStatus : AgentRuntimeStatus := .stopped
  enabled : Bool := false
  runtimeKind : String
  externalOwned : Bool := false
  processOwnership : String := "server"
  personaCardId : String := ""
  lastSeenEventId : String := ""
  lastSeenSeq : Nat := 0
  lastProviderSyncEventId : String := ""
  lastProviderSyncSeq : Nat := 0
  bootstrapCutoffSeq : Nat := 0
  turnCount : Nat := 0
  activeTurnId : String := ""
  turnPhase : AgentTurnPhase := .none
  lastError : String := ""
  lastErrorCode : String := ""
  recoveryRequired : Bool := false
  providerSessionActive : Bool := false
  providerSessionReused : Bool := false
  runtimeProfileKey : String
  runtimeProfileVersion : Nat
  providerSessionId : String := ""
  runtime : RuntimeIdentity := .none
  turnGeneration : Nat := 0
  scheduleRequested : Bool := false
  pendingInputs : List QueuedRoomInput := []
  inflightInputs : List QueuedRoomInput := []
  activeSourceEventId : String := ""
  inputUpToEventId : String := ""
  inputUpToSeq : Nat := 0
  lifecycleIntentAction : AgentLifecycleAction := .none
  lifecycleIntentId : String := ""
  lifecycleIntentStatus : AgentLifecycleIntentStatus := .none
  deriving DecidableEq, Repr

/-- What the creation command knows about a new agent. -/
structure AgentSessionDraft where
  agentId : String
  displayName : String
  runtimeKind : String
  personaCardId : String
  runtimeProfileKey : String
  deriving DecidableEq, Repr

def currentRuntimeProfileVersion : Nat := 5

def AgentSessionDraft.initialSession (draft : AgentSessionDraft)
    (custody : AgentRuntimeCustody) : DurableAgentSession :=
  { sessionId := draft.agentId
    participantId := draft.agentId
    displayName := draft.displayName
    runtimeKind := draft.runtimeKind
    externalOwned := custody == .external
    processOwnership := match custody with
      | .server => "server"
      | .external => "external"
    personaCardId := draft.personaCardId
    runtimeProfileKey := draft.runtimeProfileKey
    runtimeProfileVersion := currentRuntimeProfileVersion }

namespace DurableAgentSession

/-- Every input the session owns, in delivery order. -/
def ownedInputs (session : DurableAgentSession) : List QueuedRoomInput :=
  session.inflightInputs ++ session.pendingInputs

/-- The event ids the session owns, in delivery order. -/
def ownedIds (session : DurableAgentSession) : List String :=
  session.ownedInputs.map QueuedRoomInput.eventId

def lifecycleIntentIsEmpty (session : DurableAgentSession) : Bool :=
  session.lifecycleIntentAction == .none && session.lifecycleIntentId == "" &&
    session.lifecycleIntentStatus == .none

/-- The lifecycle intent is exactly this operation in this status. -/
def HasIntent (session : DurableAgentSession) (action : AgentLifecycleAction)
    (operationId : String) (status : AgentLifecycleIntentStatus) : Prop :=
  session.lifecycleIntentAction = action ∧ session.lifecycleIntentId = operationId ∧
    session.lifecycleIntentStatus = status

instance (session : DurableAgentSession) (action : AgentLifecycleAction)
    (operationId : String) (status : AgentLifecycleIntentStatus) :
    Decidable (session.HasIntent action operationId status) :=
  inferInstanceAs (Decidable (_ ∧ _ ∧ _))

def clearIntent (session : DurableAgentSession) : DurableAgentSession :=
  { session with
    lifecycleIntentAction := .none
    lifecycleIntentId := ""
    lifecycleIntentStatus := .none }

def clearActiveTurnFields (session : DurableAgentSession) : DurableAgentSession :=
  { session with
    activeSourceEventId := ""
    inputUpToEventId := ""
    inputUpToSeq := 0 }

/-- Custody of the process lies with an external attendee. -/
def isExternal (session : DurableAgentSession) : Bool :=
  session.externalOwned && session.processOwnership == "external"

/-- Custody of the process lies with this server. -/
def hasServerCustody (session : DurableAgentSession) : Bool :=
  !session.externalOwned && session.processOwnership == "server"

end DurableAgentSession

/-! ## The turn queue -/

def maxQueuedEventIds : Nat := 256

/-- Merges queue fragments, refusing duplicates, empty ids and overflow. -/
def mergeRoomInputs (values : List QueuedRoomInput) : Option (List QueuedRoomInput) :=
  go [] values
where
  go (merged : List QueuedRoomInput) : List QueuedRoomInput → Option (List QueuedRoomInput)
    | [] => some merged
    | value :: values =>
        if merged.length = maxQueuedEventIds ∨ value.eventId = "" ∨
            value.eventId ∈ merged.map QueuedRoomInput.eventId then
          none
        else
          go (merged ++ [value]) values

def roomInputQueueIsCanonical (values : List QueuedRoomInput) : Bool :=
  (mergeRoomInputs values).isSome

/-- A queue that `mergeRoomInputs` accepts. -/
structure CanonicalQueue (values : List QueuedRoomInput) : Prop where
  bounded : values.length ≤ maxQueuedEventIds
  named : ∀ value ∈ values, value.eventId ≠ ""
  distinct : (values.map QueuedRoomInput.eventId).Nodup

theorem mergeRoomInputs_go {merged values : List QueuedRoomInput}
    (hm : CanonicalQueue merged) :
    (CanonicalQueue (merged ++ values) → mergeRoomInputs.go merged values =
        some (merged ++ values)) ∧
      ∀ out, mergeRoomInputs.go merged values = some out →
        out = merged ++ values ∧ CanonicalQueue (merged ++ values) := by
  induction values generalizing merged with
  | nil =>
      refine ⟨fun _ => by simp [mergeRoomInputs.go], fun out h => ?_⟩
      simp only [mergeRoomInputs.go, Option.some.injEq] at h
      rw [List.append_nil]
      exact ⟨h.symm, hm⟩
  | cons value values ih =>
      by_cases hbad : merged.length = maxQueuedEventIds ∨ value.eventId = "" ∨
          value.eventId ∈ merged.map QueuedRoomInput.eventId
      · refine ⟨fun hc => ?_, fun out h => ?_⟩
        · exfalso
          rcases hbad with hlen | hname | hmem
          · have hb := hc.bounded
            simp only [List.length_append, List.length_cons] at hb
            omega
          · exact hc.named value (by simp) hname
          · have hd := hc.distinct
            rw [List.map_append, List.map_cons, List.nodup_append] at hd
            exact hd.2.2 _ hmem _ (by simp) rfl
        · rw [mergeRoomInputs.go, if_pos hbad] at h
          cases h
      · have hnext : CanonicalQueue (merged ++ [value]) := by
          simp only [not_or] at hbad
          obtain ⟨hlen, hname, hmem⟩ := hbad
          refine ⟨?_, ?_, ?_⟩
          · have hb := hm.bounded
            simp only [List.length_append, List.length_cons, List.length_nil]
            omega
          · intro v hv
            rcases List.mem_append.mp hv with hv | hv
            · exact hm.named v hv
            · rw [List.mem_singleton.mp hv]
              exact hname
          · rw [List.map_append, List.nodup_append]
            refine ⟨hm.distinct, by simp, ?_⟩
            intro a ha b hb hab
            simp only [List.map_cons, List.map_nil, List.mem_singleton] at hb
            exact hmem (hb ▸ hab ▸ ha)
        rw [mergeRoomInputs.go, if_neg hbad]
        have hih := ih hnext
        simpa using hih

theorem mergeRoomInputs_eq_some {values out : List QueuedRoomInput} :
    mergeRoomInputs values = some out ↔ out = values ∧ CanonicalQueue values := by
  have hnil : CanonicalQueue [] := ⟨by simp, by simp, by simp⟩
  obtain ⟨hto, hof⟩ := @mergeRoomInputs_go [] values hnil
  constructor
  · intro h
    simpa using hof out h
  · rintro ⟨rfl, hc⟩
    simpa [mergeRoomInputs] using hto (by simpa using hc)

theorem roomInputQueueIsCanonical_iff {values : List QueuedRoomInput} :
    roomInputQueueIsCanonical values = true ↔ CanonicalQueue values := by
  rw [roomInputQueueIsCanonical, Option.isSome_iff_exists]
  constructor
  · rintro ⟨out, h⟩
    exact (mergeRoomInputs_eq_some.mp h).2
  · intro h
    exact ⟨values, mergeRoomInputs_eq_some.mpr ⟨rfl, h⟩⟩

theorem CanonicalQueue.sublist {values kept : List QueuedRoomInput}
    (h : CanonicalQueue values) (hs : kept.Sublist values) : CanonicalQueue kept :=
  ⟨Nat.le_trans hs.length_le h.bounded, fun v hv => h.named v (hs.subset hv),
    h.distinct.sublist (hs.map _)⟩

/-! ## Turn authority -/

/-- The turn tuple is complete. -/
def DurableAgentSession.turnIsActive (session : DurableAgentSession) : Bool :=
  session.activeTurnId != "" &&
    (session.runtimeStatus == .busy || session.runtimeStatus == .stopping) &&
    (session.turnPhase == .thinking || session.turnPhase == .streaming) &&
    session.inflightInputs != [] &&
    (session.inflightInputs.getLast?.any fun input =>
      input.eventId == session.activeSourceEventId) &&
    session.activeSourceEventId == session.inputUpToEventId &&
    decide (0 < session.inputUpToSeq)

/-- Every turn field is cleared. -/
def DurableAgentSession.turnIsClear (session : DurableAgentSession) : Bool :=
  session.activeTurnId == "" && session.runtimeStatus != .busy &&
    session.turnPhase == .none && session.inflightInputs == [] &&
    session.activeSourceEventId == "" && session.inputUpToEventId == "" &&
    session.inputUpToSeq == 0

/-- Whether the session holds an active turn, or `none` for a broken tuple. -/
def activeTurnAuthority (session : DurableAgentSession) : Option Bool :=
  if !roomInputQueueIsCanonical session.ownedInputs then
    none
  else
    match session.turnIsActive, session.turnIsClear with
    | true, false => some true
    | false, true => some false
    | _, _ => none

/-- The shape of a session that holds a turn. -/
structure ActiveTurn (session : DurableAgentSession) : Prop where
  turnId : session.activeTurnId ≠ ""
  runtime : session.runtimeStatus = .busy ∨ session.runtimeStatus = .stopping
  phase : session.turnPhase = .thinking ∨ session.turnPhase = .streaming
  source : session.inflightInputs.getLast?.map QueuedRoomInput.eventId =
    some session.activeSourceEventId
  upTo : session.activeSourceEventId = session.inputUpToEventId
  cursor : 0 < session.inputUpToSeq

/-- The shape of a session that holds no turn. -/
structure ClearTurn (session : DurableAgentSession) : Prop where
  turnId : session.activeTurnId = ""
  runtime : session.runtimeStatus ≠ .busy
  phase : session.turnPhase = .none
  inflight : session.inflightInputs = []
  source : session.activeSourceEventId = ""
  upTo : session.inputUpToEventId = ""
  cursor : session.inputUpToSeq = 0

theorem ActiveTurn.inflight_ne_nil {session : DurableAgentSession}
    (h : ActiveTurn session) : session.inflightInputs ≠ [] := by
  intro hnil
  have hs := h.source
  simp [hnil] at hs

theorem turnIsActive_iff {session : DurableAgentSession} :
    session.turnIsActive = true ↔ ActiveTurn session := by
  simp only [DurableAgentSession.turnIsActive, Bool.and_eq_true, bne_iff_ne, Bool.or_eq_true,
    beq_iff_eq, decide_eq_true_eq]
  constructor
  · rintro ⟨⟨⟨⟨⟨⟨h₁, h₂⟩, h₃⟩, h₄⟩, h₅⟩, h₆⟩, h₇⟩
    refine ⟨h₁, h₂, h₃, ?_, h₆, h₇⟩
    cases hl : session.inflightInputs.getLast? with
    | none => simp [hl] at h₅
    | some input => simpa [hl] using h₅
  · intro h
    refine ⟨⟨⟨⟨⟨⟨h.turnId, h.runtime⟩, h.phase⟩, h.inflight_ne_nil⟩, ?_⟩, h.upTo⟩, h.cursor⟩
    have hs := h.source
    cases hl : session.inflightInputs.getLast? with
    | none => simp [hl] at hs
    | some input => simpa [hl] using hs

theorem turnIsClear_iff {session : DurableAgentSession} :
    session.turnIsClear = true ↔ ClearTurn session := by
  simp only [DurableAgentSession.turnIsClear, Bool.and_eq_true, bne_iff_ne, beq_iff_eq]
  constructor
  · rintro ⟨⟨⟨⟨⟨⟨h₁, h₂⟩, h₃⟩, h₄⟩, h₅⟩, h₆⟩, h₇⟩
    exact ⟨h₁, h₂, h₃, h₄, h₅, h₆, h₇⟩
  · intro h
    exact ⟨⟨⟨⟨⟨⟨h.turnId, h.runtime⟩, h.phase⟩, h.inflight⟩, h.source⟩, h.upTo⟩, h.cursor⟩

theorem ActiveTurn.not_clear {session : DurableAgentSession} (h : ActiveTurn session) :
    ¬ ClearTurn session :=
  fun hc => h.turnId hc.turnId

theorem activeTurnAuthority_eq_true {session : DurableAgentSession} :
    activeTurnAuthority session = some true ↔
      CanonicalQueue session.ownedInputs ∧ ActiveTurn session := by
  rw [activeTurnAuthority, ← roomInputQueueIsCanonical_iff, ← turnIsActive_iff]
  cases hq : roomInputQueueIsCanonical session.ownedInputs with
  | false => simp
  | true =>
      cases ha : session.turnIsActive with
      | false => cases hc : session.turnIsClear <;> simp
      | true =>
          have hc : session.turnIsClear = false := by
            rw [← Bool.not_eq_true, turnIsClear_iff]
            exact (turnIsActive_iff.mp ha).not_clear
          simp [hc]

theorem activeTurnAuthority_eq_false {session : DurableAgentSession} :
    activeTurnAuthority session = some false ↔
      CanonicalQueue session.ownedInputs ∧ ClearTurn session := by
  rw [activeTurnAuthority, ← roomInputQueueIsCanonical_iff, ← turnIsClear_iff]
  cases hq : roomInputQueueIsCanonical session.ownedInputs with
  | false => simp
  | true =>
      cases hc : session.turnIsClear with
      | false => cases ha : session.turnIsActive <;> simp
      | true =>
          have ha : session.turnIsActive = false := by
            rw [← Bool.not_eq_true, turnIsActive_iff]
            exact fun h => h.not_clear (turnIsClear_iff.mp hc)
          simp [ha]

theorem activeTurnAuthority_ne_none {session : DurableAgentSession} :
    activeTurnAuthority session ≠ none ↔
      CanonicalQueue session.ownedInputs ∧ (ActiveTurn session ∨ ClearTurn session) := by
  constructor
  · intro h
    cases hv : activeTurnAuthority session with
    | none => exact absurd hv h
    | some active =>
        cases active with
        | true =>
            obtain ⟨hq, ha⟩ := activeTurnAuthority_eq_true.mp hv
            exact ⟨hq, Or.inl ha⟩
        | false =>
            obtain ⟨hq, hc⟩ := activeTurnAuthority_eq_false.mp hv
            exact ⟨hq, Or.inr hc⟩
  · rintro ⟨hq, ha | hc⟩
    · rw [activeTurnAuthority_eq_true.mpr ⟨hq, ha⟩]
      simp
    · rw [activeTurnAuthority_eq_false.mpr ⟨hq, hc⟩]
      simp

end AgentsAssemble.Domain
