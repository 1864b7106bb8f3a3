import AgentsAssemble.Persistence.Survey
import AgentsAssemble.System.Paths

/-!
# Scheduling as moves

Assigning pending queues and queueing routed messages are paths of moves.
-/

namespace AgentsAssemble.System

open Foundation Domain Persistence Protocol Tx

section Assignment

variable [UuidSource]

/-! ## What an assignment writes -/

/-- The session with its new turn. -/
def assignedSession (s : Store) (session : DurableAgentSession) (prepared : PreparedRoomInput) :
    DurableAgentSession :=
  assignTurn session prepared (turnIdOf (UuidSource.newV4 s.uuids))

def assignedRow (s : Store) (session : DurableAgentSession) : ExecutionRow :=
  { executionId := UuidSource.newV4 (s.uuids + 1)
    participantId := session.participantId
    turnId := turnIdOf (UuidSource.newV4 s.uuids)
    phase := .assigned
    runtime := session.runtime }

def assignedEnvelope (settings : RoomSettings) (prepared : PreparedRoomInput)
    (first : QueuedRoomInput) : ProviderTurnAssignmentEnvelope :=
  { deliveryKind := first.deliveryKind
    providerInput := prepared.providerInput
    roomView := prepared.roomView
    attachmentIds := prepared.attachmentIds
    roomAgentIds := prepared.roomAgentIds
    tabletopTools := settings.toolMode == "tabletop" }

def assignedKey (session : DurableAgentSession) : TurnKey :=
  (session.sessionId, session.turnGeneration + 1)

/-- The store before the events of the assignment are published. -/
def assignedStore (s : Store) (settings : RoomSettings) (session : DurableAgentSession)
    (prepared : PreparedRoomInput) (first : QueuedRoomInput) : Store :=
  { s with
    sessions := s.sessions.insert session.sessionId (assignedSession s session prepared)
    executions := s.executions.insert (assignedKey session) (assignedRow s session)
    assignments := s.assignments.insert (assignedKey session)
      (assignedEnvelope settings prepared first)
    uuids := s.uuids + 2 }

/-- The assignment handed to the provider host. -/
def handedAssignment (s : Store) (settings : RoomSettings) (session : DurableAgentSession)
    (prepared : PreparedRoomInput) (first : QueuedRoomInput) : AgentTurnAssignment :=
  let envelope := assignedEnvelope settings prepared first
  { session := assignedSession s session prepared
    turnId := turnIdOf (UuidSource.newV4 s.uuids)
    turnGeneration := session.turnGeneration + 1
    executionId := UuidSource.newV4 (s.uuids + 1)
    deliveryKind := envelope.deliveryKind
    providerInput := envelope.providerInput
    roomView := envelope.roomView
    attachmentIds := envelope.attachmentIds
    roomAgentIds := envelope.roomAgentIds
    tabletopTools := envelope.tabletopTools }

variable [TextServices]

/-- What a committed assignment checked, returned and wrote. -/
structure AssignsTurn (s : Store) (room : Room) (settings : RoomSettings)
    (session : DurableAgentSession) (prepared : PreparedRoomInput) (first : QueuedRoomInput)
    (result : PreparedAssignment) (s' : Store) : Prop where
  prepares : prepareRoomInput s room session session.pendingInputs
    (settings.toolMode == "tabletop") = .ok prepared
  head : prepared.inflightInputs.head? = some first
  custody : session.runtime.Complete
  bounded : session.turnGeneration + 1 ≤ maxI64
  insertable : executionInsertable s (assignedKey session) (assignedRow s session) = true
  assignment : result.assignment = handedAssignment s settings session prepared first
  publishes : Publishes (assignedStore s settings session prepared first) result.events s'

omit [TextServices] in
theorem commits_insertAssignedExecution {session : DurableAgentSession} {turnId : String}
    {envelope : ProviderTurnAssignmentEnvelope} {s s' : Store}
    {execution : ProviderTurnExecution}
    (h : Commits (insertAssignedExecution session turnId envelope) s execution s') :
    let row : ExecutionRow :=
      { executionId := UuidSource.newV4 s.uuids
        participantId := session.participantId
        turnId
        phase := .assigned
        runtime := session.runtime }
    let key : TurnKey := (session.sessionId, session.turnGeneration)
    session.runtime.Complete ∧ session.turnGeneration ≤ maxI64 ∧
      executionInsertable s key row = true ∧
      execution = { toExecutionRow := row
                    sessionId := session.sessionId
                    turnGeneration := session.turnGeneration } ∧
      s' = { s with
        executions := s.executions.insert key row
        assignments := s.assignments.insert key envelope
        uuids := s.uuids + 1 } := by
  simp only [insertAssignedExecution, generationI64, commits_bind, commits_read,
    commits_drawUuid, commits_require, commits_write, commits_pure] at h
  obtain ⟨_, s₁, ⟨hcustody, rfl⟩, executionId, s₂, ⟨rfl, rfl⟩, _, s₃, ⟨hbounded, rfl⟩, _, s₄,
    ⟨rfl, rfl⟩, _, s₅, ⟨hinsertable, rfl⟩, _, s₆, rfl, rfl, rfl⟩ := h
  exact ⟨hcustody.2.2, hbounded, hinsertable, rfl, rfl⟩

theorem commits_prepareAssignment {room : Room} {settings : RoomSettings}
    {session : DurableAgentSession} {now : Nat} {s s' : Store} {result : PreparedAssignment}
    (h : Commits (prepareAssignment room settings session now) s result s') :
    ∃ prepared first, AssignsTurn s room settings session prepared first result s' := by
  simp only [prepareAssignment, commits_bind, commits_read, commits_ofResult,
    commits_orReject] at h
  obtain ⟨_, _, ⟨rfl, rfl⟩, prepared, _, ⟨hprepared, rfl⟩, first, s, ⟨hfirst, rfl⟩, h⟩ := h
  simp only [commits_drawUuid, commits_require, commits_saveSession] at h
  obtain ⟨uuid, t, ⟨rfl, rfl⟩, _, _, ⟨-, rfl⟩, _, t, ⟨-, rfl⟩, execution, t', hexecution, h⟩ := h
  obtain ⟨hcustody, hbounded, hinsertable, rfl, rfl⟩ :=
    commits_insertAssignedExecution hexecution
  obtain ⟨started, t₁, hstarted, state, t₂, hstate, sessionEvent, t₃, hsession, hresult⟩ := h
  obtain ⟨rfl, rfl⟩ := commits_pure.mp hresult
  refine ⟨prepared, first, hprepared, hfirst, hcustody, hbounded, hinsertable, rfl, ?_⟩
  have hstart := publishes_internalEvent hstarted (by decide) rfl
  exact (hstart.trans (publishes_internalEvent hstate (by decide) rfl)).trans
    (publishes_sessionStateEvent hsession)

/-! ## The assignment as a move -/

omit [UuidSource] [TextServices] in
theorem turnIdOf_ne_empty (uuid : String) : turnIdOf uuid ≠ "" := by
  intro h
  have hlist := congrArg String.toList h
  rw [turnIdOf, String.toList_append] at hlist
  cases hlist

omit [UuidSource] [TextServices] in
theorem insertable_of_check {s : Store} {key : TurnKey} {row : ExecutionRow}
    (h : executionInsertable s key row = true) : Insertable s.executions key row := by
  rw [executionInsertable, Bool.and_eq_true, List.all_eq_true] at h
  obtain ⟨habsent, hrows⟩ := h
  have hcolumns : ∀ gen stored, s.executions.lookup (key.1, gen) = some stored →
      stored.turnId ≠ row.turnId ∧ stored.phase.isBlocking = false := by
    intro gen stored hstored
    have hrow := hrows ((key.1, gen), stored) (Table.mem_rows.mpr hstored)
    simp only [bne_self_eq_false, Bool.false_or, Bool.and_eq_true, bne_iff_ne,
      Bool.not_eq_true'] at hrow
    exact hrow.1.2
  exact ⟨by simpa using habsent, fun gen stored hs => (hcolumns gen stored hs).1,
    fun gen stored hs => (hcolumns gen stored hs).2⟩

omit [UuidSource] [TextServices] in
theorem carries_first {s : Store} {room : Room} {session : DurableAgentSession}
    {pendingInputs : List QueuedRoomInput} {prepared : PreparedRoomInput}
    {sources : List PendingRoomEvent} {first : QueuedRoomInput}
    (h : Carries s room session pendingInputs prepared sources)
    (hfirst : prepared.inflightInputs.head? = some first) :
    ∀ input ∈ prepared.inflightInputs, input.deliveryKind = first.deliveryKind := by
  rw [h.inflight] at hfirst ⊢
  rw [List.head?_map] at hfirst
  obtain ⟨p, hp, rfl⟩ := Option.map_eq_some_iff.mp hfirst
  intro input hinput
  obtain ⟨q, hq, rfl⟩ := List.mem_map.mp hinput
  exact h.kinds q hq p (List.mem_of_head? hp)

omit [TextServices] in
/-- The new turn of an assigned session. -/
theorem carries_assigned {s : Store} {room : Room} {session : DurableAgentSession}
    {prepared : PreparedRoomInput} {sources : List PendingRoomEvent}
    (h : Carries s room session session.pendingInputs prepared sources) :
    Assigned session (assignedSession s session prepared)
      (turnIdOf (UuidSource.newV4 s.uuids)) := by
  obtain ⟨source, hlast, hid, hseq⟩ := h.last
  have hpending := h.pending source (List.mem_of_getLast? hlast)
  have hsourceId : source.event.id = source.input.eventId := (findEvent_some hpending.found).2
  refine ⟨rfl, rfl, rfl, ?_, ?_, rfl, rfl, rfl, rfl, ⟨rfl, rfl⟩⟩
  · obtain ⟨rest, hrest⟩ := h.taken
    show prepared.inflightInputs ++ session.pendingInputs.drop prepared.inflightInputs.length =
      session.pendingInputs
    rw [← hrest, List.drop_left]
  · refine ⟨turnIdOf_ne_empty _, Or.inl rfl, Or.inl rfl, ?_, rfl, ?_⟩
    · show prepared.inflightInputs.getLast?.map QueuedRoomInput.eventId =
        some prepared.sourceEventId
      rw [h.inflight, List.getLast?_map, hlast, hid, hsourceId]
      rfl
    · show 0 < prepared.inputUpToSeq
      rw [hseq]
      exact Nat.zero_lt_of_lt hpending.later

omit [TextServices] in
/-- The envelope describes what the new turn holds in flight. -/
theorem carries_envelope {s : Store} {room : Room} {settings : RoomSettings}
    {session : DurableAgentSession} {prepared : PreparedRoomInput}
    {sources : List PendingRoomEvent} {first : QueuedRoomInput}
    (h : Carries s room session session.pendingInputs prepared sources)
    (hfirst : prepared.inflightInputs.head? = some first) :
    EnvelopeFor (coreOf s) (assignedSession s session prepared)
      (assignedEnvelope settings prepared first) := by
  obtain ⟨hlength, hnodup, hknown⟩ := loadRoomAgentIds_ok h.agents
  refine ⟨carries_first h hfirst, ⟨sources.map PendingRoomEvent.event, ?_, ?_, h.attachments⟩,
    h.input, h.view, hlength, hnodup, hknown⟩
  · show _ = prepared.inflightInputs.map QueuedRoomInput.eventId
    rw [h.inflight, List.map_map, List.map_map]
    refine List.map_congr_left fun p hp => ?_
    exact (findEvent_some (h.pending p hp).found).2
  · intro e he
    obtain ⟨p, hp, rfl⟩ := List.mem_map.mp he
    exact (findEvent_some (h.pending p hp).found).1

omit [UuidSource] [TextServices] in
theorem sessionIsAssignable_iff {session : DurableAgentSession} :
    sessionIsAssignable session = true ↔
      session.enabled = true ∧ session.status = .attached ∧ session.runtimeStatus = .idle ∧
        session.providerSessionActive = true ∧ session.activeTurnId = "" ∧
        session.inflightInputs = [] ∧ session.lifecycleIntentAction = .none := by
  simp only [sessionIsAssignable, Bool.and_eq_true, beq_iff_eq]
  constructor
  · rintro ⟨⟨⟨⟨⟨⟨h₁, h₂⟩, h₃⟩, h₄⟩, h₅⟩, h₆⟩, h₇⟩
    exact ⟨h₁, h₂, h₃, h₄, h₅, h₆, h₇⟩
  · rintro ⟨h₁, h₂, h₃, h₄, h₅, h₆, h₇⟩
    exact ⟨⟨⟨⟨⟨⟨h₁, h₂⟩, h₃⟩, h₄⟩, h₅⟩, h₆⟩, h₇⟩

variable [CaseFold] {P : Permit}

theorem path_prepareAssignment {room : Room} {settings : RoomSettings}
    {session : DurableAgentSession} {now : Nat} {s s' : Store} {result : PreparedAssignment}
    (hstored : s.sessions.lookup session.sessionId = some session)
    (hassignable : sessionIsAssignable session = true)
    (h : Commits (prepareAssignment room settings session now) s result s') :
    Path P (coreOf s) (coreOf s') := by
  obtain ⟨prepared, first, hassigns⟩ := commits_prepareAssignment h
  obtain ⟨sources, hcarries⟩ := prepareRoomInput_ok hassigns.prepares
  obtain ⟨-, -, hidle, -, hturn, hinflight, hintent⟩ := sessionIsAssignable_iff.mp hassignable
  let assigned := assignedStore s settings session prepared first
  have hmove : Move P (coreOf s) (coreOf { assigned with uuids := s.uuids }) := by
    refine Move.assign session (assignedSession s session prepared) (assignedRow s session)
      (assignedEnvelope settings prepared first) _ _ _ ?_ (Table.sets_insert _ _ _)
      (Table.sets_insert _ _ _) (Table.sets_insert _ _ _)
    exact ⟨hstored, hinflight, hturn, hidle, hintent, carries_assigned hcarries, rfl, rfl,
      hassigns.custody, rfl, rfl, rfl, rfl, hassigns.bounded,
      insertable_of_check hassigns.insertable, carries_envelope hcarries hassigns.head⟩
  have hdrawn : Publishes { assigned with uuids := s.uuids } [] assigned :=
    (publishes_draw _).trans (publishes_draw _)
  exact ((Relation.ReflTransGen.single hmove).trans hdrawn.path).trans hassigns.publishes.path

/-! ## Assigning the floor -/

omit [UuidSource] [TextServices] [CaseFold] in
/-- The listed sessions are stored under their own ids, each once. -/
theorem roomSessions_stored {s : Store} (h : SessionsWF (coreOf s)) :
    (∀ a ∈ (s.sessions.sorted (· ≤ ·)).map Prod.snd,
      s.sessions.lookup a.sessionId = some a) ∧
      ((s.sessions.sorted (· ≤ ·)).map Prod.snd).Pairwise
        fun a b => a.sessionId ≠ b.sessionId := by
  have hkeyed : ∀ entry ∈ s.sessions.sorted (· ≤ ·), entry.2.sessionId = entry.1 :=
    fun entry hentry => (h.keyed entry.1 entry.2 ((Table.mem_sorted _).mp hentry)).1
  constructor
  · intro a ha
    obtain ⟨entry, hentry, rfl⟩ := List.mem_map.mp ha
    rw [hkeyed entry hentry]
    exact (Table.mem_sorted _).mp hentry
  · have hnodup := Table.nodup_sorted (· ≤ ·) s.sessions
    rw [List.Nodup, List.pairwise_map] at hnodup
    rw [List.pairwise_map]
    refine hnodup.imp_of_mem ?_
    intro x y hx hy hne
    rw [hkeyed x hx, hkeyed y hy]
    exact hne

omit [TextServices] in
theorem path_clearScheduleRequest {session : DurableAgentSession} {s s' : Store} {u : Unit}
    (hstored : s.sessions.lookup session.sessionId = some session)
    (h : Commits (clearScheduleRequest session) s u s') : Path P (coreOf s) (coreOf s') :=
  path_saveCustody h hstored
    ⟨rfl, rfl, rfl, rfl, rfl, rfl, rfl, rfl, rfl, rfl, rfl, rfl⟩ rfl rfl rfl rfl

omit [UuidSource] [TextServices] [CaseFold] in
theorem clearScheduleRequest_keeps {a b : DurableAgentSession} {s s' : Store} {u : Unit}
    (hne : a.sessionId ≠ b.sessionId)
    (hstored : s.sessions.lookup b.sessionId = some b)
    (h : Commits (clearScheduleRequest a) s u s') :
    s'.sessions.lookup b.sessionId = some b := by
  obtain ⟨-, rfl⟩ := commits_saveSession.mp h
  exact (AList.lookup_insert_ne hne.symm).trans hstored

omit [CaseFold] in
theorem prepareAssignment_keeps {room : Room} {settings : RoomSettings}
    {a b : DurableAgentSession} {now : Nat} {s s' : Store} {result : PreparedAssignment}
    (hne : a.sessionId ≠ b.sessionId) (hstored : s.sessions.lookup b.sessionId = some b)
    (h : Commits (prepareAssignment room settings a now) s result s') :
    s'.sessions.lookup b.sessionId = some b := by
  obtain ⟨prepared, first, hassigns⟩ := commits_prepareAssignment h
  rw [hassigns.publishes.store]
  exact (AList.lookup_insert_ne hne.symm).trans hstored

omit [CaseFold] in
/-- A committed assignment run: it left the room alone, or it cleared the empty requests and
then gave each chosen candidate a turn. -/
theorem commits_assignAvailablePending {room : Room} {settings : RoomSettings} {now : Nat}
    {s s' : Store} {results : List PreparedAssignment}
    (h : Commits (assignAvailablePending room settings now) s results s') :
    (results = [] ∧ s' = s ∧
        (s.restartQuiescing = true ∨ settings.conversationMode = "ordered")) ∨
      ∃ survey cleared t,
        surveyFloor s ((s.sessions.sorted (· ≤ ·)).map Prod.snd) = .ok survey ∧
        s.restartQuiescing = false ∧
        (settings.conversationMode = "ordered" → survey.anyActive = false) ∧
        Commits (each clearScheduleRequest survey.emptyScheduleRequests) s cleared t ∧
        Commits (each (fun candidate : Nat × DurableAgentSession =>
          prepareAssignment room settings candidate.2 now) (chosenCandidates settings survey))
          t results s' := by
  simp only [assignAvailablePending, commits_bind, commits_read] at h
  obtain ⟨_, _, ⟨rfl, rfl⟩, h⟩ := h
  split at h
  · rename_i hquiescing
    obtain ⟨rfl, rfl⟩ := commits_pure.mp h
    exact Or.inl ⟨rfl, rfl, Or.inl hquiescing⟩
  rename_i hquiescing
  simp only [commits_bind, commits_read, commits_loadRoomSessions, commits_ofResult] at h
  obtain ⟨_, _, ⟨rfl, -, rfl⟩, _, _, ⟨rfl, rfl⟩, survey, _, ⟨hsurvey, rfl⟩, h⟩ := h
  split at h
  · rename_i hbusy
    obtain ⟨rfl, rfl⟩ := commits_pure.mp h
    exact Or.inl ⟨rfl, rfl, Or.inr hbusy.1⟩
  rename_i hfree
  obtain ⟨cleared, t, hcleared, hassigned⟩ := commits_bind.mp h
  refine Or.inr ⟨survey, cleared, t, hsurvey, by simpa using hquiescing, ?_, hcleared,
    hassigned⟩
  intro hordered
  simpa [hordered] using hfree

omit [UuidSource] [TextServices] [CaseFold] in
/-- The chosen candidates are listening sessions of the room, each listed once. -/
theorem chosenCandidates_of_survey {s : Store} {settings : RoomSettings}
    {sessions : List DurableAgentSession} {survey : FloorSurvey}
    (hpairwise : sessions.Pairwise fun a b => a.sessionId ≠ b.sessionId)
    (h : surveyFloor s sessions = .ok survey) :
    (chosenCandidates settings survey).Pairwise
        (fun a b => a.2.sessionId ≠ b.2.sessionId) ∧
      ∀ candidate ∈ chosenCandidates settings survey, candidate.2 ∈ sessions ∧
        candidateOf s candidate.2 = some candidate := by
  obtain ⟨-, -, hcandidates, -⟩ := surveyFloor_ok h
  obtain ⟨rest, hperm⟩ := chosenCandidates_perm settings survey
  rw [hcandidates] at hperm
  have hdistinct : (sessions.filterMap (candidateOf s)).Pairwise
      fun a b => a.2.sessionId ≠ b.2.sessionId := by
    have hsub := hpairwise.sublist (candidates_sublist s sessions)
    rwa [List.pairwise_map] at hsub
  have hall := (hperm.symm.pairwise hdistinct fun hab => hab.symm)
  refine ⟨(List.pairwise_append.mp hall).1, fun candidate hmem => ?_⟩
  have hcandidate := hperm.subset (List.mem_append_left rest hmem)
  obtain ⟨session, hsession, hcan⟩ := List.mem_filterMap.mp hcandidate
  obtain ⟨rfl, -, -⟩ := candidateOf_eq_some hcan
  exact ⟨hsession, hcan⟩

omit [TextServices] [CaseFold] in
/-- A chosen candidate is listening and has something pending. -/
theorem chosenCandidates_ready {s : Store} {settings : RoomSettings} {survey : FloorSurvey}
    (hsound : Sound (coreOf s))
    (hsurvey : surveyFloor s ((s.sessions.sorted (· ≤ ·)).map Prod.snd) = .ok survey)
    {candidate : Nat × DurableAgentSession}
    (hmem : candidate ∈ chosenCandidates settings survey) :
    s.sessions.lookup candidate.2.sessionId = some candidate.2 ∧
      sessionIsAssignable candidate.2 = true ∧ candidate.2.pendingInputs ≠ [] := by
  obtain ⟨hstored, hpairwise⟩ := roomSessions_stored hsound.sessions
  obtain ⟨-, hchosen⟩ := chosenCandidates_of_survey hpairwise hsurvey
  obtain ⟨hroom, hcandidate⟩ := hchosen candidate hmem
  obtain ⟨-, hlisten, hfirst⟩ := candidateOf_eq_some hcandidate
  rw [isListening, Bool.and_eq_true, Bool.and_eq_true] at hlisten
  refine ⟨hstored candidate.2 hroom, hlisten.1.1, fun hnil => ?_⟩
  rw [firstPendingSeq, hnil] at hfirst
  cases hfirst

omit [TextServices] in
/-- Clearing the empty requests is a path, and leaves the chosen candidates as they were. -/
theorem path_clearRequests {s t : Store} {survey : FloorSurvey} {cleared : List Unit}
    (hsound : Sound (coreOf s))
    (hsurvey : surveyFloor s ((s.sessions.sorted (· ≤ ·)).map Prod.snd) = .ok survey)
    (hcleared : Commits (each clearScheduleRequest survey.emptyScheduleRequests) s cleared t) :
    Path P (coreOf s) (coreOf t) ∧ ∀ settings, ∀ candidate ∈ chosenCandidates settings survey,
      t.sessions.lookup candidate.2.sessionId = some candidate.2 := by
  obtain ⟨hstored, hpairwise⟩ := roomSessions_stored hsound.sessions
  obtain ⟨-, -, hcandidates, hempty⟩ := surveyFloor_ok hsurvey
  refine ⟨?_, fun settings candidate hmem => ?_⟩
  · refine each_relates (R := fun a b => Path P (coreOf a) (coreOf b))
      (Q := fun a s => s.sessions.lookup a.sessionId = some a)
      (D := fun a b => a.sessionId ≠ b.sessionId) (fun _ => Relation.ReflTransGen.refl)
      (fun _ _ _ => Relation.ReflTransGen.trans) (fun a _ _ _ ha => path_clearScheduleRequest ha)
      (fun a b _ _ _ hne _ hb => clearScheduleRequest_keeps hne hb) ?_ ?_ hcleared
    · rw [hempty]
      exact hpairwise.sublist List.filter_sublist
    · intro a ha
      rw [hempty] at ha
      exact hstored a (List.mem_of_mem_filter ha)
  · -- A candidate has something pending, so its request was not among the cleared ones.
    obtain ⟨hcandidate, -, hpending⟩ := chosenCandidates_ready hsound hsurvey hmem
    refine each_invariant (I := fun s => s.sessions.lookup candidate.2.sessionId =
      some candidate.2) ?_ hcandidate hcleared
    intro a ha _ _ _ hcurrent hclear
    refine clearScheduleRequest_keeps ?_ hcurrent hclear
    intro hid
    rw [hempty] at ha
    have hsame : a = candidate.2 := by
      have h₁ := hstored a (List.mem_of_mem_filter ha)
      rw [hid, hcandidate] at h₁
      exact (Option.some.inj h₁).symm
    have hrequest := List.of_mem_filter ha
    simp only [isEmptyRequest, Bool.and_eq_true, beq_iff_eq] at hrequest
    exact hpending (hsame ▸ hrequest.2)

theorem path_assignAvailablePending {room : Room} {settings : RoomSettings} {now : Nat}
    {s s' : Store} {results : List PreparedAssignment} (hsound : Sound (coreOf s))
    (h : Commits (assignAvailablePending room settings now) s results s') :
    Path P (coreOf s) (coreOf s') := by
  rcases commits_assignAvailablePending h with ⟨-, rfl, -⟩ |
    ⟨survey, cleared, t, hsurvey, -, -, hcleared, hassigned⟩
  · exact Relation.ReflTransGen.refl
  obtain ⟨-, hpairwise⟩ := roomSessions_stored hsound.sessions
  obtain ⟨hdistinct, -⟩ := chosenCandidates_of_survey hpairwise hsurvey
  obtain ⟨hclear, hkept⟩ := path_clearRequests (P := P) hsound hsurvey hcleared
  refine hclear.trans ?_
  refine each_relates (R := fun a b => Path P (coreOf a) (coreOf b))
    (Q := fun candidate s => sessionIsAssignable candidate.2 = true ∧
      s.sessions.lookup candidate.2.sessionId = some candidate.2)
    (D := fun a b => a.2.sessionId ≠ b.2.sessionId) (fun _ => Relation.ReflTransGen.refl)
    (fun _ _ _ => Relation.ReflTransGen.trans)
    (fun a _ _ _ ha => path_prepareAssignment ha.2 ha.1)
    ?_ hdistinct (fun candidate hmem => ⟨?_, hkept settings candidate hmem⟩) hassigned
  · rintro a b _ _ _ hne - ⟨hassignable, hcurrent⟩ hrun
    exact ⟨hassignable, prepareAssignment_keeps hne hcurrent hrun⟩
  · exact (chosenCandidates_ready hsound hsurvey hmem).2.1

theorem path_assignPendingIn {room : Room} {settings : RoomSettings} {now : Nat}
    {s s' : Store} {commit : AgentTurnCommit} (hsound : Sound (coreOf s))
    (h : Commits (assignPendingIn room settings now) s commit s') :
    Path P (coreOf s) (coreOf s') := by
  simp only [assignPendingIn, commits_bind, commits_pure] at h
  obtain ⟨prepared, _, hprepared, -, rfl⟩ := h
  exact path_assignAvailablePending hsound hprepared

theorem path_assignPendingTurn {now : Nat} {s s' : Store} {commit : Option AgentTurnCommit}
    (hsound : Sound (coreOf s)) (h : Commits (assignPendingTurn now) s commit s') :
    Path P (coreOf s) (coreOf s') := by
  simp only [assignPendingTurn, commits_bind, commits_loadActiveRoom, commits_pure] at h
  obtain ⟨_, _, ⟨-, rfl, rfl⟩, _, _, hassigned, -, rfl⟩ := h
  exact path_assignPendingIn hsound hassigned

end Assignment

end AgentsAssemble.System
