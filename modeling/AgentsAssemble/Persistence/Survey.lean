import AgentsAssemble.Persistence.Prepared

/-!
# What the floor survey finds

The survey of a room is a fold over its sessions.  Read as a whole it asks
whether any session is active, which sessions could take a turn now and which
schedule requests have nothing behind them.
-/

namespace AgentsAssemble.Persistence

open Foundation Domain

/-! ## One session -/

/-- An idle session of a present, unmuted participant. -/
def isListening (s : Store) (session : DurableAgentSession) : Bool :=
  sessionIsAssignable session && isAvailable s session &&
    (s.participants.lookup session.participantId).any fun participant =>
      participant.status == .joined && !participant.muted

/-- The sequence of the first pending event. -/
def firstPendingSeq (events : List RoomEvent) (session : DurableAgentSession) : Option Nat :=
  session.pendingInputs.head?.bind fun input =>
    match findEvent events input.eventId with
    | .ok (some event) => some event.seq
    | _ => none

/-- The session as a candidate for the floor. -/
def candidateOf (s : Store) (session : DurableAgentSession) :
    Option (Nat × DurableAgentSession) :=
  if isListening s session then
    (firstPendingSeq s.events session).map fun sequence => (sequence, session)
  else
    none

/-- The session asked for the floor but has nothing pending. -/
def isEmptyRequest (s : Store) (session : DurableAgentSession) : Bool :=
  isListening s session && session.scheduleRequested && session.pendingInputs == []

theorem turnAuthorityIsActive_ok {session : DurableAgentSession} {active : Bool} :
    turnAuthorityIsActive session = .ok active ↔ activeTurnAuthority session = some active := by
  rw [turnAuthorityIsActive]
  cases activeTurnAuthority session with
  | none => simp
  | some b => simp

theorem validPendingInputs_go_ok {events : List RoomEvent} {session : DurableAgentSession}
    {seen : List String} {previousSeq : Nat} {inputs out : List QueuedRoomInput}
    (h : validPendingInputs.go events session seen previousSeq inputs = .ok out) :
    out = inputs := by
  induction inputs generalizing seen previousSeq out with
  | nil => exact (Except.ok.inj h).symm
  | cons input inputs ih =>
      rw [validPendingInputs.go] at h
      split at h
      · cases h
      obtain ⟨found, -, h⟩ := Result.bind_eq_ok.mp h
      cases found with
      | none => exact (Result.throw_eq_ok.mp h).elim
      | some event =>
          obtain ⟨visible, -, h⟩ := Result.bind_eq_ok.mp h
          obtain ⟨-, h⟩ := Result.check_eq_ok.mp h
          obtain ⟨rest, hrest, h⟩ := Result.bind_eq_ok.mp h
          obtain rfl := Result.pure_eq_ok.mp h
          rw [ih hrest]

theorem validPendingInputs_ok {events : List RoomEvent} {session : DurableAgentSession}
    {out : List QueuedRoomInput} (h : validPendingInputs events session = .ok out) :
    out = session.pendingInputs :=
  validPendingInputs_go_ok h

theorem eventSequence_ok {events : List RoomEvent} {eventId : String} {sequence : Nat}
    (h : eventSequence events eventId = .ok sequence) :
    ∃ event, findEvent events eventId = .ok (some event) ∧ event.seq = sequence := by
  rw [eventSequence] at h
  obtain ⟨found, hfound, h⟩ := Result.bind_eq_ok.mp h
  cases found with
  | none => exact (Result.throw_eq_ok.mp h).elim
  | some event => exact ⟨event, hfound, Result.pure_eq_ok.mp h⟩

/-- What one surveyed session adds. -/
structure Surveys (s : Store) (survey survey' : FloorSurvey)
    (session : DurableAgentSession) : Prop where
  valid : activeTurnAuthority session ≠ none
  active : survey'.anyActive =
    (survey.anyActive || activeTurnAuthority session == some true)
  candidates : survey'.candidates = survey.candidates ++ (candidateOf s session).toList
  empty : survey'.emptyScheduleRequests =
    survey.emptyScheduleRequests ++ if isEmptyRequest s session then [session] else []

theorem surveySession_ok {s : Store} {survey survey' : FloorSurvey}
    {session : DurableAgentSession} (h : surveySession s survey session = .ok survey') :
    Surveys s survey survey' session := by
  rw [surveySession] at h
  obtain ⟨active, hactive, h⟩ := Result.bind_eq_ok.mp h
  have hauthority := turnAuthorityIsActive_ok.mp hactive
  have hvalid : activeTurnAuthority session ≠ none := by simp [hauthority]
  have hany : (activeTurnAuthority session == some true) = active := by
    rw [hauthority]
    cases active <;> rfl
  -- A session that may not take the floor adds its activity and nothing else.
  have hskip : isListening s session = false →
      .ok { survey with anyActive := survey.anyActive || active } =
        (.ok survey' : Except PersistenceError FloorSurvey) →
      Surveys s survey survey' session := by
    intro hlisten heq
    obtain rfl := Except.ok.inj heq
    refine ⟨hvalid, by rw [hany], ?_, ?_⟩
    · simp [candidateOf, hlisten]
    · simp [isEmptyRequest, hlisten]
  dsimp only at h
  split at h
  · rename_i hoff
    refine hskip ?_ h
    rw [isListening]
    revert hoff
    cases sessionIsAssignable session <;> cases isAvailable s session <;> simp
  rename_i hon
  split at h
  · exact (Result.throw_eq_ok.mp h).elim
  rename_i participant hparticipant
  split at h
  · rename_i haway
    refine hskip ?_ h
    rw [isListening, hparticipant]
    rcases haway with hstatus | hmuted
    · simp [hstatus]
    · simp [hmuted]
  rename_i hpresent
  have hlisten : isListening s session = true := by
    simp only [Bool.or_eq_true, Bool.not_eq_true', not_or, Bool.not_eq_false] at hon
    simp only [not_or, Decidable.not_not, Bool.not_eq_true] at hpresent
    simp [isListening, hon.1, hon.2, hparticipant, hpresent.1, hpresent.2]
  obtain ⟨valid, hpending, h⟩ := Result.bind_eq_ok.mp h
  obtain rfl := validPendingInputs_ok hpending
  split at h
  · rename_i hhead
    have hnil : session.pendingInputs = [] := List.head?_eq_none_iff.mp hhead
    have hcandidate : candidateOf s session = none := by
      simp [candidateOf, firstPendingSeq, hnil]
    obtain rfl := Result.pure_eq_ok.mp h
    cases hrequest : session.scheduleRequested with
    | true =>
        refine ⟨hvalid, by simp [hany], by simp [hcandidate], ?_⟩
        simp [isEmptyRequest, hlisten, hrequest, hnil]
    | false =>
        refine ⟨hvalid, by simp [hany], by simp [hcandidate], ?_⟩
        simp [isEmptyRequest, hrequest]
  · rename_i first hhead
    obtain ⟨sequence, hsequence, h⟩ := Result.bind_eq_ok.mp h
    obtain ⟨event, hfound, rfl⟩ := eventSequence_ok hsequence
    obtain rfl := Result.pure_eq_ok.mp h
    have hne : session.pendingInputs ≠ [] := by
      intro hnil
      rw [hnil] at hhead
      cases hhead
    refine ⟨hvalid, by simp [hany], ?_, ?_⟩
    · simp [candidateOf, hlisten, firstPendingSeq, hhead, hfound]
    · simp [isEmptyRequest, hne]

/-! ## The whole room -/

theorem surveyFloor_fold {s : Store} {sessions : List DurableAgentSession}
    {survey survey' : FloorSurvey} (h : sessions.foldlM (surveySession s) survey = .ok survey') :
    (∀ session ∈ sessions, activeTurnAuthority session ≠ none) ∧
      survey'.anyActive = (survey.anyActive ||
        sessions.any fun session => activeTurnAuthority session == some true) ∧
      survey'.candidates = survey.candidates ++ sessions.filterMap (candidateOf s) ∧
      survey'.emptyScheduleRequests =
        survey.emptyScheduleRequests ++ sessions.filter (isEmptyRequest s) := by
  induction sessions generalizing survey with
  | nil =>
      obtain rfl := Result.pure_eq_ok.mp h
      simp
  | cons session sessions ih =>
      rw [List.foldlM_cons] at h
      obtain ⟨mid, hmid, h⟩ := Result.bind_eq_ok.mp h
      have hone := surveySession_ok hmid
      obtain ⟨hvalid, hactive, hcandidates, hempty⟩ := ih h
      refine ⟨?_, ?_, ?_, ?_⟩
      · intro x hx
        rcases List.mem_cons.mp hx with rfl | hx
        · exact hone.valid
        · exact hvalid x hx
      · rw [hactive, hone.active, List.any_cons, Bool.or_assoc]
      · rw [hcandidates, hone.candidates, List.append_assoc, List.filterMap_cons]
        cases candidateOf s session <;> rfl
      · rw [hempty, hone.empty, List.append_assoc, List.filter_cons]
        cases isEmptyRequest s session <;> rfl

/-- The survey of a room: its activity, its candidates and its empty requests. -/
theorem surveyFloor_ok {s : Store} {sessions : List DurableAgentSession} {survey : FloorSurvey}
    (h : surveyFloor s sessions = .ok survey) :
    (∀ session ∈ sessions, activeTurnAuthority session ≠ none) ∧
      (survey.anyActive = sessions.any fun session =>
        activeTurnAuthority session == some true) ∧
      survey.candidates = sessions.filterMap (candidateOf s) ∧
      survey.emptyScheduleRequests = sessions.filter (isEmptyRequest s) := by
  have hfold := surveyFloor_fold h
  simpa using hfold

theorem candidateOf_eq_some {s : Store} {session : DurableAgentSession}
    {candidate : Nat × DurableAgentSession} (h : candidateOf s session = some candidate) :
    candidate.2 = session ∧ isListening s session = true ∧
      firstPendingSeq s.events session = some candidate.1 := by
  rw [candidateOf] at h
  split at h
  · rename_i hlisten
    obtain ⟨sequence, hsequence, rfl⟩ := Option.map_eq_some_iff.mp h
    exact ⟨rfl, hlisten, hsequence⟩
  · cases h

theorem candidates_sublist (s : Store) (sessions : List DurableAgentSession) :
    ((sessions.filterMap (candidateOf s)).map Prod.snd).Sublist sessions := by
  have hsub := map_filterMap_sublist (f := candidateOf s) (fun session candidate h =>
    (candidateOf_eq_some h).1) sessions
  rwa [List.map_id'] at hsub

/-- Every candidate waits in the listed rows, and every chosen one is a candidate. -/
theorem chosenCandidates_perm (settings : RoomSettings) (survey : FloorSurvey) :
    ∃ rest, (chosenCandidates settings survey ++ rest).Perm survey.candidates := by
  rw [chosenCandidates]
  have hperm := List.perm_insertionSort candidateLe survey.candidates
  split
  · refine ⟨(survey.candidates.insertionSort candidateLe).drop 1, ?_⟩
    rw [List.take_append_drop]
    exact hperm
  · exact ⟨[], by rw [List.append_nil]; exact hperm⟩

end AgentsAssemble.Persistence
