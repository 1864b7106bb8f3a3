import AgentsAssemble.Provider.ExactTurn

/-!
# Calls on the exact turn slot

Tasks call on one runtime with whatever prepared turns, authorities and controls
they hold.  A call that does not enter a quiesced turn and does not retain a second
result over a first leaves the active turn in one of five ways.
-/

namespace AgentsAssemble.Provider

open Persistence (UuidSource)

variable [UuidSource] {Completed : Type}

/-! ## Calls and their answers -/

inductive Call (Completed : Type)
  | prepare (session : TurnSession) (request : ProviderTurnRequest)
  | enter (prepared : ProviderPreparedTurn) (session : TurnSession)
      (request : ProviderTurnRequest)
  | retainUnstarted (prepared : ProviderPreparedTurn)
  | retainResult (prepared : ProviderPreparedTurn)
      (result : Except ProviderAdapterError Completed) (runtimeRetained : Bool)
  | retainedResult (authority : ProviderExactTurnAuthority)
  | notStartedProof (authority : ProviderExactTurnAuthority)
  | release (authority : ProviderExactTurnAuthority)
  | begin (authority : ProviderExactTurnAuthority)
  | interrupt (control : ProviderTurnControl)
  | confirmedFailure (error : DriverError)
  | runtimeGone
  | stopped (turnFailure : Option DriverError)
  | driver (available : Bool)

inductive Answer (Completed : Type)
  | prepared (outcome : PrepareOutcome)
  | entered (token : Except ProviderAdapterError String)
  | result (result : Option (Except ProviderAdapterError Completed))
  | proof (returned : Bool)
  | control (control : Except ProviderAdapterError ProviderTurnControl)
  | done

def perform (call : Call Completed) (slot : RuntimeSlot Completed) :
    Answer Completed × RuntimeSlot Completed :=
  match call with
  | .prepare session request =>
      let (outcome, slot') := prepareTurn session request slot
      (.prepared outcome, slot')
  | .enter prepared session request =>
      let (token, slot') := enterPreparedTurn prepared session request slot
      (.entered token, slot')
  | .retainUnstarted prepared => (.done, retainUnstartedTurn prepared slot)
  | .retainResult prepared result runtimeRetained =>
      (.done, retainPreparedTurnResult prepared result runtimeRetained slot)
  | .retainedResult authority => (.result (retainedTurnResult authority slot), slot)
  | .notStartedProof authority => (.proof (retainedNotStartedProof authority slot), slot)
  | .release authority => (.done, releaseTerminalTurn authority slot)
  | .begin authority =>
      let (control, slot') := beginExactTurn authority slot
      (.control control, slot')
  | .interrupt control => (.done, requestInterrupt control slot)
  | .confirmedFailure error =>
      (.done, slot.mapRunning fun runtime => .running (runtime.retainConfirmedFailure error))
  | .runtimeGone => (.done, slot.mapRunning fun runtime => .running runtime.signalRuntimeGone)
  | .stopped turnFailure => (.done, slot.mapRunning (confirmStop turnFailure))
  | .driver available =>
      (.done, slot.mapRunning fun runtime => .running { runtime with driverAvailable := available })

/-- A call as it happened: the state it found and the answer it got. -/
structure Moment (Completed : Type) where
  before : RuntimeSlot Completed
  call : Call Completed
  answer : Answer Completed

def Step (moment : Moment Completed) (slot slot' : RuntimeSlot Completed) : Prop :=
  moment.before = slot ∧ perform moment.call slot = (moment.answer, slot')

/-- The turn that occupies the runtime. -/
def RuntimeSlot.active (slot : RuntimeSlot Completed) : Option (ActiveProviderTurnSlot Completed) :=
  slot.state.activeTurn

/-- The preparation `p` occupies the runtime. -/
def RuntimeSlot.holds (slot : RuntimeSlot Completed) (p : String) : Bool :=
  slot.active.any fun active => active.preparationId == p

/-- No turn was prepared yet. -/
def RuntimeSlot.Fresh (slot : RuntimeSlot Completed) : Prop :=
  slot.active = none

namespace Moment

/-- `enter_prepared_turn` succeeded for `p`. -/
def enters (p : String) (moment : Moment Completed) : Bool :=
  match moment.answer with
  | .entered (.ok token) => token == p
  | _ => false

/-- The not-started proof or disposition was returned for `p`. -/
def showsNotStarted (p : String) (moment : Moment Completed) : Bool :=
  match moment.answer with
  | .control (.ok control) =>
      control.disposition == .notStarted && control.interruption == p
  | .proof returned => returned && moment.before.holds p
  | _ => false

/-- A release with the exact authority of `p` found it quiesced. -/
def releases (p : String) (moment : Moment Completed) : Bool :=
  match moment.call with
  | .release authority =>
      moment.before.isAt authority.roomId authority.sessionId &&
        (exactActiveTurn moment.before.state authority).any fun active =>
          active.preparationId == p && active.phase.isQuiesced
  | _ => false

/-- The runtime was signalled gone. -/
def isGone (moment : Moment Completed) : Bool :=
  match moment.call with
  | .runtimeGone | .stopped _ => true
  | _ => false

/-- The call retained `result` for `p`. -/
def retains (p : String) (result : Except ProviderAdapterError Completed)
    (moment : Moment Completed) : Prop :=
  moment.before.holds p = true ∧
    match moment.call with
    | .retainResult prepared given _ =>
        moment.before.isAt prepared.roomId prepared.sessionId = true ∧
          prepared.preparationId = p ∧ given = result
    | .confirmedFailure error =>
        ∃ runtime, moment.before.state = .running runtime ∧
          result = .error
            (.confirmedStopped error runtime.handleId runtime.ownerId runtime.leaseToken)
    | _ => False

/-- The condition under which the slot keeps what it promises: a turn that quiesced is not
entered again, and a retained result is not overwritten. -/
def Careful (moment : Moment Completed) : Prop :=
  match moment.call with
  | .enter prepared session request =>
      ∀ runtime active, moment.before.running prepared.roomId prepared.sessionId = some runtime →
        validatePrepared runtime prepared session request = true →
        runtime.activeTurn = some active →
        active.phase = .preparing ∨
          active.phase = .notStartedRetained ∧
            active.preparationId ∈ moment.before.cancelled
  | .retainResult prepared result _ =>
      moment.before.isAt prepared.roomId prepared.sessionId = true →
        ∀ active, moment.before.active = some active →
          active.preparationId = prepared.preparationId → active.phase.hasResult = true →
          active.result = some result
  | .confirmedFailure error =>
      ∀ runtime active, moment.before.state = .running runtime →
        runtime.activeTurn = some active → active.phase.hasResult = true →
        active.result = some (.error
          (.confirmedStopped error runtime.handleId runtime.ownerId runtime.leaseToken))
  | _ => True

end Moment

/-- A step that meets the condition. -/
def CarefulStep (moment : Moment Completed) (slot slot' : RuntimeSlot Completed) : Prop :=
  Step moment slot slot' ∧ moment.Careful

/-! ## What a call can do -/

/-- What a call leaves of the active turn. -/
inductive Shift (moment : Moment Completed) (s t : RuntimeSlot Completed) : Prop
  /-- The turn stays as it is; only here a proof or a disposition is returned. -/
  | stays (hactive : t.active = s.active) (huuids : t.uuids = s.uuids)
      (hcancelled : s.cancelled ⊆ t.cancelled) (henters : ∀ p, moment.enters p = false)
      (hshows : ∀ p, moment.showsNotStarted p = true →
        ∃ active, s.active = some active ∧ active.preparationId = p ∧
          (active.phase = .preparing ∧ p ∈ t.cancelled ∨ active.phase = .notStartedRetained))
  | prepares (active : ActiveProviderTurnSlot Completed)
      (hrunning : ∃ runtime, s.state = .running runtime) (hnone : s.active = none)
      (hactive : t.active = some active)
      (hpreparation : active.preparationId = UuidSource.newV4 s.uuids)
      (hphase : active.phase = .preparing) (huuids : t.uuids = s.uuids + 1)
      (hcancelled : t.cancelled = s.cancelled)
      (hquiet : ∀ p, moment.enters p = false ∧ moment.showsNotStarted p = false)
  | enters (active : ActiveProviderTurnSlot Completed) (hbefore : s.active = some active)
      (hphase : active.phase = .preparing) (hallowed : active.preparationId ∉ s.cancelled)
      (hactive : t.active = some { active with phase := .entered })
      (huuids : t.uuids = s.uuids) (hcancelled : t.cancelled = s.cancelled)
      (henters : ∀ p, moment.enters p = true ↔ active.preparationId = p)
      (hshows : ∀ p, moment.showsNotStarted p = false)
  /-- The turn quiesces: it was not started, it has a result, or its runtime is gone. -/
  | quiesces (active after : ActiveProviderTurnSlot Completed) (hbefore : s.active = some active)
      (hactive : t.active = some after)
      (hpreparation : after.preparationId = active.preparationId)
      (hexecution : after.executionId = active.executionId ∧ after.turnId = active.turnId ∧
        after.turnGeneration = active.turnGeneration)
      (hquiesced : after.phase.isQuiesced = true)
      (hunstarted : after.phase = .notStartedRetained →
        active.phase = .preparing ∨ active.phase = .notStartedRetained)
      (hkept : moment.isGone = true ∨ active.phase.hasResult = false ∨
        after.phase.hasResult = true ∧ after.result = active.result)
      (huuids : t.uuids = s.uuids) (hcancelled : t.cancelled = s.cancelled)
      (hquiet : ∀ p, moment.enters p = false ∧ moment.showsNotStarted p = false)
  | leaves (active : ActiveProviderTurnSlot Completed) (hbefore : s.active = some active)
      (hactive : t.active = none)
      (hreleases : moment.releases active.preparationId = true ∨
        moment.isGone = true ∧ ∀ runtime, t.state ≠ .running runtime)
      (huuids : t.uuids = s.uuids) (hcancelled : t.cancelled = s.cancelled)
      (hquiet : ∀ p, moment.enters p = false ∧ moment.showsNotStarted p = false)

/-! ### The slot of a running runtime -/

omit [UuidSource] in
theorem running_eq_some {slot : RuntimeSlot Completed} {roomId sessionId : String}
    {runtime : OwnedRuntime Completed} :
    slot.running roomId sessionId = some runtime ↔
      slot.state = .running runtime ∧ slot.isAt roomId sessionId = true := by
  unfold RuntimeSlot.running
  cases hstate : slot.state with
  | vacant => simp
  | stopConfirmed handleId ownerId leaseToken active => simp
  | running owned =>
      by_cases hat : slot.isAt roomId sessionId = true
      · simp [hat]
      · simp [hat]

omit [UuidSource] in
theorem active_of_running {slot : RuntimeSlot Completed} {runtime : OwnedRuntime Completed}
    (h : slot.state = .running runtime) : slot.active = runtime.activeTurn := by
  rw [RuntimeSlot.active, h, RuntimeState.activeTurn]

omit [UuidSource] in
theorem holds_iff {slot : RuntimeSlot Completed} {p : String} :
    slot.holds p = true ↔ ∃ active, slot.active = some active ∧ active.preparationId = p := by
  unfold RuntimeSlot.holds
  rw [Option.any_eq_true]
  simp

omit [UuidSource] in
theorem setActive_active {slot : RuntimeSlot Completed}
    {active : ActiveProviderTurnSlot Completed} (h : slot.active = some active)
    (after : Option (ActiveProviderTurnSlot Completed)) : (slot.setActive after).active = after := by
  unfold RuntimeSlot.active RuntimeSlot.setActive at *
  cases hstate : slot.state with
  | vacant =>
      rw [hstate] at h
      cases h
  | running runtime => rfl
  | stopConfirmed handleId ownerId leaseToken kept => rfl

omit [UuidSource] in
theorem setActive_running {slot : RuntimeSlot Completed} {runtime : OwnedRuntime Completed}
    (h : slot.state = .running runtime) (after : Option (ActiveProviderTurnSlot Completed)) :
    (slot.setActive after).active = after := by
  rw [RuntimeSlot.active, RuntimeSlot.setActive, h, RuntimeState.setActiveTurn,
    RuntimeState.activeTurn]

/-- A call that leaves the turn as it is and shows nothing. -/
theorem Shift.still {moment : Moment Completed} {s t : RuntimeSlot Completed}
    (hactive : t.active = s.active) (huuids : t.uuids = s.uuids)
    (hcancelled : s.cancelled ⊆ t.cancelled)
    (hquiet : ∀ p, moment.enters p = false ∧ moment.showsNotStarted p = false) :
    Shift moment s t := by
  refine .stays hactive huuids hcancelled (fun p => (hquiet p).1) ?_
  intro p hshow
  rw [(hquiet p).2] at hshow
  cases hshow

theorem Shift.refl {moment : Moment Completed} {s : RuntimeSlot Completed}
    (hquiet : ∀ p, moment.enters p = false ∧ moment.showsNotStarted p = false) :
    Shift moment s s :=
  .still rfl rfl (List.Subset.refl _) hquiet

/-! ### One lemma for each call -/

theorem shift_prepare {session : TurnSession} {request : ProviderTurnRequest}
    {s t : RuntimeSlot Completed} {moment : Moment Completed}
    (h : perform (.prepare session request) s = (moment.answer, t)) : Shift moment s t := by
  obtain ⟨hanswer, rfl⟩ : Answer.prepared (prepareTurn session request s).1 = moment.answer ∧
      (prepareTurn session request s).2 = t := by simpa [perform] using h
  have hquiet : ∀ p, moment.enters p = false ∧ moment.showsNotStarted p = false := by
    intro p
    rw [Moment.enters, Moment.showsNotStarted, ← hanswer]
    exact ⟨rfl, rfl⟩
  unfold prepareTurn
  cases validateRequest session request with
  | error error => exact .refl hquiet
  | ok _ =>
      cases hrunning : s.running session.roomId session.sessionId with
      | none => exact .refl hquiet
      | some runtime =>
          obtain ⟨hstate, -⟩ := running_eq_some.mp hrunning
          cases hvalid : validateOwnedRuntime session runtime with
          | error error =>
              simp only [hvalid]
              exact .refl hquiet
          | ok _ =>
              simp only [hvalid]
              cases hactive : runtime.activeTurn with
              | some active =>
                  -- a repeated preparation leaves the turn to its owner
                  dsimp only
                  split
                  · exact .refl hquiet
                  · split <;> exact .refl hquiet
              | none =>
                  dsimp only
                  split
                  · exact .refl hquiet
                  · have hnone : s.active = none := (active_of_running hstate).trans hactive
                    have hafter := setActive_running hstate (some
                      { preparationId := UuidSource.newV4 s.uuids
                        executionId := request.executionId
                        turnId := request.turnId
                        turnGeneration := request.turnGeneration
                        phase := .preparing
                        result := none })
                    exact .prepares _ ⟨runtime, hstate⟩ hnone hafter rfl rfl rfl rfl hquiet

theorem shift_enter {prepared : ProviderPreparedTurn} {session : TurnSession}
    {request : ProviderTurnRequest} {s t : RuntimeSlot Completed} {moment : Moment Completed}
    (hcall : moment.call = .enter prepared session request) (hbefore : moment.before = s)
    (hcareful : moment.Careful)
    (h : perform (.enter prepared session request) s = (moment.answer, t)) :
    Shift moment s t := by
  obtain ⟨hanswer, rfl⟩ :
      Answer.entered (enterPreparedTurn prepared session request s).1 = moment.answer ∧
        (enterPreparedTurn prepared session request s).2 = t := by simpa [perform] using h
  have hshows : ∀ p, moment.showsNotStarted p = false := by
    intro p
    rw [Moment.showsNotStarted, ← hanswer]
  have henters : ∀ p, moment.enters p =
      match (enterPreparedTurn prepared session request s).1 with
      | .ok token => token == p
      | .error _ => false := by
    intro p
    rw [Moment.enters, ← hanswer]
    cases (enterPreparedTurn prepared session request s).1 <;> rfl
  simp only [Moment.Careful, hcall, hbefore] at hcareful
  unfold enterPreparedTurn at henters ⊢
  cases hrunning : s.running prepared.roomId prepared.sessionId with
  | none =>
      simp only [hrunning] at henters
      exact .refl fun p => ⟨henters p, hshows p⟩
  | some runtime =>
      obtain ⟨hstate, -⟩ := running_eq_some.mp hrunning
      simp only [hrunning] at henters
      by_cases hvalid : validatePrepared runtime prepared session request = true
      · simp only [hvalid, Bool.not_true, Bool.false_eq_true, if_false] at henters ⊢
        cases hactive : runtime.activeTurn with
        | none =>
            simp only [hactive] at henters
            exact .refl fun p => ⟨henters p, hshows p⟩
        | some active =>
            have hsome : s.active = some active := (active_of_running hstate).trans hactive
            have hphase := hcareful runtime active hrunning hvalid hactive
            simp only [hactive] at henters
            by_cases hcancelled : active.preparationId ∈ s.cancelled
            · simp only [List.contains_iff_mem.mpr hcancelled, if_true] at henters ⊢
              refine .quiesces active _ hsome (setActive_active hsome _) rfl ⟨rfl, rfl, rfl⟩ rfl
                (fun _ => hphase.imp id And.left) (.inr (.inl ?_)) rfl rfl
                fun p => ⟨henters p, hshows p⟩
              rcases hphase with hphase | ⟨hphase, -⟩ <;> rw [hphase] <;> rfl
            · have hcontains : s.cancelled.contains active.preparationId = false := by
                simpa using hcancelled
              simp only [hcontains, Bool.false_eq_true, if_false] at henters ⊢
              refine .enters active hsome ?_ hcancelled (setActive_active hsome _) rfl rfl ?_ hshows
              · rcases hphase with hphase | ⟨-, hin⟩
                · exact hphase
                · exact (hcancelled hin).elim
              · intro p
                rw [henters p, beq_iff_eq]
      · simp only [hvalid, Bool.not_false, if_true] at henters ⊢
        exact .refl fun p => ⟨henters p, hshows p⟩

omit [UuidSource] in
theorem quiet_of_done {moment : Moment Completed} (h : moment.answer = .done) (p : String) :
    moment.enters p = false ∧ moment.showsNotStarted p = false := by
  rw [Moment.enters, Moment.showsNotStarted, h]
  exact ⟨rfl, rfl⟩

theorem shift_retainUnstarted {prepared : ProviderPreparedTurn} {s t : RuntimeSlot Completed}
    {moment : Moment Completed}
    (h : perform (.retainUnstarted prepared) s = (moment.answer, t)) : Shift moment s t := by
  obtain ⟨hanswer, rfl⟩ : Answer.done = moment.answer ∧ retainUnstartedTurn prepared s = t := by
    simpa [perform] using h
  have hquiet := quiet_of_done hanswer.symm
  unfold retainUnstartedTurn
  cases hrunning : s.running prepared.roomId prepared.sessionId with
  | none => exact .refl hquiet
  | some runtime =>
      obtain ⟨hstate, -⟩ := running_eq_some.mp hrunning
      cases hactive : runtime.activeTurn with
      | none =>
          simp only [hactive]
          exact .refl hquiet
      | some active =>
          have hsome : s.active = some active := (active_of_running hstate).trans hactive
          simp only [hactive]
          by_cases hunstarted : active.preparationId = prepared.preparationId ∧
              active.phase = .preparing
          · rw [if_pos hunstarted]
            refine .quiesces active _ hsome (setActive_active hsome _) rfl ⟨rfl, rfl, rfl⟩ rfl
              (fun _ => .inl hunstarted.2) (.inr (.inl ?_)) rfl rfl hquiet
            rw [hunstarted.2]
            rfl
          · rw [if_neg hunstarted]
            exact .refl hquiet

theorem shift_retainResult {prepared : ProviderPreparedTurn}
    {result : Except ProviderAdapterError Completed} {runtimeRetained : Bool}
    {s t : RuntimeSlot Completed} {moment : Moment Completed}
    (hcall : moment.call = .retainResult prepared result runtimeRetained)
    (hbefore : moment.before = s) (hcareful : moment.Careful)
    (h : perform (.retainResult prepared result runtimeRetained) s = (moment.answer, t)) :
    Shift moment s t := by
  obtain ⟨hanswer, rfl⟩ : Answer.done = moment.answer ∧
      retainPreparedTurnResult prepared result runtimeRetained s = t := by
    simpa [perform] using h
  have hquiet := quiet_of_done hanswer.symm
  simp only [Moment.Careful, hcall, hbefore] at hcareful
  unfold retainPreparedTurnResult
  by_cases hat : s.isAt prepared.roomId prepared.sessionId = true
  · simp only [hat, Bool.not_true, Bool.false_eq_true, if_false]
    cases hsome : s.state.activeTurn with
    | none =>
        dsimp only
        exact .refl hquiet
    | some active =>
        dsimp only
        by_cases howned : active.preparationId = prepared.preparationId
        · rw [if_pos howned]
          -- whether the runtime survives or not, the turn now has its result
          have hresult : (if runtimeRetained then ActiveProviderTurnPhase.resultReadyRetained
              else .resultReadyUncertain).hasResult = true := by
            cases runtimeRetained <;> rfl
          refine .quiesces active _ hsome (setActive_active hsome _) rfl ⟨rfl, rfl, rfl⟩ ?_ ?_ ?_
            rfl rfl hquiet
          · cases runtimeRetained <;> rfl
          · intro hphase
            cases runtimeRetained <;> cases hphase
          · by_cases hhad : active.phase.hasResult = true
            · exact .inr (.inr ⟨hresult, (hcareful hat active hsome howned hhad).symm⟩)
            · exact .inr (.inl (Bool.eq_false_iff.mpr hhad))
        · rw [if_neg howned]
          exact .refl hquiet
  · simp only [hat, Bool.not_false, if_true]
    exact .refl hquiet

omit [UuidSource] in
theorem exactActiveTurn_eq_some {state : RuntimeState Completed}
    {authority : ProviderExactTurnAuthority} {active : ActiveProviderTurnSlot Completed} :
    exactActiveTurn state authority = some active ↔
      state.isNamedBy authority = true ∧ state.activeTurn = some active ∧
        exactAuthorityMatches active authority = true := by
  unfold exactActiveTurn
  by_cases hnamed : state.isNamedBy authority = true
  · simp [hnamed, Option.filter_eq_some_iff]
  · simp [hnamed]

theorem shift_release {authority : ProviderExactTurnAuthority} {s t : RuntimeSlot Completed}
    {moment : Moment Completed} (hcall : moment.call = .release authority)
    (hbefore : moment.before = s)
    (h : perform (.release authority) s = (moment.answer, t)) : Shift moment s t := by
  obtain ⟨hanswer, rfl⟩ : Answer.done = moment.answer ∧ releaseTerminalTurn authority s = t := by
    simpa [perform] using h
  have hquiet := quiet_of_done hanswer.symm
  unfold releaseTerminalTurn
  cases hrunning : s.running authority.roomId authority.sessionId with
  | none => exact .refl hquiet
  | some runtime =>
      obtain ⟨hstate, hat⟩ := running_eq_some.mp hrunning
      dsimp only
      split
      · exact .refl hquiet
      · rename_i hnamed
        split
        · rename_i hquiesced
          obtain ⟨active, hactive, hexact⟩ := (Option.any_eq_true _ _).mp hquiesced
          obtain ⟨hmatches, hphase⟩ := Bool.and_eq_true_iff.mp hexact
          have hsome : s.active = some active := (active_of_running hstate).trans hactive
          refine .leaves active hsome (setActive_active hsome _) (.inl ?_) rfl rfl hquiet
          have hexactTurn : exactActiveTurn s.state authority = some active := by
            refine exactActiveTurn_eq_some.mpr ⟨?_, hsome, hmatches⟩
            rw [hstate, RuntimeState.isNamedBy]
            simpa using hnamed
          simp [Moment.releases, hcall, hbefore, hat, hexactTurn, hphase]
        · exact .refl hquiet

theorem shift_begin {authority : ProviderExactTurnAuthority} {s t : RuntimeSlot Completed}
    {moment : Moment Completed}
    (h : perform (.begin authority) s = (moment.answer, t)) : Shift moment s t := by
  obtain ⟨hanswer, rfl⟩ : Answer.control (beginExactTurn authority s).1 = moment.answer ∧
      (beginExactTurn authority s).2 = t := by simpa [perform] using h
  have henters : ∀ p, moment.enters p = false := by
    intro p
    rw [Moment.enters, ← hanswer]
  have hshows : ∀ p, moment.showsNotStarted p =
      match (beginExactTurn authority s).1 with
      | .ok control => control.disposition == .notStarted && control.interruption == p
      | .error _ => false := by
    intro p
    rw [Moment.showsNotStarted, ← hanswer]
    cases (beginExactTurn authority s).1 <;> rfl
  unfold beginExactTurn at hshows ⊢
  cases hrunning : s.running authority.roomId authority.sessionId with
  | none =>
      simp only [hrunning] at hshows
      exact .refl fun p => ⟨henters p, hshows p⟩
  | some runtime =>
      obtain ⟨hstate, -⟩ := running_eq_some.mp hrunning
      simp only [hrunning] at hshows
      by_cases hnamed : runtime.isNamedBy authority = true
      · simp only [hnamed, Bool.not_true, Bool.false_eq_true, if_false] at hshows ⊢
        cases hfilter : runtime.activeTurn.filter
            (fun active => exactAuthorityMatches active authority) with
        | none =>
            simp only [hfilter] at hshows
            exact .refl fun p => ⟨henters p, hshows p⟩
        | some active =>
            have hactive : runtime.activeTurn = some active :=
              (Option.filter_eq_some_iff.mp hfilter).1
            have hsome : s.active = some active := (active_of_running hstate).trans hactive
            simp only [hfilter] at hshows
            cases hphase : active.phase with
            | preparing =>
                simp only [hphase] at hshows ⊢
                refine .stays rfl rfl (List.subset_cons_self _ _) henters ?_
                intro p hshow
                rw [hshows p] at hshow
                obtain rfl : active.preparationId = p := by simpa using hshow
                exact ⟨active, hsome, rfl, .inl ⟨hphase, List.mem_cons_self⟩⟩
            | _ =>
                simp only [hphase] at hshows ⊢
                exact .refl fun p => ⟨henters p, by rw [hshows p]; rfl⟩
      · simp only [hnamed, Bool.not_false, if_true] at hshows ⊢
        exact .refl fun p => ⟨henters p, hshows p⟩

theorem shift_confirmedFailure {error : DriverError} {s t : RuntimeSlot Completed}
    {moment : Moment Completed} (hcall : moment.call = .confirmedFailure error)
    (hbefore : moment.before = s) (hcareful : moment.Careful)
    (h : perform (.confirmedFailure error) s = (moment.answer, t)) : Shift moment s t := by
  obtain ⟨hanswer, rfl⟩ : Answer.done = moment.answer ∧
      (s.mapRunning fun runtime => .running (runtime.retainConfirmedFailure error)) = t := by
    simpa [perform] using h
  have hquiet := quiet_of_done hanswer.symm
  simp only [Moment.Careful, hcall, hbefore] at hcareful
  unfold RuntimeSlot.mapRunning
  split
  · rename_i runtime hstate
    cases hactive : runtime.activeTurn with
    | none =>
        have hnone : s.active = none := (active_of_running hstate).trans hactive
        refine .still (Eq.trans ?_ hnone.symm) rfl (List.Subset.refl _) hquiet
        simp [RuntimeSlot.active, RuntimeState.activeTurn, OwnedRuntime.retainConfirmedFailure,
          hactive]
    | some active =>
        have hsome : s.active = some active := (active_of_running hstate).trans hactive
        refine .quiesces active
          { active with
            result := some (.error
              (.confirmedStopped error runtime.handleId runtime.ownerId runtime.leaseToken))
            phase := .resultReadyUncertain } hsome ?_ rfl ⟨rfl, rfl, rfl⟩ rfl nofun ?_ rfl rfl
          hquiet
        · simp [RuntimeSlot.active, RuntimeState.activeTurn, OwnedRuntime.retainConfirmedFailure,
            hactive]
        · by_cases hhad : active.phase.hasResult = true
          · exact .inr (.inr ⟨rfl, (hcareful runtime active hstate hactive hhad).symm⟩)
          · exact .inr (.inl (Bool.eq_false_iff.mpr hhad))
  · exact .refl hquiet

theorem shift_gone {f : OwnedRuntime Completed → RuntimeState Completed}
    {s t : RuntimeSlot Completed} {moment : Moment Completed} (hgone : moment.isGone = true)
    (hanswer : moment.answer = .done) (h : s.mapRunning f = t)
    (hf : ∀ runtime active, runtime.activeTurn = some active →
      ((f runtime).activeTurn = none ∧ ∀ runtime', f runtime ≠ .running runtime') ∨ ∃ after, (f runtime).activeTurn = some after ∧
        after.preparationId = active.preparationId ∧
        (after.executionId = active.executionId ∧ after.turnId = active.turnId ∧
          after.turnGeneration = active.turnGeneration) ∧
        after.phase.isQuiesced = true ∧ after.phase ≠ .notStartedRetained)
    (hnone : ∀ runtime, runtime.activeTurn = none → (f runtime).activeTurn = none) :
    Shift moment s t := by
  have hquiet := quiet_of_done hanswer
  subst h
  unfold RuntimeSlot.mapRunning
  split
  · rename_i runtime hstate
    cases hactive : runtime.activeTurn with
    | none =>
        have hbefore : s.active = none := (active_of_running hstate).trans hactive
        exact .still ((hnone runtime hactive).trans hbefore.symm) rfl (List.Subset.refl _) hquiet
    | some active =>
        have hbefore : s.active = some active := (active_of_running hstate).trans hactive
        rcases hf runtime active hactive with
          ⟨hleft, hstopped⟩ | ⟨after, hafter, hid, hexec, hquiesced, hne⟩
        · exact .leaves active hbefore hleft (.inr ⟨hgone, hstopped⟩) rfl rfl hquiet
        · exact .quiesces active after hbefore hafter hid hexec hquiesced
            (fun hphase => (hne hphase).elim) (.inl hgone) rfl rfl hquiet
  · exact .refl hquiet

omit [UuidSource] in
theorem signalRuntimeGone_active (runtime : OwnedRuntime Completed) :
    runtime.signalRuntimeGone.activeTurn =
      runtime.activeTurn.map fun active => { active with phase := .runtimeGone } :=
  rfl

theorem shift_runtimeGone {s t : RuntimeSlot Completed} {moment : Moment Completed}
    (hcall : moment.call = .runtimeGone)
    (h : perform .runtimeGone s = (moment.answer, t)) : Shift moment s t := by
  obtain ⟨hanswer, hslot⟩ : Answer.done = moment.answer ∧
      (s.mapRunning fun runtime => .running runtime.signalRuntimeGone) = t := by
    simpa [perform] using h
  have hgone : moment.isGone = true := by rw [Moment.isGone, hcall]
  refine shift_gone hgone hanswer.symm hslot ?_ ?_
  · intro runtime active hactive
    refine .inr ⟨{ active with phase := .runtimeGone }, ?_, rfl, ⟨rfl, rfl, rfl⟩, rfl, nofun⟩
    rw [RuntimeState.activeTurn, signalRuntimeGone_active, hactive, Option.map_some]
  · intro runtime hactive
    rw [RuntimeState.activeTurn, signalRuntimeGone_active, hactive, Option.map_none]

theorem shift_stopped {turnFailure : Option DriverError} {s t : RuntimeSlot Completed}
    {moment : Moment Completed} (hcall : moment.call = .stopped turnFailure)
    (h : perform (.stopped turnFailure) s = (moment.answer, t)) : Shift moment s t := by
  obtain ⟨hanswer, hslot⟩ : Answer.done = moment.answer ∧
      s.mapRunning (confirmStop turnFailure) = t := by simpa [perform] using h
  have hgone : moment.isGone = true := by rw [Moment.isGone, hcall]
  refine shift_gone hgone hanswer.symm hslot ?_ ?_
  · intro runtime active hactive
    cases turnFailure with
    | none => exact .inl ⟨rfl, nofun⟩
    | some error =>
        refine .inr ⟨{ active with
          phase := .resultReadyUncertain
          result := some (.error
            (.confirmedStopped error runtime.handleId runtime.ownerId runtime.leaseToken)) },
          ?_, rfl, ⟨rfl, rfl, rfl⟩, rfl, nofun⟩
        simp [confirmStop, RuntimeState.activeTurn, OwnedRuntime.retainConfirmedFailure,
          OwnedRuntime.signalRuntimeGone, hactive]
  · intro runtime hactive
    cases turnFailure with
    | none => rfl
    | some error =>
        simp [confirmStop, RuntimeState.activeTurn, OwnedRuntime.retainConfirmedFailure,
          OwnedRuntime.signalRuntimeGone, hactive]

theorem shift_driver {available : Bool} {s t : RuntimeSlot Completed} {moment : Moment Completed}
    (h : perform (.driver available) s = (moment.answer, t)) : Shift moment s t := by
  obtain ⟨hanswer, rfl⟩ : Answer.done = moment.answer ∧
      (s.mapRunning fun runtime => .running { runtime with driverAvailable := available }) = t := by
    simpa [perform] using h
  have hquiet := quiet_of_done hanswer.symm
  unfold RuntimeSlot.mapRunning
  split
  · rename_i runtime hstate
    exact .still (active_of_running hstate).symm rfl (List.Subset.refl _) hquiet
  · exact .refl hquiet

theorem shift_interrupt {control : ProviderTurnControl} {s t : RuntimeSlot Completed}
    {moment : Moment Completed}
    (h : perform (.interrupt control) s = (moment.answer, t)) : Shift moment s t := by
  obtain ⟨hanswer, rfl⟩ : Answer.done = moment.answer ∧ requestInterrupt control s = t := by
    simpa [perform] using h
  have hquiet := quiet_of_done hanswer.symm
  exact .still rfl rfl (List.subset_cons_self _ _) hquiet

theorem shift_notStartedProof {authority : ProviderExactTurnAuthority}
    {s t : RuntimeSlot Completed} {moment : Moment Completed} (hbefore : moment.before = s)
    (h : perform (.notStartedProof authority) s = (moment.answer, t)) : Shift moment s t := by
  obtain ⟨hanswer, rfl⟩ : Answer.proof (retainedNotStartedProof authority s) = moment.answer ∧
      s = t := by simpa [perform] using h
  refine .stays rfl rfl (List.Subset.refl _) ?_ ?_
  · intro p
    rw [Moment.enters, ← hanswer]
  · intro p hshow
    rw [Moment.showsNotStarted, ← hanswer, hbefore] at hshow
    obtain ⟨hproof, hholds⟩ := Bool.and_eq_true_iff.mp hshow
    obtain ⟨active, hactive, hid⟩ := holds_iff.mp hholds
    obtain ⟨runtime, hrunning, hexact⟩ := (Option.any_eq_true _ _).mp hproof
    obtain ⟨-, hturn⟩ := Bool.and_eq_true_iff.mp hexact
    obtain ⟨retained, hretained, hphase⟩ := (Option.any_eq_true _ _).mp hturn
    have hsame : some active = some retained := by
      rw [← hactive, ← hretained]
      exact active_of_running (running_eq_some.mp hrunning).1
    cases hsame
    exact ⟨active, hactive, hid, .inr (by simpa using (Bool.and_eq_true_iff.mp hphase).2)⟩

/-- The step lemma: what a call that meets the condition leaves of the active turn. -/
theorem shift_of_careful {moment : Moment Completed} {s t : RuntimeSlot Completed}
    (h : CarefulStep moment s t) : Shift moment s t := by
  obtain ⟨⟨hbefore, hperform⟩, hcareful⟩ := h
  cases hcall : moment.call with
  | prepare session request => exact shift_prepare (hcall ▸ hperform)
  | enter prepared session request =>
      exact shift_enter hcall hbefore hcareful (hcall ▸ hperform)
  | retainUnstarted prepared => exact shift_retainUnstarted (hcall ▸ hperform)
  | retainResult prepared result runtimeRetained =>
      exact shift_retainResult hcall hbefore hcareful (hcall ▸ hperform)
  | retainedResult authority =>
      obtain ⟨hanswer, rfl⟩ : Answer.result (retainedTurnResult authority s) = moment.answer ∧
          s = t := by simpa [perform, hcall] using hperform
      refine .refl fun p => ?_
      rw [Moment.enters, Moment.showsNotStarted, ← hanswer]
      exact ⟨rfl, rfl⟩
  | notStartedProof authority => exact shift_notStartedProof hbefore (hcall ▸ hperform)
  | release authority => exact shift_release hcall hbefore (hcall ▸ hperform)
  | begin authority => exact shift_begin (hcall ▸ hperform)
  | interrupt control => exact shift_interrupt (hcall ▸ hperform)
  | confirmedFailure error =>
      exact shift_confirmedFailure hcall hbefore hcareful (hcall ▸ hperform)
  | runtimeGone => exact shift_runtimeGone hcall (hcall ▸ hperform)
  | stopped turnFailure => exact shift_stopped hcall (hcall ▸ hperform)
  | driver available => exact shift_driver (hcall ▸ hperform)

/-! ### What no call changes -/

/-- Both states belong to one runtime; a stopped runtime stays stopped. -/
structure SameRuntime (s t : RuntimeSlot Completed) : Prop where
  isAt : ∀ roomId sessionId, t.isAt roomId sessionId = s.isAt roomId sessionId
  isNamedBy : ∀ authority, t.state.isNamedBy authority = s.state.isNamedBy authority
  running : ∀ runtime', t.state = .running runtime' → ∃ runtime, s.state = .running runtime

omit [UuidSource] in
theorem SameRuntime.refl (s : RuntimeSlot Completed) : SameRuntime s s :=
  ⟨fun _ _ => rfl, fun _ => rfl, fun runtime h => ⟨runtime, h⟩⟩

omit [UuidSource] in
theorem SameRuntime.trans {s t u : RuntimeSlot Completed} (h₁ : SameRuntime s t)
    (h₂ : SameRuntime t u) : SameRuntime s u := by
  refine ⟨?_, ?_, ?_⟩
  · intro roomId sessionId
    rw [h₂.isAt, h₁.isAt]
  · intro authority
    rw [h₂.isNamedBy, h₁.isNamedBy]
  · intro runtime' hrunning
    obtain ⟨runtime, hbetween⟩ := h₂.running runtime' hrunning
    exact h₁.running runtime hbetween

omit [UuidSource] in
theorem sameRuntime_setActive (s : RuntimeSlot Completed)
    (after : Option (ActiveProviderTurnSlot Completed)) : SameRuntime s (s.setActive after) := by
  unfold RuntimeSlot.setActive
  cases hstate : s.state with
  | vacant => exact ⟨fun _ _ => rfl, fun _ => by rw [hstate]; rfl, nofun⟩
  | running runtime =>
      exact ⟨fun _ _ => rfl, fun _ => by rw [hstate]; rfl, fun _ _ => ⟨runtime, hstate⟩⟩
  | stopConfirmed handleId ownerId leaseToken kept =>
      exact ⟨fun _ _ => rfl, fun _ => by rw [hstate]; rfl, nofun⟩

omit [UuidSource] in
theorem sameRuntime_mapRunning (s : RuntimeSlot Completed)
    {f : OwnedRuntime Completed → RuntimeState Completed}
    (hf : ∀ runtime authority, (f runtime).isNamedBy authority = runtime.isNamedBy authority) :
    SameRuntime s (s.mapRunning f) := by
  unfold RuntimeSlot.mapRunning
  split
  · rename_i runtime hstate
    refine ⟨fun _ _ => rfl, ?_, fun _ _ => ⟨runtime, hstate⟩⟩
    intro authority
    rw [hstate]
    exact hf runtime authority
  · exact .refl s

theorem perform_sameRuntime (call : Call Completed) (s : RuntimeSlot Completed) :
    SameRuntime s (perform call s).2 := by
  cases call with
  | prepare session request =>
      have hset : ∀ after uuids, SameRuntime s { s.setActive after with uuids := uuids } :=
        fun after _ => ⟨(sameRuntime_setActive s after).isAt,
          (sameRuntime_setActive s after).isNamedBy, (sameRuntime_setActive s after).running⟩
      dsimp only [perform, prepareTurn]
      repeat' split
      all_goals first
        | exact .refl s
        | exact hset _ _
  | enter prepared session request =>
      dsimp only [perform, enterPreparedTurn]
      repeat' split
      all_goals first
        | exact .refl s
        | exact sameRuntime_setActive s _
  | retainUnstarted prepared =>
      dsimp only [perform, retainUnstartedTurn]
      repeat' split
      all_goals first
        | exact .refl s
        | exact sameRuntime_setActive s _
  | retainResult prepared result runtimeRetained =>
      dsimp only [perform, retainPreparedTurnResult]
      repeat' split
      all_goals first
        | exact .refl s
        | exact sameRuntime_setActive s _
  | release authority =>
      dsimp only [perform, releaseTerminalTurn]
      repeat' split
      all_goals first
        | exact .refl s
        | exact sameRuntime_setActive s _
  | begin authority =>
      dsimp only [perform, beginExactTurn]
      repeat' split
      all_goals first
        | exact .refl s
        | exact ⟨fun _ _ => rfl, fun _ => rfl, fun runtime h => ⟨runtime, h⟩⟩
  | retainedResult authority => exact .refl s
  | notStartedProof authority => exact .refl s
  | interrupt control => exact ⟨fun _ _ => rfl, fun _ => rfl, fun runtime h => ⟨runtime, h⟩⟩
  | confirmedFailure error => exact sameRuntime_mapRunning s fun _ _ => rfl
  | runtimeGone => exact sameRuntime_mapRunning s fun _ _ => rfl
  | stopped turnFailure => exact sameRuntime_mapRunning s fun _ _ => rfl
  | driver available => exact sameRuntime_mapRunning s fun _ _ => rfl

theorem step_sameRuntime {moment : Moment Completed} {s t : RuntimeSlot Completed}
    (h : CarefulStep moment s t) : SameRuntime s t := by
  have hsame := perform_sameRuntime moment.call s
  rw [h.1.2] at hsame
  exact hsame

end AgentsAssemble.Provider
