import AgentsAssemble.Foundation.Ascii
import AgentsAssemble.System.Simulation

/-!
# Batches of operations

A list of operations that commits one after the other is a run, so whatever a
batch leaves behind is a reachable room.  The sample platform makes batches
computable: its services answer as simply as their contracts allow.
-/

namespace AgentsAssemble.System

open Foundation Domain Persistence Protocol Tx

section Batches

variable [UuidSource] [CaseFold] [TextServices] [OperationHash]

/-- A committed batch is a run, with one label for each operation. -/
theorem run_of_batch {ops : List Op} {s s' : Store} {responses : List Response}
    (h : Commits (each Op.run ops) s responses s') :
    Run Step s (List.zipWith Label.inside ops responses) s' := by
  induction ops generalizing s responses with
  | nil =>
      obtain ⟨rfl, rfl⟩ := commits_each_nil.mp h
      exact Run.nil _
  | cons op ops ih =>
      obtain ⟨response, t, rest, hfirst, hrest, rfl⟩ := commits_each_cons.mp h
      have hstep : Step (.inside op response) s t := Step.inside op response hfirst
      exact (Run.single hstep).append (ih hrest)

/-- The room a batch leaves, or the room it started in when it is rejected. -/
def roomAfter (s : Store) (ops : List Op) : Store :=
  match (each Op.run ops).run s with
  | .ok (_, s') => s'
  | .error _ => s

theorem commits_roomAfter {s : Store} {ops : List Op}
    (h : ((each Op.run ops).run s).toBool = true) :
    ∃ responses, Commits (each Op.run ops) s responses (roomAfter s ops) := by
  rw [roomAfter]
  cases hrun : (each Op.run ops).run s with
  | ok result => exact ⟨result.1, hrun⟩
  | error e =>
      rw [hrun] at h
      cases h

theorem run_each_cons {op : Op} {s t : Store} {response : Response}
    (h : Commits op.run s response t) (ops : List Op) :
    (each Op.run (op :: ops)).run s =
      (fun result => (response :: result.1, result.2)) <$> (each Op.run ops).run t := by
  have hfirst : (each Op.run (op :: ops)).run s =
      (each Op.run ops).run t >>= fun result => .ok (response :: result.1, result.2) := by
    rw [each, StateT.run_bind, show op.run.run s = .ok (response, t) from h]
    rfl
  rw [hfirst]
  cases (each Op.run ops).run t with
  | error e => rfl
  | ok result => rfl

theorem run_each_append {front : List Op} {s s' : Store} {responses : List Response}
    (h : Commits (each Op.run front) s responses s') (back : List Op) :
    (each Op.run (front ++ back)).run s =
      (fun result => (responses ++ result.1, result.2)) <$> (each Op.run back).run s' := by
  induction front generalizing s responses with
  | nil =>
      obtain ⟨rfl, rfl⟩ := commits_each_nil.mp h
      cases hback : (each Op.run back).run s' with
      | error e => exact hback
      | ok result => exact hback
  | cons op front ih =>
      obtain ⟨response, t, rest, hfirst, hrest, rfl⟩ := commits_each_cons.mp h
      rw [List.cons_append, run_each_cons hfirst, ih hrest]
      cases (each Op.run back).run s' with
      | error e => rfl
      | ok result => rfl

/-- A batch of two parts, the first of which is known to commit. -/
theorem roomAfter_append {s s' : Store} {front : List Op} (back : List Op)
    (hfront : Prod.snd <$> (each Op.run front).run s = .ok s') :
    roomAfter s (front ++ back) =
      match (each Op.run back).run s' with
      | .ok (_, t) => t
      | .error _ => s := by
  obtain ⟨⟨responses, _⟩, hcommits, rfl⟩ := Result.map_eq_ok.mp hfront
  rw [roomAfter, run_each_append hcommits]
  cases (each Op.run back).run _ with
  | error e => rfl
  | ok result => rfl

theorem run_roomAfter (s : Store) (ops : List Op) :
    ∃ labels, Run Step s labels (roomAfter s ops) := by
  unfold roomAfter
  split
  · rename_i responses s' hrun
    exact ⟨_, run_of_batch hrun⟩
  · exact ⟨[], Run.nil s⟩

theorem reachable_roomAfter {s : Store} (hs : IsReachable s) (ops : List Op) :
    IsReachable (roomAfter s ops) := by
  obtain ⟨init, labels, hinit, hrun⟩ := hs
  obtain ⟨more, hmore⟩ := run_roomAfter s ops
  exact ⟨init, labels ++ more, hinit, hrun.append hmore⟩

/-! ## Steps under a condition -/

/-- The operation of the step meets `C`; what happens outside is under no condition. -/
def Label.Meets (C : Store → Op → Prop) (s : Store) : Label → Prop
  | .inside op _ => C s op
  | .outside => True

def StepMeeting (C : Store → Op → Prop) (l : Label) (s s' : Store) : Prop :=
  Step l s s' ∧ l.Meets C s

/-- Rooms that steps under the condition lead to. -/
def ReachableMeeting (C : Store → Op → Prop) (s : Store) : Prop :=
  Reachable IsInitial (StepMeeting C) s

/-- What every step under the condition preserves, every such room satisfies. -/
theorem ReachableMeeting.invariant {C : Store → Op → Prop} {I : RoomCore → Prop}
    (hinit : ∀ s, IsInitial s → I (coreOf s))
    (hinside : ∀ s s' op response, Sound (coreOf s) → I (coreOf s) → C s op →
      Commits op.run s response s' → I (coreOf s'))
    (houtside : ∀ s s', Sound (coreOf s) → I (coreOf s) → Outside s s' → I (coreOf s'))
    {s : Store} (h : ReachableMeeting C s) : Sound (coreOf s) ∧ I (coreOf s) := by
  refine Reachable.invariant (I := fun s => Sound (coreOf s) ∧ I (coreOf s)) ?_ ?_ h
  · intro s hs
    exact ⟨hs.sound, hinit s hs⟩
  · rintro l s s' ⟨hsound, hs⟩ ⟨hstep, hmeets⟩
    refine ⟨hstep.sound hsound, ?_⟩
    cases hstep with
    | inside op response hrun => exact hinside s s' op response hsound hs hmeets hrun
    | outside hout => exact houtside s s' hsound hs hout

/-- One operation of a batch, taken only where it passes the check. -/
def Op.runChecked (check : Store → Op → Bool) (op : Op) : RoomTx Response := do
  let passed ← read fun s => check s op
  require (passed = true) (rejected "check_failed" "The batch left its condition.")
  op.run

theorem run_of_checked {C : Store → Op → Prop} {check : Store → Op → Bool}
    (hcheck : ∀ s op, check s op = true → C s op) {ops : List Op} {s s' : Store}
    {responses : List Response}
    (h : Commits (each (Op.runChecked check) ops) s responses s') :
    Run (StepMeeting C) s (List.zipWith Label.inside ops responses) s' := by
  induction ops generalizing s responses with
  | nil =>
      obtain ⟨rfl, rfl⟩ := commits_each_nil.mp h
      exact Run.nil _
  | cons op ops ih =>
      obtain ⟨response, t, rest, hfirst, hrest, rfl⟩ := commits_each_cons.mp h
      simp only [Op.runChecked, commits_bind, commits_read, commits_require] at hfirst
      obtain ⟨_, _, ⟨rfl, rfl⟩, _, s, ⟨hpassed, rfl⟩, hrun⟩ := hfirst
      have hstep : StepMeeting C (.inside op response) s t :=
        ⟨Step.inside op response hrun, hcheck s op hpassed⟩
      exact (Run.single hstep).append (ih hrest)

/-- The room a checked batch leaves, or the room it started in when it is rejected. -/
def checkedRoom (check : Store → Op → Bool) (s : Store) (ops : List Op) : Store :=
  match (each (Op.runChecked check) ops).run s with
  | .ok (_, s') => s'
  | .error _ => s

theorem reachable_checkedRoom {C : Store → Op → Prop} {check : Store → Op → Bool}
    (hcheck : ∀ s op, check s op = true → C s op) {s : Store} (hs : IsInitial s)
    (ops : List Op) : ReachableMeeting C (checkedRoom check s ops) := by
  unfold checkedRoom
  split
  · rename_i responses s' hrun
    exact ⟨s, _, hs, run_of_checked hcheck hrun⟩
  · exact ⟨s, [], hs, Run.nil s⟩

/-- Every operation of a batch passes the check where it is taken. -/
def passes (check : Store → Op → Bool) (s : Store) : List Op → Bool
  | [] => true
  | op :: ops => check s op && passes check (roomAfter s [op]) ops

theorem roomAfter_singleton {op : Op} {s t : Store} {response : Response}
    (h : Commits op.run s response t) : roomAfter s [op] = t := by
  rw [roomAfter, run_each_cons h]
  rfl

theorem commits_checked {check : Store → Op → Bool} {ops : List Op} {s s' : Store}
    {responses : List Response} (hpasses : passes check s ops = true)
    (h : Commits (each Op.run ops) s responses s') :
    Commits (each (Op.runChecked check) ops) s responses s' := by
  induction ops generalizing s responses with
  | nil => exact h
  | cons op ops ih =>
      obtain ⟨response, t, rest, hfirst, hrest, rfl⟩ := commits_each_cons.mp h
      rw [passes, Bool.and_eq_true] at hpasses
      rw [roomAfter_singleton hfirst] at hpasses
      refine commits_each_cons.mpr ⟨response, t, rest, ?_, ih hpasses.2 hrest, rfl⟩
      simp only [Op.runChecked, commits_bind, commits_read, commits_require]
      exact ⟨_, s, ⟨rfl, rfl⟩, (), s, ⟨hpasses.1, rfl⟩, hfirst⟩

theorem commits_of_checked {check : Store → Op → Bool} {ops : List Op} {s s' : Store}
    {responses : List Response} (h : Commits (each (Op.runChecked check) ops) s responses s') :
    Commits (each Op.run ops) s responses s' := by
  induction ops generalizing s responses with
  | nil => exact h
  | cons op ops ih =>
      obtain ⟨response, t, rest, hfirst, hrest, rfl⟩ := commits_each_cons.mp h
      simp only [Op.runChecked, commits_bind, commits_read, commits_require] at hfirst
      obtain ⟨_, _, ⟨rfl, rfl⟩, _, s, ⟨-, rfl⟩, hrun⟩ := hfirst
      exact commits_each_cons.mpr ⟨response, t, rest, hrun, ih hrest, rfl⟩

/-- A batch that passes its checks does what it does without them. -/
theorem checkedRoom_eq_roomAfter {check : Store → Op → Bool} {ops : List Op} {s : Store}
    (hpasses : passes check s ops = true) : checkedRoom check s ops = roomAfter s ops := by
  rw [checkedRoom, roomAfter]
  cases hrun : (each Op.run ops).run s with
  | ok result =>
      obtain ⟨responses, s'⟩ := result
      rw [show (each (Op.runChecked check) ops).run s = .ok (responses, s') from
        commits_checked hpasses hrun]
  | error e =>
      cases hchecked : (each (Op.runChecked check) ops).run s with
      | ok result =>
          have hcommits := commits_of_checked hchecked
          rw [show (each Op.run ops).run s = .ok result from hcommits] at hrun
          cases hrun
      | error e => rfl

theorem passes_append {check : Store → Op → Bool} {front back : List Op} {s s' : Store}
    {responses : List Response} (hfront : Commits (each Op.run front) s responses s') :
    passes check s (front ++ back) = (passes check s front && passes check s' back) := by
  induction front generalizing s responses with
  | nil =>
      obtain ⟨-, rfl⟩ := commits_each_nil.mp hfront
      rfl
  | cons op front ih =>
      obtain ⟨response, t, rest, hfirst, hrest, -⟩ := commits_each_cons.mp hfront
      rw [List.cons_append, passes, passes, roomAfter_singleton hfirst, ih hrest, Bool.and_assoc]

end Batches

/-! ## A sample platform -/

namespace Sample

scoped instance : UuidSource where
  newV4 n := n.repr
  newV4_injective := by
    intro a b h
    have hdigits := congrArg String.toList h
    rw [Nat.toList_repr, Nat.toList_repr] at hdigits
    rw [← Nat.ofDigitChars_ten_toDigits (n := a), hdigits, Nat.ofDigitChars_ten_toDigits]
  newV4_ne_empty n := by
    intro h
    have hdigits := congrArg String.toList h
    rw [Nat.toList_repr] at hdigits
    exact Nat.toDigits_ne_nil hdigits
  isUuid _ := true

scoped instance : TextServices where
  redactPersistedDiagnosticText text _ := text
  renderPersonaContext card _ := card
  toLowercase text := text
  isAlphanumeric c := c.isAlphanum

scoped instance : OperationHash where
  lifecycleOperationId principalId requestId action :=
    principalId ++ ":" ++ requestId ++ ":" ++ action

scoped instance : CaseFold where
  defaultCaseFoldStr text := text

/-- The operator of the sample room. -/
def owner : AuthenticatedPrincipal :=
  { principalId := "owner"
    participantId := "owner"
    displayName := "Owner"
    clientKind := .browser
    isOperator := true
    capabilities := ⟨true, true, true, true, true⟩ }

/-- An ordered room with its operator and nobody else. -/
def emptyRoom : Store :=
  { room := ⟨"Room", .active⟩
    settings := ⟨"ordered", "none", false⟩
    participants :=
      AList.insert "owner" ⟨"owner", "Owner", "human", .joined, .human, "owner", false⟩ ∅
    sessions := ∅
    events := []
    executions := ∅
    assignments := ∅
    effects := ∅
    cleanup := []
    reservations := ∅
    readyAttendees := []
    interruptAttendees := []
    restartQuiescing := false
    runtimeGeneration := "generation"
    attachments := ∅
    voteStates := ∅
    voteBallots := ∅
    personaCards := ∅
    uuids := 0 }

theorem emptyRoom_initial : IsInitial emptyRoom :=
  ⟨rfl, rfl, rfl, rfl, rfl, rfl, rfl⟩

theorem emptyRoom_reachable : IsReachable emptyRoom :=
  ⟨emptyRoom, [], emptyRoom_initial, Run.nil _⟩

def runtime : RuntimeIdentity := ⟨"handle", "process", "lease"⟩

def lifecycleRequest (requestId action : String) : LifecycleRequest :=
  ⟨owner, requestId, action, "", "bot", true⟩

def createBot : Op :=
  .createAgent owner
    { agentId := "bot"
      displayName := "Bot"
      runtimeKind := "cli"
      personaCardId := ""
      runtimeProfileKey := "profile"
      canonicalId := by decide } 0

/-- One agent, launched and idle. -/
def launchBot : List Op :=
  [ createBot
  , .prepareLaunch (lifecycleRequest "launch" "agent.start") 0
  , .authorizeLaunch (lifecycleRequest "launch" "agent.start") runtime
  , .completeLaunch (lifecycleRequest "launch" "agent.start")
      ⟨runtime, "provider", false, false, true⟩ 0 ]

/-- The launched agent takes a first message as its turn. -/
def firstTurn : List Op :=
  launchBot ++ [.sendMessage owner (.message ⟨"hello", none⟩) 0 0]

/-! The room after that turn, written out: what happens later is computed from here. -/

scoped instance (priority := high) {κ ρ : Type} [DecidableEq κ] [DecidableEq ρ] :
    DecidableEq (Table κ ρ) :=
  fun _ _ => decidable_of_iff _ AList.ext_iff.symm

deriving instance DecidableEq for AttachmentRow
deriving instance DecidableEq for Store

/-- The launched agent, busy with its first turn. -/
def busyBot : DurableAgentSession :=
  { sessionId := "bot"
    participantId := "bot"
    displayName := "Bot"
    status := .attached
    runtimeStatus := .busy
    enabled := true
    runtimeKind := "cli"
    activeTurnId := "turn-5"
    turnPhase := .thinking
    providerSessionActive := true
    runtimeProfileKey := "profile"
    runtimeProfileVersion := currentRuntimeProfileVersion
    providerSessionId := "provider"
    runtime
    turnGeneration := 1
    inflightInputs := [⟨"4", .orderedObservation⟩]
    activeSourceEventId := "4"
    inputUpToEventId := "4"
    inputUpToSeq := 5 }

/-- An event about the agent, by the operator or by the room. -/
def botEvent (seq : Nat) (id eventType : String) (actor : Actor) (extra : EventExtra) :
    RoomEvent :=
  { id, seq, eventType, actor, extra
    createdAt := 0
    participantId := some "bot"
    participantType := some "agent"
    actorId := some actor.participantId
    actorType := some actor.participantType
    displayName := some "Bot" }

/-- The room in which the agent works on the first message. -/
def turnRoom : Store :=
  { emptyRoom with
    participants :=
      AList.insert "bot" ⟨"bot", "Bot", "agent", .joined, .agent, "owner", false⟩
        emptyRoom.participants
    sessions := AList.insert "bot" busyBot ∅
    events :=
      let operator : Actor := ⟨"owner", "human"⟩
      let system : Actor := ⟨"room-system", "system"⟩
      [ botEvent 1 "0" "agent_session_created" operator { sessionId := some "bot" }
      , botEvent 2 "1" "participant_joined" operator {}
      , botEvent 3 "2" "session_attached" operator {}
      , botEvent 4 "3" "agent_session_state" operator
          { sessionId := some "bot", runtimeStatus := some .idle }
      , { id := "4"
          seq := 5
          createdAt := 0
          eventType := "message_final"
          actor := operator
          participantId := some "owner"
          participantType := some "human"
          actorId := some "owner"
          actorType := some "human"
          displayName := some "Owner"
          content := some "hello"
          messageKind := some "message" }
      , botEvent 6 "7" "turn_started" system
          { sessionId := some "bot"
            turnId := some "turn-5"
            sourceEventId := some "4"
            providerContextUpToSeq := some 5 }
      , botEvent 7 "8" "turn_state" system
          { sessionId := some "bot", turnId := some "turn-5", phase := some .thinking }
      , botEvent 8 "9" "agent_session_state" system
          { sessionId := some "bot", runtimeStatus := some .busy } ]
    executions :=
      AList.insert ("bot", 1)
        { executionId := "6", participantId := "bot", turnId := "turn-5", phase := .assigned
          runtime } ∅
    assignments :=
      AList.insert ("bot", 1)
        { deliveryKind := .orderedObservation
          providerInput := renderObservationInput emptyRoom.room busyBot "Ordered" false ""
          roomView := String.intercalate "\n"
            [ "Room: Room", "You are: Bot", "Agent handles: none"
            , "[Earlier room updates are outside this bounded observation.]", "#5 Owner: hello" ]
          attachmentIds := []
          roomAgentIds := []
          tabletopTools := false } ∅
    uuids := 10 }

/-- The provider input, one line at a time. -/
theorem toList_renderObservationInput (room : Room) (session : DurableAgentSession)
    (mode : String) (tabletopTools : Bool) (personaContext : String) :
    (renderObservationInput room session mode tabletopTools personaContext).toList =
      (charsOf "\n\n").intercalate
        ([ charsOf "[" ++ charsOf mode ++ charsOf " shared-room observation]"
         , charsOf "Your room identity is " ++ charsOf session.displayName ++ charsOf " in " ++
             charsOf room.label ++ charsOf "."
         , charsOf "Call `read_discussion` before deciding. Then finish with exactly one terminal action exposed by the room transport, choosing the action that fulfills the current room request. Ordinary assistant final text is not a room publication." ] ++
         (if tabletopTools then
            [charsOf "For official game randomness, use the `roll_dice` or `choose_random` room tool; do not invent a result yourself."]
          else []) ++
         (if personaContext ≠ "" then
            [charsOf "[Applied bot card or Risu module]\n" ++ charsOf personaContext]
          else [])) := by
  rw [renderObservationInput, String.toList_intercalate]
  simp only [List.map_append, List.map_cons, List.map_nil, apply_ite (List.map String.toList),
    String.toList_append]
  simp only [toList_eq_charsOf]

/-- The first message becomes the agent's turn. -/
theorem run_firstMessage :
    Prod.snd <$> (Op.run (.sendMessage owner (.message ⟨"hello", none⟩) 0 0)).run
      (roomAfter emptyRoom launchBot) = .ok turnRoom := by
  unfold Op.run executeMessageIn assignPendingIn assignAvailablePending prepareAssignment
    prepareRoomInput boundedPendingPrefix selectPrefix loadContext extendContext
    isRoomObservationView isProviderInput hasVisibleText containsNul
  simp only [toList_renderObservationInput]
  simp only [toList_eq_charsOf]
  decide +kernel

theorem run_firstTurn : Prod.snd <$> (each Op.run firstTurn).run emptyRoom = .ok turnRoom := by
  obtain ⟨responses, hlaunch⟩ : ∃ responses,
      Commits (each Op.run launchBot) emptyRoom responses (roomAfter emptyRoom launchBot) :=
    commits_roomAfter (by decide +kernel)
  obtain ⟨⟨response, _⟩, hfirst, rfl⟩ := Result.map_eq_ok.mp run_firstMessage
  rw [firstTurn, run_each_append hlaunch, run_each_cons hfirst]
  rfl

theorem roomAfter_firstTurn : roomAfter emptyRoom firstTurn = turnRoom := by
  obtain ⟨⟨responses, _⟩, hrun, rfl⟩ := Result.map_eq_ok.mp run_firstTurn
  rw [roomAfter, hrun]

/-- A batch that begins with the first turn passes a check if the first turn does and the rest
does after it. -/
theorem passes_firstTurn_append (check : Store → Op → Bool) (back : List Op) :
    passes check emptyRoom (firstTurn ++ back) =
      (passes check emptyRoom firstTurn && passes check turnRoom back) := by
  obtain ⟨⟨responses, _⟩, hrun, rfl⟩ := Result.map_eq_ok.mp run_firstTurn
  exact passes_append hrun

def startAuthority : ProviderTurnStartAuthority :=
  ⟨"bot", 1, "6", "turn-5", runtime, "10"⟩

/-- The first turn, started at its provider. -/
def runningTurn : List Op :=
  firstTurn ++
  [.authorizeStart "bot" 1 "turn-5", .markRunning startAuthority "provider-turn"]

end Sample

end AgentsAssemble.System
