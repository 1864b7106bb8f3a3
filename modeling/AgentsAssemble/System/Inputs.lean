import AgentsAssemble.System.Batches
import AgentsAssemble.Protocol.History
import AgentsAssemble.Foundation.Errors
import AgentsAssemble.Persistence.Survey

/-!
# Room input over runs

Queued input is conserved: it leaves a session for one of three reasons, goes
back in front of the queue when its turn fails, and never returns once it was
consumed.  What is queued stays fit for the floor.
-/

namespace AgentsAssemble.System

open Foundation Domain Persistence Protocol Tx

/-! ## Conservation -/

/-- The turn a step may consume. -/
def Label.consumed : Label → Option TurnKey
  | .inside op _ => op.consumed
  | .outside => none

/-- The event a step deletes. -/
def Label.deleted : Label → Option String
  | .inside op _ => op.deleted
  | .outside => none

/-- The session whose removal a step carries out. -/
def Label.cleaned : Label → Option String
  | .inside op _ => op.cleaned
  | .outside => none

/-- The inputs in flight, by event id. -/
def inflightIds (session : DurableAgentSession) : List String :=
  session.inflightInputs.map QueuedRoomInput.eventId

section Conservation

variable [UuidSource] [CaseFold] [TextServices] [OperationHash]

omit [UuidSource] [CaseFold] [TextServices] [OperationHash] in
theorem Op.permit_consumes {op : Op} {s : Store} {sid : String} {a : DurableAgentSession}
    {generation : Nat} (ha : s.sessions.lookup sid = some a)
    (h : (op.permit s).consumes (sid, generation)) :
    op.consumed = some (sid, a.turnGeneration) ∧ generation = a.turnGeneration := by
  obtain ⟨hconsumed, b, hb, hgeneration⟩ := h
  obtain rfl := Option.some.inj (ha.symm.trans hb)
  have hkey : (sid, generation) = (sid, a.turnGeneration) := by
    rw [hgeneration]
  exact ⟨hkey ▸ hconsumed, hgeneration.symm⟩

omit [UuidSource] [CaseFold] [TextServices] [OperationHash] in
/-- An operation that restores inputs does nothing else to a queue. -/
theorem Op.restored_only {op : Op} {sid : String} (h : op.restored = some sid) :
    ¬ op.routes ∧ op.deleted = none ∧ op.cleaned = none ∧ op.consumed = none := by
  cases op <;> first | exact ⟨id, rfl, rfl, rfl⟩ | cases h

omit [UuidSource] [CaseFold] [TextServices] [OperationHash] in
theorem Op.consumed_only {op : Op} {key : TurnKey} (h : op.consumed = some key) :
    op.restored = none := by
  cases op <;> first | rfl | cases h

theorem Step.leaves {l : Label} {s s' : Store} (hsound : Sound (coreOf s)) (h : Step l s s')
    {sid eventId : String} {a b : DurableAgentSession} (ha : s.sessions.lookup sid = some a)
    (hb : s'.sessions.lookup sid = some b) (hmem : eventId ∈ a.ownedIds)
    (hnot : eventId ∉ b.ownedIds) :
    (l.consumed = some (sid, a.turnGeneration) ∧ eventId ∈ inflightIds a) ∨
      (l.deleted = some eventId ∨ deletedIn s'.events eventId = true) ∨ l.cleaned = some sid := by
  have hsid : a.sessionId = sid := (hsound.sessions.keyed sid a ha).1
  have hleaves := Path.leaves hsound (h.path hsound) ha hb hmem hnot
  cases h with
  | outside hout =>
      rcases hleaves with ⟨_, hconsumes, _, _⟩ | ⟨hdeleted, -⟩ | hdeletes | hcleans
      · exact hconsumes.elim
      · exact Or.inr (Or.inl (Or.inr hdeleted))
      · exact hdeletes.elim
      · exact hcleans.elim
  | inside op response hrun =>
      rcases hleaves with ⟨generation, hconsumes, -, hinflight⟩ | ⟨hdeleted, -⟩ | hdeletes | hcleans
      · rw [hsid] at hconsumes
        obtain ⟨hconsumed, hgeneration⟩ := op.permit_consumes ha hconsumes
        exact Or.inl ⟨hconsumed, hinflight hgeneration⟩
      · exact Or.inr (Or.inl (Or.inr hdeleted))
      · exact Or.inr (Or.inl (Or.inl hdeletes))
      · rw [hsid] at hcleans
        exact Or.inr (Or.inr hcleans)

theorem Step.restores {l : Label} {s s' : Store} (hsound : Sound (coreOf s)) (h : Step l s s')
    {sid : String} {a b : DurableAgentSession} (ha : s.sessions.lookup sid = some a)
    (hb : s'.sessions.lookup sid = some b) (hinflight : a.inflightInputs ≠ [])
    (hconsumed : l.consumed ≠ some (sid, a.turnGeneration)) :
    RunsOn a b ∨
      b.ownedInputs = keptInputs s.events a.inflightInputs ++ a.pendingInputs := by
  have hpath := h.path hsound
  cases h with
  | outside hout =>
      exact Or.inl (Path.runs_on hpath ha hb hinflight (fun hno => hno) fun _ hno => hno)
  | inside op response hrun =>
      have hconsumes : ∀ generation, ¬ (op.permit s).consumes (sid, generation) := by
        intro generation hconsumes
        exact hconsumed (op.permit_consumes ha hconsumes).1
      by_cases hrestored : op.restored = some sid
      · obtain ⟨hroutes, hdeleted, hcleaned, -⟩ := Op.restored_only hrestored
        refine Path.restores hsound hpath ha hb hroutes ?_ ?_ hconsumes
        · intro eventId hdeletes
          rw [show op.deleted = some eventId from hdeletes] at hdeleted
          cases hdeleted
        · intro hcleans
          rw [show op.cleaned = some sid from hcleans] at hcleaned
          cases hcleaned
      · exact Or.inl (Path.runs_on hpath ha hb hinflight hrestored hconsumes)

/-- An input that left with its consumed turn was passed by the provider cursor. -/
theorem Step.passes {l : Label} {s s' : Store} (hsound : Sound (coreOf s)) (h : Step l s s')
    {sid eventId : String} {a b : DurableAgentSession} (ha : s.sessions.lookup sid = some a)
    (hb : s'.sessions.lookup sid = some b)
    (hconsumed : l.consumed = some (sid, a.turnGeneration)) (hmem : eventId ∈ inflightIds a)
    (hnot : eventId ∉ b.ownedIds) : Consumed (coreOf s') (sid, a.turnGeneration) eventId := by
  have hpath := h.path hsound
  cases h with
  | outside hout => cases hconsumed
  | inside op response hrun =>
      have hnone : op.restored = none := Op.consumed_only hconsumed
      have hrestores : ¬ (op.permit s).restores sid := by
        intro hrestored
        rw [show op.restored = some sid from hrestored] at hnone
        cases hnone
      rcases Path.consumes hsound hpath ha hb hmem hrestores with hruns | hdone
      · refine absurd ?_ hnot
        rw [DurableAgentSession.ownedIds, DurableAgentSession.ownedInputs, hruns.inflight,
          List.map_append]
        exact List.mem_append_left _ hmem
      · exact hdone

/-- Every step keeps the sessions it finds. -/
theorem Step.keeps_session {l : Label} {s s' : Store} (hsound : Sound (coreOf s))
    (h : Step l s s') {sid : String} {a : DurableAgentSession}
    (ha : s.sessions.lookup sid = some a) : ∃ b, s'.sessions.lookup sid = some b := by
  obtain ⟨b, hb, -⟩ := Path.session_mono (h.path hsound) ha
  exact ⟨b, hb⟩

/-- A consumed input stays consumed along every later run. -/
theorem Run.consumed {s t : Store} {ls : List Label} (hsound : Sound (coreOf s))
    (h : Run Step s ls t) {key : TurnKey} {eventId : String}
    (hconsumed : Consumed (coreOf s) key eventId) :
    Sound (coreOf t) ∧ Consumed (coreOf t) key eventId := by
  refine Run.invariant (I := fun u => Sound (coreOf u) ∧ Consumed (coreOf u) key eventId)
    (fun l u v hu hstep => ?_) ⟨hsound, hconsumed⟩ h
  have hpath := hstep.path hu.1
  refine ⟨hstep.sound hu.1, ?_⟩
  exact (Path.invariant (I := fun c => Sound c ∧ Consumed c key eventId)
    (fun _ _ hc hm => ⟨hm.sound hc.1, hc.2.move hc.1 hm⟩) hu hpath).2

/-- Queued input is conserved: distinct, leaving for one of three reasons, put back in order
by every end that does not consume it, and never queued again once it was consumed. -/
theorem queued_input_conserved {s : Store} (hs : IsReachable s) :
    (∀ sid a, s.sessions.lookup sid = some a → a.ownedIds.Nodup) ∧
    ∀ l s', Step l s s' → ∀ sid a, s.sessions.lookup sid = some a →
      ∃ b, s'.sessions.lookup sid = some b ∧
        (∀ eventId ∈ a.ownedIds, eventId ∉ b.ownedIds →
          (l.consumed = some (sid, a.turnGeneration) ∧ eventId ∈ inflightIds a) ∨
            (l.deleted = some eventId ∨ deletedIn s'.events eventId = true) ∨
            l.cleaned = some sid) ∧
        (a.inflightInputs ≠ [] → l.consumed ≠ some (sid, a.turnGeneration) →
          RunsOn a b ∨
            b.ownedInputs = keptInputs s.events a.inflightInputs ++ a.pendingInputs) ∧
        (l.consumed = some (sid, a.turnGeneration) → ∀ eventId ∈ inflightIds a,
          eventId ∉ b.ownedIds → ∀ ls t, Run Step s' ls t →
            ∀ c, t.sessions.lookup sid = some c → eventId ∉ c.ownedIds) := by
  have hsound := hs.sound
  refine ⟨fun sid a ha => (hsound.sessions.queues sid a ha).nodup, ?_⟩
  intro l s' hstep sid a ha
  obtain ⟨b, hb⟩ := hstep.keeps_session hsound ha
  refine ⟨b, hb, ?_, ?_, ?_⟩
  · intro eventId hmem hnot
    exact hstep.leaves hsound ha hb hmem hnot
  · intro hinflight hconsumed
    exact hstep.restores hsound ha hb hinflight hconsumed
  · intro hconsumed eventId hmem hnot ls t hrun c hc
    have hdone := hstep.passes hsound ha hb hconsumed hmem hnot
    obtain ⟨hsound', hlater⟩ := Run.consumed (hstep.sound hsound) hrun hdone
    exact hsound'.passed_unowned hlater.passed hc

end Conservation

open Sample in
/-- The first turn of the sample room is in flight under its conserved queue. -/
theorem first_turn_conserved :
    ((roomAfter emptyRoom firstTurn).sessions.lookup "bot").map inflightIds = some ["4"] ∧
      ∀ a, (roomAfter emptyRoom firstTurn).sessions.lookup "bot" = some a → a.ownedIds.Nodup := by
  refine ⟨by rw [roomAfter_firstTurn]; decide, fun a ha => ?_⟩
  exact (queued_input_conserved (reachable_roomAfter emptyRoom_reachable firstTurn)).1 "bot" a ha

/-! ## A floor that never gets poisoned -/

/-- The errors of a queue that names a missing or an unfit event. -/
def IsPoisoned (error : PersistenceError) : Prop :=
  ∃ message, error = rejected "room_event_missing" message ∨
    error = rejected "queued_room_event_invalid" message

/-- The other errors. -/
def IsSafe (error : PersistenceError) : Prop :=
  ¬ IsPoisoned error

theorem isSafe_rejected {code message : String} (hmissing : code ≠ "room_event_missing")
    (hinvalid : code ≠ "queued_room_event_invalid") : IsSafe (rejected code message) := by
  rintro ⟨text, htext | htext⟩
  · exact hmissing (PersistenceError.commandRejected.inj htext).1
  · exact hinvalid (PersistenceError.commandRejected.inj htext).1

theorem isSafe_of_kind {error : PersistenceError}
    (h : ∀ code message, error ≠ .commandRejected code message) : IsSafe error := by
  rintro ⟨text, htext | htext⟩
  · exact h _ _ htext
  · exact h _ _ htext

/-- What a queue of a session has to be for the floor to read it. -/
structure FloorReady (events : List RoomEvent) (session : DurableAgentSession)
    (inputs : List QueuedRoomInput) : Prop where
  found : ∀ input ∈ inputs, ∃ e ∈ events, findEvent events input.eventId = .ok (some e) ∧
    e.id = input.eventId ∧ e.eventType = "message_final" ∧
    e.actor.participantId ≠ session.participantId ∧ e.messageHasVisiblePayload = .ok true
  named : ∀ input ∈ inputs, input.eventId ≠ ""
  distinct : (inputs.map QueuedRoomInput.eventId).Nodup
  ordered : inputs.Pairwise (Precedes events)

theorem FloorReady.tail {events : List RoomEvent} {session : DurableAgentSession}
    {input : QueuedRoomInput} {inputs : List QueuedRoomInput}
    (h : FloorReady events session (input :: inputs)) : FloorReady events session inputs := by
  refine ⟨fun x hx => h.found x (List.mem_cons_of_mem _ hx),
    fun x hx => h.named x (List.mem_cons_of_mem _ hx), ?_, ?_⟩
  · exact (List.nodup_cons.mp h.distinct).2
  · exact (List.pairwise_cons.mp h.ordered).2

/-- Both readers of a queue check the same four facts of each event, in order. -/
theorem validPendingInputs_go_of_ready {events : List RoomEvent} {session : DurableAgentSession}
    {seen : List String} {previousSeq : Nat} {inputs : List QueuedRoomInput}
    (h : FloorReady events session inputs)
    (hseen : ∀ input ∈ inputs, input.eventId ∉ seen)
    (hprevious : ∀ input ∈ inputs, ∀ e ∈ events, e.id = input.eventId → previousSeq < e.seq) :
    validPendingInputs.go events session seen previousSeq inputs = .ok inputs := by
  induction inputs generalizing seen previousSeq with
  | nil => rfl
  | cons input inputs ih =>
      obtain ⟨e, he, hfind, hid, hfinal, hother, hvisible⟩ := h.found input List.mem_cons_self
      have hname := h.named input List.mem_cons_self
      have hseq := hprevious input List.mem_cons_self e he hid
      have hfirst : ¬ (input.eventId = "" ∨ input.eventId ∈ seen) := by
        rintro (hempty | hmem)
        · exact hname hempty
        · exact hseen input List.mem_cons_self hmem
      have hrest : validPendingInputs.go events session (seen ++ [input.eventId]) e.seq inputs =
          .ok inputs := by
        refine ih h.tail (fun x hx hmem => ?_) fun x hx d hd hdid => ?_
        · rcases List.mem_append.mp hmem with hmem | hmem
          · exact hseen x (List.mem_cons_of_mem _ hx) hmem
          · have hsame : x.eventId = input.eventId := List.mem_singleton.mp hmem
            refine (List.nodup_cons.mp h.distinct).1 ?_
            rw [← hsame]
            exact List.mem_map_of_mem hx
        · exact (List.pairwise_cons.mp h.ordered).1 x hx e he d hd hid hdid
      rw [validPendingInputs.go, if_neg hfirst, Result.bind_eq_ok]
      refine ⟨some e, hfind, ?_⟩
      rw [Result.bind_eq_ok]
      refine ⟨true, readable_eq_ok.mpr hvisible, ?_⟩
      rw [Result.check_eq_ok]
      refine ⟨?_, ?_⟩
      · rintro (hno | hno | hno | hno)
        · exact hno hfinal
        · exact hother hno
        · omega
        · cases hno
      · rw [Result.bind_eq_ok]
        exact ⟨inputs, hrest, rfl⟩

theorem loadPendingEvents_of_ready {events : List RoomEvent} {session : DurableAgentSession}
    {previousSeq : Nat} {inputs : List QueuedRoomInput} (h : FloorReady events session inputs)
    (hprevious : ∀ input ∈ inputs, ∀ e ∈ events, e.id = input.eventId → previousSeq < e.seq) :
    ∃ pending, loadPendingEvents events session previousSeq inputs = .ok pending ∧
      pending.length = inputs.length := by
  induction inputs generalizing previousSeq with
  | nil => exact ⟨[], rfl, rfl⟩
  | cons input inputs ih =>
      obtain ⟨e, he, hfind, hid, hfinal, hother, hvisible⟩ := h.found input List.mem_cons_self
      have hseq := hprevious input List.mem_cons_self e he hid
      obtain ⟨pending, hpending, hlength⟩ := @ih e.seq h.tail
        fun x hx d hd hdid => (List.pairwise_cons.mp h.ordered).1 x hx e he d hd hid hdid
      refine ⟨{ input, event := e } :: pending, ?_, by simp [hlength]⟩
      rw [loadPendingEvents, Result.bind_eq_ok]
      refine ⟨some e, hfind, ?_⟩
      rw [Result.bind_eq_ok]
      refine ⟨true, readable_eq_ok.mpr hvisible, ?_⟩
      rw [Result.check_eq_ok]
      refine ⟨?_, ?_⟩
      · rintro (hno | hno | hno | hno)
        · exact hno hfinal
        · exact hother hno
        · omega
        · cases hno
      · rw [Result.bind_eq_ok]
        exact ⟨pending, hpending, rfl⟩

/-- A reachable pending queue is ready for the floor. -/
theorem ready_of_sound [UuidSource] {c : RoomCore} (h : Sound c) {sid : String}
    {a : DurableAgentSession} (ha : c.sessions.lookup sid = some a) :
    FloorReady c.events a a.pendingInputs ∧
      ∀ input ∈ a.pendingInputs, ∀ e ∈ c.events, e.id = input.eventId →
        a.lastProviderSyncSeq < e.seq := by
  have hqueue := h.sessions.queues sid a ha
  have howned : ∀ input ∈ a.pendingInputs, input ∈ a.ownedInputs :=
    fun input hinput => List.mem_append_right _ hinput
  refine ⟨⟨?_, ?_, ?_, ?_⟩, ?_⟩
  · intro input hinput
    obtain ⟨e, he, hid⟩ := hqueue.known input (howned input hinput)
    have hrouted := hqueue.routed input (howned input hinput) e he hid
    have hkept := hqueue.kept input hinput e he hid
    refine ⟨e, he, ?_, hid, hrouted.final, hrouted.other, hrouted.visible hkept⟩
    rw [← hid]
    exact h.log.findEvent he
  · intro input hinput
    obtain ⟨e, he, hid⟩ := hqueue.known input (howned input hinput)
    rw [← hid]
    exact h.log.id_ne_empty he
  · have hnodup := hqueue.nodup
    rw [DurableAgentSession.ownedIds, DurableAgentSession.ownedInputs, List.map_append,
      List.nodup_append] at hnodup
    exact hnodup.2.1
  · have hordered := hqueue.ordered
    rw [DurableAgentSession.ownedInputs, List.pairwise_append] at hordered
    exact hordered.2.1
  · intro input hinput e he hid
    exact (hqueue.routed input (howned input hinput) e he hid).unseen

theorem safe_findEvent (events : List RoomEvent) (eventId : String) :
    Result.FailsWithin IsSafe (findEvent events eventId) := by
  unfold findEvent
  exact Result.failsWithin_ite (Result.failsWithin_ok _)
    (Result.failsWithin_error (isSafe_rejected (by decide) (by decide)))

theorem safe_readable {α : Type} (value : Except MessageStateError α) :
    Result.FailsWithin IsSafe (readable value) := by
  cases value with
  | ok a => exact Result.failsWithin_ok a
  | error e =>
      refine Result.failsWithin_error ?_
      cases e <;> exact isSafe_rejected (by decide) (by decide)

theorem safe_turnAuthority (session : DurableAgentSession) :
    Result.FailsWithin IsSafe (turnAuthorityIsActive session) := by
  unfold turnAuthorityIsActive
  split
  · exact Result.failsWithin_ok _
  · exact Result.failsWithin_error (isSafe_rejected (by decide) (by decide))

theorem safe_eventLines (event : RoomEvent) : Result.FailsWithin IsSafe (eventLines event) := by
  unfold eventLines
  refine Result.failsWithin_bind (safe_readable _) fun text _ => ?_
  refine Result.failsWithin_bind (safe_readable _) fun attachments _ => ?_
  exact Result.failsWithin_ite (Result.failsWithin_pure _) (Result.failsWithin_pure _)

theorem safe_renderRoomView (room : Room) (session : DurableAgentSession)
    (roomAgentIds : List String) (context : List RoomEvent) :
    Result.FailsWithin IsSafe (renderRoomView room session roomAgentIds context) := by
  unfold renderRoomView
  refine Result.failsWithin_bind ?_ fun _ _ => Result.failsWithin_pure _
  exact Result.failsWithin_mapM fun event _ => safe_eventLines event

theorem safe_selectPrefix (room : Room) (session : DurableAgentSession)
    (roomAgentIds : List String) (kind : RoomInputDeliveryKind)
    (selected rest : List PendingRoomEvent) :
    Result.FailsWithin IsSafe (selectPrefix room session roomAgentIds kind selected rest) := by
  induction rest generalizing selected with
  | nil => exact Result.failsWithin_ok _
  | cons pending rest ih =>
      rw [selectPrefix]
      refine Result.failsWithin_ite (Result.failsWithin_ok _) ?_
      refine Result.failsWithin_bind (safe_readable _) fun ids _ => ?_
      refine Result.failsWithin_ite (Result.failsWithin_pure _) ?_
      refine Result.failsWithin_bind (safe_renderRoomView _ _ _ _) fun view _ => ?_
      exact Result.failsWithin_ite (Result.failsWithin_pure _) (ih _)

theorem safe_extendContext (room : Room) (session : DurableAgentSession)
    (roomAgentIds : List String) (replay : Bool) (selected rows : List RoomEvent) :
    Result.FailsWithin IsSafe (extendContext room session roomAgentIds replay selected rows) := by
  induction rows generalizing selected with
  | nil => exact Result.failsWithin_ok _
  | cons event rows ih =>
      rw [extendContext]
      refine Result.failsWithin_ite (Result.failsWithin_ok _) ?_
      refine Result.failsWithin_ite (ih _) ?_
      refine Result.failsWithin_bind (safe_readable _) fun visible _ => ?_
      refine Result.failsWithin_ite (ih _) ?_
      exact Result.failsWithin_bind (safe_renderRoomView _ _ _ _) fun view _ => ih _

theorem safe_loadContext (events : List RoomEvent) (room : Room) (session : DurableAgentSession)
    (upToSeq : Nat) (mandatory : List PendingRoomEvent) (roomAgentIds : List String) :
    Result.FailsWithin IsSafe
      (loadContext events room session upToSeq mandatory roomAgentIds) := by
  unfold loadContext
  refine Result.failsWithin_bind (safe_extendContext _ _ _ _ _ _) fun selected _ => ?_
  exact Result.failsWithin_check (isSafe_rejected (by decide) (by decide))
    (Result.failsWithin_pure _)

theorem safe_validateCursor (events : List RoomEvent) (session : DurableAgentSession) :
    Result.FailsWithin IsSafe (validateProviderCursor events session) := by
  unfold validateProviderCursor providerCursorIsValid
  refine Result.failsWithin_bind ?_ fun valid _ => ?_
  · refine Result.failsWithin_ite (Result.failsWithin_pure _) ?_
    exact Result.failsWithin_bind (safe_findEvent _ _) fun _ _ => Result.failsWithin_pure _
  · exact Result.failsWithin_ite
      (Result.failsWithin_throw (isSafe_rejected (by decide) (by decide)))
      (Result.failsWithin_pure _)

theorem safe_loadRoomAgentIds (s : Store) (session : DurableAgentSession) :
    Result.FailsWithin IsSafe (loadRoomAgentIds s session) := by
  unfold loadRoomAgentIds
  exact Result.failsWithin_ite
    (Result.failsWithin_error (isSafe_rejected (by decide) (by decide)))
    (Result.failsWithin_ok _)

theorem safe_boundedPendingPrefix (room : Room) (session : DurableAgentSession)
    (roomAgentIds : List String) {pending : List PendingRoomEvent} (hpending : pending ≠ []) :
    Result.FailsWithin IsSafe (boundedPendingPrefix room session roomAgentIds pending) := by
  unfold boundedPendingPrefix
  split
  · exact absurd rfl hpending
  · refine Result.failsWithin_bind (safe_selectPrefix _ _ _ _ _ _) fun selected _ => ?_
    exact Result.failsWithin_check (isSafe_rejected (by decide) (by decide))
      (Result.failsWithin_pure _)

theorem safe_persona [TextServices] (s : Store) (personaId : String) (context : List RoomEvent) :
    Result.FailsWithin IsSafe (selectedPersonaCard s personaId) ∧
      Result.FailsWithin IsSafe (renderRecentMessages context) := by
  refine ⟨?_, ?_⟩
  · unfold selectedPersonaCard
    refine Result.failsWithin_ite (Result.failsWithin_ok _) ?_
    split
    · exact Result.failsWithin_ok _
    · exact Result.failsWithin_error (isSafe_rejected (by decide) (by decide))
  · unfold renderRecentMessages
    refine Result.failsWithin_bind ?_ fun _ _ => Result.failsWithin_pure _
    exact Result.failsWithin_mapM fun event _ => safe_readable _

/-- Preparing a ready, non-empty queue never fails over a missing or an unfit event. -/
theorem safe_prepareRoomInput [TextServices] {s : Store} {room : Room}
    {session : DurableAgentSession} {tabletop : Bool}
    (hready : FloorReady s.events session session.pendingInputs)
    (hprevious : ∀ input ∈ session.pendingInputs, ∀ e ∈ s.events, e.id = input.eventId →
      session.lastProviderSyncSeq < e.seq)
    (hpending : session.pendingInputs ≠ []) :
    Result.FailsWithin IsSafe (prepareRoomInput s room session session.pendingInputs tabletop) := by
  obtain ⟨pending, hload, hlength⟩ := loadPendingEvents_of_ready hready hprevious
  have hne : pending ≠ [] := by
    rintro rfl
    exact hpending (List.length_eq_zero_iff.mp hlength.symm)
  unfold prepareRoomInput
  refine Result.failsWithin_bind (safe_validateCursor _ _) fun _ _ => ?_
  refine Result.failsWithin_bind (safe_loadRoomAgentIds _ _) fun roomAgentIds _ => ?_
  rw [hload]
  refine Result.failsWithin_bind (Result.failsWithin_ok _) fun found hfound => ?_
  obtain rfl := Except.ok.inj hfound
  refine Result.failsWithin_bind (safe_boundedPendingPrefix _ _ _ hne) fun inflight hinflight => ?_
  have hsome : inflight ≠ [] := (boundedPendingPrefix_ok hinflight).1
  obtain ⟨source, hsource⟩ : ∃ source, inflight.getLast? = some source :=
    ⟨_, List.getLast?_eq_some_getLast hsome⟩
  obtain ⟨first, hfirst⟩ : ∃ first, inflight.head? = some first :=
    ⟨_, List.head?_eq_some_head hsome⟩
  rw [hsource, hfirst]
  refine Result.failsWithin_bind (safe_loadContext _ _ _ _ _ _) fun context _ => ?_
  refine Result.failsWithin_bind (safe_readable _) fun attachmentIds _ => ?_
  refine Result.failsWithin_bind (safe_renderRoomView _ _ _ _) fun roomView _ => ?_
  refine Result.failsWithin_bind (safe_persona s _ context).1 fun card _ => ?_
  have hbound : IsSafe (rejected "provider_turn_input_invalid"
      "The canonical room observation exceeds its provider-visible bound.") :=
    isSafe_rejected (by decide) (by decide)
  cases card with
  | none =>
      refine Result.failsWithin_bind (Result.failsWithin_pure _) fun _ _ => ?_
      exact Result.failsWithin_check hbound (Result.failsWithin_pure _)
  | some card =>
      refine Result.failsWithin_bind (safe_persona s "" context).2 fun _ _ => ?_
      refine Result.failsWithin_bind (Result.failsWithin_pure _) fun _ _ => ?_
      exact Result.failsWithin_check hbound (Result.failsWithin_pure _)

theorem safe_surveySession {s : Store} {survey : FloorSurvey} {session : DurableAgentSession}
    (hready : FloorReady s.events session session.pendingInputs)
    (hprevious : ∀ input ∈ session.pendingInputs, ∀ e ∈ s.events, e.id = input.eventId →
      session.lastProviderSyncSeq < e.seq) :
    Result.FailsWithin IsSafe (surveySession s survey session) := by
  have hvalid : validPendingInputs s.events session = .ok session.pendingInputs := by
    unfold validPendingInputs
    exact validPendingInputs_go_of_ready hready (fun _ _ hmem => absurd hmem List.not_mem_nil)
      hprevious
  unfold surveySession
  refine Result.failsWithin_bind (safe_turnAuthority _) fun active _ => ?_
  refine Result.failsWithin_ite (Result.failsWithin_pure _) ?_
  split
  · refine Result.failsWithin_throw (isSafe_of_kind ?_)
    intro code message hno
    cases hno
  refine Result.failsWithin_ite (Result.failsWithin_pure _) ?_
  rw [hvalid]
  refine Result.failsWithin_bind (Result.failsWithin_ok _) fun valid hsame => ?_
  obtain rfl := Except.ok.inj hsame
  split
  · exact Result.failsWithin_pure _
  · rename_i first hfirst
    obtain ⟨e, -, hfind, -⟩ := hready.found first (List.mem_of_mem_head? hfirst)
    unfold eventSequence
    rw [hfind]
    exact Result.failsWithin_bind (Result.failsWithin_bind (Result.failsWithin_ok _)
      fun found hfound => by
        obtain rfl := Except.ok.inj hfound
        exact Result.failsWithin_pure _) fun _ _ => Result.failsWithin_pure _

theorem safe_surveyFloor {s : Store} {sessions : List DurableAgentSession}
    (hready : ∀ a ∈ sessions, FloorReady s.events a a.pendingInputs ∧
      ∀ input ∈ a.pendingInputs, ∀ e ∈ s.events, e.id = input.eventId →
        a.lastProviderSyncSeq < e.seq) (survey : FloorSurvey) :
    Result.FailsWithin IsSafe (sessions.foldlM (surveySession s) survey) := by
  induction sessions generalizing survey with
  | nil => exact Result.failsWithin_pure _
  | cons a sessions ih =>
      rw [List.foldlM_cons]
      obtain ⟨hfirst, hprevious⟩ := hready a List.mem_cons_self
      refine Result.failsWithin_bind (safe_surveySession hfirst hprevious) fun next _ => ?_
      exact ih (fun b hb => hready b (List.mem_cons_of_mem _ hb)) next

section Floor

variable [UuidSource] [TextServices]

omit [TextServices] in
theorem safe_internalEvent {session : DurableAgentSession} {eventType : String}
    {actorIsAgent : Bool} {content : Option String} {extra : EventExtra} {now : Nat} :
    FailsWithin IsSafe (internalEvent session eventType actorIsAgent content extra now) := by
  unfold internalEvent
  refine failsWithin_bind (failsWithin_read _) fun event => ?_
  refine failsWithin_bind (fun s e he => (rejects_drawUuid.mp he).elim) fun _ => ?_
  refine failsWithin_bind ?_ fun _ => failsWithin_pure _
  unfold insertEvent
  refine failsWithin_bind (failsWithin_read _) fun _ => ?_
  refine failsWithin_bind (failsWithin_require ?_) fun _ => failsWithin_write _
  exact isSafe_of_kind nofun

omit [UuidSource] [TextServices] in
theorem safe_saveSession (session : DurableAgentSession) :
    FailsWithin IsSafe (saveSession session) := by
  unfold saveSession
  refine failsWithin_bind (failsWithin_read _) fun _ => ?_
  exact failsWithin_bind (failsWithin_require (isSafe_rejected (by decide) (by decide)))
    fun _ => failsWithin_write _

omit [TextServices] in
theorem safe_insertAssignedExecution (session : DurableAgentSession) (turnId : String)
    (envelope : ProviderTurnAssignmentEnvelope) :
    FailsWithin IsSafe (insertAssignedExecution session turnId envelope) := by
  have hinvalid : IsSafe invalidExecution := isSafe_rejected (by decide) (by decide)
  unfold insertAssignedExecution generationI64
  refine failsWithin_bind (failsWithin_require hinvalid) fun _ => ?_
  refine failsWithin_bind (fun s e he => (rejects_drawUuid.mp he).elim) fun _ => ?_
  refine failsWithin_bind (failsWithin_require hinvalid) fun _ => ?_
  refine failsWithin_bind (failsWithin_read _) fun _ => ?_
  refine failsWithin_bind (failsWithin_require (isSafe_of_kind nofun)) fun _ => ?_
  exact failsWithin_bind (failsWithin_write _) fun _ => failsWithin_pure _

/-- One assignment of a ready queue rejects for other reasons than its events. -/
theorem safe_prepareAssignment {room : Room} {settings : RoomSettings}
    {session : DurableAgentSession} {now : Nat} {s : Store} {e : PersistenceError}
    (hready : FloorReady s.events session session.pendingInputs)
    (hprevious : ∀ input ∈ session.pendingInputs, ∀ e ∈ s.events, e.id = input.eventId →
      session.lastProviderSyncSeq < e.seq) (hpending : session.pendingInputs ≠ [])
    (h : Rejects (prepareAssignment room settings session now) s e) : IsSafe e := by
  unfold prepareAssignment at h
  rcases rejects_bind.mp h with hread | ⟨result, t, hread, hrest⟩
  · exact (rejects_read.mp hread).elim
  obtain ⟨rfl, rfl⟩ := commits_read.mp hread
  rcases rejects_bind.mp hrest with hprepare | ⟨prepared, t, -, hassign⟩
  · exact failsWithin_ofResult (safe_prepareRoomInput hready hprevious hpending) hprepare
  refine failsWithin_bind (failsWithin_orReject ?_) (fun first => ?_) hassign
  · exact isSafe_rejected (by decide) (by decide)
  refine failsWithin_bind (fun s e he => (rejects_drawUuid.mp he).elim) fun uuid => ?_
  refine failsWithin_bind (failsWithin_require ?_) fun _ => ?_
  · exact isSafe_rejected (by decide) (by decide)
  refine failsWithin_bind (safe_saveSession _) fun _ => ?_
  refine failsWithin_bind (safe_insertAssignedExecution _ _ _) fun execution => ?_
  refine failsWithin_bind safe_internalEvent fun started => ?_
  refine failsWithin_bind safe_internalEvent fun state => ?_
  exact failsWithin_bind safe_internalEvent fun sessionEvent => failsWithin_pure _

variable [CaseFold]

theorem safe_assignments {room : Room} {settings : RoomSettings} {now : Nat}
    {candidates : List (Nat × DurableAgentSession)} {s : Store} {e : PersistenceError}
    (hsound : Sound (coreOf s))
    (hready : ∀ candidate ∈ candidates,
      s.sessions.lookup candidate.2.sessionId = some candidate.2 ∧
        sessionIsAssignable candidate.2 = true ∧ candidate.2.pendingInputs ≠ [])
    (hdistinct : candidates.Pairwise fun a b => a.2.sessionId ≠ b.2.sessionId)
    (h : Rejects (each (fun candidate : Nat × DurableAgentSession =>
      prepareAssignment room settings candidate.2 now) candidates) s e) : IsSafe e := by
  induction candidates generalizing s with
  | nil => exact (rejects_pure.mp h).elim
  | cons candidate candidates ih =>
      obtain ⟨hstored, hassignable, hpending⟩ := hready candidate List.mem_cons_self
      obtain ⟨hne, hpairwise⟩ := List.pairwise_cons.mp hdistinct
      rcases rejects_each_cons.mp h with hfirst | ⟨result, t, hassigned, hrest⟩
      · obtain ⟨hqueue, hprevious⟩ := ready_of_sound hsound hstored
        exact safe_prepareAssignment hqueue hprevious hpending hfirst
      · -- The later candidates are as they were, in a room that is still sound.
        have hpath : Path outsidePermit (coreOf s) (coreOf t) :=
          path_prepareAssignment hstored hassignable hassigned
        refine ih (Path.sound hsound hpath) (fun other hother => ?_) hpairwise hrest
        obtain ⟨hkept, hrest⟩ := hready other (List.mem_cons_of_mem _ hother)
        exact ⟨prepareAssignment_keeps (hne other hother) hkept hassigned, hrest⟩

theorem safe_assignAvailablePending {room : Room} {settings : RoomSettings} {now : Nat}
    {s : Store} {e : PersistenceError} (hsound : Sound (coreOf s))
    (h : Rejects (assignAvailablePending room settings now) s e) : IsSafe e := by
  have hstored := (roomSessions_stored hsound.sessions).1
  unfold assignAvailablePending at h
  rcases rejects_bind.mp h with hread | ⟨quiescing, _, hread, hrest⟩
  · exact (rejects_read.mp hread).elim
  obtain ⟨-, rfl⟩ := commits_read.mp hread
  split at hrest
  · exact (rejects_pure.mp hrest).elim
  rcases rejects_bind.mp hrest with hload | ⟨sessions, t, hload, hsurvey⟩
  · unfold loadRoomSessions at hload
    refine failsWithin_bind (failsWithin_read _) (fun _ => ?_) hload
    refine failsWithin_bind (failsWithin_require ?_) fun _ => failsWithin_pure _
    exact isSafe_rejected (by decide) (by decide)
  obtain ⟨rfl, -, ht⟩ := commits_loadRoomSessions.mp hload
  subst ht
  rcases rejects_bind.mp hsurvey with hread | ⟨surveyed, t', hread, hfloor⟩
  · exact (rejects_read.mp hread).elim
  obtain ⟨rfl, ht'⟩ := commits_read.mp hread
  subst ht'
  rcases rejects_bind.mp hfloor with hfail | ⟨survey, t', hsurveyed, hassign⟩
  · refine failsWithin_ofResult ?_ hfail
    exact safe_surveyFloor (fun a ha => ready_of_sound hsound (hstored a ha)) _
  obtain ⟨hsurveyed, ht'⟩ := commits_ofResult.mp hsurveyed
  subst ht'
  split at hassign
  · exact (rejects_pure.mp hassign).elim
  rcases rejects_bind.mp hassign with hclear | ⟨cleared, t', hcleared, hloop⟩
  · exact failsWithin_each (fun a _ => safe_saveSession _) hclear
  obtain ⟨hclear, hkept⟩ := path_clearRequests (P := outsidePermit) hsound hsurveyed hcleared
  have hpairwise := (roomSessions_stored hsound.sessions).2
  refine safe_assignments (Path.sound hsound hclear) (fun candidate hmem => ?_)
    (chosenCandidates_of_survey hpairwise hsurveyed).1 hloop
  obtain ⟨-, hready⟩ := chosenCandidates_ready hsound hsurveyed hmem
  exact ⟨hkept settings candidate hmem, hready⟩

variable [OperationHash]

/-- Queues stay well formed in every reachable room, so a floor that is read never stops over
a missing or an unfit event. -/
theorem queues_well_formed {s : Store} (hs : IsReachable s) :
    (∀ sid a, s.sessions.lookup sid = some a →
      (∀ input ∈ a.ownedInputs, ∃ e ∈ s.events, e.id = input.eventId ∧
        e.eventType = "message_final" ∧ e.actor.participantId ≠ a.participantId ∧
        a.lastProviderSyncSeq < e.seq) ∧
      (a.ownedInputs.Pairwise fun x y => ∀ d ∈ s.events, ∀ e ∈ s.events, d.id = x.eventId →
        e.id = y.eventId → d.seq < e.seq) ∧
      ∀ input ∈ a.pendingInputs, ∀ e ∈ s.events, e.id = input.eventId →
        e.messageHasVisiblePayload = .ok true) ∧
    ∀ room settings now e, Rejects (assignAvailablePending room settings now) s e →
      ∀ message, e ≠ rejected "room_event_missing" message ∧
        e ≠ rejected "queued_room_event_invalid" message := by
  have hsound := hs.sound
  refine ⟨fun sid a ha => ?_, fun room settings now e he message => ?_⟩
  · have hqueue := hsound.sessions.queues sid a ha
    refine ⟨fun input hinput => ?_, hqueue.ordered, fun input hinput e he hid => ?_⟩
    · obtain ⟨e, he, hid⟩ := hqueue.known input hinput
      have hrouted := hqueue.routed input hinput e he hid
      exact ⟨e, he, hid, hrouted.final, hrouted.other, hrouted.unseen⟩
    · have hkept := hqueue.kept input hinput e he hid
      exact (hqueue.routed input (List.mem_append_right _ hinput) e he hid).visible hkept
  · have hsafe := safe_assignAvailablePending hsound he
    refine ⟨fun hmissing => hsafe ⟨message, Or.inl hmissing⟩, fun hinvalid => ?_⟩
    exact hsafe ⟨message, Or.inr hinvalid⟩

end Floor

open Sample in
/-- The inflight input of the sample room names a stored message. -/
theorem first_turn_well_formed :
    ((roomAfter emptyRoom firstTurn).sessions.lookup "bot").isSome = true ∧
      ∀ a, (roomAfter emptyRoom firstTurn).sessions.lookup "bot" = some a →
        ∀ input ∈ a.ownedInputs, ∃ e ∈ (roomAfter emptyRoom firstTurn).events,
          e.id = input.eventId := by
  refine ⟨by rw [roomAfter_firstTurn]; decide, fun a ha input hinput => ?_⟩
  have hformed := queues_well_formed (reachable_roomAfter emptyRoom_reachable firstTurn)
  obtain ⟨e, he, hid, -⟩ := (hformed.1 "bot" a ha).1 input hinput
  exact ⟨e, he, hid⟩

end AgentsAssemble.System
