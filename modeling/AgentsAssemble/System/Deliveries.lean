import AgentsAssemble.Domain.SingleLine
import AgentsAssemble.Persistence.Delivery
import AgentsAssemble.System.Floor
import AgentsAssemble.System.Inputs

/-!
# Delivery of queued messages

In a reachable room the queue of a session becomes the input of a turn exactly when its oldest
message fits a view of its own.  A NUL that a name brought in stops every turn of the room.
-/

namespace AgentsAssemble.System

open Foundation Domain Persistence Protocol

/-- The agents that a view of the session lists. -/
def handles (s : Store) (session : DurableAgentSession) : List String :=
  match loadRoomAgentIds s session with
  | .ok roomAgentIds => roomAgentIds
  | .error _ => []

/-- The oldest queued message takes no more than a view may. -/
def OldestFits (s : Store) (session : DurableAgentSession) : Prop :=
  ∀ input ∈ session.pendingInputs.head?, ∀ e ∈ s.events, e.id = input.eventId →
    ∀ text attachments, e.messageVisibleText = .ok text → e.messageAttachments = .ok attachments →
      observationSize s.room session (handles s session) e text attachments ≤
        maxRoomViewCharacters

section Texts

variable [TextServices]

/-- Names, messages and card of a room reach a provider as they are stored. -/
structure TextsShowable (s : Store) (session : DurableAgentSession) : Prop where
  label : characters s.room.label ≤ 128 ∧ Lacks '\x00' s.room.label
  name : characters session.displayName ≤ 128 ∧ Lacks '\x00' session.displayName
  speakers : ∀ e ∈ s.events, MayShow session e → Lacks '\x00' (speakerOf e)
  messages : ∀ e ∈ s.events, Readable e
  card : ∃ card, selectedPersonaCard s session.personaCardId = .ok card ∧
    ∀ stored ∈ card, ∀ recent, Lacks '\x00' recent →
      characters (TextServices.renderPersonaContext stored recent) ≤ maxPersonaContextCharacters ∧
        Lacks '\x00' (TextServices.renderPersonaContext stored recent)

end Texts

section Sound

variable [UuidSource] {s : Store} {sid : String} {session : DurableAgentSession}

theorem validateCursor_of_sound (h : Sound (coreOf s))
    (hstored : s.sessions.lookup sid = some session) :
    validateProviderCursor s.events session = .ok () := by
  have hvalid : providerCursorIsValid s.events session = .ok true := by
    unfold providerCursorIsValid
    rcases (h.sessions.queues sid session hstored).cursor with ⟨hid, hseq⟩ | ⟨e, he, hid, hseq⟩
    · rw [if_pos hseq, hid]
      rfl
    · have hpositive := h.log.positive e he
      have hne : session.lastProviderSyncSeq ≠ 0 := by omega
      rw [if_neg hne, Result.bind_eq_ok]
      refine ⟨some e, ?_, ?_⟩
      · rw [← hid]
        exact h.log.findEvent he
      · simp [hseq]
  unfold validateProviderCursor
  rw [Result.bind_eq_ok]
  exact ⟨true, hvalid, rfl⟩

omit [UuidSource] in
theorem loadRoomAgentIds_of_capacity
    (hcapacity : s.sessions.rows.length ≤ maxRoomObservationAgentIds) :
    loadRoomAgentIds s session = .ok (handles s session) := by
  have hfew : ¬ (((s.sessions.sorted (· ≤ ·)).filter fun entry =>
      entry.1 ≠ session.sessionId).filterMap fun entry =>
        (s.participants.lookup entry.2.participantId).map fun participant =>
          (entry.1, participant)).length > maxRoomObservationAgentIds := by
    have hfound := List.length_filterMap_le (fun entry : String × DurableAgentSession =>
      (s.participants.lookup entry.2.participantId).map fun participant => (entry.1, participant))
      ((s.sessions.sorted (· ≤ ·)).filter fun entry => entry.1 ≠ session.sessionId)
    have hothers := List.length_filter_le (fun entry : String × DurableAgentSession =>
      decide (entry.1 ≠ session.sessionId)) (s.sessions.sorted (· ≤ ·))
    rw [Table.length_sorted] at hothers
    omega
  unfold handles
  simp only [loadRoomAgentIds, if_neg hfew]

/-- A handle is the id of a session, which has no control characters. -/
theorem lacks_handles (h : Sound (coreOf s)) : ∀ id ∈ handles s session, Lacks '\x00' id := by
  intro id hid
  unfold handles at hid
  split at hid
  · next ids hids =>
      obtain ⟨other, hother⟩ :=
        Option.ne_none_iff_exists'.mp ((loadRoomAgentIds_ok hids).2.2 id hid)
      have hkeyed := (h.sessions.keyed id other hother).2.2
      unfold isRoomObservationAgentId canonicalBoundedId at hkeyed
      simp only [Bool.and_eq_true, Bool.not_eq_true', List.any_eq_false] at hkeyed
      exact fun hmem => absurd (by decide : isControl '\x00' = true) (hkeyed.2 _ hmem)
  · cases hid

/-- The queue of a session that waits, as its events. -/
theorem pending_of_sound (h : Sound (coreOf s)) (hstored : s.sessions.lookup sid = some session)
    (hwaits : session.pendingInputs ≠ []) :
    ∃ first rest, loadPendingEvents s.events session session.lastProviderSyncSeq
        session.pendingInputs = .ok (first :: rest) ∧
      session.pendingInputs.head? = some first.input ∧
      IsPending s.events session session.lastProviderSyncSeq first := by
  obtain ⟨hready, hprevious⟩ := ready_of_sound h hstored
  obtain ⟨pending, hpending, hlength⟩ := loadPendingEvents_of_ready hready hprevious
  obtain ⟨hinputs, hqueued⟩ := loadPendingEvents_ok hpending
  cases pending with
  | nil => exact absurd (List.length_eq_zero_iff.mp hlength.symm) hwaits
  | cons first rest =>
      refine ⟨first, rest, hpending, ?_, hqueued first List.mem_cons_self⟩
      rw [← hinputs]
      rfl

/-- The oldest message fits a view of its own when it takes no more than a view may. -/
theorem oldestFits_iff (h : Sound (coreOf s)) {first : PendingRoomEvent}
    (hhead : session.pendingInputs.head? = some first.input)
    (hfirst : IsPending s.events session session.lastProviderSyncSeq first) :
    OldestFits s session ↔
      ∃ view, renderRoomView s.room session (handles s session) [first.event] = .ok view ∧
        view.toList.length ≤ maxRoomViewCharacters := by
  obtain ⟨hevent, hid⟩ := findEvent_some hfirst.found
  have hvisible := readable_eq_ok.mp hfirst.visible
  unfold RoomEvent.messageHasVisiblePayload at hvisible
  obtain ⟨attachments, hattachments, hvisible⟩ := Result.bind_eq_ok.mp hvisible
  obtain ⟨text, htext, hvisible⟩ := Result.bind_eq_ok.mp hvisible
  have hshown := Result.pure_eq_ok.mp hvisible
  rw [Bool.or_eq_true, bne_iff_ne] at hshown
  have hviewed : ∃ view, renderRoomView s.room session (handles s session) [first.event] =
      .ok view ∧ characters view =
        observationSize s.room session (handles s session) first.event text attachments :=
    view_of_visible htext hattachments hshown
  obtain ⟨view, hview, hsize⟩ := hviewed
  constructor
  · intro hfits
    refine ⟨view, hview, ?_⟩
    have hbound := hfits first.input hhead first.event hevent hid text attachments htext
      hattachments
    rw [← hsize] at hbound
    exact hbound
  · rintro ⟨shown, hshown, hbound⟩ input hinput e he heid text' attachments' htext' hattachments'
    obtain rfl := Option.some.inj (hhead.symm.trans hinput)
    obtain rfl := h.log.eq_of_id he hevent (heid.trans hid.symm)
    obtain rfl := Except.ok.inj (htext.symm.trans htext')
    obtain rfl := Except.ok.inj (hattachments.symm.trans hattachments')
    obtain rfl := Except.ok.inj (hview.symm.trans hshown)
    rw [← hsize]
    exact hbound

end Sound

section Reachable

variable [UuidSource] [CaseFold] [TextServices] [OperationHash]

/-- A queue that becomes input has an oldest message that fits, in a room whose label and whose
agent have no NUL in their names; and where no text has one, fitting is all it takes. -/
theorem queued_messages_deliverable {s : Store} (hs : IsReachable s) {sid : String}
    {session : DurableAgentSession} (hstored : s.sessions.lookup sid = some session)
    (hwaits : session.pendingInputs ≠ [])
    (hcapacity : s.sessions.rows.length ≤ maxRoomObservationAgentIds) (tabletopTools : Bool) :
    ((∃ prepared, prepareRoomInput s s.room session session.pendingInputs tabletopTools =
        .ok prepared) →
      OldestFits s session ∧ Lacks '\x00' s.room.label ∧ Lacks '\x00' session.displayName) ∧
    (TextsShowable s session → OldestFits s session →
      ∃ prepared, prepareRoomInput s s.room session session.pendingInputs tabletopTools =
        .ok prepared) := by
  have hsound := hs.sound
  have hids : loadRoomAgentIds s session = .ok (handles s session) :=
    loadRoomAgentIds_of_capacity hcapacity
  obtain ⟨first, rest, hpending, hhead, hfirst⟩ := pending_of_sound hsound hstored hwaits
  have hfits := oldestFits_iff hsound hhead hfirst
  constructor
  · rintro ⟨prepared, hprepared⟩
    obtain ⟨hview, hlabel, hname, -⟩ := prepareRoomInput_shows hids hpending hprepared
    exact ⟨hfits.mpr hview, hlabel, hname⟩
  · intro htexts holdest
    have hshow : Showable s s.room session (handles s session) :=
      { label := htexts.label
        name := htexts.name
        handles := lacks_handles hsound
        speakers := htexts.speakers
        messages := htexts.messages
        distinct := fun d hd e he hseq => hsound.log.eq_of_seq hd he hseq
        card := htexts.card }
    exact prepareRoomInput_total hshow (validateCursor_of_sound hsound hstored) hids hpending
      (hfits.mp holdest)

end Reachable

namespace Sample

/-- The rest of the server stores another label. -/
def relabel (s : Store) (label : String) : Store :=
  { s with room := { s.room with label } }

theorem relabel_reachable {s : Store} (h : IsReachable s) (label : String) :
    IsReachable (relabel s label) := by
  refine Reachable.step h (Step.outside ⟨rfl, rfl, rfl, rfl, rfl, rfl, ?_⟩)
  refine ⟨[], ?_, Fresh.none (Nat.le_refl _), fun e he => absurd he List.not_mem_nil⟩
  rw [List.append_nil]
  rfl

end Sample

open Sample in
/-- A label with a NUL is stored as it is, and then no waiting message becomes input. -/
theorem nul_label_stops_turns :
    cleanSingleLine "a\x00b" 128 = "a\x00b" ∧
      ∃ session, (relabel waitingRoom "a\x00b").sessions.lookup "bot" = some session ∧
        session.pendingInputs ≠ [] ∧ ∀ tabletopTools prepared,
          prepareRoomInput (relabel waitingRoom "a\x00b") (relabel waitingRoom "a\x00b").room
            session session.pendingInputs tabletopTools ≠ .ok prepared := by
  refine ⟨by decide +kernel, ?_⟩
  have hwaiting : botWaits (relabel waitingRoom "a\x00b") = true ∧
      (relabel waitingRoom "a\x00b").sessions.rows.length ≤ maxRoomObservationAgentIds := by
    decide +kernel
  obtain ⟨session, -, hstored, -, -, -, -, -, hwaits⟩ := botWaits_sound hwaiting.1
  refine ⟨session, hstored, hwaits, fun tabletopTools prepared hprepared => ?_⟩
  have hreachable := relabel_reachable waitingRoom_reachable "a\x00b"
  obtain ⟨-, hlabel, -⟩ := (queued_messages_deliverable hreachable hstored hwaits hwaiting.2
    tabletopTools).1 ⟨prepared, hprepared⟩
  exact absurd hlabel (by decide)

end AgentsAssemble.System
