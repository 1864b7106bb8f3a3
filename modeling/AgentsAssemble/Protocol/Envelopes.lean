import AgentsAssemble.Protocol.Authority

/-!
# Stored assignments over moves

The envelope of a turn that has not started still describes the inputs in
flight, as long as no attachment evidence of theirs was deleted.
-/

namespace AgentsAssemble.Protocol

open Foundation Domain Persistence

/-! ## Attachment evidence -/

/-- The ids of a list of events only depend on the attachments each one lists. -/
theorem messageAttachmentIdsFromEvents_map {f : RoomEvent → RoomEvent}
    {sources : List RoomEvent}
    (h : ∀ e ∈ sources, (f e).messageAttachments = e.messageAttachments) :
    RoomEvent.messageAttachmentIdsFromEvents (sources.map f) =
      RoomEvent.messageAttachmentIdsFromEvents sources := by
  suffices ∀ ids, RoomEvent.messageAttachmentIdsFromEvents.go ids (sources.map f) =
      RoomEvent.messageAttachmentIdsFromEvents.go ids sources from this []
  induction sources with
  | nil => exact fun _ => rfl
  | cons e sources ih =>
      intro ids
      rw [List.map_cons, RoomEvent.messageAttachmentIdsFromEvents.go,
        RoomEvent.messageAttachmentIdsFromEvents.go, h e List.mem_cons_self]
      cases e.messageAttachments with
      | error error => rfl
      | ok attachments => exact ih (fun d hd => h d (List.mem_cons_of_mem _ hd)) _

theorem messageAttachments_updated (event : RoomEvent) (content : String) (now : Nat) :
    (prepareUpdatedMessage event content now).messageAttachments = event.messageAttachments :=
  rfl

theorem messageAttachments_deleted (event : RoomEvent) (kind : MutableMessageKind)
    (now : Nat) : (prepareDeletedMessage event kind now).messageAttachments = .ok [] := by
  cases kind <;> rfl

/-! ## Envelopes -/

section Machine

variable {P : Permit} {c c' : RoomCore}

/-- An envelope survives a change that keeps the inflight inputs and their evidence. -/
theorem EnvelopeFor.carry {a b : DurableAgentSession}
    {envelope : ProviderTurnAssignmentEnvelope} (h : EnvelopeFor c a envelope)
    (hinflight : b.inflightInputs = a.inflightInputs)
    (hsessions : ∀ id, c.sessions.lookup id ≠ none → c'.sessions.lookup id ≠ none)
    (f : RoomEvent → RoomEvent) (hid : ∀ e ∈ c.events, (f e).id = e.id)
    (hmem : ∀ e ∈ c.events, f e ∈ c'.events)
    (hevidence : ∀ e ∈ c.events, (∃ input ∈ a.inflightInputs, input.eventId = e.id) →
      (f e).messageAttachments = e.messageAttachments) : EnvelopeFor c' b envelope := by
  obtain ⟨sources, hids, hstored, hattachments⟩ := h.attachments
  refine ⟨hinflight ▸ h.kinds, ⟨sources.map f, ?_, ?_, ?_⟩, h.input, h.view, h.capacity,
    h.distinct, fun id hmem => hsessions id (h.known id hmem)⟩
  · rw [hinflight, ← hids, List.map_map]
    exact List.map_congr_left fun e he => hid e (hstored e he)
  · intro e he
    obtain ⟨d, hd, rfl⟩ := List.mem_map.mp he
    exact hmem d (hstored d hd)
  · rw [messageAttachmentIdsFromEvents_map, hattachments]
    intro e he
    refine hevidence e (hstored e he) ?_
    have hmem : e.id ∈ a.inflightInputs.map QueuedRoomInput.eventId := by
      rw [← hids]
      exact List.mem_map_of_mem he
    exact List.mem_map.mp hmem

/-- Every assigned execution has an envelope that describes its session's turn. -/
def Evident (c : RoomCore) : Prop :=
  ∀ sid a row, c.sessions.lookup sid = some a →
    c.executions.lookup (sid, a.turnGeneration) = some row → row.phase = .assigned →
    ∃ envelope, c.assignments.lookup (sid, a.turnGeneration) = some envelope ∧
      EnvelopeFor c a envelope

theorem SessionChange.inflight_of_live {a b : DurableAgentSession} (hcareful : P.careful)
    (hlinked : Linked c) (ha : c.sessions.lookup a.sessionId = some a) {row : ExecutionRow}
    (hrow : c.executions.lookup (a.sessionId, a.turnGeneration) = some row)
    (hblocking : row.phase.isBlocking = true) (h : SessionChange P c a b) :
    b.inflightInputs = a.inflightInputs := by
  cases h with
  | touch _ same => exact same.inflight
  | applied _ _ same => exact same.inflight
  | enqueue => rfl
  | drop => rfl
  | retire => rfl
  | detach _ _ _ _ hstop =>
      obtain ⟨hactive, -, hnot⟩ := hlinked.owned _ a _ row ha hrow hblocking
      exact absurd (hstop hcareful hactive) hnot

variable [UuidSource] [CaseFold]

theorem Move.evident (hcareful : P.careful) (hevident : P.evident) (hsound : Sound c)
    (hlinked : Linked c) (h : Evident c) (hm : Move P c c') : Evident c' := by
  have hkeys : ∀ id, c.sessions.lookup id ≠ none → c'.sessions.lookup id ≠ none := by
    intro id hid
    obtain ⟨x, hx⟩ := Option.ne_none_iff_exists'.mp hid
    obtain ⟨y, hy, -⟩ := hm.session_mono hx
    rw [hy]
    simp
  have blocking_of : ∀ {row : ExecutionRow}, row.phase = .assigned →
      row.phase.isBlocking = true := by
    intro row hphase
    rw [hphase]
    rfl
  cases hm with
  | log added uuids fresh quiet =>
      intro sid a row ha hrow hphase
      obtain ⟨envelope, henvelope, hfor⟩ := h sid a row ha hrow hphase
      exact ⟨envelope, henvelope, hfor.carry rfl hkeys id (fun _ _ => rfl)
        (fun _ he => List.mem_append_left _ he) fun _ _ _ => rfl⟩
  | edit event content now guard =>
      intro sid a row ha hrow hphase
      obtain ⟨envelope, henvelope, hfor⟩ := h sid a row ha hrow hphase
      refine ⟨envelope, henvelope, hfor.carry rfl hkeys
        (fun e => if e.seq = event.seq then prepareUpdatedMessage event content now else e)
        (fun e he => ?_) (fun e he => List.mem_map.mpr ⟨e, he, rfl⟩) fun e he _ => ?_⟩ <;>
      · split
        · rename_i hseq
          rw [hsound.log.eq_of_seq he guard.stored hseq]
          rfl
        · rfl
  | tombstone event kind now guard =>
      intro sid a row ha hrow hphase
      obtain ⟨envelope, henvelope, hfor⟩ := h sid a row ha hrow hphase
      refine ⟨envelope, henvelope, hfor.carry rfl hkeys
        (fun e => if e.seq = event.seq then prepareDeletedMessage event kind now else e)
        (fun e he => ?_) (fun e he => List.mem_map.mpr ⟨e, he, rfl⟩)
        fun e he hinflight => ?_⟩ <;>
      · split
        · rename_i hseq
          obtain rfl := hsound.log.eq_of_seq he guard.stored hseq
          first
            | rfl
            | rw [messageAttachments_deleted,
                guard.evidence hevident sid a row ha hrow hphase hinflight]
        · rfl
  | session a b sessions stored change sets =>
      intro sid x row hx hrow hphase
      rcases sets.cases hx with ⟨rfl, hb⟩ | ⟨-, hx⟩
      · obtain rfl := Option.some.inj hb
        have hgen := change.identity.2.2.1
        rw [hgen] at hrow ⊢
        obtain ⟨envelope, henvelope, hfor⟩ := h _ a row stored hrow hphase
        have hinflight := change.inflight_of_live hcareful hlinked stored hrow
          (blocking_of hphase)
        exact ⟨envelope, henvelope, hfor.carry hinflight hkeys id (fun _ _ => rfl)
          (fun _ he => he) fun _ _ _ => rfl⟩
      · obtain ⟨envelope, henvelope, hfor⟩ := h sid x row hx hrow hphase
        exact ⟨envelope, henvelope, hfor.carry rfl hkeys id (fun _ _ => rfl)
          (fun _ he => he) fun _ _ _ => rfl⟩
  | create a sessions guard sets =>
      intro sid x row hx hrow hphase
      rcases sets.cases hx with ⟨rfl, -⟩ | ⟨-, hx⟩
      · obtain ⟨owner, howner, -⟩ := hsound.rows.owner _ _ row hrow
        rw [guard.absent] at howner
        cases howner
      · obtain ⟨envelope, henvelope, hfor⟩ := h sid x row hx hrow hphase
        exact ⟨envelope, henvelope, hfor.carry rfl hkeys id (fun _ _ => rfl)
          (fun _ he => he) fun _ _ _ => rfl⟩
  | assign a b new envelope sessions executions assignments guard sets setsRow setsEnvelope =>
      intro sid x row hx hrow hphase
      rcases sets.cases hx with ⟨rfl, hb⟩ | ⟨hne, hx⟩
      · obtain rfl := Option.some.inj hb
        exact ⟨envelope, setsEnvelope.at_key, guard.describes.carry rfl hkeys id
          (fun _ _ => rfl) (fun _ he => he) fun _ _ _ => rfl⟩
      · have hkey : (sid, x.turnGeneration) ≠ (a.sessionId, b.turnGeneration) :=
          fun heq => hne (Prod.mk.inj heq).1
        obtain ⟨stored, hstored, hfor⟩ := h sid x row hx
          ((setsRow.off_key hkey).symm.trans hrow) hphase
        exact ⟨stored, (setsEnvelope.off_key hkey).trans hstored, hfor.carry rfl hkeys id
          (fun _ _ => rfl) (fun _ he => he) fun _ _ _ => rfl⟩
  | settle a b old new finished uuids sessions executions effects guard sets setsRow =>
      intro sid x row hx hrow hphase
      rcases sets.cases hx with ⟨rfl, hb⟩ | ⟨hne, hx⟩
      · obtain rfl := Option.some.inj hb
        rw [guard.settlement.identity.2.2] at hrow
        obtain rfl := Option.some.inj (setsRow.at_key.symm.trans hrow)
        have hterminal := guard.terminal
        rw [blocking_of hphase] at hterminal
        cases hterminal
      · have hkey : (sid, x.turnGeneration) ≠ (a.sessionId, a.turnGeneration) :=
          fun heq => hne (Prod.mk.inj heq).1
        obtain ⟨stored, hstored, hfor⟩ := h sid x row hx
          ((setsRow.off_key hkey).symm.trans hrow) hphase
        exact ⟨stored, hstored, hfor.carry rfl hkeys id (fun _ _ => rfl)
          (fun _ he => List.mem_append_left _ he) fun _ _ _ => rfl⟩
  | shift key old new effectKey effect effect' executions effects guard setsRow =>
      intro sid x row hx hrow hphase
      have hold : c.executions.lookup (sid, x.turnGeneration) = some row := by
        rcases setsRow.cases hrow with ⟨hkey, hnew⟩ | ⟨-, hold⟩
        · obtain rfl := Option.some.inj hnew
          rw [hkey, guard.storedRow, guard.shift.assigned hphase]
        · exact hold
      obtain ⟨envelope, henvelope, hfor⟩ := h sid x row hx hold hphase
      exact ⟨envelope, henvelope, hfor.carry rfl hkeys id (fun _ _ => rfl)
        (fun _ he => he) fun _ _ _ => rfl⟩
  | vote =>
      intro sid x row hx hrow hphase
      obtain ⟨envelope, henvelope, hfor⟩ := h sid x row hx hrow hphase
      exact ⟨envelope, henvelope, hfor.carry rfl hkeys id (fun _ _ => rfl)
        (fun _ he => he) fun _ _ _ => rfl⟩

theorem Path.evident (hcareful : P.careful) (hevident : P.evident) (hsound : Sound c)
    (hlinked : Linked c) (h : Evident c) (hp : Path P c c') : Evident c' := by
  have hall : Sound c' ∧ Linked c' ∧ Evident c' :=
    Path.invariant (I := fun d => Sound d ∧ Linked d ∧ Evident d)
      (fun _ _ hd hm => ⟨hm.sound hd.1, hm.linked hcareful hd.1 hd.2.1,
        hm.evident hcareful hevident hd.1 hd.2.1 hd.2.2⟩) ⟨hsound, hlinked, h⟩ hp
  exact hall.2.2

end Machine

end AgentsAssemble.Protocol
