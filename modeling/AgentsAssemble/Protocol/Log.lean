import AgentsAssemble.Protocol.Moves

/-!
# The log over moves

Events are only ever added, edited in place or turned into tombstones.
`LogStep` says what a later log still knows about an earlier one; queues are
carried along it.
-/

namespace AgentsAssemble.Protocol

open Foundation Domain Persistence

/-! ## What later logs keep -/

/-- `e'` is the event `e` as a later log holds it. -/
structure Continues (e e' : RoomEvent) : Prop where
  seq : e'.seq = e.seq
  eventType : e'.eventType = e.eventType
  actor : e'.actor = e.actor
  deleted : e.isDeleted = true → e'.isDeleted = true
  visible : e'.isDeleted = false → e.messageHasVisiblePayload = .ok true →
    e'.messageHasVisiblePayload = .ok true

theorem Continues.refl (e : RoomEvent) : Continues e e :=
  ⟨rfl, rfl, rfl, id, fun _ h => h⟩

theorem Continues.trans {d e f : RoomEvent} (h : Continues d e) (h' : Continues e f) :
    Continues d f := by
  refine ⟨h'.seq.trans h.seq, h'.eventType.trans h.eventType, h'.actor.trans h.actor,
    fun hd => h'.deleted (h.deleted hd), fun hf hv => ?_⟩
  have hkept : e.isDeleted = false := by
    by_contra hne
    rw [h'.deleted (by simpa using hne)] at hf
    cases hf
  exact h'.visible hf (h.visible hkept hv)

structure LogStep (events events' : List RoomEvent) : Prop where
  kept : ∀ e ∈ events, ∃ e' ∈ events', e'.id = e.id
  same : ∀ e ∈ events, ∀ e' ∈ events', e'.id = e.id → Continues e e'

theorem LogStep.trans {a b c : List RoomEvent} (h : LogStep a b) (h' : LogStep b c) :
    LogStep a c := by
  refine ⟨fun e he => ?_, fun e he g hg hid => ?_⟩
  · obtain ⟨f, hf, hfid⟩ := h.kept e he
    obtain ⟨g, hg, hgid⟩ := h'.kept f hf
    exact ⟨g, hg, hgid.trans hfid⟩
  · obtain ⟨f, hf, hfid⟩ := h.kept e he
    exact (h.same e he f hf hfid).trans (h'.same f hf g hg (hid.trans hfid.symm))

section Steps

variable [UuidSource] {events : List RoomEvent} {u : Nat}

theorem LogWF.step_refl (h : LogWF events u) : LogStep events events := by
  refine ⟨fun e he => ⟨e, he, rfl⟩, fun e he e' he' hid => ?_⟩
  rw [h.eq_of_id he' he hid]
  exact Continues.refl e

/-- A fresh event has an id no stored event has. -/
theorem LogWF.fresh_ne {added : List RoomEvent} {v : Nat} (h : LogWF events u)
    (hf : Fresh events u added v) {d e : RoomEvent} (hd : d ∈ events) (he : e ∈ added) :
    e.id ≠ d.id := by
  intro hid
  obtain ⟨j, hj, hdj⟩ := h.ids d hd
  obtain ⟨k, hk, -, hek⟩ := hf.ids e he
  have hjk : k = j := UuidSource.newV4_injective (hek ▸ hdj ▸ hid)
  omega

theorem LogWF.step_append {added : List RoomEvent} {v : Nat} (h : LogWF events u)
    (hf : Fresh events u added v) : LogStep events (events ++ added) := by
  refine ⟨fun e he => ⟨e, List.mem_append_left _ he, rfl⟩, fun e he e' he' hid => ?_⟩
  rcases List.mem_append.mp he' with he' | he'
  · rw [h.eq_of_id he' he hid]
    exact Continues.refl e
  · exact absurd hid (h.fresh_ne hf he he')

omit [UuidSource] in
theorem mem_rewriteIn {event e : RoomEvent} (h : e ∈ rewriteIn events event) :
    e = event ∨ (e ∈ events ∧ e.seq ≠ event.seq) := by
  obtain ⟨stored, hstored, rfl⟩ := List.mem_map.mp h
  by_cases hseq : stored.seq = event.seq
  · left
    simp [hseq]
  · right
    simp [hseq, hstored]

/-- Rewriting an event in place keeps the ids and sequences of the log. -/
theorem LogWF.rewrite {event event' : RoomEvent} (h : LogWF events u) (hmem : event ∈ events)
    (hid : event'.id = event.id) (hseq : event'.seq = event.seq) :
    LogWF (rewriteIn events event') u := by
  have hone : ∀ stored ∈ events, stored.seq = event'.seq → stored = event := by
    intro stored hstored heq
    exact h.eq_of_seq hstored hmem (heq.trans hseq)
  have hids : (rewriteIn events event').map RoomEvent.id = events.map RoomEvent.id := by
    rw [rewriteIn, List.map_map]
    refine List.map_congr_left fun stored hstored => ?_
    show (if stored.seq = event'.seq then event' else stored).id = stored.id
    split
    · rename_i heq
      rw [hid, hone stored hstored heq]
    · rfl
  have hseqs : (rewriteIn events event').map RoomEvent.seq = events.map RoomEvent.seq := by
    rw [rewriteIn, List.map_map]
    refine List.map_congr_left fun stored hstored => ?_
    show (if stored.seq = event'.seq then event' else stored).seq = stored.seq
    split
    · rename_i heq
      exact heq.symm
    · rfl
  refine ⟨fun e he => ?_, hids ▸ h.nodup, hseqs ▸ h.sorted, fun e he => ?_⟩
  · rcases mem_rewriteIn he with rfl | ⟨he, -⟩
    · rw [hid]
      exact h.ids event hmem
    · exact h.ids e he
  · rcases mem_rewriteIn he with rfl | ⟨he, -⟩
    · rw [hseq]
      exact h.positive event hmem
    · exact h.positive e he

omit [UuidSource] in
theorem mem_rewriteIn_self {event event' : RoomEvent} (hmem : event ∈ events)
    (hseq : event'.seq = event.seq) : event' ∈ rewriteIn events event' :=
  List.mem_map.mpr ⟨event, hmem, by simp [hseq]⟩

theorem LogWF.step_rewrite {event event' : RoomEvent} (h : LogWF events u)
    (hmem : event ∈ events) (hid : event'.id = event.id) (hc : Continues event event') :
    LogStep events (rewriteIn events event') := by
  refine ⟨fun e he => ?_, fun e he e' he' heq => ?_⟩
  · by_cases hseq : e.seq = event'.seq
    · have hev : e = event := h.eq_of_seq he hmem (hseq.trans hc.seq)
      refine ⟨event', mem_rewriteIn_self hmem hc.seq, ?_⟩
      rw [hid, hev]
    · exact ⟨e, List.mem_map.mpr ⟨e, he, by simp [hseq]⟩, rfl⟩
  · rcases mem_rewriteIn he' with rfl | ⟨he', -⟩
    · rw [h.eq_of_id he hmem (heq.symm.trans hid)]
      exact hc
    · rw [h.eq_of_id he' he heq]
      exact Continues.refl e

/-- A rewrite that keeps the type of its event keeps what the log says about ends of turns. -/
theorem countP_rewriteIn {p : RoomEvent → Bool} {event event' : RoomEvent}
    (h : LogWF events u) (hmem : event ∈ events) (hseq : event'.seq = event.seq)
    (hp : p event' = p event) : (rewriteIn events event').countP p = events.countP p := by
  rw [rewriteIn, List.countP_map]
  refine List.countP_congr fun stored hstored => ?_
  show p (if stored.seq = event'.seq then event' else stored) = true ↔ p stored = true
  split
  · rename_i heq
    rw [hp, h.eq_of_seq hstored hmem (heq.trans hseq)]
  · rfl

end Steps

/-! ## Rewritten messages -/

theorem continues_updated (event : RoomEvent) (content : String) (now : Nat)
    (hvisible : ∀ attachments, event.messageAttachments = .ok attachments →
      (prepareUpdatedMessage event content now).messageHasVisiblePayload = .ok true) :
    Continues event (prepareUpdatedMessage event content now) := by
  refine ⟨rfl, rfl, rfl, id, fun _ hv => ?_⟩
  rw [RoomEvent.messageHasVisiblePayload] at hv
  cases ha : event.messageAttachments with
  | error e => simp [ha, bind, Except.bind] at hv
  | ok attachments => exact hvisible attachments ha

theorem isDeleted_prepareDeletedMessage (event : RoomEvent) (kind : MutableMessageKind)
    (now : Nat) : (prepareDeletedMessage event kind now).isDeleted = true := by
  cases kind <;> rfl

theorem continues_deleted (event : RoomEvent) (kind : MutableMessageKind) (now : Nat) :
    Continues event (prepareDeletedMessage event kind now) := by
  have hdeleted := isDeleted_prepareDeletedMessage event kind now
  refine ⟨rfl, rfl, rfl, fun _ => hdeleted, fun hkept _ => ?_⟩
  rw [hdeleted] at hkept
  cases hkept

/-! ## Moves -/

section Machine

variable [UuidSource] [CaseFold] {P : Permit} {c c' : RoomCore}

theorem Move.logStep (h : LogWF c.events c.uuids) (hm : Move P c c') :
    LogStep c.events c'.events := by
  cases hm with
  | log added uuids fresh => exact h.step_append fresh
  | edit event content now guard =>
      exact h.step_rewrite guard.stored rfl (continues_updated event content now guard.visible)
  | tombstone event kind now guard =>
      exact h.step_rewrite guard.stored rfl (continues_deleted event kind now)
  | settle a b row row' finished uuids _ _ _ guard => exact h.step_append guard.fresh
  | session => exact h.step_refl
  | create => exact h.step_refl
  | assign => exact h.step_refl
  | shift => exact h.step_refl
  | vote => exact h.step_refl

theorem Move.log_wf (h : LogWF c.events c.uuids) (hm : Move P c c') :
    LogWF c'.events c'.uuids := by
  cases hm with
  | log added uuids fresh => exact h.append fresh
  | edit event content now guard => exact h.rewrite guard.stored rfl rfl
  | tombstone event kind now guard => exact h.rewrite guard.stored rfl rfl
  | settle a b row row' finished uuids _ _ _ guard => exact h.append guard.fresh
  | session => exact h
  | create => exact h
  | assign => exact h
  | shift => exact h
  | vote => exact h

end Machine

end AgentsAssemble.Protocol
