import AgentsAssemble.Protocol.Log

/-!
# Queues over moves

What every session may rely on about the inputs it owns: they are stored
messages by other members, in the order of the log, newer than the provider
cursor, and the pending ones can still be read.
-/

namespace AgentsAssemble.Protocol

open Foundation Domain Persistence

/-! ## Well-formed queues -/

/-- An event this session may own. -/
structure Routed (session : DurableAgentSession) (event : RoomEvent) : Prop where
  final : event.eventType = "message_final"
  other : event.actor.participantId ≠ session.participantId
  unseen : session.lastProviderSyncSeq < event.seq
  visible : event.isDeleted = false → event.messageHasVisiblePayload = .ok true

/-- The event of `x` precedes the event of `y`. -/
def Precedes (events : List RoomEvent) (x y : QueuedRoomInput) : Prop :=
  ∀ d ∈ events, ∀ e ∈ events, d.id = x.eventId → e.id = y.eventId → d.seq < e.seq

structure QueueWF (events : List RoomEvent) (session : DurableAgentSession) : Prop where
  known : ∀ input ∈ session.ownedInputs, ∃ e ∈ events, e.id = input.eventId
  ordered : session.ownedInputs.Pairwise (Precedes events)
  routed : ∀ input ∈ session.ownedInputs, ∀ e ∈ events, e.id = input.eventId →
    Routed session e
  kept : ∀ input ∈ session.pendingInputs, ∀ e ∈ events, e.id = input.eventId →
    e.isDeleted = false
  bounded : session.ownedInputs.length ≤ maxQueuedEventIds
  cursor : (session.lastProviderSyncEventId = "" ∧ session.lastProviderSyncSeq = 0) ∨
    ∃ e ∈ events, e.id = session.lastProviderSyncEventId ∧
      e.seq = session.lastProviderSyncSeq

namespace QueueWF

variable {events events' : List RoomEvent} {a b : DurableAgentSession}

theorem ids_ne (h : QueueWF events a) :
    a.ownedInputs.Pairwise fun x y => x.eventId ≠ y.eventId := by
  refine List.Pairwise.imp_of_mem ?_ h.ordered
  intro x y hx _ hxy heq
  obtain ⟨e, he, hid⟩ := h.known x hx
  exact Nat.lt_irrefl _ (hxy e he e he hid (hid.trans heq))

theorem nodup (h : QueueWF events a) : a.ownedIds.Nodup := by
  rw [DurableAgentSession.ownedIds, List.Nodup, List.pairwise_map]
  exact h.ids_ne

theorem canonical [UuidSource] {u : Nat} (h : QueueWF events a) (hl : LogWF events u) :
    CanonicalQueue a.ownedInputs := by
  refine ⟨h.bounded, fun input hinput => ?_, h.nodup⟩
  obtain ⟨e, he, hid⟩ := h.known input hinput
  rw [← hid]
  exact hl.id_ne_empty he

theorem step (h : QueueWF events a) (hs : LogStep events events')
    (hkept : ∀ input ∈ a.pendingInputs, ∀ e ∈ events', e.id = input.eventId →
      e.isDeleted = false) : QueueWF events' a := by
  refine ⟨fun input hinput => ?_, ?_, fun input hinput e' he' hid => ?_, hkept, h.bounded, ?_⟩
  · obtain ⟨e, he, hid⟩ := h.known input hinput
    obtain ⟨e', he', hid'⟩ := hs.kept e he
    exact ⟨e', he', hid'.trans hid⟩
  · refine List.Pairwise.imp_of_mem ?_ h.ordered
    intro x y hx hy hxy d' hd' e' he' hdx hey
    obtain ⟨d, hd, hdid⟩ := h.known x hx
    obtain ⟨e, he, heid⟩ := h.known y hy
    rw [(hs.same d hd d' hd' (hdx.trans hdid.symm)).seq,
      (hs.same e he e' he' (hey.trans heid.symm)).seq]
    exact hxy d hd e he hdid heid
  · obtain ⟨e, he, heid⟩ := h.known input hinput
    have hroute := h.routed input hinput e he heid
    have hsame := hs.same e he e' he' (hid.trans heid.symm)
    refine ⟨hsame.eventType.trans hroute.final, ?_, ?_, fun hdel => ?_⟩
    · rw [hsame.actor]
      exact hroute.other
    · rw [hsame.seq]
      exact hroute.unseen
    · have hundel : e.isDeleted = false := by
        by_contra hne
        rw [hsame.deleted (by simpa using hne)] at hdel
        cases hdel
      exact hsame.visible hdel (hroute.visible hundel)
  · rcases h.cursor with hzero | ⟨e, he, hid, hseq⟩
    · exact Or.inl hzero
    · obtain ⟨e', he', hid'⟩ := hs.kept e he
      exact Or.inr ⟨e', he', hid'.trans hid, (hs.same e he e' he' hid').seq.trans hseq⟩

/-- Appended events do not disturb a queue. -/
theorem append [UuidSource] {u v : Nat} {added : List RoomEvent} (h : QueueWF events a)
    (hl : LogWF events u) (hf : Fresh events u added v)
    (hundeleted : ∀ e ∈ added, e.isDeleted = false) : QueueWF (events ++ added) a := by
  refine h.step (hl.step_append hf) fun input hinput e he hid => ?_
  rcases List.mem_append.mp he with he | he
  · exact h.kept input hinput e he hid
  · exact hundeleted e he

/-- A session with part of the queue, under the same participant and cursor. -/
theorem part (h : QueueWF events a) (hid : b.participantId = a.participantId)
    (hc : KeepsCursor a b) (hs : b.ownedInputs.Sublist a.ownedInputs)
    (hkept : ∀ input ∈ b.pendingInputs, ∀ e ∈ events, e.id = input.eventId →
      e.isDeleted = false) : QueueWF events b := by
  refine ⟨fun input hinput => h.known input (hs.subset hinput), h.ordered.sublist hs,
    fun input hinput e he heid => ?_, hkept, hs.length_le.trans h.bounded, ?_⟩
  · have hroute := h.routed input (hs.subset hinput) e he heid
    refine ⟨hroute.final, ?_, ?_, hroute.visible⟩
    · rw [hid]
      exact hroute.other
    · rw [hc.syncSeq]
      exact hroute.unseen
  · rw [hc.syncId, hc.syncSeq]
    exact h.cursor

theorem touch (h : QueueWF events a) (hs : SameTurn a b) : QueueWF events b := by
  refine h.part hs.participantId ⟨hs.syncId, hs.syncSeq⟩ ?_ ?_
  · rw [hs.owned]
  · rw [hs.pending]
    exact h.kept

/-- Putting the undeleted inputs back keeps the queue well formed. -/
theorem restore (h : QueueWF events a) {pending : List QueuedRoomInput}
    (he : Ended a b pending) (hc : KeepsCursor a b)
    (hp : pending = keptInputs events a.ownedInputs) : QueueWF events b := by
  have howned : b.ownedInputs = keptInputs events a.ownedInputs := by
    rw [DurableAgentSession.ownedInputs, he.clear.inflight, he.pending, hp, List.nil_append]
  refine h.part he.participantId hc ?_ ?_
  · rw [howned]
    exact List.filter_sublist
  · intro input hinput e hmem hid
    rw [he.pending, hp, keptInputs, List.mem_filter] at hinput
    have hundel := hinput.2
    rw [Bool.not_eq_true', deletedIn, List.any_eq_false] at hundel
    have := hundel e hmem
    simpa [hid] using this

/-- Consuming the inflight inputs moves the cursor below everything still pending. -/
theorem consume (h : QueueWF events a) (ha : ActiveTurn a)
    (he : Ended a b a.pendingInputs) {source : RoomEvent} (hmem : source ∈ events)
    (hid : source.id = a.inputUpToEventId) (hseq : source.seq = a.inputUpToSeq)
    (hsync : b.lastProviderSyncEventId = a.inputUpToEventId)
    (hsyncSeq : b.lastProviderSyncSeq = a.inputUpToSeq) : QueueWF events b := by
  have howned : b.ownedInputs = a.pendingInputs := by
    rw [DurableAgentSession.ownedInputs, he.clear.inflight, he.pending, List.nil_append]
  have hsub : a.pendingInputs.Sublist a.ownedInputs := List.sublist_append_right _ _
  refine ⟨fun input hinput => ?_, ?_, fun input hinput e hmem' heid => ?_, ?_, ?_, ?_⟩
  · rw [howned] at hinput
    exact h.known input (hsub.subset hinput)
  · rw [howned]
    exact h.ordered.sublist hsub
  · rw [howned] at hinput
    have hroute := h.routed input (hsub.subset hinput) e hmem' heid
    refine ⟨hroute.final, ?_, ?_, hroute.visible⟩
    · rw [he.participantId]
      exact hroute.other
    · -- The last inflight input is the cursor, and it precedes every pending one.
      obtain ⟨last, hlast, hlastId⟩ := Option.map_eq_some_iff.mp ha.source
      have hordered := h.ordered
      rw [DurableAgentSession.ownedInputs, List.pairwise_append] at hordered
      have hbefore := hordered.2.2 last (List.mem_of_getLast? hlast) input hinput
      rw [hsyncSeq, ← hseq]
      refine hbefore source hmem e hmem' ?_ heid
      rw [hid, ← ha.upTo, hlastId]
  · rw [he.pending]
    exact h.kept
  · rw [howned]
    exact hsub.length_le.trans h.bounded
  · rw [hsync, hsyncSeq]
    exact Or.inr ⟨source, hmem, hid, hseq⟩

theorem enqueue (h : QueueWF events a) {event : RoomEvent} {kind : RoomInputDeliveryKind}
    [UuidSource] {u : Nat} (hl : LogWF events u) (hmem : event ∈ events)
    (hroute : Routed a event) (hkept : event.isDeleted = false)
    (hnewest : ∀ input ∈ a.ownedInputs, ∀ e ∈ events, e.id = input.eventId →
      e.seq < event.seq)
    (hroom : a.ownedInputs.length < maxQueuedEventIds)
    (hb : b = { a with pendingInputs := a.pendingInputs ++ [⟨event.id, kind⟩] }) :
    QueueWF events b := by
  have howned : b.ownedInputs = a.ownedInputs ++ [⟨event.id, kind⟩] := by
    rw [hb, DurableAgentSession.ownedInputs, DurableAgentSession.ownedInputs,
      List.append_assoc]
  refine ⟨fun input hinput => ?_, ?_, fun input hinput e he hid => ?_,
    fun input hinput e he hid => ?_, ?_, ?_⟩
  · rw [howned] at hinput
    rcases List.mem_append.mp hinput with hold | hnew
    · exact h.known input hold
    · rw [List.mem_singleton.mp hnew]
      exact ⟨event, hmem, rfl⟩
  · rw [howned, List.pairwise_append]
    refine ⟨h.ordered, by simp, ?_⟩
    intro x hx y hy d hd e he hdx hey
    rw [List.mem_singleton.mp hy] at hey
    rw [hl.eq_of_id he hmem hey]
    exact hnewest x hx d hd hdx
  · rw [howned] at hinput
    have hcase : Routed a e := by
      rcases List.mem_append.mp hinput with hold | hnew
      · exact h.routed input hold e he hid
      · rw [List.mem_singleton.mp hnew] at hid
        rw [hl.eq_of_id he hmem hid]
        exact hroute
    rw [hb]
    exact ⟨hcase.final, hcase.other, hcase.unseen, hcase.visible⟩
  · rw [hb] at hinput
    rcases List.mem_append.mp hinput with hold | hnew
    · exact h.kept input hold e he hid
    · rw [List.mem_singleton.mp hnew] at hid
      rw [hl.eq_of_id he hmem hid]
      exact hkept
  · rw [howned, List.length_append]
    exact hroom
  · rw [hb]
    exact h.cursor

/-- Taking a prefix in flight leaves the inputs the session owns as they are. -/
theorem assign (h : QueueWF events a) {turnId : String} (ha : Assigned a b turnId)
    (hinflight : a.inflightInputs = []) : QueueWF events b := by
  have howned : b.ownedInputs = a.ownedInputs := by
    rw [DurableAgentSession.ownedInputs, ha.queue, DurableAgentSession.ownedInputs, hinflight,
      List.nil_append]
  refine h.part ha.participantId ha.cursor ?_ fun input hinput => ?_
  · rw [howned]
  · refine h.kept input ?_
    rw [← ha.queue]
    exact List.mem_append_right _ hinput

end QueueWF

/-! ## Sessions -/

/-- Every session stands under its own id with a well-formed queue. -/
structure SessionsWF (c : RoomCore) : Prop where
  keyed : ∀ sid a, c.sessions.lookup sid = some a →
    a.sessionId = sid ∧ a.participantId = sid ∧ isRoomObservationAgentId sid = true
  queues : ∀ sid a, c.sessions.lookup sid = some a → QueueWF c.events a

section Machine

variable {P : Permit} {c c' : RoomCore}

theorem SessionChange.identity {a b : DurableAgentSession} (h : SessionChange P c a b) :
    b.sessionId = a.sessionId ∧ b.participantId = a.participantId ∧
      b.turnGeneration = a.turnGeneration ∧ KeepsCursor a b := by
  cases h with
  | touch _ same =>
      exact ⟨same.sessionId, same.participantId, same.generation, same.syncId, same.syncSeq⟩
  | applied _ _ same =>
      exact ⟨same.sessionId, same.participantId, same.generation, same.syncId, same.syncSeq⟩
  | enqueue => exact ⟨rfl, rfl, rfl, rfl, rfl⟩
  | drop => exact ⟨rfl, rfl, rfl, rfl, rfl⟩
  | retire => exact ⟨rfl, rfl, rfl, rfl, rfl⟩
  | detach _ _ ended cursor =>
      exact ⟨ended.sessionId, ended.participantId, ended.generation, cursor⟩

theorem Settlement.identity {a b : DurableAgentSession} {row : ExecutionRow}
    (h : Settlement P c a b row) :
    b.sessionId = a.sessionId ∧ b.participantId = a.participantId ∧
      b.turnGeneration = a.turnGeneration := by
  cases h with
  | consumed _ _ ended => exact ⟨ended.sessionId, ended.participantId, ended.generation⟩
  | restored _ ended => exact ⟨ended.sessionId, ended.participantId, ended.generation⟩
  | stopped same => exact ⟨same.sessionId, same.participantId, same.generation⟩

theorem Settlement.queueWF {a b : DurableAgentSession} {row : ExecutionRow}
    (h : QueueWF c.events a) (ha : ActiveTurn a) (hs : Settlement P c a b row) :
    QueueWF c.events b := by
  cases hs with
  | consumed source _ ended hmem hid hseq hsync hsyncSeq =>
      exact h.consume ha ended hmem hid hseq hsync hsyncSeq
  | restored _ ended cursor => exact h.restore ended cursor rfl
  | stopped same => exact h.touch same

theorem Creates.queueWF {a : DurableAgentSession} (h : Creates c a) : QueueWF c.events a := by
  have hnone : ∀ input, input ∉ a.ownedInputs := by simp [h.queue]
  refine ⟨fun input hinput => absurd hinput (hnone input), ?_,
    fun input hinput => absurd hinput (hnone input), fun input hinput => ?_, ?_, h.cursor⟩
  · rw [h.queue]
    exact List.Pairwise.nil
  · exact absurd (List.mem_append_right _ hinput) (hnone input)
  · rw [h.queue]
    exact Nat.zero_le _

variable [UuidSource]

theorem SessionChange.queueWF {a b : DurableAgentSession} (hl : LogWF c.events c.uuids)
    (h : QueueWF c.events a) (hc : SessionChange P c a b) : QueueWF c.events b := by
  cases hc with
  | touch _ same => exact h.touch same
  | applied _ _ same => exact h.touch same
  | enqueue event kind _ hmem hfinal hkept hvisible hother hunseen hnewest hroom =>
      exact h.enqueue hl hmem ⟨hfinal, hother, hunseen, fun _ => hvisible⟩ hkept hnewest hroom
        rfl
  | drop eventId =>
      refine h.part rfl ⟨rfl, rfl⟩ ?_ fun input hinput => ?_
      · exact List.Sublist.append_left List.filter_sublist _
      · exact h.kept input (List.mem_filter.mp hinput).1
  | retire =>
      refine h.part rfl ⟨rfl, rfl⟩ ?_ fun input hinput => ?_
      · exact List.Sublist.append_left (List.nil_sublist _) _
      · cases hinput
  | detach _ _ ended cursor => exact h.restore ended cursor rfl

variable [CaseFold]

theorem Move.sessions_wf (hl : LogWF c.events c.uuids) (h : SessionsWF c)
    (hm : Move P c c') : SessionsWF c' := by
  cases hm with
  | log added uuids fresh quiet =>
      exact ⟨h.keyed, fun sid a ha =>
        (h.queues sid a ha).append hl fresh fun e he => (quiet e he).kept⟩
  | edit event content now guard =>
      refine ⟨h.keyed, fun sid a ha => (h.queues sid a ha).step
        (hl.step_rewrite guard.stored rfl (continues_updated event content now guard.visible))
        fun input hinput e he hid => ?_⟩
      rcases mem_rewriteIn he with rfl | ⟨he, -⟩
      · exact (h.queues sid a ha).kept input hinput event guard.stored hid
      · exact (h.queues sid a ha).kept input hinput e he hid
  | tombstone event kind now guard =>
      refine ⟨h.keyed, fun sid a ha => (h.queues sid a ha).step
        (hl.step_rewrite guard.stored rfl (continues_deleted event kind now))
        fun input hinput e he hid => ?_⟩
      rcases mem_rewriteIn he with rfl | ⟨he, -⟩
      · exact absurd hid.symm (guard.unqueued sid a ha input hinput)
      · exact (h.queues sid a ha).kept input hinput e he hid
  | session a b sessions stored change sets =>
      obtain ⟨hsid, hpid, -⟩ := change.identity
      obtain ⟨-, hkey, hnamed⟩ := h.keyed _ a stored
      refine ⟨fun sid x hx => ?_, fun sid x hx => ?_⟩
      · rcases sets.cases hx with ⟨rfl, hb⟩ | ⟨-, hx⟩
        · obtain rfl := Option.some.inj hb
          exact ⟨hsid, hpid.trans hkey, hnamed⟩
        · exact h.keyed sid x hx
      · rcases sets.cases hx with ⟨rfl, hb⟩ | ⟨-, hx⟩
        · obtain rfl := Option.some.inj hb
          have hqueue := change.queueWF hl (h.queues _ a stored)
          exact hqueue
        · exact h.queues sid x hx
  | create a sessions guard sets =>
      refine ⟨fun sid x hx => ?_, fun sid x hx => ?_⟩
      · rcases sets.cases hx with ⟨rfl, ha⟩ | ⟨-, hx⟩
        · obtain rfl := Option.some.inj ha
          exact ⟨rfl, guard.participantId, guard.named⟩
        · exact h.keyed sid x hx
      · rcases sets.cases hx with ⟨rfl, ha⟩ | ⟨-, hx⟩
        · obtain rfl := Option.some.inj ha
          exact guard.queueWF
        · exact h.queues sid x hx
  | assign a b row envelope sessions _ _ guard sets =>
      obtain ⟨-, hkey, hnamed⟩ := h.keyed _ a guard.stored
      refine ⟨fun sid x hx => ?_, fun sid x hx => ?_⟩
      · rcases sets.cases hx with ⟨rfl, hb⟩ | ⟨-, hx⟩
        · obtain rfl := Option.some.inj hb
          exact ⟨guard.next.sessionId, guard.next.participantId.trans hkey, hnamed⟩
        · exact h.keyed sid x hx
      · rcases sets.cases hx with ⟨rfl, hb⟩ | ⟨-, hx⟩
        · obtain rfl := Option.some.inj hb
          exact (h.queues _ a guard.stored).assign guard.next guard.inflight
        · exact h.queues sid x hx
  | settle a b row row' finished uuids sessions _ _ guard sets =>
      obtain ⟨hsid, hpid, -⟩ := guard.settlement.identity
      obtain ⟨-, hkey, hnamed⟩ := h.keyed _ a guard.stored
      have hundeleted : ∀ e ∈ [finished], e.isDeleted = false := by
        intro e he
        rw [List.mem_singleton.mp he]
        exact guard.kept
      refine ⟨fun sid x hx => ?_, fun sid x hx => ?_⟩
      · rcases sets.cases hx with ⟨rfl, hb⟩ | ⟨-, hx⟩
        · obtain rfl := Option.some.inj hb
          exact ⟨hsid, hpid.trans hkey, hnamed⟩
        · exact h.keyed sid x hx
      · rcases sets.cases hx with ⟨rfl, hb⟩ | ⟨-, hx⟩
        · obtain rfl := Option.some.inj hb
          have hqueue := guard.settlement.queueWF (h.queues _ a guard.stored) guard.active
          exact hqueue.append hl guard.fresh hundeleted
        · exact (h.queues sid x hx).append hl guard.fresh hundeleted
  | shift => exact ⟨h.keyed, h.queues⟩
  | vote => exact ⟨h.keyed, h.queues⟩

end Machine

end AgentsAssemble.Protocol
