import AgentsAssemble.Persistence.Mentions
import AgentsAssemble.System.Scheduling

/-!
# Routing as moves

A published message goes to sessions that are not its author, and it is newer
than everything they hold or have consumed.
-/

namespace AgentsAssemble.System

open Foundation Domain Persistence Protocol Tx

/-! ## Targets -/

section Targets

theorem leastSpoken_mem {speakers : List String} {sessions : List DurableAgentSession}
    {session : DurableAgentSession} (h : leastSpoken speakers sessions = some session) :
    session ∈ sessions := by
  cases sessions with
  | nil => cases h
  | cons first rest =>
      obtain rfl := Option.some.inj h
      clear h
      induction rest generalizing first with
      | nil => exact List.mem_singleton.mpr rfl
      | cons next rest ih =>
          rw [List.foldl_cons]
          rcases List.mem_cons.mp (ih (if speakers.count next.sessionId <
            speakers.count first.sessionId then next else first)) with h | h
          · rw [h]
            split
            · exact List.mem_cons_of_mem _ List.mem_cons_self
            · exact List.mem_cons_self
          · exact List.mem_cons_of_mem _ (List.mem_cons_of_mem _ h)

theorem sampledTarget_ok {s : Store} {settings : RoomSettings} {event : RoomEvent}
    {candidates : List (DurableAgentSession × Participant)} {seed : Nat}
    {targets : List (String × RoomInputDeliveryKind)}
    (h : sampledTarget s settings event candidates seed = .ok targets) :
    ∀ target ∈ targets, ∃ entry ∈ candidates, entry.1.sessionId = target.1 := by
  rw [sampledTarget] at h
  split at h
  · obtain rfl := Except.ok.inj h
    simp
  dsimp only at h
  split at h
  · rename_i session hleast
    obtain rfl := Except.ok.inj h
    intro target htarget
    rw [List.mem_singleton.mp htarget]
    -- The chosen session was sampled from the sorted, filtered candidates.
    obtain ⟨index, -, hindex⟩ := List.mem_filterMap.mp (leastSpoken_mem hleast)
    have hsorted := List.mem_of_getElem? hindex
    rw [List.mem_insertionSort] at hsorted
    obtain ⟨entry, hentry, rfl⟩ := List.mem_map.mp hsorted
    refine ⟨entry, ?_, rfl⟩
    split at hentry
    · exact List.mem_of_mem_filter hentry
    · exact hentry
  · cases h

theorem not_isActor {session : DurableAgentSession} {event : RoomEvent}
    (h : (!isActor session event) = true) : event.actor.participantId ≠ session.sessionId := by
  rw [Bool.not_eq_true', isActor, Bool.or_eq_false_iff] at h
  intro heq
  have hid : (session.sessionId == event.actor.participantId) = true := by
    rw [heq]
    exact beq_self_eq_true _
  rw [h.2] at hid
  cases hid

theorem ambientTargets_mem {event : RoomEvent}
    {sessions : List (DurableAgentSession × Participant)} :
    ∀ target ∈ ambientTargets event sessions, event.actor.participantId ≠ target.1 := by
  intro target htarget
  obtain ⟨entry, hentry, rfl⟩ := List.mem_map.mp htarget
  have hguard := List.of_mem_filter hentry
  rw [Bool.and_eq_true] at hguard
  exact not_isActor hguard.1

variable [TextServices]

/-- A direct target is one of the sessions the mention was looked up among. -/
theorem lastDirectTarget_mem {content : String} {sessions : List DurableAgentSession}
    {target : String} (h : lastDirectTarget content sessions = some target) :
    ∃ session ∈ sessions, session.sessionId = target := by
  obtain ⟨p, first, hlatest, -⟩ := lastDirectTarget_first h
  obtain ⟨session, hsession, hid, -⟩ := hlatest.mention.owned.1
  exact ⟨session, hsession, hid⟩

/-- The floor is never routed to the author of the message. -/
theorem orderedTargets_ok {s : Store} {settings : RoomSettings} {event : RoomEvent}
    {sessions : List (DurableAgentSession × Participant)} {seed : Nat}
    {targets : List (String × RoomInputDeliveryKind)}
    (h : orderedTargets s settings event sessions seed = .ok targets) :
    ∀ target ∈ targets, event.actor.participantId ≠ target.1 := by
  rw [orderedTargets] at h
  have hothers : ∀ entry ∈ sessions.filter (fun entry => !isActor entry.1 event),
      event.actor.participantId ≠ entry.1.sessionId :=
    fun entry hentry => not_isActor (List.mem_filter.mp hentry).2
  dsimp only at h
  split at h
  · rename_i direct hdirect
    have hother : event.actor.participantId ≠ direct := by
      rcases Option.or_eq_some_iff.mp hdirect with hmention | ⟨-, hstructured⟩
      · obtain ⟨session, hsession, rfl⟩ := lastDirectTarget_mem hmention
        obtain ⟨entry, hentry, rfl⟩ := List.mem_map.mp hsession
        exact hothers entry hentry
      · have hany := (Option.filter_eq_some_iff.mp hstructured).2
        obtain ⟨entry, hentry, hid⟩ := List.any_eq_true.mp hany
        rw [← beq_iff_eq.mp hid]
        exact hothers entry hentry
    split at h
    · exact (Result.throw_eq_ok.mp h).elim
    · split at h
      · obtain rfl := Result.pure_eq_ok.mp h
        simp
      · obtain rfl := Result.pure_eq_ok.mp h
        intro target htarget
        rw [List.mem_singleton.mp htarget]
        exact hother
  · -- Every way of narrowing the eligible sessions stays among the others.
    have hsampled : ∀ candidates,
        (∀ entry ∈ candidates, entry ∈ (sessions.filter fun entry =>
          !isActor entry.1 event).filter fun entry => routeSessionIsEligible entry.1 entry.2) →
        sampledTarget s settings event candidates seed = .ok targets →
        ∀ target ∈ targets, event.actor.participantId ≠ target.1 := by
      intro candidates hsub hok target htarget
      obtain ⟨entry, hentry, hid⟩ := sampledTarget_ok hok target htarget
      rw [← hid]
      exact hothers entry (List.mem_of_mem_filter (hsub entry hentry))
    split at h
    · split at h
      · obtain ⟨_, hthrow, -⟩ := Result.bind_eq_ok.mp h
        exact (Result.throw_eq_ok.mp hthrow).elim
      · obtain ⟨candidates, hcandidates, h⟩ := Result.bind_eq_ok.mp h
        obtain rfl := Result.pure_eq_ok.mp hcandidates
        refine hsampled _ (fun entry hentry => ?_) h
        split at hentry
        · exact List.mem_of_mem_filter hentry
        · exact hentry
    · obtain ⟨candidates, hcandidates, h⟩ := Result.bind_eq_ok.mp h
      obtain rfl := Result.pure_eq_ok.mp hcandidates
      exact hsampled _ (fun entry hentry => hentry) h

end Targets

/-! ## Queueing -/

section Queueing

/-- Nothing the sessions hold or have consumed is as new as `seq`. -/
structure Unrouted (c : RoomCore) (seq : Nat) : Prop where
  synced : ∀ sid a, c.sessions.lookup sid = some a → a.lastProviderSyncSeq < seq
  owned : ∀ sid a, c.sessions.lookup sid = some a → ∀ input ∈ a.ownedInputs,
    ∀ e ∈ c.events, e.id = input.eventId → e.seq < seq

variable [UuidSource]

/-- Sessions that only gave inputs up since `seq` was drawn. -/
theorem Unrouted.of_step {c c' : RoomCore} {seq : Nat} (hsound : Sound c)
    (hlog : LogStep c.events c'.events) (hseq : nextSeq c.events ≤ seq)
    (hsessions : ∀ sid b, c'.sessions.lookup sid = some b →
      ∃ a, c.sessions.lookup sid = some a ∧ (∀ input ∈ b.ownedInputs, input ∈ a.ownedInputs) ∧
        (b.lastProviderSyncSeq = a.lastProviderSyncSeq ∨
          ∃ e ∈ c.events, e.seq = b.lastProviderSyncSeq)) : Unrouted c' seq := by
  have hbound : ∀ e ∈ c.events, e.seq < seq := fun e he => (seq_lt_nextSeq he).trans_le hseq
  refine ⟨fun sid b hb => ?_, fun sid b hb input hinput e he hid => ?_⟩
  · obtain ⟨a, ha, -, hsync⟩ := hsessions sid b hb
    rcases hsync with hsync | ⟨e, he, hsync⟩
    · rw [hsync]
      rcases (hsound.sessions.queues sid a ha).cursor with ⟨-, hzero⟩ | ⟨e, he, -, hcursor⟩
      · have hpos : 0 < nextSeq c.events := Nat.succ_pos _
        omega
      · exact hcursor ▸ hbound e he
    · exact hsync ▸ hbound e he
  · obtain ⟨a, ha, howned, -⟩ := hsessions sid b hb
    obtain ⟨d, hd, hdid⟩ := (hsound.sessions.queues sid a ha).known input (howned input hinput)
    rw [(hlog.same d hd e he (hid.trans hdid.symm)).seq]
    exact hbound d hd

/-- What routing needs to know about the published message. -/
structure Routable (c : RoomCore) (event : RoomEvent) : Prop where
  sound : Sound c
  stored : event ∈ c.events
  final : event.eventType = "message_final"
  kept : event.isDeleted = false
  visible : event.messageHasVisiblePayload = .ok true
  above : ∀ sid a, c.sessions.lookup sid = some a → a.lastProviderSyncSeq < event.seq ∧
    ∀ input ∈ a.ownedInputs, input.eventId ≠ event.id →
      ∀ e ∈ c.events, e.id = input.eventId → e.seq < event.seq

omit [UuidSource] in
theorem commits_queueInput {event : RoomEvent} {sid : String} {kind : RoomInputDeliveryKind}
    {s s' : Store} {u : Unit} (h : Commits (queueInput event sid kind) s u s') :
    s' = s ∨ ∃ a, s.sessions.lookup sid = some a ∧ a.sessionId = sid ∧ a.participantId = sid ∧
      (∀ input ∈ a.ownedInputs, input.eventId ≠ event.id) ∧
      a.ownedInputs.length < maxQueuedEventIds ∧
      Commits (saveSession { a with
        pendingInputs := a.pendingInputs ++ [{ eventId := event.id, deliveryKind := kind }] })
        s u s' := by
  simp only [queueInput, commits_bind, commits_loadSession] at h
  obtain ⟨a, _, ⟨ha, hid, hparticipant, rfl⟩, h⟩ := h
  split at h
  · exact Or.inl (commits_pure.mp h).2
  rename_i hnew
  simp only [commits_bind, commits_require] at h
  obtain ⟨_, _, ⟨hlength, rfl⟩, hsave⟩ := h
  refine Or.inr ⟨a, ha, hid, hparticipant, fun input hinput heq => hnew ?_, ?_, hsave⟩
  · refine List.any_eq_true.mpr ⟨input, ?_, beq_iff_eq.mpr heq⟩
    rcases List.mem_append.mp hinput with hin | hin
    · exact List.mem_append_right _ hin
    · exact List.mem_append_left _ hin
  · rw [DurableAgentSession.ownedInputs, List.length_append, Nat.add_comm]
    exact hlength

variable [CaseFold] {P : Permit}

theorem path_queueInput {event : RoomEvent} {sid : String} {kind : RoomInputDeliveryKind}
    {s s' : Store} {u : Unit} (hroutes : P.routes) (hroutable : Routable (coreOf s) event)
    (hother : event.actor.participantId ≠ sid)
    (h : Commits (queueInput event sid kind) s u s') : Path P (coreOf s) (coreOf s') := by
  rcases commits_queueInput h with rfl | ⟨a, ha, hid, hparticipant, hnew, hlength, hsave⟩
  · exact Relation.ReflTransGen.refl
  obtain ⟨hsync, habove⟩ := hroutable.above sid a ha
  refine path_saveSession hsave (hid.symm ▸ ha) (.enqueue event kind hroutes hroutable.stored
    hroutable.final hroutable.kept hroutable.visible ?_ hsync ?_ hlength)
  · rw [hparticipant]
    exact hother
  · intro input hinput e he heq
    exact habove input hinput (hnew input hinput) e he heq

theorem Routable.queueInput {event : RoomEvent} {sid : String} {kind : RoomInputDeliveryKind}
    {s s' : Store} {u : Unit} (hroutes : P.routes) (hroutable : Routable (coreOf s) event)
    (hother : event.actor.participantId ≠ sid)
    (h : Commits (Persistence.queueInput event sid kind) s u s') :
    Routable (coreOf s') event := by
  have hsound := Path.sound hroutable.sound (path_queueInput hroutes hroutable hother h)
  rcases commits_queueInput h with rfl | ⟨a, ha, hid, -, -, -, hsave⟩
  · exact hroutable
  obtain ⟨-, rfl⟩ := commits_saveSession.mp hsave
  refine ⟨hsound, hroutable.stored, hroutable.final, hroutable.kept, hroutable.visible, ?_⟩
  intro other b hb
  rcases (Table.sets_insert s.sessions a.sessionId _).cases hb with ⟨-, hset⟩ | ⟨-, hold⟩
  · obtain rfl := Option.some.inj hset
    obtain ⟨hsync, habove⟩ := hroutable.above sid a ha
    refine ⟨hsync, fun input hinput hne e he heq => ?_⟩
    rw [DurableAgentSession.ownedInputs, ← List.append_assoc] at hinput
    rcases List.mem_append.mp hinput with hinput | hinput
    · exact habove input hinput hne e he heq
    · rw [List.mem_singleton.mp hinput] at hne
      exact absurd rfl hne
  · exact hroutable.above other b hold

variable [TextServices]

theorem path_routeMessage {settings : RoomSettings} {event : RoomEvent} {seed : Nat}
    {s s' : Store} {u : Unit} (hroutes : P.routes) (hsound : Sound (coreOf s))
    (hstored : event ∈ s.events) (hkept : event.isDeleted = false)
    (habove : Unrouted (coreOf s) event.seq)
    (h : Commits (routeMessage settings event seed) s u s') : Path P (coreOf s) (coreOf s') := by
  simp only [routeMessage, commits_bind, commits_ofResult] at h
  obtain ⟨routable, s, ⟨hroutable, rfl⟩, h⟩ := h
  split at h
  · obtain ⟨-, rfl⟩ := commits_pure.mp h
    exact Relation.ReflTransGen.refl
  rename_i hvisible
  rw [isRoutableMessage] at hroutable
  split at hroutable
  swap
  · cases hroutable
    exact absurd rfl hvisible
  rename_i hfinal
  have hstart : Routable (coreOf s) event :=
    ⟨hsound, hstored, hfinal.1, hkept, by simpa [hvisible] using readable_eq_ok.mp hroutable,
      fun sid a ha => ⟨habove.synced sid a ha,
        fun input hinput _ e he hid => habove.owned sid a ha input hinput e he hid⟩⟩
  simp only [commits_bind, commits_loadRoomSessions, commits_read, commits_ofResult,
    commits_pure] at h
  obtain ⟨rows, _, ⟨-, -, rfl⟩, _, _, ⟨rfl, rfl⟩, sessions, _, ⟨-, rfl⟩, _, _, ⟨rfl, rfl⟩,
    targets, _, ⟨htargets, rfl⟩, _, _, hqueued, -, rfl⟩ := h
  have hothers : ∀ target ∈ targets, event.actor.participantId ≠ target.1 := by
    split at htargets
    · exact orderedTargets_ok htargets
    · split at htargets
      · obtain rfl := Except.ok.inj htargets
        exact ambientTargets_mem
      · cases htargets
  refine each_relates (R := fun a b => Path P (coreOf a) (coreOf b))
    (Q := fun target s => Routable (coreOf s) event ∧
      event.actor.participantId ≠ target.1) (D := fun _ _ => True)
    (fun _ => Relation.ReflTransGen.refl) (fun _ _ _ => Relation.ReflTransGen.trans)
    (fun target _ _ _ ht => path_queueInput hroutes ht.1 ht.2) ?_
    (List.pairwise_of_forall fun _ _ => trivial)
    (fun target hmem => ⟨hstart, hothers target hmem⟩) hqueued
  rintro target other _ _ _ - ⟨hroutable, hother⟩ ⟨-, hnext⟩ hrun
  exact ⟨hroutable.queueInput hroutes hother hrun, hnext⟩

end Queueing

end AgentsAssemble.System
