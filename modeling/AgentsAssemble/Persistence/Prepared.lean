import AgentsAssemble.Foundation.Result
import AgentsAssemble.Persistence.Scheduler

/-!
# What a prepared input takes

A prepared input carries a prefix of the pending queue.  The prefix is never
empty, has one delivery kind, and its last message is the source of the turn.
-/

namespace AgentsAssemble.Persistence

open Foundation Domain

/-! ## The queued events -/

/-- The event a queued input refers to, as the scheduler accepts it. -/
structure IsPending (events : List RoomEvent) (session : DurableAgentSession)
    (previousSeq : Nat) (pending : PendingRoomEvent) : Prop where
  found : findEvent events pending.input.eventId = .ok (some pending.event)
  final : pending.event.eventType = "message_final"
  other : pending.event.actor.participantId ≠ session.participantId
  later : previousSeq < pending.event.seq
  visible : readable pending.event.messageHasVisiblePayload = .ok true

theorem IsPending.mono {events : List RoomEvent} {session : DurableAgentSession} {m n : Nat}
    {pending : PendingRoomEvent} (h : IsPending events session n pending) (hle : m ≤ n) :
    IsPending events session m pending :=
  ⟨h.found, h.final, h.other, Nat.lt_of_le_of_lt hle h.later, h.visible⟩

theorem loadPendingEvents_ok {events : List RoomEvent} {session : DurableAgentSession}
    {previousSeq : Nat} {inputs : List QueuedRoomInput} {loaded : List PendingRoomEvent}
    (h : loadPendingEvents events session previousSeq inputs = .ok loaded) :
    loaded.map PendingRoomEvent.input = inputs ∧
      ∀ pending ∈ loaded, IsPending events session previousSeq pending := by
  induction inputs generalizing previousSeq loaded with
  | nil =>
      obtain rfl := Except.ok.inj h
      simp
  | cons input inputs ih =>
      rw [loadPendingEvents] at h
      obtain ⟨found, hfound, h⟩ := Result.bind_eq_ok.mp h
      cases found with
      | none => exact (Result.throw_eq_ok.mp h).elim
      | some event =>
          obtain ⟨visible, hvisible, h⟩ := Result.bind_eq_ok.mp h
          obtain ⟨hok, h⟩ := Result.check_eq_ok.mp h
          simp only [not_or, not_le, Decidable.not_not, Bool.not_eq_false] at hok
          obtain ⟨hfinal, hother, hlater, hvis⟩ := hok
          obtain ⟨rest, hrest, h⟩ := Result.bind_eq_ok.mp h
          obtain rfl := Result.pure_eq_ok.mp h
          obtain ⟨hmap, hall⟩ := ih hrest
          refine ⟨by rw [List.map_cons, hmap], ?_⟩
          intro pending hmem
          rcases List.mem_cons.mp hmem with rfl | hmem
          · exact ⟨hfound, hfinal, hother, hlater, hvis ▸ hvisible⟩
          · exact (hall pending hmem).mono (Nat.le_of_lt hlater)

/-! ## The bounded prefix -/

/-- Whether one turn can carry these events together. -/
structure Fits (room : Room) (session : DurableAgentSession) (roomAgentIds : List String)
    (events : List RoomEvent) : Prop where
  attachments : ∃ ids, RoomEvent.messageAttachmentIdsFromEvents events = .ok ids ∧
    ids.length ≤ maxMessageAttachmentsPerEvent
  view : ∃ view, renderRoomView room session roomAgentIds events = .ok view ∧
    view.toList.length ≤ maxRoomViewCharacters

theorem readable_eq_ok {α : Type} {value : Except MessageStateError α} {a : α} :
    readable value = .ok a ↔ value = .ok a := by
  cases value with
  | ok b => simp [readable]
  | error e => simp [readable]

theorem selectPrefix_ok {room : Room} {session : DurableAgentSession}
    {roomAgentIds : List String} {kind : RoomInputDeliveryKind}
    {selected rest out : List PendingRoomEvent}
    (h : selectPrefix room session roomAgentIds kind selected rest = .ok out) :
    ∃ more, out = selected ++ more ∧ more <+: rest ∧
      (∀ pending ∈ more, pending.input.deliveryKind = kind) ∧
      (more ≠ [] → Fits room session roomAgentIds (out.map PendingRoomEvent.event)) := by
  induction rest generalizing selected with
  | nil =>
      obtain rfl := Except.ok.inj h
      exact ⟨[], by simp, List.nil_prefix, by simp, fun hne => absurd rfl hne⟩
  | cons pending rest ih =>
      have hstop : ∀ {x : List PendingRoomEvent}, selected = x → x = out →
          ∃ more, out = selected ++ more ∧ more <+: pending :: rest ∧
            (∀ p ∈ more, p.input.deliveryKind = kind) ∧
            (more ≠ [] → Fits room session roomAgentIds (out.map PendingRoomEvent.event)) := by
        rintro x rfl rfl
        exact ⟨[], by simp, List.nil_prefix, by simp, fun hne => absurd rfl hne⟩
      rw [selectPrefix] at h
      split at h
      · exact hstop rfl (Except.ok.inj h)
      rename_i hkind
      obtain ⟨ids, hids, h⟩ := Result.bind_eq_ok.mp h
      split at h
      · exact hstop rfl (Result.pure_eq_ok.mp h)
      rename_i hlen
      obtain ⟨view, hview, h⟩ := Result.bind_eq_ok.mp h
      split at h
      · exact hstop rfl (Result.pure_eq_ok.mp h)
      rename_i hfit
      obtain ⟨more, rfl, hmore, hkinds, hfits⟩ := ih h
      have hassoc : selected ++ [pending] ++ more = selected ++ pending :: more := by simp
      refine ⟨pending :: more, hassoc, ?_, ?_, fun _ => ?_⟩
      · exact List.cons_prefix_cons.mpr ⟨rfl, hmore⟩
      · intro p hp
        rcases List.mem_cons.mp hp with rfl | hp
        · exact Decidable.not_not.mp hkind
        · exact hkinds p hp
      · cases more with
        | nil =>
            rw [List.append_nil]
            exact ⟨⟨ids, readable_eq_ok.mp hids, Nat.le_of_not_lt hlen⟩,
              ⟨view, hview, Nat.le_of_not_lt hfit⟩⟩
        | cons p more => exact hfits (List.cons_ne_nil p more)

theorem boundedPendingPrefix_ok {room : Room} {session : DurableAgentSession}
    {roomAgentIds : List String} {pending out : List PendingRoomEvent}
    (h : boundedPendingPrefix room session roomAgentIds pending = .ok out) :
    out ≠ [] ∧ out <+: pending ∧
      (∀ p ∈ out, ∀ q ∈ out, p.input.deliveryKind = q.input.deliveryKind) ∧
      Fits room session roomAgentIds (out.map PendingRoomEvent.event) := by
  cases pending with
  | nil => cases h
  | cons first rest =>
      rw [boundedPendingPrefix] at h
      obtain ⟨selected, hselected, h⟩ := Result.bind_eq_ok.mp h
      obtain ⟨hne, h⟩ := Result.check_eq_ok.mp h
      obtain rfl := Result.pure_eq_ok.mp h
      obtain ⟨more, hout, hmore, hkinds, hfits⟩ := selectPrefix_ok hselected
      rw [List.nil_append] at hout
      subst hout
      exact ⟨hne, hmore.trans (List.take_prefix _ _),
        fun p hp q hq => (hkinds p hp).trans (hkinds q hq).symm, hfits hne⟩

/-! ## The prepared input -/

/-- The messages a prepared input carries, and what it says about them. -/
structure Carries (s : Store) (room : Room) (session : DurableAgentSession)
    (pendingInputs : List QueuedRoomInput) (prepared : PreparedRoomInput)
    (sources : List PendingRoomEvent) : Prop where
  inflight : prepared.inflightInputs = sources.map PendingRoomEvent.input
  nonempty : sources ≠ []
  taken : prepared.inflightInputs <+: pendingInputs
  kinds : ∀ p ∈ sources, ∀ q ∈ sources, p.input.deliveryKind = q.input.deliveryKind
  pending : ∀ p ∈ sources, IsPending s.events session session.lastProviderSyncSeq p
  last : ∃ source, sources.getLast? = some source ∧
    prepared.sourceEventId = source.event.id ∧ prepared.inputUpToSeq = source.event.seq
  attachments : RoomEvent.messageAttachmentIdsFromEvents (sources.map PendingRoomEvent.event) =
    .ok prepared.attachmentIds
  agents : loadRoomAgentIds s session = .ok prepared.roomAgentIds
  view : isRoomObservationView prepared.roomView = true
  input : isProviderInput prepared.providerInput = true

variable [TextServices]

theorem prepareRoomInput_ok {s : Store} {room : Room} {session : DurableAgentSession}
    {pendingInputs : List QueuedRoomInput} {tabletopTools : Bool}
    {prepared : PreparedRoomInput}
    (h : prepareRoomInput s room session pendingInputs tabletopTools = .ok prepared) :
    ∃ sources, Carries s room session pendingInputs prepared sources := by
  rw [prepareRoomInput] at h
  obtain ⟨_, -, h⟩ := Result.bind_eq_ok.mp h
  obtain ⟨roomAgentIds, hagents, h⟩ := Result.bind_eq_ok.mp h
  obtain ⟨loaded, hloaded, h⟩ := Result.bind_eq_ok.mp h
  obtain ⟨sources, hsources, h⟩ := Result.bind_eq_ok.mp h
  obtain ⟨hmap, hpending⟩ := loadPendingEvents_ok hloaded
  obtain ⟨hne, htaken, hkinds, -⟩ := boundedPendingPrefix_ok hsources
  split at h
  swap
  · exact (Result.throw_eq_ok.mp h).elim
  rename_i source first hlast hhead
  obtain ⟨context, -, h⟩ := Result.bind_eq_ok.mp h
  obtain ⟨attachmentIds, hattachments, h⟩ := Result.bind_eq_ok.mp h
  obtain ⟨roomView, -, h⟩ := Result.bind_eq_ok.mp h
  obtain ⟨card, -, h⟩ := Result.bind_eq_ok.mp h
  -- Both ways of finding the persona context end in the same bound check.
  have hbuilt : ∃ input, isRoomObservationView roomView = true ∧
      isProviderInput input = true ∧ prepared =
        { providerInput := input
          roomView
          attachmentIds
          inflightInputs := sources.map PendingRoomEvent.input
          sourceEventId := source.event.id
          inputUpToSeq := source.event.seq
          roomAgentIds } := by
    cases card with
    | none =>
        obtain ⟨personaContext, -, h⟩ := Result.bind_eq_ok.mp h
        obtain ⟨hbounds, h⟩ := Result.check_eq_ok.mp h
        simp only [not_or, Bool.not_eq_false] at hbounds
        exact ⟨_, hbounds.1, hbounds.2, (Result.pure_eq_ok.mp h).symm⟩
    | some card =>
        obtain ⟨recent, -, h⟩ := Result.bind_eq_ok.mp h
        obtain ⟨personaContext, -, h⟩ := Result.bind_eq_ok.mp h
        obtain ⟨hbounds, h⟩ := Result.check_eq_ok.mp h
        simp only [not_or, Bool.not_eq_false] at hbounds
        exact ⟨_, hbounds.1, hbounds.2, (Result.pure_eq_ok.mp h).symm⟩
  obtain ⟨input, hview, hinput, rfl⟩ := hbuilt
  refine ⟨sources, rfl, hne, ?_, hkinds, fun p hp => hpending p (htaken.subset hp),
    ⟨source, hlast, rfl, rfl⟩, readable_eq_ok.mp hattachments, hagents, hview, hinput⟩
  rw [← hmap]
  exact htaken.map _

omit [TextServices] in
/-- A partial map that keeps the key keeps the list of keys, up to dropped rows. -/
theorem map_filterMap_sublist {α β γ : Type} {f : α → Option β} {key : α → γ} {key' : β → γ}
    (h : ∀ a b, f a = some b → key' b = key a) (as : List α) :
    ((as.filterMap f).map key').Sublist (as.map key) := by
  induction as with
  | nil => exact List.Sublist.slnil
  | cons a as ih =>
      cases hf : f a with
      | none =>
          rw [List.filterMap_cons_none hf]
          exact ih.cons _
      | some b =>
          rw [List.filterMap_cons_some hf, List.map_cons, List.map_cons, h a b hf]
          exact ih.cons_cons _

omit [TextServices] in
/-- The handles offered to a turn are distinct sessions of the room. -/
theorem loadRoomAgentIds_ok {s : Store} {session : DurableAgentSession} {ids : List String}
    (h : loadRoomAgentIds s session = .ok ids) :
    ids.length ≤ maxRoomObservationAgentIds ∧ ids.Nodup ∧
      ∀ id ∈ ids, s.sessions.lookup id ≠ none := by
  simp only [loadRoomAgentIds] at h
  split at h
  · cases h
  rename_i hlen
  obtain rfl := Except.ok.inj h
  have hkeys : ((((s.sessions.sorted (· ≤ ·)).filter fun entry =>
      entry.1 ≠ session.sessionId).filterMap fun entry =>
        (s.participants.lookup entry.2.participantId).map fun participant =>
          (entry.1, participant)).map Prod.fst).Sublist
      ((s.sessions.sorted (· ≤ ·)).map Prod.fst) := by
    refine List.Sublist.trans (map_filterMap_sublist ?_ _) (List.filter_sublist.map Prod.fst)
    rintro entry out hout
    obtain ⟨participant, -, rfl⟩ := Option.map_eq_some_iff.mp hout
    rfl
  have hsub := ((List.filter_sublist (p := fun entry : String × Participant =>
    entry.2.status ≠ .kicked && !entry.2.muted)).map Prod.fst).trans hkeys
  refine ⟨?_, (Table.nodup_sorted _ s.sessions).sublist hsub, ?_⟩
  · rw [List.length_map]
    exact (List.length_filter_le _ _).trans (Nat.le_of_not_lt hlen)
  · intro id hid
    obtain ⟨entry, hentry, rfl⟩ := List.mem_map.mp (hsub.subset hid)
    rw [(Table.mem_sorted _).mp (show (entry.1, entry.2) ∈ _ from hentry)]
    simp

end AgentsAssemble.Persistence
