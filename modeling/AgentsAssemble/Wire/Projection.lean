import AgentsAssemble.Wire.RoomEvents

/-!
# What a viewer sees of the room

The projection of one event for a principal, and of every event object that a
command result reaches.  A private vote loses its visibility marker before the
marker is looked at; the theorem of this module says when that shows.
-/

namespace AgentsAssemble.Wire

open Foundation
open Domain (Actor AuthenticatedPrincipal)

def privatePublicKeys : List String :=
  ["absolute_path", "active_source_event_id", "argv", "bridge_handle_id", "bridge_pid",
    "command_configured", "config_path", "credentials", "env", "executable",
    "executable_identity", "file_path", "inflight_event_ids", "inflight_inputs",
    "lifecycle_intent_action", "lifecycle_intent_id", "lifecycle_intent_status", "path",
    "pending_event_ids", "pending_event_observation_kinds", "pending_inputs", "pid",
    "provider_endpoint", "provider_observation_kind", "provider_session_id", "provider_turn_id",
    "reactivation_operation_id", "reported_provider_pid", "resolved_executable",
    "room_publication_digest", "room_publication_proof", "room_publication_turn_id",
    "runtime_handle_id", "runtime_lease_token", "runtime_owner_id", "runtime_profile_key",
    "runtime_profile_version", "stderr_path", "stderr_tail", "stdout_path", "terminal_tail",
    "ticket", "token", "workspace", "workspace_identity", "write_budget_stream_bytes",
    "write_budget_stream_commands", "write_budget_turn_id"]

def isPrivateKey (key : String) : Bool :=
  privatePublicKeys.contains key

def projectValue : Json → Json :=
  Json.dropKeys isPrivateKey

variable {Instant : Type}

def roomEventIsOwnerOnly (event : RoomEvent Instant) : Bool :=
  ["visibility", "audience"].any fun key =>
    (Json.get event.extra key).bind Json.asStr == some "owner"

def eventIsVisibleTo (event : RoomEvent Instant) (principal : AuthenticatedPrincipal) : Bool :=
  let participant := event.participantId.getD ""
  let owner := ((Json.get event.extra "owner_id").bind Json.asStr).getD ""
  [participant, owner].any fun candidate =>
    candidate != "" &&
      (candidate == principal.principalId || candidate == principal.participantId)

def isPrivateVote (event : RoomEvent Instant) : Bool :=
  event.messageKind == some "vote_cast" || event.messageKind == some "vote_withdraw" ||
    event.messageKind == some "vote_close"

/-- Keeps only the public marker of a vote transition. -/
def privacyMinimizedVoteTransition (event : RoomEvent Instant) : RoomEvent Instant :=
  if !isPrivateVote event then event
  else
    { event with
      actor := ⟨"", ""⟩
      participantId := none
      participantType := none
      actorId := none
      actorType := none
      displayName := none
      content := some ""
      extra := event.extra.filter fun m => m.1 == "vote_id" }

/-- The removal of private keys that the projection of an event begins with. -/
def stripPrivate (event : RoomEvent Instant) : RoomEvent Instant :=
  { event with extra := Json.dropMembers isPrivateKey event.extra }

/-- What stands in the room for an event that a viewer may not see. -/
def hiddenEvent (event : RoomEvent Instant) : RoomEvent Instant :=
  { event with
    eventType := "event_hidden"
    actor := ⟨"", ""⟩
    participantId := none
    participantType := none
    actorId := none
    actorType := none
    displayName := none
    content := none
    messageKind := none
    extra := [("visibility", .string "owner")] }

def markOwner (event : RoomEvent Instant) : RoomEvent Instant :=
  { event with
    extra := JsonMap.insert "visibility" (.string "owner")
      (JsonMap.remove "audience" event.extra) }

def publicEventForPrincipal (event : RoomEvent Instant) (principal : AuthenticatedPrincipal) :
    RoomEvent Instant :=
  let projected := privacyMinimizedVoteTransition (stripPrivate event)
  if !roomEventIsOwnerOnly projected || eventIsVisibleTo projected principal then
    if roomEventIsOwnerOnly projected then markOwner projected else projected
  else hiddenEvent projected

/-! ## Events that carry no private key -/

/-- The members carry no private key, at any depth. -/
def Clean (extra : JsonMap) : Prop :=
  ∀ m ∈ extra, isPrivateKey m.1 = false ∧ Json.KeyFree isPrivateKey m.2

theorem Clean.subset {extra extra' : JsonMap} (h : Clean extra) (hsub : extra' ⊆ extra) :
    Clean extra' :=
  fun m hm => h m (hsub hm)

theorem clean_dropMembers (extra : JsonMap) : Clean (Json.dropMembers isPrivateKey extra) :=
  (Json.keyFree_dropKeys isPrivateKey (.object extra)).members

theorem Clean.dropMembers {extra : JsonMap} (h : Clean extra) :
    Json.dropMembers isPrivateKey extra = extra :=
  Json.object.inj (Json.dropKeys_of_free (Json.keyFree_object h))

theorem stripPrivate_of_clean {event : RoomEvent Instant} (h : Clean event.extra) :
    stripPrivate event = event := by
  unfold stripPrivate
  rw [h.dropMembers]

theorem keyFree_string (value : String) : Json.KeyFree isPrivateKey (.string value) := by
  intro members hmembers
  cases hmembers

theorem keyFree_number (value : Number) : Json.KeyFree isPrivateKey (.number value) := by
  intro members hmembers
  cases hmembers

theorem mem_insert {key : String} {value : Json} {map : JsonMap} {m : String × Json}
    (h : m ∈ JsonMap.insert key value map) : m = (key, value) ∨ m ∈ map ∧ m.1 ≠ key := by
  unfold JsonMap.insert at h
  split at h
  · obtain ⟨other, hother, rfl⟩ := List.mem_map.mp h
    split
    · exact .inl rfl
    · next hne => exact .inr ⟨hother, hne⟩
  · next hcontains =>
      rcases List.mem_append.mp h with hmem | h
      · refine .inr ⟨hmem, fun hkey => hcontains ?_⟩
        unfold Json.containsKey
        exact List.any_eq_true.mpr ⟨m, hmem, beq_iff_eq.mpr hkey⟩
      · exact .inl (List.mem_singleton.mp h)

theorem mem_insert_of_ne {key : String} {value : Json} {map : JsonMap} {m : String × Json}
    (hm : m ∈ map) (hne : m.1 ≠ key) : m ∈ JsonMap.insert key value map := by
  unfold JsonMap.insert
  split
  · refine List.mem_map.mpr ⟨m, hm, ?_⟩
    rw [if_neg hne]
  · exact List.mem_append_left _ hm

theorem get_replace (key : String) (value : Json) (map : JsonMap) (key' : String) :
    Json.get (map.map fun m => if m.1 = key then (key, value) else m) key' =
      if key = key' then (Json.get map key').map (fun _ => value) else Json.get map key' := by
  induction map with
  | nil =>
      split <;> rfl
  | cons m map ih =>
      rw [List.map_cons, Json.get_cons, Json.get_cons, ih]
      by_cases hm : m.1 = key
      · rw [if_pos hm, hm]
        split <;> rfl
      · rw [if_neg hm]
        by_cases hkey : key = key'
        · rw [if_pos hkey, if_pos hkey, ← hkey, if_neg hm, if_neg hm]
        · rw [if_neg hkey, if_neg hkey]

theorem get_insert (key : String) (value : Json) (map : JsonMap) (key' : String) :
    Json.get (JsonMap.insert key value map) key' =
      if key = key' then some value else Json.get map key' := by
  unfold JsonMap.insert
  split
  · next hcontains =>
      rw [get_replace]
      split
      · next heq =>
          subst heq
          cases hget : Json.get map key with
          | some other => rfl
          | none => exact absurd hcontains (by rw [Json.containsKey_of_get_none hget]; simp)
      · rfl
  · next hcontains =>
      rw [Json.get_append, Json.get_cons, Json.get_nil]
      split
      · next heq =>
          subst heq
          rw [Json.get_eq_none, Option.none_or]
          rintro m hm rfl
          refine hcontains ?_
          unfold Json.containsKey
          exact List.any_eq_true.mpr ⟨m, hm, beq_self_eq_true m.1⟩
      · exact Option.or_none

/-! ## The four forms of a projected event -/

theorem asStr_projectValue (value : Json) : Json.asStr (projectValue value) = Json.asStr value := by
  cases value <;> rfl

theorem get_stripPrivate {key : String} (hkey : isPrivateKey key = false)
    (event : RoomEvent Instant) :
    (Json.get (stripPrivate event).extra key).bind Json.asStr =
      (Json.get event.extra key).bind Json.asStr := by
  show (Json.get (Json.dropMembers isPrivateKey event.extra) key).bind Json.asStr = _
  rw [Json.get_dropMembers hkey]
  cases Json.get event.extra key with
  | none => rfl
  | some value => exact asStr_projectValue value

@[simp] theorem ownerOnly_stripPrivate (event : RoomEvent Instant) :
    roomEventIsOwnerOnly (stripPrivate event) = roomEventIsOwnerOnly event := by
  unfold roomEventIsOwnerOnly
  simp only [List.any_cons, List.any_nil]
  rw [get_stripPrivate (by decide), get_stripPrivate (by decide)]

@[simp] theorem visible_stripPrivate (event : RoomEvent Instant)
    (principal : AuthenticatedPrincipal) :
    eventIsVisibleTo (stripPrivate event) principal = eventIsVisibleTo event principal := by
  unfold eventIsVisibleTo
  rw [get_stripPrivate (by decide)]
  rfl

@[simp] theorem visible_markOwner (event : RoomEvent Instant)
    (principal : AuthenticatedPrincipal) :
    eventIsVisibleTo (markOwner event) principal = eventIsVisibleTo event principal := by
  unfold eventIsVisibleTo markOwner JsonMap.remove
  dsimp only
  rw [get_insert, if_neg (by decide), Json.get_filter (p := fun key => key != "audience") (by decide)]

@[simp] theorem privateVote_stripPrivate (event : RoomEvent Instant) :
    isPrivateVote (stripPrivate event) = isPrivateVote event :=
  rfl

theorem minimized_of_vote {event : RoomEvent Instant} (h : isPrivateVote event = true) :
    privacyMinimizedVoteTransition event =
      { event with
        actor := ⟨"", ""⟩
        participantId := none
        participantType := none
        actorId := none
        actorType := none
        displayName := none
        content := some ""
        extra := event.extra.filter fun m => m.1 == "vote_id" } := by
  unfold privacyMinimizedVoteTransition
  rw [h]
  rfl

theorem minimized_of_other {event : RoomEvent Instant} (h : isPrivateVote event = false) :
    privacyMinimizedVoteTransition event = event := by
  unfold privacyMinimizedVoteTransition
  rw [h]
  rfl

/-- The marker does not survive the minimisation, whoever the event was restricted to. -/
theorem ownerOnly_minimized {event : RoomEvent Instant} (h : isPrivateVote event = true) :
    roomEventIsOwnerOnly (privacyMinimizedVoteTransition event) = false := by
  have hget : ∀ key, key ≠ "vote_id" →
      Json.get (event.extra.filter fun m => m.1 == "vote_id") key = none := by
    intro key hkey
    refine Json.get_eq_none fun m hm heq => hkey ?_
    rw [← heq]
    exact beq_iff_eq.mp (List.mem_filter.mp hm).2
  rw [minimized_of_vote h]
  unfold roomEventIsOwnerOnly
  simp only [List.any_cons, List.any_nil]
  rw [hget "visibility" (by decide), hget "audience" (by decide)]
  rfl

variable {event : RoomEvent Instant} {principal : AuthenticatedPrincipal}

theorem public_vote (h : isPrivateVote event = true) :
    publicEventForPrincipal event principal =
      privacyMinimizedVoteTransition (stripPrivate event) := by
  unfold publicEventForPrincipal
  dsimp only
  rw [ownerOnly_minimized (show isPrivateVote (stripPrivate event) = true from h)]
  rfl

theorem public_open (h : isPrivateVote event = false) (howner : roomEventIsOwnerOnly event = false) :
    publicEventForPrincipal event principal = stripPrivate event := by
  unfold publicEventForPrincipal
  dsimp only
  rw [minimized_of_other (show isPrivateVote (stripPrivate event) = false from h), ownerOnly_stripPrivate, howner]
  rfl

theorem public_owner (h : isPrivateVote event = false) (howner : roomEventIsOwnerOnly event = true)
    (hvisible : eventIsVisibleTo event principal = true) :
    publicEventForPrincipal event principal = markOwner (stripPrivate event) := by
  unfold publicEventForPrincipal
  dsimp only
  rw [minimized_of_other (show isPrivateVote (stripPrivate event) = false from h), ownerOnly_stripPrivate, howner,
    visible_stripPrivate, hvisible]
  rfl

theorem public_hidden (h : isPrivateVote event = false) (howner : roomEventIsOwnerOnly event = true)
    (hvisible : eventIsVisibleTo event principal = false) :
    publicEventForPrincipal event principal = hiddenEvent event := by
  unfold publicEventForPrincipal
  dsimp only
  rw [minimized_of_other (show isPrivateVote (stripPrivate event) = false from h), ownerOnly_stripPrivate, howner,
    visible_stripPrivate, hvisible]
  rfl

/-- An open member that the projection for the principal keeps. -/
structure Retains (event : RoomEvent Instant) (principal : AuthenticatedPrincipal)
    (m : String × Json) : Prop where
  mem : m ∈ event.extra
  shown : isPrivateKey m.1 = false
  vote : isPrivateVote event = true → m.1 = "vote_id"
  owner : isPrivateVote event = false → roomEventIsOwnerOnly event = true →
    eventIsVisibleTo event principal = true ∧ m.1 ≠ "audience" ∧ m.1 ≠ "visibility"

theorem mem_stripPrivate {m : String × Json} :
    m ∈ (stripPrivate event).extra ↔
      ∃ value, (m.1, value) ∈ event.extra ∧ isPrivateKey m.1 = false ∧ m.2 = projectValue value := by
  show m ∈ Json.dropMembers isPrivateKey event.extra ↔ _
  constructor
  · intro h
    obtain ⟨hkey, value, hmem, hvalue⟩ := Json.mem_dropMembers h
    exact ⟨value, hmem, hkey, hvalue⟩
  · rintro ⟨value, hmem, hkey, hvalue⟩
    rw [Json.dropMembers_eq]
    refine List.mem_map.mpr ⟨(m.1, value), List.mem_filter.mpr ⟨hmem, ?_⟩, ?_⟩
    · simpa using hkey
    · show (m.1, projectValue value) = m
      rw [← hvalue]

/-- A member of the projected event is the marker, or what is left of a retained member. -/
theorem mem_public {m : String × Json} (h : m ∈ (publicEventForPrincipal event principal).extra) :
    m = ("visibility", .string "owner") ∨
      ∃ value, Retains event principal (m.1, value) ∧ m.2 = projectValue value := by
  by_cases hvote : isPrivateVote event = true
  · rw [public_vote hvote, minimized_of_vote (show isPrivateVote (stripPrivate event) = true from hvote)] at h
    obtain ⟨hmem, hkey⟩ := List.mem_filter.mp h
    obtain ⟨value, hmem, hshown, hvalue⟩ := mem_stripPrivate.mp hmem
    exact .inr ⟨value, ⟨hmem, hshown, fun _ => beq_iff_eq.mp hkey,
      fun hother => absurd hvote (by rw [hother]; decide)⟩, hvalue⟩
  rw [Bool.not_eq_true] at hvote
  by_cases howner : roomEventIsOwnerOnly event = true
  · by_cases hvisible : eventIsVisibleTo event principal = true
    · rw [public_owner hvote howner hvisible] at h
      rcases mem_insert h with rfl | ⟨hmem, hne⟩
      · exact .inl rfl
      · obtain ⟨hmem, haudience⟩ := List.mem_filter.mp hmem
        obtain ⟨value, hmem, hshown, hvalue⟩ := mem_stripPrivate.mp hmem
        exact .inr ⟨value, ⟨hmem, hshown, fun hother => absurd hother (by rw [hvote]; decide),
          fun _ _ => ⟨hvisible, by simpa using haudience, hne⟩⟩, hvalue⟩
    · rw [public_hidden hvote howner (by simpa using hvisible)] at h
      exact .inl (List.mem_singleton.mp h)
  · rw [Bool.not_eq_true] at howner
    rw [public_open hvote howner] at h
    obtain ⟨value, hmem, hshown, hvalue⟩ := mem_stripPrivate.mp h
    exact .inr ⟨value, ⟨hmem, hshown, fun hother => absurd hother (by rw [hvote]; decide),
      fun _ hother => absurd hother (by rw [howner]; decide)⟩, hvalue⟩

theorem mem_public_of_retains {m : String × Json} (h : Retains event principal m) :
    (m.1, projectValue m.2) ∈ (publicEventForPrincipal event principal).extra := by
  have hmem : (m.1, projectValue m.2) ∈ (stripPrivate event).extra :=
    mem_stripPrivate.mpr ⟨m.2, h.mem, h.shown, rfl⟩
  by_cases hvote : isPrivateVote event = true
  · rw [public_vote hvote, minimized_of_vote (show isPrivateVote (stripPrivate event) = true from hvote)]
    exact List.mem_filter.mpr ⟨hmem, beq_iff_eq.mpr (h.vote hvote)⟩
  rw [Bool.not_eq_true] at hvote
  by_cases howner : roomEventIsOwnerOnly event = true
  · obtain ⟨hvisible, haudience, hne⟩ := h.owner hvote howner
    rw [public_owner hvote howner hvisible]
    refine mem_insert_of_ne (List.mem_filter.mpr ⟨hmem, ?_⟩) hne
    simpa using haudience
  · rw [public_open hvote (by simpa using howner)]
    exact hmem

theorem clean_public : Clean (publicEventForPrincipal event principal).extra := by
  intro m hm
  rcases mem_public hm with rfl | ⟨value, hretains, hvalue⟩
  · exact ⟨by decide, keyFree_string "owner"⟩
  · refine ⟨hretains.shown, ?_⟩
    rw [hvalue]
    exact Json.keyFree_dropKeys isPrivateKey value

theorem open_public (h : Open event) : Open (publicEventForPrincipal event principal) := by
  intro m hm
  rcases mem_public hm with rfl | ⟨value, hretains, -⟩
  · decide
  · exact h (m.1, value) hretains.mem

/-- The projection keeps what the room orders its events by. -/
theorem cursor_public :
    (publicEventForPrincipal event principal).id = event.id ∧
      (publicEventForPrincipal event principal).seq = event.seq ∧
      (publicEventForPrincipal event principal).roomId = event.roomId := by
  unfold publicEventForPrincipal privacyMinimizedVoteTransition
  dsimp only
  split <;> split <;> try split
  all_goals exact ⟨rfl, rfl, rfl⟩

/-! ## A projected event is its own projection -/

theorem insert_eq_self {key : String} {value : Json} {map : JsonMap}
    (hget : Json.get map key = some value) (h : ∀ m ∈ map, m.1 = key → m.2 = value) :
    JsonMap.insert key value map = map := by
  have hcontains : Json.containsKey map key = true := by
    unfold Json.containsKey
    exact List.any_eq_true.mpr ⟨_, Json.mem_of_get hget, beq_self_eq_true key⟩
  unfold JsonMap.insert
  rw [if_pos hcontains]
  refine (List.map_congr_left fun m hm => ?_).trans (List.map_id _)
  split
  · next hkey =>
      rw [← hkey, ← h m hm hkey]
      rfl
  · rfl

/-- A private vote of which nothing is left but its marker. -/
structure Minimized (event : RoomEvent Instant) : Prop where
  actor : event.actor = ⟨"", ""⟩
  participantId : event.participantId = none
  participantType : event.participantType = none
  actorId : event.actorId = none
  actorType : event.actorType = none
  displayName : event.displayName = none
  content : event.content = some ""
  extra : ∀ m ∈ event.extra, m.1 = "vote_id"

/-- An event of which nothing is left but its place in the room. -/
structure Hidden (event : RoomEvent Instant) : Prop where
  eventType : event.eventType = "event_hidden"
  actor : event.actor = ⟨"", ""⟩
  participantId : event.participantId = none
  participantType : event.participantType = none
  actorId : event.actorId = none
  actorType : event.actorType = none
  displayName : event.displayName = none
  content : event.content = none
  messageKind : event.messageKind = none
  extra : event.extra = [("visibility", .string "owner")]

/-- The canonical marker of an event restricted to its owner. -/
def OwnerMarked (event : RoomEvent Instant) : Prop :=
  ∀ m ∈ event.extra, m.1 ≠ "audience" ∧ (m.1 = "visibility" → m.2 = .string "owner")

/-- An event without private keys has the form in which the principal may see it. -/
structure PublicForm (event : RoomEvent Instant) (principal : AuthenticatedPrincipal) : Prop where
  vote : isPrivateVote event = true → Minimized event
  owner : isPrivateVote event = false → roomEventIsOwnerOnly event = true →
    eventIsVisibleTo event principal = true → OwnerMarked event
  hidden : isPrivateVote event = false → roomEventIsOwnerOnly event = true →
    eventIsVisibleTo event principal = false → Hidden event

theorem minimized_iff (h : isPrivateVote event = true) :
    privacyMinimizedVoteTransition event = event ↔ Minimized event := by
  rw [minimized_of_vote h]
  constructor
  · intro heq
    have hextra := congrArg RoomEvent.extra heq
    refine ⟨(congrArg RoomEvent.actor heq).symm, (congrArg RoomEvent.participantId heq).symm,
      (congrArg RoomEvent.participantType heq).symm, (congrArg RoomEvent.actorId heq).symm,
      (congrArg RoomEvent.actorType heq).symm, (congrArg RoomEvent.displayName heq).symm,
      (congrArg RoomEvent.content heq).symm, fun m hm => ?_⟩
    exact beq_iff_eq.mp (List.filter_eq_self.mp hextra m hm)
  · intro hform
    ext1
    case actor => exact hform.actor.symm
    case participantId => exact hform.participantId.symm
    case participantType => exact hform.participantType.symm
    case actorId => exact hform.actorId.symm
    case actorType => exact hform.actorType.symm
    case displayName => exact hform.displayName.symm
    case content => exact hform.content.symm
    case extra => exact List.filter_eq_self.mpr fun m hm => beq_iff_eq.mpr (hform.extra m hm)
    all_goals rfl

theorem hidden_iff : hiddenEvent event = event ↔ Hidden event := by
  constructor
  · intro heq
    rw [← heq]
    exact ⟨rfl, rfl, rfl, rfl, rfl, rfl, rfl, rfl, rfl, rfl⟩
  · intro hform
    ext1
    case eventType => exact hform.eventType.symm
    case actor => exact hform.actor.symm
    case participantId => exact hform.participantId.symm
    case participantType => exact hform.participantType.symm
    case actorId => exact hform.actorId.symm
    case actorType => exact hform.actorType.symm
    case displayName => exact hform.displayName.symm
    case content => exact hform.content.symm
    case messageKind => exact hform.messageKind.symm
    case extra => exact hform.extra.symm
    all_goals rfl

theorem markOwner_iff (howner : roomEventIsOwnerOnly event = true) :
    markOwner event = event ↔ OwnerMarked event := by
  constructor
  · intro heq m hm
    have hmem : m ∈ (markOwner event).extra := by
      rw [heq]
      exact hm
    rcases mem_insert hmem with rfl | ⟨hkept, hne⟩
    · exact ⟨by decide, fun _ => rfl⟩
    · refine ⟨?_, fun hkey => absurd hkey hne⟩
      simpa using (List.mem_filter.mp hkept).2
  · intro hform
    have haudience : Json.get event.extra "audience" = none :=
      Json.get_eq_none fun m hm => (hform m hm).1
    have hvisibility : Json.get event.extra "visibility" = some (.string "owner") := by
      unfold roomEventIsOwnerOnly at howner
      simp only [List.any_cons, List.any_nil, haudience, Option.bind_none, Bool.or_false] at howner
      have hstr := beq_iff_eq.mp ((Bool.or_eq_true _ _).mp howner |>.resolve_right (by decide))
      obtain ⟨value, hget, -⟩ := Option.bind_eq_some_iff.mp hstr
      have hvalue : value = .string "owner" := (hform _ (Json.mem_of_get hget)).2 rfl
      rw [hget, hvalue]
    unfold markOwner
    have hremove : JsonMap.remove "audience" event.extra = event.extra :=
      List.filter_eq_self.mpr fun m hm => by simpa using (hform m hm).1
    rw [hremove, insert_eq_self hvisibility fun m hm => (hform m hm).2]

theorem publicForm_iff (h : Clean event.extra) :
    publicEventForPrincipal event principal = event ↔ PublicForm event principal := by
  have hstrip := stripPrivate_of_clean h
  constructor
  · intro heq
    constructor
    · intro hvote
      rw [public_vote hvote, hstrip] at heq
      exact (minimized_iff hvote).mp heq
    · intro hvote howner hvisible
      rw [public_owner hvote howner hvisible, hstrip] at heq
      exact (markOwner_iff howner).mp heq
    · intro hvote howner hvisible
      rw [public_hidden hvote howner hvisible] at heq
      exact hidden_iff.mp heq
  · intro hform
    cases hvote : isPrivateVote event with
    | true => rw [public_vote hvote, hstrip, (minimized_iff hvote).mpr (hform.vote hvote)]
    | false =>
        cases howner : roomEventIsOwnerOnly event with
        | false => rw [public_open hvote howner, hstrip]
        | true =>
            cases hvisible : eventIsVisibleTo event principal with
            | true =>
                rw [public_owner hvote howner hvisible, hstrip]
                exact (markOwner_iff howner).mpr (hform.owner hvote howner hvisible)
            | false =>
                rw [public_hidden hvote howner hvisible]
                exact hidden_iff.mpr (hform.hidden hvote howner hvisible)

theorem publicForm_public : PublicForm (publicEventForPrincipal event principal) principal := by
  cases hvote : isPrivateVote event with
  | true =>
      rw [public_vote hvote]
      have hminimized : isPrivateVote (privacyMinimizedVoteTransition (stripPrivate event)) = true := by
        rw [minimized_of_vote (show isPrivateVote (stripPrivate event) = true from hvote)]
        exact hvote
      have hmarker := ownerOnly_minimized (show isPrivateVote (stripPrivate event) = true from hvote)
      refine ⟨fun _ => ?_, fun hother => absurd hminimized (by rw [hother]; decide),
        fun hother => absurd hminimized (by rw [hother]; decide)⟩
      rw [minimized_of_vote (show isPrivateVote (stripPrivate event) = true from hvote)]
      exact ⟨rfl, rfl, rfl, rfl, rfl, rfl, rfl,
        fun m hm => beq_iff_eq.mp (List.mem_filter.mp hm).2⟩
  | false =>
      cases howner : roomEventIsOwnerOnly event with
      | false =>
          rw [public_open hvote howner]
          have hother : isPrivateVote (stripPrivate event) = false := hvote
          constructor
          all_goals simp [hother, howner]
      | true =>
          cases hvisible : eventIsVisibleTo event principal with
          | true =>
              rw [public_owner hvote howner hvisible]
              have hother : isPrivateVote (markOwner (stripPrivate event)) = false := hvote
              have hseen : eventIsVisibleTo (markOwner (stripPrivate event)) principal = true := by
                simp [hvisible]
              refine ⟨fun h => absurd h (by rw [hother]; decide), fun _ _ _ m hm => ?_,
                fun _ _ h => absurd h (by rw [hseen]; decide)⟩
              rcases mem_insert hm with rfl | ⟨hkept, hne⟩
              · exact ⟨by decide, fun _ => rfl⟩
              · refine ⟨?_, fun hkey => absurd hkey hne⟩
                simpa using (List.mem_filter.mp hkept).2
          | false =>
              rw [public_hidden hvote howner hvisible]
              refine ⟨nofun, fun _ _ hseen => ?_, fun _ _ _ => hidden_iff.mp rfl⟩
              exact absurd hseen (by simp [eventIsVisibleTo, hiddenEvent, Json.get_cons, Json.get_nil])

/-- A projected event is its own projection. -/
theorem public_public :
    publicEventForPrincipal (publicEventForPrincipal event principal) principal =
      publicEventForPrincipal event principal :=
  (publicForm_iff clean_public).mpr publicForm_public

end AgentsAssemble.Wire
