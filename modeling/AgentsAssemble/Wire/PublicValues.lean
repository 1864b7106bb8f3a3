import AgentsAssemble.Wire.Projection

/-!
# Command results as a viewer sees them

An object that reads as an event is replaced by the encoding of its projection;
the traversal does not enter what such an event carries.
-/

namespace AgentsAssemble.Wire

open Foundation
open Domain (Actor AuthenticatedPrincipal)

variable {Instant : Type}

mutual

/-- The encoding of an event never fails, so no error comes back.  Only an object is read as
an event. -/
def publicValueForPrincipal (text : InstantText Instant) (principal : AuthenticatedPrincipal) :
    Json → Json
  | .array items => .array (publicItems text principal items)
  | .object members =>
      match decodeEvent text (.object members) with
      | some event => encodeEvent text (publicEventForPrincipal event principal)
      | none => .object (publicMembers text principal members)
  | value => value

def publicItems (text : InstantText Instant) (principal : AuthenticatedPrincipal) :
    List Json → List Json
  | [] => []
  | item :: items =>
      publicValueForPrincipal text principal item :: publicItems text principal items

def publicMembers (text : InstantText Instant) (principal : AuthenticatedPrincipal) :
    JsonMap → JsonMap
  | [] => []
  | (key, value) :: members =>
      if isPrivateKey key then publicMembers text principal members
      else (key, publicValueForPrincipal text principal value) ::
        publicMembers text principal members

end

section

variable {text : InstantText Instant} {principal : AuthenticatedPrincipal}

theorem publicItems_eq (items : List Json) :
    publicItems text principal items = items.map (publicValueForPrincipal text principal) := by
  induction items with
  | nil => rfl
  | cons item items ih => rw [publicItems, ih, List.map_cons]

theorem publicMembers_eq (members : JsonMap) :
    publicMembers text principal members =
      (members.filter fun m => !isPrivateKey m.1).map fun m =>
        (m.1, publicValueForPrincipal text principal m.2) := by
  induction members with
  | nil => rfl
  | cons m members ih =>
      obtain ⟨key, value⟩ := m
      rw [publicMembers]
      by_cases hkey : isPrivateKey key = true
      · rw [if_pos hkey, ih, List.filter_cons_of_neg (by simp [hkey])]
      · rw [if_neg hkey, ih, List.filter_cons_of_pos (by simp [hkey]), List.map_cons]

theorem mem_publicMembers {members : JsonMap} {m : String × Json}
    (h : m ∈ publicMembers text principal members) :
    isPrivateKey m.1 = false ∧
      ∃ value, (m.1, value) ∈ members ∧ m.2 = publicValueForPrincipal text principal value := by
  rw [publicMembers_eq] at h
  obtain ⟨⟨key, value⟩, hmem, rfl⟩ := List.mem_map.mp h
  obtain ⟨hmem, hkey⟩ := List.mem_filter.mp hmem
  exact ⟨by simpa using hkey, value, hmem, rfl⟩

theorem get_publicMembers {key : String} (hkey : isPrivateKey key = false) (members : JsonMap) :
    Json.get (publicMembers text principal members) key =
      (Json.get members key).map (publicValueForPrincipal text principal) := by
  rw [publicMembers_eq, Json.get_map, Json.get_filter (p := fun key => !isPrivateKey key)]
  rw [hkey]
  rfl

theorem publicValue_event {members : JsonMap} {event : RoomEvent Instant}
    (h : decodeEvent text (.object members) = some event) :
    publicValueForPrincipal text principal (.object members) =
      encodeEvent text (publicEventForPrincipal event principal) := by
  rw [publicValueForPrincipal, h]

theorem publicValue_other {members : JsonMap} (h : decodeEvent text (.object members) = none) :
    publicValueForPrincipal text principal (.object members) =
      .object (publicMembers text principal members) := by
  rw [publicValueForPrincipal, h]

/-! ## What an encoded event carries -/

/-- The value of a named member. -/
inductive Scalar : Json → Prop
  | string (value : String) : Scalar (.string value)
  | number (value : Number) : Scalar (.number value)
  | actor (actor : Actor) : Scalar (encodeActor actor)

theorem scalar_encodeI64 (value : Int64) : Scalar (encodeI64 value) := by
  unfold encodeI64
  split
  · exact .number _
  · exact .number _

theorem scalar_encodeOptional {key : String} {value : Option String} {m : String × Json}
    (h : m ∈ encodeOptional key value) : Scalar m.2 := by
  unfold encodeOptional at h
  obtain ⟨text, -, rfl⟩ := Option.map_eq_some_iff.mp (Option.mem_toList.mp h)
  exact .string text

theorem scalar_namedMembers {event : RoomEvent Instant} {m : String × Json}
    (h : m ∈ namedMembers text event) : Scalar m.2 := by
  unfold namedMembers at h
  rcases List.mem_append.mp h with hrequired | hoptional
  · simp only [List.mem_cons, List.not_mem_nil, or_false] at hrequired
    rcases hrequired with rfl | rfl | rfl | rfl | rfl | rfl | rfl
    · exact .number _
    · exact .string _
    · exact scalar_encodeI64 _
    · exact .string _
    · exact .string _
    · exact .string _
    · exact .actor _
  · simp only [List.mem_append] at hoptional
    rcases hoptional with (((((h | h) | h) | h) | h) | h) | h <;> exact scalar_encodeOptional h

theorem named_shown : ∀ key ∈ namedKeys, isPrivateKey key = false := by
  decide

theorem Scalar.keyFree {value : Json} (h : Scalar value) : Json.KeyFree isPrivateKey value := by
  cases h with
  | string value => exact keyFree_string value
  | number value => exact keyFree_number value
  | actor actor =>
      refine Json.keyFree_object fun m hm => ?_
      rcases List.mem_cons.mp hm with rfl | hm
      · exact ⟨named_shown "participant_id" (by decide), keyFree_string _⟩
      · obtain rfl := List.mem_singleton.mp hm
        exact ⟨named_shown "participant_type" (by decide), keyFree_string _⟩

theorem decode_actor (actor : Actor) : decodeEvent text (encodeActor actor) = none :=
  rfl

/-- No event object stands in a named member. -/
theorem Scalar.no_event {value w : Json} {event : RoomEvent Instant} (h : Scalar value)
    (hw : Json.Nested w value) : decodeEvent text w ≠ some event := by
  intro hdecode
  cases h with
  | string value =>
      cases hw
      exact nomatch hdecode
  | number value =>
      cases hw
      exact nomatch hdecode
  | actor actor =>
      cases hw with
      | here =>
          rw [decode_actor] at hdecode
          exact nomatch hdecode
      | member hmem hnested =>
          rcases List.mem_cons.mp hmem with rfl | hmem
          · cases hnested
            exact nomatch hdecode
          · obtain rfl := List.mem_singleton.mp hmem
            cases hnested
            exact nomatch hdecode

theorem keyFree_encodeEvent {event : RoomEvent Instant} (h : Clean event.extra) :
    Json.KeyFree isPrivateKey (encodeEvent text event) := by
  refine Json.keyFree_object fun m hm => ?_
  rcases List.mem_append.mp hm with hm | hm
  · have hnamed := (List.mem_filter.mp hm).1
    exact ⟨named_shown m.1 (mem_namedMembers hnamed), (scalar_namedMembers hnamed).keyFree⟩
  · exact h m hm

theorem nested_encodeEvent {event e : RoomEvent Instant} {w : Json} (hopen : Open event)
    (hw : decodeEvent text w = some e) :
    Json.Nested w (encodeEvent text event) ↔
      w = encodeEvent text event ∨ ∃ m ∈ event.extra, Json.Nested w m.2 := by
  rw [encodeEvent_open hopen]
  constructor
  · intro h
    cases h with
    | here => exact .inl rfl
    | member hmem hnested =>
        rcases List.mem_append.mp hmem with hnamed | hextra
        · exact absurd hw ((scalar_namedMembers hnamed).no_event hnested)
        · exact .inr ⟨_, hextra, hnested⟩
  · rintro (rfl | ⟨m, hm, hnested⟩)
    · exact .here
    · exact .member (List.mem_append_right _ hm) hnested

theorem decodeEvent_open {value : Json} {event : RoomEvent Instant}
    (h : decodeEvent text value = some event) : Open event := by
  cases value with
  | object members => exact (decodeEvent_iff.mp h).isOpen
  | null | bool | number | string | array => exact nomatch h

/-! ## What is no event stays none -/

theorem publicValue_object (text : InstantText Instant) (principal : AuthenticatedPrincipal)
    (members : JsonMap) :
    ∃ members', publicValueForPrincipal text principal (.object members) = .object members' := by
  cases h : decodeEvent text (.object members) with
  | none => exact ⟨_, publicValue_other h⟩
  | some event => exact ⟨_, publicValue_event h⟩

/-- A reader that takes neither objects nor arrays reads the same after the projection. -/
theorem read_public {α : Type} {read : Json → Option α} (harray : ∀ items, read (.array items) = none)
    (hobject : ∀ members, read (.object members) = none) (value : Json) :
    read (publicValueForPrincipal text principal value) = read value := by
  cases value with
  | object members =>
      obtain ⟨members', h⟩ := publicValue_object text principal members
      rw [h, hobject, hobject]
  | array items =>
      show read (.array (publicItems text principal items)) = _
      rw [harray, harray]
  | null | bool | number | string => rfl

theorem bind_publicMembers {α : Type} {read : Json → Option α}
    (harray : ∀ items, read (.array items) = none) (hobject : ∀ members, read (.object members) = none)
    {key : String} (hkey : key ∈ namedKeys) (members : JsonMap) :
    (Json.get (publicMembers text principal members) key).bind read =
      (Json.get members key).bind read := by
  rw [get_publicMembers (named_shown key hkey)]
  cases Json.get members key with
  | none => rfl
  | some value => exact read_public harray hobject value

theorem decodeOptional_public {key : String} (hkey : key ∈ namedKeys) (members : JsonMap) :
    decodeOptional (publicMembers text principal members) key = decodeOptional members key := by
  unfold decodeOptional
  rw [get_publicMembers (named_shown key hkey)]
  cases Json.get members key with
  | none => rfl
  | some value =>
      cases value with
      | object members' =>
          obtain ⟨members'', h⟩ := publicValue_object text principal members'
          rw [Option.map_some, h]
      | null | bool | number | string | array => rfl

/-- The identity in a projected event stood in the event. -/
theorem identity_public {event : RoomEvent Instant} :
    (∀ id, (publicEventForPrincipal event principal).participantId = some id →
      event.participantId = some id) ∧
    ∀ type, (publicEventForPrincipal event principal).participantType = some type →
      event.participantType = some type := by
  unfold publicEventForPrincipal privacyMinimizedVoteTransition
  dsimp only
  split <;> split <;> try split
  all_goals
    refine ⟨fun _ h => ?_, fun _ h => ?_⟩
    all_goals first
      | exact h
      | cases h

theorem get_optional {members : JsonMap} {key value : String}
    (h : decodeOptional members key = some (some value)) :
    (Json.get members key).bind Json.asStr = some value := by
  unfold decodeOptional at h
  split at h
  · exact nomatch h
  · exact nomatch h
  · next hget =>
      rw [hget]
      exact congrArg some (Option.some.inj (Option.some.inj h))
  · exact nomatch h

theorem decodeActor_members {members : JsonMap} {participantId participantType : String}
    (hid : (Json.get members "participant_id").bind Json.asStr = some participantId)
    (htype : (Json.get members "participant_type").bind Json.asStr = some participantType) :
    decodeActor (.object members) = some ⟨participantId, participantType⟩ := by
  unfold decodeActor
  dsimp only
  rw [hid, htype]
  rfl

theorem decodeActor_object {members : JsonMap} {actor : Actor}
    (h : decodeActor (.object members) = some actor) :
    (Json.get members "participant_id").bind Json.asStr = some actor.participantId ∧
      (Json.get members "participant_type").bind Json.asStr = some actor.participantType := by
  unfold decodeActor at h
  obtain ⟨participantId, hid, h⟩ := Option.bind_eq_some_iff.mp h
  obtain ⟨participantType, htype, h⟩ := Option.bind_eq_some_iff.mp h
  obtain rfl := Option.some.inj h
  exact ⟨hid, htype⟩

theorem get_encoded {event : RoomEvent Instant} (hopen : Open event) {key value : String}
    {field : Option String} (hkey : key ∈ namedKeys)
    (hfield : Json.get (namedMembers text event) key = field.map .string)
    (h : (Json.get (namedMembers text event ++ event.extra) key).bind Json.asStr = some value) :
    field = some value := by
  rw [get_named hopen hkey, hfield] at h
  cases field with
  | none => exact nomatch h
  | some other => exact h

theorem string_public {value : Json} {s : String}
    (h : publicValueForPrincipal text principal value = .string s) : value = .string s := by
  have hstr : Json.asStr value = some s := by
    have hread : Json.asStr (publicValueForPrincipal text principal value) = Json.asStr value :=
      read_public (fun _ => rfl) (fun _ => rfl) value
    rw [← hread, h]
    rfl
  cases value with
  | string other => rw [Option.some.inj hstr]
  | null | bool | number | array | object => exact nomatch hstr

/-- The actor of an event may itself be an event object; its identity was there before. -/
theorem decodeActor_public {value : Json} {actor : Actor}
    (h : decodeActor (publicValueForPrincipal text principal value) = some actor) :
    ∃ actor', decodeActor value = some actor' := by
  cases value with
  | null | bool | number | string => exact nomatch h
  | array items =>
      change decodeActor (.array (publicItems text principal items)) = some actor at h
      unfold decodeActor at h
      split at h
      · next heq => exact nomatch heq
      · next participantId participantType heq =>
          rw [publicItems_eq] at heq
          obtain ⟨first, rest, rfl, hfirst, hrest⟩ := List.map_eq_cons_iff.mp (Json.array.inj heq)
          obtain ⟨second, rest, rfl, hsecond, hrest⟩ := List.map_eq_cons_iff.mp hrest
          obtain rfl := List.map_eq_nil_iff.mp hrest
          rw [string_public hfirst, string_public hsecond]
          exact ⟨_, rfl⟩
      · exact nomatch h
  | object members =>
      cases hevent : decodeEvent text (.object members) with
      | none =>
          rw [publicValue_other hevent] at h
          obtain ⟨hid, htype⟩ := decodeActor_object h
          rw [bind_publicMembers (fun _ => rfl) (fun _ => rfl) (by decide)] at hid htype
          exact ⟨_, decodeActor_members hid htype⟩
      | some event =>
          have hcarries := decodeEvent_iff.mp hevent
          have hopen : Open (publicEventForPrincipal event principal) := open_public hcarries.isOpen
          rw [publicValue_event hevent, encodeEvent_open hopen] at h
          obtain ⟨hid, htype⟩ := decodeActor_object h
          have hid : (publicEventForPrincipal event principal).participantId = _ :=
            get_encoded hopen (by decide)
              (by simp [namedMembers, Json.get_append, Json.get_cons, get_encodeOptional]) hid
          have htype : (publicEventForPrincipal event principal).participantType = _ :=
            get_encoded hopen (by decide)
              (by simp [namedMembers, Json.get_append, Json.get_cons, get_encodeOptional]) htype
          refine ⟨actor, decodeActor_members (get_optional ?_) (get_optional ?_)⟩
          · rw [hcarries.participantId, identity_public.1 _ hid]
          · rw [hcarries.participantType, identity_public.2 _ htype]

/-- An object that is no event stays none when its members are projected. -/
theorem decodeEvent_publicMembers {members : JsonMap}
    (h : decodeEvent text (.object members) = none) :
    decodeEvent text (.object (publicMembers text principal members)) = none := by
  rw [Option.eq_none_iff_forall_ne_some]
  intro event hevent
  have hcarries := decodeEvent_iff.mp hevent
  obtain ⟨value, hget, hactor⟩ := Option.bind_eq_some_iff.mp hcarries.actor
  rw [get_publicMembers (by decide)] at hget
  obtain ⟨original, hactorGet, rfl⟩ := Option.map_eq_some_iff.mp hget
  obtain ⟨actor, hactor⟩ := decodeActor_public hactor
  have hread : ∀ {α : Type} {read : Json → Option α} {key : String} {result : Option α},
      (∀ items, read (.array items) = none) → (∀ members, read (.object members) = none) →
      key ∈ namedKeys →
      (Json.get (publicMembers text principal members) key).bind read = result →
        (Json.get members key).bind read = result := by
    intro α read key result harray hobject hkey hresult
    rw [← hresult, bind_publicMembers harray hobject hkey]
  have hoptional : ∀ {key : String} {result : Option (Option String)}, key ∈ namedKeys →
      decodeOptional (publicMembers text principal members) key = result →
        decodeOptional members key = result := by
    intro key result hkey hresult
    rw [← hresult, decodeOptional_public hkey]
  have hmembers : Carries text members { event with
      actor := actor
      extra := members.filter fun m => !namedKeys.contains m.1 } := by
    constructor
    case v => exact hread (fun _ => rfl) (fun _ => rfl) (by decide) hcarries.v
    case id => exact hread (fun _ => rfl) (fun _ => rfl) (by decide) hcarries.id
    case seq => exact hread (fun _ => rfl) (fun _ => rfl) (by decide) hcarries.seq
    case createdAt =>
      obtain ⟨created, hcreated, hparse⟩ := Option.bind_eq_some_iff.mp hcarries.createdAt
      rw [hread (fun _ => rfl) (fun _ => rfl) (by decide) hcreated]
      exact hparse
    case roomId => exact hread (fun _ => rfl) (fun _ => rfl) (by decide) hcarries.roomId
    case eventType => exact hread (fun _ => rfl) (fun _ => rfl) (by decide) hcarries.eventType
    case actor =>
      rw [hactorGet]
      exact hactor
    case participantId => exact hoptional (by decide) hcarries.participantId
    case participantType => exact hoptional (by decide) hcarries.participantType
    case actorId => exact hoptional (by decide) hcarries.actorId
    case actorType => exact hoptional (by decide) hcarries.actorType
    case displayName => exact hoptional (by decide) hcarries.displayName
    case content => exact hoptional (by decide) hcarries.content
    case messageKind => exact hoptional (by decide) hcarries.messageKind
    case extra => rfl
  rw [decodeEvent_iff.mpr hmembers] at h
  exact nomatch h

/-! ## The outermost events of a value -/

/-- The traversal of the value comes to an object that reads as the event. -/
inductive Outermost (text : InstantText Instant) (event : RoomEvent Instant) : Json → Prop
  | here {value : Json} : decodeEvent text value = some event → Outermost text event value
  | item {items : List Json} {value : Json} :
      value ∈ items → Outermost text event value → Outermost text event (.array items)
  | member {members : JsonMap} {m : String × Json} :
      decodeEvent text (.object members) = none → m ∈ members → isPrivateKey m.1 = false →
      Outermost text event m.2 → Outermost text event (.object members)

theorem Outermost.isOpen {event : RoomEvent Instant} {value : Json}
    (h : Outermost text event value) : Open event := by
  induction h with
  | here h => exact decodeEvent_open h
  | item _ _ ih => exact ih
  | member _ _ _ _ ih => exact ih

theorem keyFree_publicValue (value : Json) :
    Json.KeyFree isPrivateKey (publicValueForPrincipal text principal value) := by
  induction value using Json.induction with
  | null | bool | number | string =>
      intro members hmembers
      cases hmembers
  | array items ih =>
      refine Json.keyFree_array fun item hitem => ?_
      rw [publicItems_eq] at hitem
      obtain ⟨original, hmem, rfl⟩ := List.mem_map.mp hitem
      exact ih original hmem
  | object members ih =>
      cases h : decodeEvent text (.object members) with
      | some event =>
          rw [publicValue_event h]
          exact keyFree_encodeEvent clean_public
      | none =>
          rw [publicValue_other h]
          refine Json.keyFree_object fun m hm => ?_
          obtain ⟨hkey, value, hmem, hvalue⟩ := mem_publicMembers hm
          rw [hvalue]
          exact ⟨hkey, ih _ hmem⟩

theorem publicValue_publicValue
    (hparse : ∀ instant, text.parse (text.format instant) = some instant) (value : Json) :
    publicValueForPrincipal text principal (publicValueForPrincipal text principal value) =
      publicValueForPrincipal text principal value := by
  induction value using Json.induction with
  | null | bool | number | string => rfl
  | array items ih =>
      show Json.array (publicItems text principal (publicItems text principal items)) =
        .array (publicItems text principal items)
      rw [publicItems_eq, publicItems_eq, List.map_map]
      congr 1
      exact List.map_congr_left fun item hitem => ih item hitem
  | object members ih =>
      cases h : decodeEvent text (.object members) with
      | some event =>
          have hopen : Open (publicEventForPrincipal event principal) :=
            open_public (decodeEvent_open h)
          have hdecode := decodeEvent_encodeEvent hparse hopen
          rw [publicValue_event h]
          unfold encodeEvent at hdecode ⊢
          rw [publicValue_event hdecode, public_public]
          rfl
      | none =>
          rw [publicValue_other h, publicValue_other (decodeEvent_publicMembers h)]
          congr 1
          rw [publicMembers_eq (publicMembers text principal members),
            List.filter_eq_self.mpr fun m hm => by simp [(mem_publicMembers hm).1]]
          refine (List.map_congr_left fun m hm => ?_).trans (List.map_id _)
          obtain ⟨-, value, hmem, hvalue⟩ := mem_publicMembers hm
          rw [hvalue, ih _ hmem, ← hvalue]
          rfl

/-- The event objects of a projected value lie in the encodings of the outermost ones. -/
theorem nested_publicValue {w value : Json} {e : RoomEvent Instant}
    (hw : decodeEvent text w = some e) :
    Json.Nested w (publicValueForPrincipal text principal value) ↔
      ∃ event, Outermost text event value ∧
        Json.Nested w (encodeEvent text (publicEventForPrincipal event principal)) := by
  induction value using Json.induction with
  | null | bool | number | string =>
      constructor
      · intro h
        cases h
        exact nomatch hw
      · rintro ⟨event, hevent, -⟩
        cases hevent with
        | here hdecode => exact nomatch hdecode
  | array items ih =>
      show Json.Nested w (.array (publicItems text principal items)) ↔ _
      rw [publicItems_eq]
      constructor
      · intro h
        cases h with
        | here => exact nomatch hw
        | item hmem hnested =>
            obtain ⟨item, hitem, rfl⟩ := List.mem_map.mp hmem
            obtain ⟨event, hevent, hin⟩ := (ih item hitem).mp hnested
            exact ⟨event, .item hitem hevent, hin⟩
      · rintro ⟨event, hevent, hin⟩
        cases hevent with
        | here hdecode => exact nomatch hdecode
        | item hitem hevent =>
            exact .item (List.mem_map_of_mem hitem) ((ih _ hitem).mpr ⟨event, hevent, hin⟩)
  | object members ih =>
      cases h : decodeEvent text (.object members) with
      | some event =>
          rw [publicValue_event h]
          constructor
          · intro hin
            exact ⟨event, .here h, hin⟩
          · rintro ⟨other, hother, hin⟩
            cases hother with
            | here hdecode =>
                obtain rfl := Option.some.inj (h.symm.trans hdecode)
                exact hin
            | member hnone =>
                rw [h] at hnone
                exact nomatch hnone
      | none =>
          rw [publicValue_other h]
          constructor
          · intro hin
            cases hin with
            | here =>
                rw [decodeEvent_publicMembers h] at hw
                exact nomatch hw
            | member hmem hnested =>
                obtain ⟨hkey, value, hvalue, heq⟩ := mem_publicMembers hmem
                rw [heq] at hnested
                obtain ⟨event, hevent, hin⟩ := (ih _ hvalue).mp hnested
                exact ⟨event, .member h hvalue hkey hevent, hin⟩
          · rintro ⟨event, hevent, hin⟩
            cases hevent with
            | here hdecode =>
                rw [h] at hdecode
                exact nomatch hdecode
            | @member _ m _ hmem hkey hevent =>
                have hnested := (ih m hmem).mpr ⟨event, hevent, hin⟩
                refine .member (m := (m.1, publicValueForPrincipal text principal m.2)) ?_ hnested
                rw [publicMembers_eq]
                refine List.mem_map.mpr ⟨m, List.mem_filter.mpr ⟨hmem, ?_⟩, rfl⟩
                simpa using hkey

/-! ## What the projection tells a viewer -/

/-- The principal learns the same of both events: neither is a private vote, or both are, of
one kind and about the same ballot. -/
def SameMarker (e e' : RoomEvent Instant) : Prop :=
  (isPrivateVote e = false ∧ isPrivateVote e' = false) ∨
    (isPrivateVote e = true ∧ isPrivateVote e' = true ∧ e.eventType = e'.eventType ∧
      e.messageKind = e'.messageKind ∧
      (Json.dropMembers isPrivateKey e.extra).filter (fun m => m.1 == "vote_id") =
        (Json.dropMembers isPrivateKey e'.extra).filter fun m => m.1 == "vote_id")

/-- The events agree on what every viewer may know. -/
structure SameCursor (e e' : RoomEvent Instant) : Prop where
  v : e.v = e'.v
  id : e.id = e'.id
  seq : e.seq = e'.seq
  createdAt : e.createdAt = e'.createdAt
  roomId : e.roomId = e'.roomId

/-- The principal may not see the event. -/
structure Withheld (event : RoomEvent Instant) (principal : AuthenticatedPrincipal) : Prop where
  ownerOnly : roomEventIsOwnerOnly event = true
  invisible : eventIsVisibleTo event principal = false

theorem kind_public_vote {event : RoomEvent Instant} (h : isPrivateVote event = true) :
    (publicEventForPrincipal event principal).messageKind = event.messageKind := by
  rw [public_vote h, minimized_of_vote (show isPrivateVote (stripPrivate event) = true from h)]
  rfl

theorem isPrivateVote_of_kind {e e' : RoomEvent Instant} (h : e.messageKind = e'.messageKind) :
    isPrivateVote e = isPrivateVote e' := by
  unfold isPrivateVote
  rw [h]

theorem withheld_ne {e e' : RoomEvent Instant} (hvote : isPrivateVote e = true)
    (hother : isPrivateVote e' = false) (h' : Withheld e' principal) :
    publicEventForPrincipal e principal ≠ publicEventForPrincipal e' principal := by
  intro heq
  have hkind : e.messageKind = (hiddenEvent e').messageKind := by
    have hpublic : (publicEventForPrincipal e principal).messageKind = e.messageKind :=
      kind_public_vote hvote
    rw [← hpublic, heq, public_hidden hother h'.ownerOnly h'.invisible]
  have hnone : isPrivateVote e = false := isPrivateVote_of_kind hkind
  rw [hvote] at hnone
  exact nomatch hnone

theorem public_eq_iff {e e' : RoomEvent Instant} (hcursor : SameCursor e e')
    (h : Withheld e principal) (h' : Withheld e' principal) :
    publicEventForPrincipal e principal = publicEventForPrincipal e' principal ↔
      SameMarker e e' := by
  cases hvote : isPrivateVote e with
  | false =>
      cases hvote' : isPrivateVote e' with
      | false =>
          refine ⟨fun _ => .inl ⟨hvote, hvote'⟩, fun _ => ?_⟩
          rw [public_hidden hvote h.ownerOnly h.invisible,
            public_hidden hvote' h'.ownerOnly h'.invisible]
          ext1
          case v => exact hcursor.v
          case id => exact hcursor.id
          case seq => exact hcursor.seq
          case createdAt => exact hcursor.createdAt
          case roomId => exact hcursor.roomId
          all_goals rfl
      | true =>
          refine ⟨fun heq => absurd heq.symm (withheld_ne hvote' hvote h), ?_⟩
          rintro (⟨-, hother⟩ | ⟨hother, -⟩)
          · exact absurd hvote' (by rw [hother]; decide)
          · exact absurd hvote (by rw [hother]; decide)
  | true =>
      cases hvote' : isPrivateVote e' with
      | false =>
          refine ⟨fun heq => absurd heq (withheld_ne hvote hvote' h'), ?_⟩
          rintro (⟨hother, -⟩ | ⟨-, hother, -⟩)
          · exact absurd hvote (by rw [hother]; decide)
          · exact absurd hvote' (by rw [hother]; decide)
      | true =>
          rw [public_vote hvote, public_vote hvote', minimized_of_vote (show isPrivateVote (stripPrivate e) = true from hvote),
            minimized_of_vote (show isPrivateVote (stripPrivate e') = true from hvote')]
          constructor
          · intro heq
            have htype := congrArg RoomEvent.eventType heq
            have hkind := congrArg RoomEvent.messageKind heq
            have hextra := congrArg RoomEvent.extra heq
            exact .inr ⟨hvote, hvote', htype, hkind, hextra⟩
          · rintro (⟨hother, -⟩ | ⟨-, -, htype, hkind, hextra⟩)
            · exact absurd hvote (by rw [hother]; decide)
            · ext1
              case v => exact hcursor.v
              case id => exact hcursor.id
              case seq => exact hcursor.seq
              case createdAt => exact hcursor.createdAt
              case roomId => exact hcursor.roomId
              case eventType => exact htype
              case messageKind => exact hkind
              case extra => exact hextra
              all_goals rfl

/-- Every event object in the value is its own projection. -/
def Settled (text : InstantText Instant) (principal : AuthenticatedPrincipal) (value : Json) :
    Prop :=
  ∀ w e, Json.Nested w value → decodeEvent text w = some e →
    publicEventForPrincipal e principal = e

/-- What the value's events keep of their open members holds no event object that the
principal may not see as it stands. -/
def SealedExtras (text : InstantText Instant) (principal : AuthenticatedPrincipal) (value : Json) :
    Prop :=
  ∀ event, Outermost text event value → ∀ m, Retains event principal m →
    ∀ w e, Json.Nested w (projectValue m.2) → decodeEvent text w = some e → PublicForm e principal

theorem clean_of_keyFree {w : Json} {e : RoomEvent Instant}
    (h : Json.KeyFree isPrivateKey w) (hw : decodeEvent text w = some e) : Clean e.extra := by
  cases w with
  | object members =>
      have hcarries := decodeEvent_iff.mp hw
      intro m hm
      rw [← hcarries.extra] at hm
      exact h.members m (List.mem_filter.mp hm).1
  | null | bool | number | string | array => exact nomatch hw

/-- The recursion into a command result stops at an event, so that what the event carries is
projected no further. -/
theorem settled_iff (hparse : ∀ instant, text.parse (text.format instant) = some instant)
    (value : Json) :
    Settled text principal (publicValueForPrincipal text principal value) ↔
      SealedExtras text principal value := by
  constructor
  · intro hsettled event hevent m hretains w e hw hdecode
    have hclean : Clean e.extra :=
      clean_of_keyFree ((Json.keyFree_dropKeys isPrivateKey m.2).nested hw) hdecode
    refine (publicForm_iff hclean).mp (hsettled w e ?_ hdecode)
    refine (nested_publicValue hdecode).mpr ⟨event, hevent, ?_⟩
    have hopen := hevent.isOpen
    exact (nested_encodeEvent (open_public hopen) hdecode).mpr
      (.inr ⟨_, mem_public_of_retains hretains, hw⟩)
  · intro hsealed w e hw hdecode
    obtain ⟨event, hevent, hin⟩ := (nested_publicValue hdecode).mp hw
    have hopen := hevent.isOpen
    rcases (nested_encodeEvent (open_public hopen) hdecode).mp hin with rfl | ⟨m, hm, hnested⟩
    · rw [decodeEvent_encodeEvent hparse (open_public hopen)] at hdecode
      obtain rfl := Option.some.inj hdecode
      exact public_public
    · rcases mem_public hm with rfl | ⟨value, hretains, hvalue⟩
      · cases hnested
        exact nomatch hdecode
      · rw [hvalue] at hnested
        exact (publicForm_iff (clean_of_keyFree
          ((Json.keyFree_dropKeys isPrivateKey value).nested hnested) hdecode)).mpr
          (hsealed event hevent _ hretains w e hnested hdecode)

end

/-- What a viewer learns.  Two events that a principal may not see look the same to it unless
one is a private vote, and then exactly where the markers of the votes agree.  Cursor, privacy
and idempotence hold of every event and every command result; the event objects of a result are
all projected exactly where the events it carries hide no further ones in their open members. -/
theorem viewer_projection (text : InstantText Instant)
    (hparse : ∀ instant, text.parse (text.format instant) = some instant) :
    (∀ (e e' : RoomEvent Instant) (principal : AuthenticatedPrincipal),
      SameCursor e e' → Withheld e principal → Withheld e' principal →
        (publicEventForPrincipal e principal = publicEventForPrincipal e' principal ↔
          SameMarker e e')) ∧
    (∀ (event : RoomEvent Instant) (principal : AuthenticatedPrincipal),
      (publicEventForPrincipal event principal).id = event.id ∧
      (publicEventForPrincipal event principal).seq = event.seq ∧
      (publicEventForPrincipal event principal).roomId = event.roomId ∧
      Json.KeyFree isPrivateKey (encodeEvent text (publicEventForPrincipal event principal)) ∧
      publicEventForPrincipal (publicEventForPrincipal event principal) principal =
        publicEventForPrincipal event principal) ∧
    ∀ (value : Json) (principal : AuthenticatedPrincipal),
      Json.KeyFree isPrivateKey (publicValueForPrincipal text principal value) ∧
      publicValueForPrincipal text principal (publicValueForPrincipal text principal value) =
        publicValueForPrincipal text principal value ∧
      (∀ event, Outermost text event value →
        Json.Nested (encodeEvent text (publicEventForPrincipal event principal))
          (publicValueForPrincipal text principal value)) ∧
      (Settled text principal (publicValueForPrincipal text principal value) ↔
        SealedExtras text principal value) := by
  refine ⟨fun e e' principal => public_eq_iff, fun event principal => ?_, fun value principal => ?_⟩
  · obtain ⟨hid, hseq, hroom⟩ := @cursor_public Instant event principal
    exact ⟨hid, hseq, hroom, keyFree_encodeEvent clean_public, public_public⟩
  · refine ⟨keyFree_publicValue value, publicValue_publicValue hparse value, ?_,
      settled_iff hparse value⟩
    intro event hevent
    have hopen : Open (publicEventForPrincipal event principal) := open_public hevent.isOpen
    have hdecode := decodeEvent_encodeEvent hparse hopen
    exact (nested_publicValue hdecode).mpr ⟨event, hevent, .here⟩

namespace Sample

/-- The text of the one instant that the samples need. -/
def epoch : InstantText Unit where
  parse text := if text = "1970-01-01T00:00:00Z" then some () else none
  format _ := "1970-01-01T00:00:00Z"

def viewer : AuthenticatedPrincipal where
  principalId := "viewer"
  participantId := "participant-viewer"
  displayName := "viewer"
  clientKind := .browser
  isOperator := false
  capabilities :=
    { messageSend := true, messageModify := true, bridgePublish := false
      participantMute := false, agentControl := false }

def ownerEvent (kind : Option String) (extra : JsonMap) : RoomEvent Unit where
  v := 1
  id := "event-1"
  seq := 7
  createdAt := ()
  roomId := "room"
  eventType := "message_final"
  actor := ⟨"agent", "agent"⟩
  participantId := some "participant-owner"
  participantType := some "human"
  actorId := some "agent"
  actorType := some "agent"
  displayName := some "Owner"
  content := some "private"
  messageKind := kind
  extra := ("visibility", .string "owner") :: extra

/-- A vote cast for the owner's eyes only. -/
def ballot (poll : String) : RoomEvent Unit :=
  ownerEvent (some "vote_cast") [("vote_id", .string poll)]

theorem withheld_ownerEvent (kind : Option String) (poll : String) :
    Withheld (ownerEvent kind [("vote_id", .string poll)]) viewer :=
  ⟨rfl, by simp [eventIsVisibleTo, ownerEvent, viewer, Json.get_cons, Json.get_nil]⟩

theorem viewer_projection_hidden :
    publicEventForPrincipal (ownerEvent none [("vote_id", .string "poll-1")]) viewer =
      publicEventForPrincipal (ownerEvent none [("vote_id", .string "poll-2")]) viewer :=
  ((viewer_projection epoch fun _ => rfl).1
    (ownerEvent none [("vote_id", .string "poll-1")])
    (ownerEvent none [("vote_id", .string "poll-2")]) viewer ⟨rfl, rfl, rfl, rfl, rfl⟩
    (withheld_ownerEvent none "poll-1") (withheld_ownerEvent none "poll-2")).mpr
    (.inl ⟨rfl, rfl⟩)

/-- A viewer who may see neither vote tells them apart. -/
theorem ballot_shows :
    ¬ ∀ (e e' : RoomEvent Unit) (principal : AuthenticatedPrincipal),
      SameCursor e e' → Withheld e principal → Withheld e' principal →
        publicEventForPrincipal e principal = publicEventForPrincipal e' principal := by
  intro h
  have heq := h (ballot "poll-1") (ballot "poll-2") viewer ⟨rfl, rfl, rfl, rfl, rfl⟩
    (withheld_ownerEvent (some "vote_cast") "poll-1")
    (withheld_ownerEvent (some "vote_cast") "poll-2")
  have hpoll := congrArg (fun event => (Json.get event.extra "vote_id").bind Json.asStr) heq
  exact absurd hpoll (by decide)

end Sample

end AgentsAssemble.Wire
