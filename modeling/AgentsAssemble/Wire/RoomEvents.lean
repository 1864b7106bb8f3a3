import AgentsAssemble.Foundation.Json
import AgentsAssemble.Domain.Event

/-!
# Room events on the wire

The JSON object of a room event: its named members, and an open map of others.
The text of an instant is the affair of the library that reads and prints it.
-/

namespace AgentsAssemble.Wire

open Foundation
open Domain (Actor)

/-- The members of an object; each key stands once, and their order has no meaning. -/
abbrev JsonMap := List (String × Json)

namespace JsonMap

def remove (key : String) (map : JsonMap) : JsonMap :=
  map.filter fun m => m.1 != key

/-- The value under a key is replaced, or the key is added. -/
def insert (key : String) (value : Json) (map : JsonMap) : JsonMap :=
  if Json.containsKey map key then map.map fun m => if m.1 = key then (key, value) else m
  else map ++ [(key, value)]

end JsonMap

/-- How instants are read from JSON strings and printed to them. -/
structure InstantText (Instant : Type) where
  parse : String → Option Instant
  format : Instant → String

@[ext] structure RoomEvent (Instant : Type) where
  v : UInt32
  id : String
  seq : Int64
  createdAt : Instant
  roomId : String
  eventType : String
  actor : Actor
  participantId : Option String
  participantType : Option String
  actorId : Option String
  actorType : Option String
  displayName : Option String
  content : Option String
  messageKind : Option String
  extra : JsonMap

/-! ## Decoding -/

def requiredKeys : List String :=
  ["v", "id", "seq", "created_at", "room_id", "type", "actor"]

def optionalKeys : List String :=
  ["participant_id", "participant_type", "actor_id", "actor_type", "display_name", "content",
    "message_kind"]

def namedKeys : List String := requiredKeys ++ optionalKeys

def decodeU32 : Json → Option UInt32
  | .number (.posInt value) => if value.toNat < 2 ^ 32 then some value.toUInt32 else none
  | _ => none

def decodeI64 : Json → Option Int64
  | .number (.posInt value) => if value.toNat < 2 ^ 63 then some (.ofNat value.toNat) else none
  | .number (.negInt value) => some value
  | _ => none

/-- A record of two strings is read from an object, or from an array of the two. -/
def decodeActor : Json → Option Actor
  | .object members => do
      let participantId ← (Json.get members "participant_id").bind Json.asStr
      let participantType ← (Json.get members "participant_type").bind Json.asStr
      pure { participantId, participantType }
  | .array [.string participantId, .string participantType] =>
      some { participantId, participantType }
  | _ => none

/-- An optional member may be absent, null or a string. -/
def decodeOptional (members : JsonMap) (key : String) : Option (Option String) :=
  match Json.get members key with
  | none => some none
  | some .null => some none
  | some (.string value) => some (some value)
  | some _ => none

variable {Instant : Type}

/-- `RoomEvent::deserialize`. -/
def decodeEvent (text : InstantText Instant) : Json → Option (RoomEvent Instant)
  | .object members => do
      let v ← (Json.get members "v").bind decodeU32
      let id ← (Json.get members "id").bind Json.asStr
      let seq ← (Json.get members "seq").bind decodeI64
      let createdAt ← ((Json.get members "created_at").bind Json.asStr).bind text.parse
      let roomId ← (Json.get members "room_id").bind Json.asStr
      let eventType ← (Json.get members "type").bind Json.asStr
      let actor ← (Json.get members "actor").bind decodeActor
      let participantId ← decodeOptional members "participant_id"
      let participantType ← decodeOptional members "participant_type"
      let actorId ← decodeOptional members "actor_id"
      let actorType ← decodeOptional members "actor_type"
      let displayName ← decodeOptional members "display_name"
      let content ← decodeOptional members "content"
      let messageKind ← decodeOptional members "message_kind"
      pure { v, id, seq, createdAt, roomId, eventType, actor, participantId, participantType,
             actorId, actorType, displayName, content, messageKind
             extra := members.filter fun m => !namedKeys.contains m.1 }
  | _ => none

/-! ## Encoding -/

def encodeI64 (value : Int64) : Json :=
  if 0 ≤ value.toInt then .number (.posInt (.ofNat value.toInt.toNat)) else .number (.negInt value)

def encodeActor (actor : Actor) : Json :=
  .object [("participant_id", .string actor.participantId),
    ("participant_type", .string actor.participantType)]

/-- An optional member is left out where it has no value. -/
def encodeOptional (key : String) (value : Option String) : JsonMap :=
  (value.map fun value => (key, Json.string value)).toList

def namedMembers (text : InstantText Instant) (event : RoomEvent Instant) : JsonMap :=
  [("v", .number (.posInt event.v.toUInt64)), ("id", .string event.id),
    ("seq", encodeI64 event.seq), ("created_at", .string (text.format event.createdAt)),
    ("room_id", .string event.roomId), ("type", .string event.eventType),
    ("actor", encodeActor event.actor)] ++
  (encodeOptional "participant_id" event.participantId ++
    encodeOptional "participant_type" event.participantType ++
    encodeOptional "actor_id" event.actorId ++ encodeOptional "actor_type" event.actorType ++
    encodeOptional "display_name" event.displayName ++ encodeOptional "content" event.content ++
    encodeOptional "message_kind" event.messageKind)

/-- `serde_json::to_value` of an event: an open member overrides a named one. -/
def encodeEvent (text : InstantText Instant) (event : RoomEvent Instant) : Json :=
  .object ((namedMembers text event).filter (fun m => !Json.containsKey event.extra m.1) ++
    event.extra)

/-! ## What a decoded event says of its members -/

/-- An object carries the members of an event. -/
structure Carries (text : InstantText Instant) (members : JsonMap) (event : RoomEvent Instant) :
    Prop where
  v : (Json.get members "v").bind decodeU32 = some event.v
  id : (Json.get members "id").bind Json.asStr = some event.id
  seq : (Json.get members "seq").bind decodeI64 = some event.seq
  createdAt : ((Json.get members "created_at").bind Json.asStr).bind text.parse =
    some event.createdAt
  roomId : (Json.get members "room_id").bind Json.asStr = some event.roomId
  eventType : (Json.get members "type").bind Json.asStr = some event.eventType
  actor : (Json.get members "actor").bind decodeActor = some event.actor
  participantId : decodeOptional members "participant_id" = some event.participantId
  participantType : decodeOptional members "participant_type" = some event.participantType
  actorId : decodeOptional members "actor_id" = some event.actorId
  actorType : decodeOptional members "actor_type" = some event.actorType
  displayName : decodeOptional members "display_name" = some event.displayName
  content : decodeOptional members "content" = some event.content
  messageKind : decodeOptional members "message_kind" = some event.messageKind
  extra : members.filter (fun m => !namedKeys.contains m.1) = event.extra

theorem decodeEvent_iff {text : InstantText Instant} {members : JsonMap}
    {event : RoomEvent Instant} :
    decodeEvent text (.object members) = some event ↔ Carries text members event := by
  constructor
  · intro h
    unfold decodeEvent at h
    obtain ⟨v, hv, h⟩ := Option.bind_eq_some_iff.mp h
    obtain ⟨id, hid, h⟩ := Option.bind_eq_some_iff.mp h
    obtain ⟨seq, hseq, h⟩ := Option.bind_eq_some_iff.mp h
    obtain ⟨createdAt, hcreatedAt, h⟩ := Option.bind_eq_some_iff.mp h
    obtain ⟨roomId, hroomId, h⟩ := Option.bind_eq_some_iff.mp h
    obtain ⟨eventType, heventType, h⟩ := Option.bind_eq_some_iff.mp h
    obtain ⟨actor, hactor, h⟩ := Option.bind_eq_some_iff.mp h
    obtain ⟨participantId, hparticipantId, h⟩ := Option.bind_eq_some_iff.mp h
    obtain ⟨participantType, hparticipantType, h⟩ := Option.bind_eq_some_iff.mp h
    obtain ⟨actorId, hactorId, h⟩ := Option.bind_eq_some_iff.mp h
    obtain ⟨actorType, hactorType, h⟩ := Option.bind_eq_some_iff.mp h
    obtain ⟨displayName, hdisplayName, h⟩ := Option.bind_eq_some_iff.mp h
    obtain ⟨content, hcontent, h⟩ := Option.bind_eq_some_iff.mp h
    obtain ⟨messageKind, hmessageKind, h⟩ := Option.bind_eq_some_iff.mp h
    obtain rfl := Option.some.inj h
    exact ⟨hv, hid, hseq, hcreatedAt, hroomId, heventType, hactor,
      hparticipantId, hparticipantType, hactorId, hactorType, hdisplayName, hcontent, hmessageKind, rfl⟩
  · intro h
    unfold decodeEvent
    dsimp only
    rw [h.v, h.id, h.seq, h.createdAt, h.roomId, h.eventType, h.actor, h.participantId,
      h.participantType, h.actorId, h.actorType, h.displayName, h.content, h.messageKind]
    simp only [Option.bind_eq_bind, Option.bind_some]
    rw [h.extra]
    rfl

/-! ## Round trip -/

theorem decodeU32_encode (value : UInt32) :
    decodeU32 (.number (.posInt value.toUInt64)) = some value := by
  have hlt : value.toUInt64.toNat < 2 ^ 32 := by
    rw [UInt32.toNat_toUInt64]
    exact value.toNat_lt
  unfold decodeU32
  dsimp only
  rw [if_pos hlt]
  simp

theorem decodeI64_encode (value : Int64) : decodeI64 (encodeI64 value) = some value := by
  unfold encodeI64
  split
  · next hsign =>
      have hlt := value.toInt_lt
      have hnat : (UInt64.ofNat value.toInt.toNat).toNat = value.toInt.toNat := by
        rw [UInt64.toNat_ofNat_of_lt']
        show _ < 2 ^ 64
        omega
      unfold decodeI64
      dsimp only
      rw [hnat, if_pos (by omega), ← Int64.ofInt_eq_ofNat, Int.toNat_of_nonneg hsign,
        Int64.ofInt_toInt]
  · rfl

theorem decodeActor_encode (actor : Actor) : decodeActor (encodeActor actor) = some actor :=
  rfl

theorem get_encodeOptional (key key' : String) (value : Option String) :
    Json.get (encodeOptional key value) key' = if key = key' then value.map .string else none := by
  unfold encodeOptional
  cases value with
  | none =>
      split <;> rfl
  | some value =>
      show Json.get [(key, .string value)] key' = _
      rw [Json.get_cons, Json.get_nil]
      rfl

/-- The open members of an event are no named ones, as decoding leaves them. -/
def Open (event : RoomEvent Instant) : Prop :=
  ∀ m ∈ event.extra, m.1 ∉ namedKeys

theorem Carries.isOpen {text : InstantText Instant} {members : JsonMap}
    {event : RoomEvent Instant} (h : Carries text members event) : Open event := by
  intro m hm
  rw [← h.extra] at hm
  simpa using (List.mem_filter.mp hm).2

theorem mem_encodeOptional {key : String} {value : Option String} {m : String × Json}
    (h : m ∈ encodeOptional key value) : m.1 = key := by
  unfold encodeOptional at h
  obtain ⟨text, -, rfl⟩ := Option.map_eq_some_iff.mp (Option.mem_toList.mp h)
  rfl

theorem mem_namedMembers {text : InstantText Instant} {event : RoomEvent Instant}
    {m : String × Json} (h : m ∈ namedMembers text event) : m.1 ∈ namedKeys := by
  unfold namedMembers at h
  unfold namedKeys
  rcases List.mem_append.mp h with hrequired | hoptional
  · refine List.mem_append_left _ ?_
    unfold requiredKeys
    simp only [List.mem_cons, List.not_mem_nil, or_false] at hrequired
    rcases hrequired with rfl | rfl | rfl | rfl | rfl | rfl | rfl <;> simp
  · refine List.mem_append_right _ ?_
    unfold optionalKeys
    simp only [List.mem_append] at hoptional
    rcases hoptional with (((((h | h) | h) | h) | h) | h) | h <;>
      rw [mem_encodeOptional h] <;> simp

theorem encodeEvent_open {text : InstantText Instant} {event : RoomEvent Instant}
    (h : Open event) : encodeEvent text event = .object (namedMembers text event ++ event.extra) := by
  unfold encodeEvent
  rw [List.filter_eq_self.mpr]
  intro m hm
  rw [Json.containsKey_eq_false]
  · rfl
  · rintro other hother heq
    exact h other hother (heq ▸ mem_namedMembers hm)

theorem get_named {text : InstantText Instant} {event : RoomEvent Instant} (h : Open event)
    {key : String} (hkey : key ∈ namedKeys) :
    Json.get (namedMembers text event ++ event.extra) key =
      Json.get (namedMembers text event) key := by
  have hextra : Json.get event.extra key = none :=
    Json.get_eq_none fun m hm heq => h m hm (heq ▸ hkey)
  rw [Json.get_append, hextra, Option.or_none]

theorem carries_encode {text : InstantText Instant} {event : RoomEvent Instant}
    (hparse : ∀ instant, text.parse (text.format instant) = some instant) (h : Open event) :
    Carries text (namedMembers text event ++ event.extra) event := by
  have hoptional : ∀ {key : String} {value : Option String}, key ∈ namedKeys →
      Json.get (namedMembers text event) key = value.map .string →
        decodeOptional (namedMembers text event ++ event.extra) key = some value := by
    intro key value hkey hget
    unfold decodeOptional
    rw [get_named h hkey, hget]
    cases value <;> rfl
  constructor
  case v =>
    rw [get_named h (by decide)]
    exact decodeU32_encode event.v
  case id =>
    rw [get_named h (by decide)]
    rfl
  case seq =>
    rw [get_named h (by decide)]
    exact decodeI64_encode event.seq
  case createdAt =>
    rw [get_named h (by decide)]
    exact hparse event.createdAt
  case roomId =>
    rw [get_named h (by decide)]
    rfl
  case eventType =>
    rw [get_named h (by decide)]
    rfl
  case actor =>
    rw [get_named h (by decide)]
    rfl
  case extra =>
    rw [List.filter_append, List.filter_eq_nil_iff.mpr, List.filter_eq_self.mpr, List.nil_append]
    · intro m hm
      simpa using h m hm
    · intro m hm
      simpa using mem_namedMembers hm
  all_goals
    refine hoptional (by decide) ?_
    simp [namedMembers, Json.get_append, Json.get_cons, get_encodeOptional]

/-- Decoding the encoding of a decoded event changes nothing. -/
theorem decodeEvent_encodeEvent {text : InstantText Instant} {event : RoomEvent Instant}
    (hparse : ∀ instant, text.parse (text.format instant) = some instant) (h : Open event) :
    decodeEvent text (encodeEvent text event) = some event := by
  rw [encodeEvent_open h]
  exact decodeEvent_iff.mpr (carries_encode hparse h)

end AgentsAssemble.Wire
