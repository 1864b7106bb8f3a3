import AgentsAssemble.Paging.RoomHistory

/-!
# The frames of a room socket: what fits

A frame that is longer than the socket allows is not sent.  A snapshot is halved until it fits,
a history page gives up as few of its oldest events as it can.
-/

namespace AgentsAssemble.Paging

open Foundation Domain

def maxRoomSocketMessageBytes : Nat := 256 * 1024

/-- `encode_server_frame` answers a text. -/
def encodes (frame : JsonText) : Bool :=
  decide (frame.size ≤ maxRoomSocketMessageBytes)

/-- A text as a document. -/
def text (value : String) : JsonText :=
  .string value.toList

/-- A member of an object. -/
def member (key : String) (value : JsonText) : List Char × JsonText :=
  (key.toList, value)

def eventDocuments (events : List RoomEvent) : JsonText :=
  .array (events.map RoomEvent.document)

/-! ## Snapshot frames -/

/-- What the log does not decide of a snapshot frame. -/
structure SnapshotMetadata where
  room : JsonText
  roomSettings : JsonText
  participants : JsonText
  agentSessions : JsonText
  capabilities : JsonText

structure RoomSnapshot where
  metadata : SnapshotMetadata
  events : List RoomEvent
  oldestSeq : Nat
  lastSeq : Nat
  hasMoreBefore : Bool
  resumeGap : Bool
  snapshotMode : SnapshotMode

def SnapshotMode.name : SnapshotMode → String
  | .initial => "initial"
  | .resume => "resume"
  | .gap => "gap"
  | .bridge => "bridge"

namespace RoomSnapshot

/-- `ServerFrame::Snapshot`. -/
def frame (snapshot : RoomSnapshot) : JsonText :=
  .object
    [member "op" (text "snapshot"),
      member "stream" (text "room_events"),
      member "room" snapshot.metadata.room,
      member "room_settings" snapshot.metadata.roomSettings,
      member "participants" snapshot.metadata.participants,
      member "agent_sessions" snapshot.metadata.agentSessions,
      member "active_turns" (.array []),
      member "events" (eventDocuments snapshot.events),
      member "oldest_seq" (.natural snapshot.oldestSeq),
      member "last_seq" (.natural snapshot.lastSeq),
      member "has_more_before" (.bool snapshot.hasMoreBefore),
      member "resume_gap" (.bool snapshot.resumeGap),
      member "snapshot_mode" (text snapshot.snapshotMode.name),
      member "capabilities" snapshot.metadata.capabilities]

/-- The snapshot without the older half of its events. -/
def shrink (snapshot : RoomSnapshot) : RoomSnapshot :=
  let remove := max (snapshot.events.length / 2) 1
  let events := snapshot.events.drop remove
  { snapshot with
    events
    oldestSeq := (events.head?.map RoomEvent.seq).getD snapshot.lastSeq
    hasMoreBefore := true
    resumeGap := if snapshot.snapshotMode = .initial then snapshot.resumeGap else true
    snapshotMode := if snapshot.snapshotMode = .initial then .initial else .gap }

end RoomSnapshot

def prepareSnapshot (metadata : SnapshotMetadata) (data : RoomSnapshotData) : RoomSnapshot :=
  { metadata
    events := data.events
    oldestSeq := data.oldestSeq
    lastSeq := data.lastSeq
    hasMoreBefore := data.hasMoreBefore
    resumeGap := data.resumeGap
    snapshotMode := data.snapshotMode }

theorem length_shrink (snapshot : RoomSnapshot) :
    snapshot.shrink.events.length =
      snapshot.events.length - max (snapshot.events.length / 2) 1 := by
  rw [RoomSnapshot.shrink, List.length_drop]

/-- The snapshot whose frame is sent. -/
def fitSnapshotFrame (snapshot : RoomSnapshot) : Option RoomSnapshot :=
  if encodes snapshot.frame then some snapshot
  else if snapshot.events = [] then none
  else fitSnapshotFrame snapshot.shrink
termination_by snapshot.events.length
decreasing_by
  rename_i hevents
  have hpos := List.length_pos_of_ne_nil hevents
  rw [length_shrink]
  omega

/-! ## History frames -/

namespace RoomHistoryPage

def document (page : RoomHistoryPage) : JsonText :=
  .object
    [member "events" (eventDocuments page.events),
      member "has_more_before" (.bool page.hasMoreBefore),
      member "last_seq" (.natural page.lastSeq),
      member "oldest_seq" (.natural page.oldestSeq)]

/-- The page without its oldest events. -/
def dropOldest (page : RoomHistoryPage) (dropped : Nat) : RoomHistoryPage :=
  let events := page.events.drop dropped
  { events
    oldestSeq := (events.head?.map RoomEvent.seq).getD 0
    lastSeq := page.lastSeq
    hasMoreBefore := decide (0 < dropped) || page.hasMoreBefore }

end RoomHistoryPage

/-- `ServerFrame::Ack` of a `room.history` command. -/
def historyAck (requestId : String) (page : RoomHistoryPage) : JsonText :=
  .object
    [member "op" (text "ack"),
      member "request_id" (text requestId),
      member "accepted" (.bool true),
      member "resolution" (text "committed"),
      member "action" (text "room.history"),
      member "result" page.document]

/-- The search for the fewest dropped events: `first` to `last` are still to be tried. -/
def searchFitted (fits : Nat → Bool) : Nat → Nat → Nat → Option Nat → Option Nat
  | 0, _, _, fitted => fitted
  | fuel + 1, first, last, fitted =>
      if first ≤ last then
        let dropped := first + (last - first) / 2
        if fits dropped then
          if dropped = 1 then some dropped
          else searchFitted fits fuel first (dropped - 1) (some dropped)
        else searchFitted fits fuel (dropped + 1) last fitted
      else fitted

/-- How many events are dropped for the others to fit. -/
def fitBoundedHistory (eventCount : Nat) (fits : Nat → Bool) : Option Nat :=
  if fits 0 then some 0
  else if eventCount < 2 then none
  else searchFitted fits eventCount 1 (eventCount - 1) none

inductive HistoryFailure
  | rejected (rejection : CommandRejection)
  | transactional (error : HistoryError)
  deriving DecidableEq, Repr

def oversizeFailure : HistoryFailure :=
  .rejected ⟨"response_too_large",
    "A canonical room history event exceeds the WebSocket frame limit."⟩

def fitHistoryAck (requestId : String) (page : RoomHistoryPage) :
    Except HistoryFailure RoomHistoryPage :=
  match fitBoundedHistory page.events.length fun dropped =>
    encodes (historyAck requestId (page.dropOldest dropped)) with
  | some dropped => .ok (page.dropOldest dropped)
  | none => .error oversizeFailure

def validCommandEnvelope (requestId : String) : Bool :=
  requestId != "" && decide (requestId.toList.length ≤ 128)

/-- The page that a `room.history` command answers; the budget of history reads is left out. -/
def readHistoryFrame (log : RoomLog) (requestId : String) (payload : Json) :
    Except HistoryFailure RoomHistoryPage :=
  if validCommandEnvelope requestId = false then
    .error (.rejected ⟨"command_envelope_invalid", "request_id is invalid."⟩)
  else do
    let request ← (RoomHistoryRequest.fromPayload payload).mapError .rejected
    let page ← (roomHistoryPage log request).mapError .transactional
    fitHistoryAck requestId page

/-! ## Clients -/

/-- How a client asks for a page, whatever cursor it asks with. -/
structure HistoryAsk where
  requestId : String
  limit : Option Json
  valid : validCommandEnvelope requestId = true
  integer : ∀ value, limit = some value → (asI64 value).isSome = true

def HistoryAsk.payload (ask : HistoryAsk) (beforeSeq : Nat) : Json :=
  .object (("before_seq", .number (.posInt (UInt64.ofNat beforeSeq))) ::
    ask.limit.elim [] fun value => [("limit", value)])

/-- The events that a client gets which asks for what is before the oldest event it knows for as
long as there is more. -/
def gather (log : RoomLog) (asks : Nat → HistoryAsk) : Nat → Nat → Nat → Option (List RoomEvent)
  | 0, _, _ => none
  | fuel + 1, turn, oldestSeq =>
      match readHistoryFrame log (asks turn).requestId ((asks turn).payload oldestSeq) with
      | .error _ => none
      | .ok page =>
          if page.hasMoreBefore then
            (gather log asks fuel (turn + 1) page.oldestSeq).map (· ++ page.events)
          else some page.events

end AgentsAssemble.Paging
