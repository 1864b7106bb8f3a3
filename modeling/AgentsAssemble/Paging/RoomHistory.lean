import AgentsAssemble.Domain.SideChat
import AgentsAssemble.Foundation.JsonSize

/-!
# The log of a room: snapshots and history pages

The events of a room are numbered from one without a gap.  A snapshot reads the newest of them,
or those after a cursor; a history page reads the newest before a cursor.
-/

namespace AgentsAssemble.Paging

open Foundation Domain

/-- The largest `i64`. -/
def maxI64 : Nat := 2 ^ 63 - 1

def roomHistoryMaxEvents : Int := 200

/-! ## Requests -/

structure RoomHistoryRequest where
  beforeSeq : Int
  limit : Int
  deriving DecidableEq, Repr

def integerField (value : Option Json) (field : String) :
    Except CommandRejection (Option Int) :=
  match value with
  | none => .ok none
  | some value =>
      match asI64 value with
      | some number => .ok (some number)
      | none => .error ⟨"bad_request", "room.history " ++ field ++ " must be an integer."⟩

def clamp (value low high : Int) : Int :=
  if value < low then low else if high < value then high else value

namespace RoomHistoryRequest

def fromPayload (payload : Json) : Except CommandRejection RoomHistoryRequest :=
  match payload.asObject with
  | none => .error ⟨"bad_request", "payload must be an object."⟩
  | some object =>
      if object.any fun member => !(["before_seq", "limit"].contains member.1) then
        .error ⟨"bad_request", "room.history accepts only before_seq and limit fields."⟩
      else do
        let beforeSeq ← integerField (Json.get object "before_seq") "before_seq"
        let limit ← integerField (Json.get object "limit") "limit"
        pure
          { beforeSeq := max (beforeSeq.getD 0) 0
            limit := clamp (limit.getD roomHistoryMaxEvents) 1 roomHistoryMaxEvents }

end RoomHistoryRequest

/-! ## The log -/

/-- An event as one principal is shown it: the members of its document. -/
structure RoomEvent where
  roomId : String
  seq : Nat
  members : List (List Char × JsonText)

def RoomEvent.document (event : RoomEvent) : JsonText :=
  .object event.members

/-- A row of `room_events`. -/
structure StoredEvent where
  seq : Nat
  event : RoomEvent

/-- The rows of one room in the order of their sequence numbers. -/
structure RoomLog where
  roomId : String
  rows : List StoredEvent
  numbered : rows.map StoredEvent.seq = List.range' 1 rows.length
  bounded : rows.length ≤ maxI64
  stored : ∀ row ∈ rows, row.event.seq = row.seq ∧ row.event.roomId = roomId

namespace RoomLog

def events (log : RoomLog) : List RoomEvent :=
  log.rows.map StoredEvent.event

/-- `COALESCE(MAX(seq), 0)`. -/
def lastSeq (log : RoomLog) : Nat :=
  (log.rows.getLast?.map StoredEvent.seq).getD 0

/-- The rows before a sequence number, newest first. -/
def newestBefore (log : RoomLog) (upperExclusive limit : Nat) : List StoredEvent :=
  ((log.rows.filter fun row => row.seq < upperExclusive).reverse).take limit

end RoomLog

/-! ## Snapshots -/

inductive SnapshotMode
  | initial
  | resume
  | gap
  | bridge
  deriving DecidableEq, Repr

inductive SnapshotError
  | invalidCursor (durableLastSeq : Nat)
  deriving DecidableEq, Repr

/-- What a snapshot reads of the log. -/
structure RoomSnapshotData where
  events : List RoomEvent
  oldestSeq : Nat
  lastSeq : Nat
  hasMoreBefore : Bool
  resumeGap : Bool
  snapshotMode : SnapshotMode

def snapshotInner (log : RoomLog) (resumeFromSeq limit : Int) :
    Except SnapshotError RoomSnapshotData :=
  if resumeFromSeq < 0 then .error (.invalidCursor 0)
  else
    let limit := max limit 1
    let durableLastSeq := log.lastSeq
    if (durableLastSeq : Int) < resumeFromSeq then .error (.invalidCursor durableLastSeq)
    else
      let resumeGap := decide (0 < resumeFromSeq ∧ limit < durableLastSeq - resumeFromSeq)
      let snapshotMode :=
        if resumeFromSeq = 0 then .initial else if resumeGap then .gap else .resume
      let rows :=
        if resumeFromSeq = 0 ∨ resumeGap = true then (log.rows.reverse.take limit.toNat).reverse
        else log.rows.filter fun row => resumeFromSeq < (row.seq : Int)
      let events := rows.map StoredEvent.event
      let oldestSeq := (events.head?.map RoomEvent.seq).getD 0
      .ok
        { events
          oldestSeq
          lastSeq := (events.getLast?.map RoomEvent.seq).getD resumeFromSeq.toNat
          hasMoreBefore := decide (1 < oldestSeq)
          resumeGap
          snapshotMode }

/-! ## History pages -/

inductive HistoryError
  | badRequest
  | sequenceGap (expected found : Nat)
  deriving DecidableEq, Repr

structure RoomHistoryPage where
  events : List RoomEvent
  oldestSeq : Nat
  lastSeq : Nat
  hasMoreBefore : Bool

/-- The events of rows that count down without a gap. -/
def countDown (roomId : String) : List StoredEvent → Nat → Except HistoryError (List RoomEvent)
  | [], _ => .ok []
  | row :: rows, expected =>
      if row.seq ≠ expected ∨ row.event.seq ≠ row.seq ∨ row.event.roomId ≠ roomId then
        .error (.sequenceGap expected row.seq)
      else do
        let events ← countDown roomId rows (expected - 1)
        pure (row.event :: events)

def roomHistoryPage (log : RoomLog) (request : RoomHistoryRequest) :
    Except HistoryError RoomHistoryPage :=
  if request.beforeSeq < 0 ∨ ¬ (1 ≤ request.limit ∧ request.limit ≤ roomHistoryMaxEvents) then
    .error .badRequest
  else do
    let limit := request.limit.toNat
    let lastSeq := log.lastSeq
    let upperExclusive :=
      if request.beforeSeq = 0 then min (lastSeq + 1) maxI64 else request.beforeSeq.toNat
    let rows := log.newestBefore upperExclusive (limit + 1)
    let events ← countDown log.roomId (rows.take limit) (min lastSeq (upperExclusive - 1))
    let events := events.reverse
    pure
      { events
        oldestSeq := (events.head?.map RoomEvent.seq).getD 0
        lastSeq
        hasMoreBefore := decide (limit < rows.length) }

end AgentsAssemble.Paging
