import AgentsAssemble.Foundation.Table
import AgentsAssemble.Foundation.Transition
import Mathlib.Data.List.Sort

/-!
# The room socket client

The browser's command transport: a queue of pending commands over one WebSocket
at a time, with its timers, reconnects and retries.  Callbacks and timers run
one at a time, in any order; frames arrive as the validators of the client
classify them.
-/

namespace AgentsAssemble.Browser

open Foundation

/-! ## Commands -/

inductive TransmissionPhase
  | idle
  | sent
  deriving DecidableEq, Repr

/-- A pending command.  `serial` is the promise it settles; a timer is an armed timeout. -/
structure PendingRoomCommand (Payload : Type) where
  serial : Nat
  action : String
  payload : Payload
  encoded : String
  roomUid : Option String
  timerId : Option Nat
  retryTimerId : Option Nat
  retryAttempt : Nat
  retryCountedGeneration : Nat
  retryNotBefore : Nat
  transmissionGeneration : Nat
  transmissionPhase : TransmissionPhase
  everSent : Bool
  deriving DecidableEq

/-- What the retry of an unknown outcome sends again. -/
structure CommandReplay (Payload : Type) where
  action : String
  payload : Payload
  requestId : String
  roomUid : Option String
  encoded : String
  deriving DecidableEq

structure RoomSocketSayError where
  message : String
  category : String
  deriving DecidableEq, Repr

inductive CommandResolution
  | committed
  | rejected
  | unresolved
  deriving DecidableEq, Repr

structure RoomCommandAck (Result : Type) where
  requestId : String
  action : String
  accepted : Bool
  resolution : CommandResolution
  result : Result
  deriving DecidableEq

/-- A NACK; `error` is absent when the frame carries no well-formed error. -/
structure RoomCommandNack where
  requestId : String
  action : String
  accepted : Bool
  resolution : CommandResolution
  error : Option RoomSocketSayError
  deriving DecidableEq

/-- How the promise of a command settled. -/
inductive CommandOutcome (Payload Result : Type)
  | resolved (ack : RoomCommandAck Result)
  /-- The server rejected the command. -/
  | refused (error : RoomSocketSayError)
  /-- The command left no trace: its bytes were never transmitted. -/
  | neverSent (error : RoomSocketSayError)
  | unknown (error : RoomSocketSayError) (replay : CommandReplay Payload)
  deriving DecidableEq

structure Settlement (Payload Result : Type) where
  serial : Nat
  outcome : CommandOutcome Payload Result
  deriving DecidableEq

/-- An enqueued command, as its caller gave it; its serial is its place in the list. -/
structure IssuedCommand where
  requestId : String
  action : String
  encoded : String
  roomUid : Option String
  deriving DecidableEq

/-- The bytes of a command on a connection whose accepted room is `roomUid`. -/
structure Transmission where
  serial : Nat
  generation : Nat
  bytes : String
  roomUid : Option String
  deriving DecidableEq

/-! ## Retry policy -/

inductive UncertainRetryDecision
  | alreadyCounted
  | retry
  | exhausted
  deriving DecidableEq, Repr

def uncertainRetryBaseMs : Nat := 500
def uncertainRetryMaxMs : Nat := 30000
def uncertainAttemptLimit : Nat := 8

def uncertainCommandRetryDelay (attemptCount : Nat) : Option Nat :=
  if uncertainAttemptLimit ≤ attemptCount then none
  else some (min uncertainRetryMaxMs (uncertainRetryBaseMs * 2 ^ min (attemptCount - 1) 6))

def scheduleUncertainCommandRetry {Payload : Type} (command : PendingRoomCommand Payload)
    (generation now : Nat) : PendingRoomCommand Payload × UncertainRetryDecision :=
  if command.retryCountedGeneration = generation then (command, .alreadyCounted)
  else
    let command := { command with
      retryAttempt := command.retryAttempt + 1
      retryCountedGeneration := generation }
    match uncertainCommandRetryDelay command.retryAttempt with
    | some delay => ({ command with retryNotBefore := now + delay }, .retry)
    | none => (command, .exhausted)

/-! ## Connections and the client -/

inductive ReadyState
  | connecting
  | open
  | closing
  deriving DecidableEq, Repr

/-- The variables of one connection. -/
structure Connection where
  generation : Nat
  readyState : ReadyState
  /-- The catch-up high water of the verified receipt. -/
  receipt : Option Nat
  initialCatalog : Bool
  requestsComplete : Bool
  snapshotAccepted : Bool
  connectionEstablished : Bool
  connectionFailed : Bool
  terminalLeaveCommitted : Bool
  /-- The keepalive timeout is armed. -/
  keepaliveTimer : Bool
  keepaliveSequence : Nat
  expectedPongNonce : Option Nat
  deriving DecidableEq, Repr

def Connection.new (generation : Nat) : Connection :=
  { generation
    readyState := .connecting
    receipt := none
    initialCatalog := false
    requestsComplete := false
    snapshotAccepted := false
    connectionEstablished := false
    connectionFailed := false
    terminalLeaveCommitted := false
    keepaliveTimer := false
    keepaliveSequence := 0
    expectedPongNonce := none }

inductive TimerKind
  | deadline
  | retry
  deriving DecidableEq, Repr

/-- What an armed timeout of a command runs. -/
structure TimerTask where
  kind : TimerKind
  requestId : String
  serial : Nat
  deriving DecidableEq, Repr

/-- The client.  `tickets` are the connection generations that wait for a ticket,
`reconnectTimers` the armed reconnects and `timers` the armed timeouts of commands. -/
structure RoomSocket (Payload Result : Type) where
  socket : Option Connection
  closed : Bool
  reconnectTimer : Nat
  reconnectTimers : List Nat
  reconnectAttempt : Nat
  lastSeq : Nat
  acceptedRoomUid : Option String
  transportReady : Bool
  connectionGeneration : Nat
  tickets : List Nat
  pending : Table String (PendingRoomCommand Payload)
  timers : Table Nat TimerTask
  nextTimer : Nat
  issued : List IssuedCommand
  sent : List Transmission
  settled : List (Settlement Payload Result)

/-- The functions of the page that the client is opened with. -/
structure RoomSocketDependencies (Payload Result : Type) where
  websocketActions : List String
  /-- `validateClientAuthority` accepts the streams and the product surface. -/
  authorityValid : Bool
  /-- `JSON.stringify` of a command frame. -/
  stringify : (requestId action : String) → Payload → String
  /-- The payload of a parsed command frame. -/
  transmittedPayload : String → Payload
  commandAckResultIsValid : (action : String) → Payload → Result → (requestId : String) → Bool

variable {Payload Result : Type}

namespace RoomSocket

/-- The pending request ids in the order in which the `Map` lists them. -/
def pendingIds (s : RoomSocket Payload Result) : List String :=
  (s.pending.rows.insertionSort fun a b => a.2.serial ≤ b.2.serial).map Prod.fst

/-! ### Timers -/

def clearTimeout (timer : Option Nat) (s : RoomSocket Payload Result) :
    RoomSocket Payload Result :=
  match timer with
  | some timer => { s with timers := s.timers.erase timer }
  | none => s

def setTimeout (task : TimerTask) (s : RoomSocket Payload Result) :
    Nat × RoomSocket Payload Result :=
  (s.nextTimer, { s with
    timers := s.timers.insert s.nextTimer task
    nextTimer := s.nextTimer + 1 })

def put (requestId : String) (command : PendingRoomCommand Payload)
    (s : RoomSocket Payload Result) : RoomSocket Payload Result :=
  { s with pending := s.pending.insert requestId command }

/-- Settles a promise whose command leaves the queue, with its timers cleared. -/
def settle (requestId : String) (command : PendingRoomCommand Payload)
    (outcome : CommandOutcome Payload Result) (s : RoomSocket Payload Result) :
    RoomSocket Payload Result :=
  let s := { s with pending := s.pending.erase requestId }
  let s := (s.clearTimeout command.timerId).clearTimeout command.retryTimerId
  { s with settled := s.settled ++ [⟨command.serial, outcome⟩] }

/-! ### Outcomes -/

def unknownOutcomeMessage (action : String) : String :=
  if action = "message.send" then
    "전송 결과를 확인하지 못했어요. 그대로 다시 보내면 같은 요청의 결과를 확인해요. 내용을 바꾸면 새 메시지로 보내요."
  else
    "요청 결과를 확인하지 못했어요. 다시 요청하기 전에 방의 현재 상태를 확인해 주세요."

def unknownOutcome (requestId : String) (command : PendingRoomCommand Payload) :
    CommandOutcome Payload Result :=
  .unknown ⟨unknownOutcomeMessage command.action, "outcome_unknown"⟩
    { action := command.action
      payload := command.payload
      requestId
      roomUid := command.roomUid
      encoded := command.encoded }

def rejectUnknown (requestId : String) (command : PendingRoomCommand Payload)
    (s : RoomSocket Payload Result) : RoomSocket Payload Result :=
  s.settle requestId command (unknownOutcome requestId command)

/-- One round of the loop of `rejectAll`; the final `pending.clear()` removes what it visited. -/
def rejectOne (error : RoomSocketSayError) (s : RoomSocket Payload Result) (requestId : String) :
    RoomSocket Payload Result :=
  match s.pending.lookup requestId with
  | none => s
  | some command =>
      s.settle requestId command
        (if command.everSent then unknownOutcome requestId command else .neverSent error)

def rejectAll (error : RoomSocketSayError) (s : RoomSocket Payload Result) :
    RoomSocket Payload Result :=
  s.pendingIds.foldl (rejectOne error) s

/-! ### Deadlines -/

def armCommandDeadline (requestId : String) (command : PendingRoomCommand Payload)
    (s : RoomSocket Payload Result) : RoomSocket Payload Result :=
  let s := s.clearTimeout command.timerId
  let (timer, s) := s.setTimeout ⟨.deadline, requestId, command.serial⟩
  s.put requestId { command with timerId := some timer }

/-- `currentSocket.close()`: the close event follows later. -/
def closeSocket (s : RoomSocket Payload Result) : RoomSocket Payload Result :=
  { s with socket := s.socket.map fun connection => { connection with readyState := .closing } }

def timedOut : RoomSocketSayError :=
  ⟨"Room command timed out before it could be sent.", "timeout"⟩

/-- Counts an uncertain attempt and gives the command up at the limit. -/
def countUncertain (requestId : String) (command : PendingRoomCommand Payload)
    (generation now : Nat) (s : RoomSocket Payload Result) :
    RoomSocket Payload Result × PendingRoomCommand Payload × UncertainRetryDecision :=
  let (command, decision) := scheduleUncertainCommandRetry command generation now
  let s := s.put requestId command
  (if decision = .exhausted then s.rejectUnknown requestId command else s, command, decision)

def commandDeadline (requestId : String) (serial now : Nat) (s : RoomSocket Payload Result) :
    RoomSocket Payload Result :=
  match s.pending.lookup requestId with
  | none => s
  | some command =>
      if command.serial ≠ serial then s
      else
        let command := { command with timerId := none }
        let s := s.put requestId command
        if command.everSent then
          if command.transmissionPhase = .idle then s.rejectUnknown requestId command
          else (s.countUncertain requestId command s.connectionGeneration now).1.closeSocket
        else
          s.settle requestId command (.neverSent timedOut)

/-! ### Reconnects and failures -/

def scheduleReconnect (generation : Nat) (s : RoomSocket Payload Result) :
    RoomSocket Payload Result :=
  if s.closed ∨ generation ≠ s.connectionGeneration then s
  else
    { s with
      reconnectAttempt := s.reconnectAttempt + 1
      reconnectTimer := s.nextTimer
      reconnectTimers := s.nextTimer :: s.reconnectTimers
      nextTimer := s.nextTimer + 1 }

/-- The part of `connect` before the ticket is awaited. -/
def connect (d : RoomSocketDependencies Payload Result) (s : RoomSocket Payload Result) :
    RoomSocket Payload Result :=
  let s := { s with connectionGeneration := s.connectionGeneration + 1 }
  if d.authorityValid then { s with tickets := s.connectionGeneration :: s.tickets }
  else s.scheduleReconnect s.connectionGeneration

/-- `failConnection` of the current connection: only the first failure counts. -/
def failConnection (s : RoomSocket Payload Result) : RoomSocket Payload Result :=
  match s.socket with
  | none => s
  | some connection =>
      if connection.connectionFailed then s
      else
        { s with socket := some { connection with
            connectionFailed := true
            readyState := .closing } }

/-! ### Keepalive -/

def updateConnection (f : Connection → Connection) (s : RoomSocket Payload Result) :
    RoomSocket Payload Result :=
  { s with socket := s.socket.map f }

/-- The keepalive timeout is armed anew on an open and ready connection. -/
def scheduleKeepalive (s : RoomSocket Payload Result) : RoomSocket Payload Result :=
  s.updateConnection fun connection => { connection with
    keepaliveTimer := decide (connection.readyState = .open) && s.transportReady }

/-- The keepalive timeout; `sends` tells whether the socket takes the ping. -/
def keepalive (sends : Bool) (s : RoomSocket Payload Result) : RoomSocket Payload Result :=
  match s.socket with
  | none => s
  | some connection =>
      if connection.keepaliveTimer = false then s
      else
        let s := s.updateConnection fun connection => { connection with keepaliveTimer := false }
        if connection.expectedPongNonce.isSome then s.failConnection
        else
          let nonce := connection.keepaliveSequence + 1
          let s := s.updateConnection fun connection =>
            { connection with keepaliveSequence := nonce }
          if sends then
            (s.updateConnection fun connection =>
              { connection with expectedPongNonce := some nonce }).scheduleKeepalive
          else s.failConnection

/-! ### Transmission -/

/-- One round of the loop of `sendPendingForConnection`; the flag tells whether it goes on. -/
def sendOne (generation now : Nat) (sends : String → Bool) (requestId : String)
    (s : RoomSocket Payload Result) : RoomSocket Payload Result × Bool :=
  match s.pending.lookup requestId with
  | none => (s, true)
  | some command =>
      if command.transmissionGeneration = generation then (s, true)
      else if now < command.retryNotBefore then
        let s := s.clearTimeout command.retryTimerId
        let (timer, s) := s.setTimeout ⟨.retry, requestId, command.serial⟩
        (s.put requestId { command with retryTimerId := some timer }, true)
      else
        let s := s.clearTimeout command.retryTimerId
        let command := { command with
          retryTimerId := none
          transmissionGeneration := generation
          roomUid := command.roomUid.or s.acceptedRoomUid }
        if sends requestId then
          let transmission : Transmission :=
            ⟨command.serial, generation, command.encoded, s.acceptedRoomUid⟩
          let s := { s with sent := s.sent ++ [transmission] }.scheduleKeepalive
          let command := { command with transmissionPhase := .sent, everSent := true }
          (s.armCommandDeadline requestId command, true)
        else
          ((s.put requestId command).failConnection, false)

def sendEach (generation now : Nat) (sends : String → Bool) :
    List String → RoomSocket Payload Result → RoomSocket Payload Result
  | [], s => s
  | requestId :: rest, s =>
      match sendOne generation now sends requestId s with
      | (s, true) => sendEach generation now sends rest s
      | (s, false) => s

def sendPending (now : Nat) (sends : String → Bool) (s : RoomSocket Payload Result) :
    RoomSocket Payload Result :=
  match s.socket with
  | none => s
  | some connection =>
      if connection.readyState ≠ .open ∨ s.transportReady = false then s
      else sendEach connection.generation now sends s.pendingIds s

/-- The retry timeout of a command: its handle is dropped, and the queue is sent. -/
def retryTimeout (requestId : String) (serial now : Nat) (sends : String → Bool)
    (s : RoomSocket Payload Result) : RoomSocket Payload Result :=
  match s.pending.lookup requestId with
  | none => s.sendPending now sends
  | some command =>
      if command.serial = serial then
        (s.put requestId { command with retryTimerId := none }).sendPending now sends
      else s.sendPending now sends

end RoomSocket

end AgentsAssemble.Browser
