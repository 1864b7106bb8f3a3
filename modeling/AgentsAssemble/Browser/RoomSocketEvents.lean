import AgentsAssemble.Browser.RoomSocket

/-!
# The room socket client: frames, callbacks and commands

Every event the client reacts to: a frame, the callbacks of its socket, a
timeout, a command of the page and the disposal of the handle.
-/

namespace AgentsAssemble.Browser

open Foundation

variable {Payload Result : Type}

namespace RoomSocket

/-! ### Frames -/

/-- A received frame, as the validators of the client classify it. -/
inductive Frame (Result : Type)
  /-- Oversized, malformed, or outside the contract of its kind. -/
  | invalid
  | resyncRequired
  | receipt (catchupHighWater : Nat)
  | providerCatalog
  | providerRequestSnapshot (last : Bool)
  /-- `valid` tells whether the snapshot passes validation and the projection takes it. -/
  | snapshot (roomUid : String) (lastSeq : Nat) (roomValid valid : Bool)
  | event (seqs : List Nat) (latestSeq : Nat)
  | sideChat
  | ack (ack : RoomCommandAck Result)
  | nack (nack : RoomCommandNack)
  | pong (nonce : Nat)
  deriving DecidableEq

/-- The cursor after the events of a frame, with whether any was fresh. -/
def acceptEvents (highWater : Nat) (establishing : Bool) : List Nat → Nat → Bool →
    Option (Nat × Bool)
  | [], nextSeq, fresh => some (nextSeq, fresh)
  | seq :: rest, nextSeq, fresh =>
      if seq ≤ nextSeq then
        if establishing then none else acceptEvents highWater establishing rest nextSeq fresh
      else if seq ≠ nextSeq + 1 then none
      else if establishing ∧ highWater < seq then none
      else acceptEvents highWater establishing rest seq true

/-- `acceptEventFrame`; nothing is returned where it throws. -/
def acceptEventFrame (frame : Frame Result) (highWater : Nat) (establishing : Bool)
    (s : RoomSocket Payload Result) : Option (RoomSocket Payload Result) :=
  match frame with
  | .event seqs latestSeq =>
      match acceptEvents highWater establishing seqs s.lastSeq false with
      | some (nextSeq, true) =>
          if latestSeq = nextSeq then some { s with lastSeq := nextSeq } else none
      | _ => none
  | _ => none

def markReady (now : Nat) (sends : String → Bool) (s : RoomSocket Payload Result) :
    RoomSocket Payload Result :=
  match s.socket with
  | none => s
  | some connection =>
      if connection.readyState ≠ .open ∨ s.transportReady ∨ connection.snapshotAccepted = false ∨
          connection.receipt ≠ some s.lastSeq then s
      else
        let s := { s with
          socket := some { connection with connectionEstablished := true }
          transportReady := true
          reconnectAttempt := 0 }
        s.scheduleKeepalive.sendPending now sends

def roomScopeChanged : RoomSocketSayError :=
  ⟨"The room lifetime changed before pending commands were confirmed.", "room_scope_changed"⟩

/-- The outcome of a frame: the client, and whether an error was thrown. -/
abbrev Processed (Payload Result : Type) := RoomSocket Payload Result × Bool

/-- The snapshot of a connection, before it is accepted. -/
def acceptSnapshot (roomUid : String) (lastSeq : Nat) (roomValid valid : Bool) (now : Nat)
    (sends : String → Bool) (connection : Connection) (s : RoomSocket Payload Result) :
    Processed Payload Result :=
  if connection.readyState ≠ .open then (s, false)
  else if s.acceptedRoomUid.isSome ∧ s.acceptedRoomUid ≠ some roomUid then
    if roomValid then
      -- another room under the same name takes over no pending command and no cursor
      ({ s.rejectAll roomScopeChanged with acceptedRoomUid := some roomUid, lastSeq := 0 }, true)
    else (s, true)
  else if valid then
    let s := { s with acceptedRoomUid := some roomUid, lastSeq }
    let s := s.updateConnection fun connection => { connection with snapshotAccepted := true }
    (s.markReady now sends, false)
  else (s, true)

def processNack (nack : RoomCommandNack) (command : PendingRoomCommand Payload) (now : Nat)
    (connection : Connection) (s : RoomSocket Payload Result) : Processed Payload Result :=
  match nack.error with
  | none => (s, true)
  | some error =>
      if nack.accepted ∨ nack.action ≠ command.action ∨ nack.resolution = .committed then (s, true)
      else if nack.resolution = .unresolved then
        let s := s.clearTimeout command.timerId
        let command := { command with timerId := none }
        let (s, _, decision) := (s.put nack.requestId command).countUncertain nack.requestId command
          connection.generation now
        if decision = .retry then
          (s.updateConnection fun connection =>
            { connection with connectionFailed := true, readyState := .closing }, false)
        else (s, false)
      else (s.settle nack.requestId command (.refused error), false)

def processAck (d : RoomSocketDependencies Payload Result) (ack : RoomCommandAck Result)
    (command : PendingRoomCommand Payload) (s : RoomSocket Payload Result) :
    Processed Payload Result :=
  if ack.accepted = false ∨ ack.resolution ≠ .committed ∨ ack.action ≠ command.action ∨
      d.commandAckResultIsValid command.action command.payload ack.result ack.requestId = false then
    (s, true)
  else
    let s := s.settle ack.requestId command (.resolved ack)
    (if command.action = "participant.leave" then
      s.updateConnection fun connection => { connection with terminalLeaveCommitted := true }
    else s, false)

/-- A frame on an established connection. -/
def processEstablished (d : RoomSocketDependencies Payload Result) (frame : Frame Result)
    (now : Nat) (connection : Connection) (s : RoomSocket Payload Result) :
    Processed Payload Result :=
  match frame with
  | .event _ _ =>
      match s.acceptEventFrame frame (2 ^ 53 - 1) false with
      | some s => (s, false)
      | none => (s, true)
  | .providerCatalog => (s, false)
  | .sideChat => (s, false)
  | .ack ack =>
      match s.pending.lookup ack.requestId with
      | none => (s, true)
      | some command => s.processAck d ack command
  | .nack nack =>
      match s.pending.lookup nack.requestId with
      | none => (s, true)
      | some command => s.processNack nack command now connection
  | .pong nonce =>
      if connection.expectedPongNonce = some nonce then
        (s.updateConnection fun connection => { connection with expectedPongNonce := none }, false)
      else (s, true)
  | _ => (s, true)

def processFrame (d : RoomSocketDependencies Payload Result) (frame : Frame Result) (now : Nat)
    (sends : String → Bool) (connection : Connection) (s : RoomSocket Payload Result) :
    Processed Payload Result :=
  match connection.receipt with
  | none =>
      match frame with
      | .receipt catchupHighWater =>
          if connection.readyState ≠ .open then (s, false)
          else (s.updateConnection fun connection =>
            { connection with receipt := some catchupHighWater }, false)
      | _ => (s, true)
  | some highWater =>
      if connection.initialCatalog = false then
        match frame with
        | .providerCatalog =>
            (s.updateConnection fun connection => { connection with initialCatalog := true }, false)
        | _ => (s, true)
      else if connection.requestsComplete = false then
        match frame with
        | .providerRequestSnapshot last =>
            (s.updateConnection fun connection => { connection with requestsComplete := last },
              false)
        | _ => (s, true)
      else if connection.snapshotAccepted = false then
        match frame with
        | .snapshot roomUid lastSeq roomValid valid =>
            s.acceptSnapshot roomUid lastSeq roomValid valid now sends connection
        | _ => (s, true)
      else if connection.connectionEstablished = false then
        match s.acceptEventFrame frame highWater true with
        | some s => (s.markReady now sends, false)
        | none => (s, true)
      else s.processEstablished d frame now connection

/-! ### Callbacks -/

def onopen (s : RoomSocket Payload Result) : RoomSocket Payload Result :=
  s.updateConnection fun connection =>
    if connection.readyState = .connecting then { connection with readyState := .open }
    else connection

def onmessage (d : RoomSocketDependencies Payload Result) (frame : Frame Result) (now : Nat)
    (sends : String → Bool) (s : RoomSocket Payload Result) : RoomSocket Payload Result :=
  match s.socket with
  | none => s
  | some connection =>
      if connection.connectionFailed ∨
          (connection.connectionEstablished = false ∧ connection.readyState ≠ .open) then s
      else
        match s.processFrame d frame now sends connection with
        | (s, false) => s
        | (s, true) => s.failConnection

/-- What the close of a connection means for one pending command. -/
def closeCommand (generation now : Nat) (s : RoomSocket Payload Result) (requestId : String) :
    RoomSocket Payload Result :=
  match s.pending.lookup requestId with
  | none => s
  | some command =>
      if command.transmissionGeneration ≠ generation ∨ command.transmissionPhase ≠ .sent then s
      else
        let s := s.clearTimeout command.timerId
        let command := { command with timerId := none }
        let (s, command, decision) := (s.put requestId command).countUncertain requestId command
          generation now
        if decision = .exhausted then s
        else s.armCommandDeadline requestId { command with transmissionPhase := .idle }

def onclose (now : Nat) (s : RoomSocket Payload Result) : RoomSocket Payload Result :=
  match s.socket with
  | none => s
  | some connection =>
      let s := { s with socket := none, transportReady := false }
      let s := s.pendingIds.foldl (closeCommand connection.generation now) s
      if connection.terminalLeaveCommitted then s
      else s.scheduleReconnect connection.generation

/-- The ticket of a connection arrives, or its request fails. -/
def ticket (generation : Nat) (issued : Bool) (s : RoomSocket Payload Result) :
    RoomSocket Payload Result :=
  if generation ∉ s.tickets then s
  else
    let s := { s with tickets := s.tickets.erase generation }
    if s.closed ∨ generation ≠ s.connectionGeneration then s
    else if issued then
      { s with socket := some (.new generation), transportReady := false }
    else s.scheduleReconnect generation

/-- A timeout of a command runs; a cleared one never does. -/
def commandTimeout (timer now : Nat) (sends : String → Bool) (s : RoomSocket Payload Result) :
    RoomSocket Payload Result :=
  match s.timers.lookup timer with
  | none => s
  | some task =>
      let s := { s with timers := s.timers.erase timer }
      match task.kind with
      | .deadline => s.commandDeadline task.requestId task.serial now
      | .retry => s.retryTimeout task.requestId task.serial now sends

def reconnectTimeout (d : RoomSocketDependencies Payload Result) (timer : Nat)
    (s : RoomSocket Payload Result) : RoomSocket Payload Result :=
  if timer ∈ s.reconnectTimers then
    { s with reconnectTimers := s.reconnectTimers.erase timer }.connect d
  else s

/-! ### Commands -/

def enqueuePending (requestId action encoded : String) (payload : Payload) (roomUid : Option String)
    (everSent : Bool) (now : Nat) (sends : String → Bool) (s : RoomSocket Payload Result) :
    RoomSocket Payload Result :=
  let waiting : PendingRoomCommand Payload :=
    { serial := s.issued.length
      action
      payload
      encoded
      roomUid
      timerId := none
      retryTimerId := none
      retryAttempt := 0
      retryCountedGeneration := 0
      retryNotBefore := 0
      transmissionGeneration := 0
      transmissionPhase := .idle
      everSent }
  let command : IssuedCommand := ⟨requestId, action, encoded, roomUid⟩
  let s := { s with issued := s.issued ++ [command] }
  ((s.put requestId waiting).armCommandDeadline requestId waiting).sendPending now sends

def say (message category : String) : RoomSocketSayError := ⟨message, category⟩

/-- The checks before a command is enqueued: its request id, or why it is refused at once. -/
def admitCommand (d : RoomSocketDependencies Payload Result) (action : String)
    (requestId : Option String) (s : RoomSocket Payload Result) :
    Except RoomSocketSayError String :=
  if s.closed then .error (say "Room socket is closed." "socket_closed")
  else if action ∉ d.websocketActions then
    .error (say ("Room action " ++ action ++
      " is not present in the bound server product surface.") "surface_action_unavailable")
  else
    match requestId with
    | none => .error (say "Secure request identity is unavailable." "request_id_unavailable")
    | some requestId =>
        if requestId = "" ∨ (s.pending.lookup requestId).isSome then
          .error (say "A response for this request is already pending or has no identity."
            "request_id_conflict")
        else .ok requestId

/-- `enqueueCommand` of a new command; `requestId` is the one it creates or was given. -/
def enqueueCommand (d : RoomSocketDependencies Payload Result) (action : String) (payload : Payload)
    (requestId : Option String) (now : Nat) (sends : String → Bool)
    (s : RoomSocket Payload Result) : Except RoomSocketSayError (RoomSocket Payload Result) := do
  let requestId ← s.admitCommand d action requestId
  let encoded := d.stringify requestId action payload
  pure (s.enqueuePending requestId action encoded (d.transmittedPayload encoded) s.acceptedRoomUid
    false now sends)

/-- The `retry` of an unknown outcome. -/
def replayCommand (d : RoomSocketDependencies Payload Result) (replay : CommandReplay Payload)
    (now : Nat) (sends : String → Bool) (s : RoomSocket Payload Result) :
    Except RoomSocketSayError (RoomSocket Payload Result) := do
  match replay.roomUid with
  | none => .error (say "이전 방의 요청을 현재 방에 다시 보낼 수 없어요." "room_replaced")
  | some roomUid =>
      if roomUid = "" ∨ some roomUid ≠ s.acceptedRoomUid then
        .error (say "이전 방의 요청을 현재 방에 다시 보낼 수 없어요." "room_replaced")
      else do
        let requestId ← s.admitCommand d replay.action (some replay.requestId)
        pure (s.enqueuePending requestId replay.action replay.encoded
          (d.transmittedPayload replay.encoded) (some roomUid) true now sends)

def socketClosed : RoomSocketSayError := ⟨"Room socket closed.", "socket_closed"⟩

/-- `close` of the handle. -/
def dispose (s : RoomSocket Payload Result) : RoomSocket Payload Result :=
  { s with
    closed := true
    connectionGeneration := s.connectionGeneration + 1
    transportReady := false
    socket := none
    reconnectTimers := s.reconnectTimers.erase s.reconnectTimer }.rejectAll socketClosed

end RoomSocket

/-! ## Runs -/

inductive SocketEvent (Payload Result : Type)
  | command (action : String) (payload : Payload) (requestId : Option String)
  | replay (replay : CommandReplay Payload)
  | ticket (generation : Nat) (issued : Bool)
  | opened
  | message (frame : RoomSocket.Frame Result)
  | closed
  | commandTimeout (timer : Nat)
  | reconnectTimeout (timer : Nat)
  | keepaliveTimeout
  | resync
  | dispose

/-- An event at an instant.  The socket takes the bytes of a command where `sends` says so, and
a ping where `pings` does. -/
structure SocketLabel (Payload Result : Type) where
  event : SocketEvent Payload Result
  now : Nat
  sends : String → Bool
  pings : Bool

namespace RoomSocket

/-- The client after an event.  A refused command leaves it as it was. -/
def react (d : RoomSocketDependencies Payload Result) (label : SocketLabel Payload Result)
    (s : RoomSocket Payload Result) : RoomSocket Payload Result :=
  match label.event with
  | .command action payload requestId =>
      (s.enqueueCommand d action payload requestId label.now label.sends).toOption.getD s
  | .replay replay => (s.replayCommand d replay label.now label.sends).toOption.getD s
  | .ticket generation issued => s.ticket generation issued
  | .opened => s.onopen
  | .message frame => s.onmessage d frame label.now label.sends
  | .closed => s.onclose label.now
  | .commandTimeout timer => s.commandTimeout timer label.now label.sends
  | .reconnectTimeout timer => s.reconnectTimeout d timer
  | .keepaliveTimeout => s.keepalive label.pings
  | .resync => s.closeSocket
  | .dispose => s.dispose

/-- The client that `openRoomSocket` returns. -/
def openRoomSocket (d : RoomSocketDependencies Payload Result) : RoomSocket Payload Result :=
  connect d
    { socket := none
      closed := false
      reconnectTimer := 0
      reconnectTimers := []
      reconnectAttempt := 0
      lastSeq := 0
      acceptedRoomUid := none
      transportReady := false
      connectionGeneration := 0
      tickets := []
      pending := ∅
      timers := ∅
      nextTimer := 0
      issued := []
      sent := []
      settled := [] }

/-- One event.  Only an unknown outcome hands out a replay. -/
def Step (d : RoomSocketDependencies Payload Result) (label : SocketLabel Payload Result)
    (s t : RoomSocket Payload Result) : Prop :=
  t = s.react d label ∧ ∀ replay, label.event = .replay replay →
    ∃ settlement ∈ s.settled, ∃ error, settlement.outcome = .unknown error replay

end RoomSocket

end AgentsAssemble.Browser
