import AgentsAssemble.Browser.Answers

/-!
# The room socket client: outcomes

Every command that was enqueued is pending or settled once, and what a pending
command waits for is armed.
-/

namespace AgentsAssemble.Browser

open Foundation

variable {Payload Result : Type}

namespace RoomSocket

variable {s t : RoomSocket Payload Result} {requestId : String}
  {command : PendingRoomCommand Payload} {connection : Connection} {live : Prop} {now : Nat}
  {sends : String → Bool} {d : RoomSocketDependencies Payload Result}

/-! ## New commands -/

/-- A command as it is enqueued. -/
def waiting (s : RoomSocket Payload Result) (action encoded : String) (payload : Payload)
    (roomUid : Option String) (everSent : Bool) : PendingRoomCommand Payload :=
  { serial := s.issued.length
    action
    payload
    encoded
    roomUid
    timerId := none
    retryTimerId := none
    retryAttempt := 0
    retryCountedGeneration := 0
    retryNotBefore := 0
    transmissionGeneration := 0
    transmissionPhase := .idle
    everSent }

theorem Queue.no_rows (h : Queue live [] s) (hclosed : s.closed = true) (id : String) :
    s.pending.lookup id = none := by
  cases hcommand : s.pending.lookup id with
  | none => rfl
  | some command => exact nomatch (h.entries id command hcommand).opened.symm.trans hclosed

theorem Ledger.empty (hissued : s.issued = []) (hsent : s.sent = []) (hsettled : s.settled = [])
    (htimers : ∀ timer, s.timers.lookup timer = none) (hempty : ∀ id, s.pending.lookup id = none) :
    Ledger s fun id => s.pending.lookup id := by
  constructor
  case archive =>
    constructor
    case sentFew =>
      intro serial
      unfold sentCount
      rw [hsent]
      exact Nat.zero_le _
    all_goals simp [hissued, hsent, hsettled]
  case distinct => exact fun id _ _ _ hrow => nomatch (hempty id).symm.trans hrow
  case handles => exact fun id _ _ _ hrow => nomatch (hempty id).symm.trans hrow
  case owned => exact fun timer _ htask => nomatch (htimers timer).symm.trans htask
  case fresh => exact fun timer _ htask => nomatch (htimers timer).symm.trans htask
  case issued => exact fun id _ hrow => nomatch (hempty id).symm.trans hrow
  case apart => exact fun _ _ id _ hrow => nomatch (hempty id).symm.trans hrow
  case covered =>
    rw [hissued]
    exact nofun

structure CommandsKept (s : RoomSocket Payload Result) : Prop where
  settlesOnce : (s.settled.map Settlement.serial).Nodup
  settledOrPending : ∀ serial < s.issued.length,
    (∃ settlement ∈ s.settled, settlement.serial = serial) ↔
      ¬ ∃ requestId command, s.pending.lookup requestId = some command ∧ command.serial = serial
  resolved : ∀ settlement ∈ s.settled, ∀ ack, settlement.outcome = .resolved ack →
    ack.accepted = true ∧ ack.resolution = .committed ∧
      ∃ issue, s.issued[settlement.serial]? = some issue ∧ ack.requestId = issue.requestId ∧
        ack.action = issue.action
  neverSent : ∀ settlement ∈ s.settled, ∀ error, settlement.outcome = .neverSent error →
    ∀ transmission ∈ s.sent, transmission.serial ≠ settlement.serial
  bytes : ∀ transmission ∈ s.sent, ∃ issue, s.issued[transmission.serial]? = some issue ∧
    transmission.bytes = issue.encoded
  oncePerConnection :
    (s.sent.map fun transmission => (transmission.serial, transmission.generation)).Nodup
  transmissions : ∀ serial, s.sentCount serial ≤ uncertainAttemptLimit
  attempts : ∀ requestId command, s.pending.lookup requestId = some command →
    command.retryAttempt < uncertainAttemptLimit
  /-- A command that was bound to a room when it was issued goes out in that room only. -/
  issuedRoom : ∀ transmission ∈ s.sent, ∀ issue, s.issued[transmission.serial]? = some issue →
    ∀ roomUid, issue.roomUid = some roomUid → transmission.roomUid = some roomUid
  /-- A command that was bound by a transmission goes out in the room of that one only. -/
  sentRoom : ∀ first ∈ s.sent, ∀ second ∈ s.sent, first.serial = second.serial →
    first.roomUid ≠ none ∧ first.roomUid = second.roomUid
  pendingRoom : ∀ requestId command, s.pending.lookup requestId = some command →
    ∀ roomUid, command.roomUid = some roomUid → s.acceptedRoomUid = some roomUid
  settledGone : ∀ settlement ∈ s.settled,
    (∀ requestId command, s.pending.lookup requestId = some command →
      command.serial ≠ settlement.serial) ∧
    ∀ timer task, s.timers.lookup timer = some task → task.serial ≠ settlement.serial
  disposed : s.closed = true → ∀ requestId, s.pending.lookup requestId = none

theorem Sound.kept (h : Sound live s) : CommandsKept s := by
  have hledger := h.queue.ledger
  have harchive := hledger.archive
  constructor
  case settlesOnce => exact harchive.settledOnce
  case settledOrPending =>
    intro serial hlt
    constructor
    · rintro ⟨settlement, hmem, rfl⟩ ⟨id, command, hcommand, hserial⟩
      exact hledger.apart settlement hmem id command hcommand hserial
    · intro hnot
      exact (hledger.covered serial hlt).resolve_left hnot
  case resolved =>
    intro settlement hmem ack houtcome
    have hsound := harchive.outcomes settlement hmem
    unfold OutcomeSound at hsound
    rwa [houtcome] at hsound
  case neverSent =>
    intro settlement hmem error houtcome
    have hsound := harchive.outcomes settlement hmem
    unfold OutcomeSound at hsound
    rwa [houtcome] at hsound
  case bytes =>
    intro transmission hmem
    obtain ⟨issue, hget, hbytes, -⟩ := harchive.sentSound transmission hmem
    exact ⟨issue, hget, hbytes⟩
  case oncePerConnection => exact harchive.sentOnce
  case transmissions => exact harchive.sentFew
  case attempts => exact fun id command hcommand => (h.queue.entries id command hcommand).limit
  case issuedRoom =>
    intro transmission hmem issue hget
    obtain ⟨issue', hget', -, -, hroom⟩ := harchive.sentSound transmission hmem
    obtain rfl := Option.some.inj (hget.symm.trans hget')
    exact hroom
  case sentRoom =>
    intro first hfirst second hsecond hsame
    obtain ⟨-, -, -, hsome, -⟩ := harchive.sentSound first hfirst
    exact ⟨hsome, harchive.sentRoom first hfirst second hsecond hsame⟩
  case pendingRoom => exact fun id command hcommand => (h.queue.entries id command hcommand).room
  case settledGone =>
    intro settlement hmem
    refine ⟨hledger.apart settlement hmem, fun timer task htask hsame => ?_⟩
    obtain ⟨command, hcommand, hserial, -⟩ := hledger.owned timer task htask
    exact hledger.apart settlement hmem _ _ hcommand (hserial.trans hsame)
  case disposed => exact fun hclosed id => h.queue.no_rows hclosed id

namespace Sample

abbrev Client := RoomSocket Unit Unit
abbrev Label := SocketLabel Unit Unit

def page : RoomSocketDependencies Unit Unit :=
  { websocketActions := ["message.send", "participant.leave"]
    authorityValid := true
    stringify := fun requestId action _ => requestId ++ action
    transmittedPayload := fun _ => ()
    commandAckResultIsValid := fun _ _ _ _ => true }

/-- An event at the instant zero; the socket takes what it is given. -/
def event (event : SocketEvent Unit Unit) : Label := ⟨event, 0, fun _ => true, true⟩

/-- A connection gets its ticket and completes its handshake. -/
def handshake (generation : Nat) : List Label :=
  [event (.ticket generation true), event .opened, event (.message (.receipt 0)),
    event (.message .providerCatalog), event (.message (.providerRequestSnapshot true)),
    event (.message (.snapshot "room" 0 true true))]

/-- A message is sent, and its connection closes before the answer. -/
def uncertain : List Label :=
  handshake 1 ++ [event (.command "message.send" () (some "message")), event .closed]

def unresolved : RoomCommandNack :=
  ⟨"message", "message.send", false, .unresolved, some ⟨"unavailable", "unavailable"⟩⟩

def after (labels : List Label) : Client :=
  labels.foldl (fun s label => s.react page label) (openRoomSocket page)

/-- Events that hand out no replay and carry no answer. -/
def Quiet (label : Label) : Bool :=
  match label.event with
  | .replay _ | .message (.ack _) | .message (.nack _) => false
  | _ => true

end Sample

end RoomSocket

end AgentsAssemble.Browser
