import AgentsAssemble.Browser.Queue

/-!
# The room socket client: pending commands

What a pending command knows about itself, and what keeps it going: a deadline,
the close of the connection that carries it, or a connection that is still to
send it.  A command is held while it is worked on, and put back or settled.
-/

namespace AgentsAssemble.Browser

open Foundation

variable {Payload Result : Type}

namespace RoomSocket

variable {s t u : RoomSocket Payload Result} {requestId : String}
  {command command' : PendingRoomCommand Payload}

/-! ## Progress -/

/-- The current connection has no future: it is closing or gone, and no ticket is awaited. -/
structure Spent (s : RoomSocket Payload Result) : Prop where
  closing : ∀ connection, s.socket = some connection → connection.readyState = .closing
  unissued : s.connectionGeneration ∉ s.tickets

/-- The close callback of the current connection is to follow. -/
def Closing (s : RoomSocket Payload Result) : Prop :=
  ∃ connection, s.socket = some connection ∧ connection.readyState = .closing

/-- The close of the current connection is followed by a reconnect. -/
def Stays (s : RoomSocket Payload Result) : Prop :=
  ∀ connection, s.socket = some connection → connection.terminalLeaveCommitted = false

/-- A connection is still to send the command. -/
def Reaches (s : RoomSocket Payload Result) (command : PendingRoomCommand Payload) : Prop :=
  match s.socket with
  | some connection => connection.terminalLeaveCommitted = false ∧
      (connection.readyState = .closing ∨ s.transportReady = false ∨ command.retryTimerId ≠ none)
  | none => s.reconnectTimers ≠ [] ∨ s.connectionGeneration ∈ s.tickets

/-- A timeout, a callback or a reconnect is to make progress on the command. -/
def Armed (s : RoomSocket Payload Result) (command : PendingRoomCommand Payload) : Prop :=
  command.timerId ≠ none ∨ (command.transmissionPhase = .sent ∧ s.Closing) ∨ s.Reaches command

/-- The command makes progress, or the round of transmissions is still to come to it. -/
def Awaits (todo : List String) (s : RoomSocket Payload Result) (requestId : String)
    (command : PendingRoomCommand Payload) : Prop :=
  s.Armed command ∨
    requestId ∈ todo ∧ s.Stays ∧ command.transmissionGeneration ≠ s.connectionGeneration

/-! ## Entries -/

/-- An attempt that may still be counted as uncertain. -/
def outstanding (command : PendingRoomCommand Payload) : Nat :=
  if command.transmissionPhase = .sent ∧
      command.retryCountedGeneration ≠ command.transmissionGeneration then 1
  else 0

theorem outstanding_le : outstanding command ≤ 1 := by
  unfold outstanding
  split <;> omega

/-- A pending command agrees with the rest of the client. -/
structure Entry (s : RoomSocket Payload Result) (requestId : String)
    (command : PendingRoomCommand Payload) : Prop where
  opened : s.closed = false
  issued : ∃ issue, s.issued[command.serial]? = some issue ∧ issue.requestId = requestId ∧
    issue.action = command.action ∧ issue.encoded = command.encoded ∧
    ∀ roomUid, issue.roomUid = some roomUid → command.roomUid = some roomUid
  room : ∀ roomUid, command.roomUid = some roomUid → s.acceptedRoomUid = some roomUid
  generation : command.transmissionGeneration ≤ s.connectionGeneration
  counted : command.retryCountedGeneration ≤ s.connectionGeneration
  spent : command.retryCountedGeneration = s.connectionGeneration → s.Spent
  tried : command.transmissionGeneration = s.connectionGeneration →
    command.transmissionPhase = .idle → s.Spent
  sent : command.transmissionPhase = .sent →
    command.transmissionGeneration = s.connectionGeneration ∧ command.everSent = true ∧
      s.socket ≠ none ∧ s.transportReady = true
  retrying : command.retryTimerId ≠ none →
    command.transmissionGeneration ≠ s.connectionGeneration
  before : ∀ transmission ∈ s.sent, transmission.serial = command.serial →
    command.everSent = true ∧ transmission.generation ≤ command.transmissionGeneration ∧
      command.roomUid = transmission.roomUid
  attempts : s.sentCount command.serial ≤ command.retryAttempt + outstanding command
  limit : command.retryAttempt < uncertainAttemptLimit

/-- What was issued under a request id can be sent again as it was. -/
theorem Entry.unknown_sound (h : Entry s requestId command) :
    OutcomeSound s ⟨command.serial, unknownOutcome requestId command⟩ := by
  obtain ⟨issue, hget, hid, haction, hencoded, -⟩ := h.issued
  exact ⟨issue, hget, hid.symm, haction.symm, hencoded.symm⟩

/-- The part of the client that the entry of a pending command depends on. -/
structure Setting (s t : RoomSocket Payload Result) : Prop where
  closed : t.closed = s.closed
  issued : t.issued = s.issued
  room : t.acceptedRoomUid = s.acceptedRoomUid
  generation : t.connectionGeneration = s.connectionGeneration
  sent : t.sent = s.sent
  ready : t.transportReady = s.transportReady
  socket : s.socket ≠ none → t.socket ≠ none
  spent : s.Spent → t.Spent

/-- The part of the client that a pending command depends on, with what keeps it going. -/
structure Context (s t : RoomSocket Payload Result) : Prop extends Setting s t where
  stays : s.Stays → t.Stays
  armed : ∀ command, s.Armed command → t.Armed command

/-- What the connections of the client are, and where it looks for the next one. -/
structure Still (s t : RoomSocket Payload Result) : Prop where
  socket : t.socket = s.socket
  closed : t.closed = s.closed
  reconnectTimer : t.reconnectTimer = s.reconnectTimer
  reconnectTimers : t.reconnectTimers = s.reconnectTimers
  room : t.acceptedRoomUid = s.acceptedRoomUid
  ready : t.transportReady = s.transportReady
  generation : t.connectionGeneration = s.connectionGeneration
  tickets : t.tickets = s.tickets

theorem Still.refl (s : RoomSocket Payload Result) : Still s s :=
  ⟨rfl, rfl, rfl, rfl, rfl, rfl, rfl, rfl⟩

theorem Still.trans (h : Still s t) (h' : Still t u) : Still s u where
  socket := h'.socket.trans h.socket
  closed := h'.closed.trans h.closed
  reconnectTimer := h'.reconnectTimer.trans h.reconnectTimer
  reconnectTimers := h'.reconnectTimers.trans h.reconnectTimers
  room := h'.room.trans h.room
  ready := h'.ready.trans h.ready
  generation := h'.generation.trans h.generation
  tickets := h'.tickets.trans h.tickets

theorem Still.spent (h : Still s t) (hspent : s.Spent) : t.Spent where
  closing connection hsocket := hspent.closing connection (h.socket ▸ hsocket)
  unissued := by
    rw [h.generation, h.tickets]
    exact hspent.unissued

theorem Still.armed (h : Still s t) (harmed : s.Armed command) : t.Armed command := by
  unfold Armed Closing Reaches at harmed ⊢
  rw [h.socket, h.ready, h.reconnectTimers, h.generation, h.tickets]
  exact harmed

theorem Still.context (h : Still s t) (hissued : t.issued = s.issued) (hsent : t.sent = s.sent) :
    Context s t where
  closed := h.closed
  issued := hissued
  room := h.room
  generation := h.generation
  sent := hsent
  ready := h.ready
  socket := by
    rw [h.socket]
    exact id
  spent := h.spent
  stays hstays connection hsocket := hstays connection (h.socket ▸ hsocket)
  armed _ := h.armed

theorem Context.trans (h : Context s t) (h' : Context t u) : Context s u where
  closed := h'.closed.trans h.closed
  issued := h'.issued.trans h.issued
  room := h'.room.trans h.room
  generation := h'.generation.trans h.generation
  sent := h'.sent.trans h.sent
  ready := h'.ready.trans h.ready
  socket hsocket := h'.socket (h.socket hsocket)
  spent hspent := h'.spent (h.spent hspent)
  stays hstays := h'.stays (h.stays hstays)
  armed command harmed := h'.armed command (h.armed command harmed)

theorem Context.awaits {todo : List String} (h : Context s t)
    (hawaits : s.Awaits todo requestId command) : t.Awaits todo requestId command := by
  rcases hawaits with harmed | ⟨hmem, hstays, hdiffers⟩
  · exact Or.inl (h.armed command harmed)
  · exact Or.inr ⟨hmem, h.stays hstays, h.generation ▸ hdiffers⟩

theorem Entry.setting (h : Entry s requestId command) (hcontext : Setting s t) :
    Entry t requestId command where
  opened := hcontext.closed ▸ h.opened
  issued := hcontext.issued ▸ h.issued
  room := hcontext.room ▸ h.room
  generation := hcontext.generation ▸ h.generation
  counted := hcontext.generation ▸ h.counted
  spent hcounted := hcontext.spent (h.spent (hcontext.generation ▸ hcounted))
  tried htried hidle := hcontext.spent (h.tried (hcontext.generation ▸ htried) hidle)
  sent hsent := by
    obtain ⟨hgeneration, hever, hsocket, hready⟩ := h.sent hsent
    exact ⟨hcontext.generation ▸ hgeneration, hever, hcontext.socket hsocket,
      hcontext.ready ▸ hready⟩
  retrying := hcontext.generation ▸ h.retrying
  before := hcontext.sent ▸ h.before
  attempts := by
    unfold sentCount
    rw [hcontext.sent]
    exact h.attempts
  limit := h.limit

theorem Entry.frame (h : Entry s requestId command) (hcontext : Context s t) :
    Entry t requestId command :=
  h.setting hcontext.toSetting

/-- The deadline of a command has no part in its entry. -/
theorem Entry.deadline (h : Entry s requestId command) (timer : Option Nat) :
    Entry s requestId { command with timerId := timer } :=
  ⟨h.opened, h.issued, h.room, h.generation, h.counted, h.spent, h.tried, h.sent, h.retrying,
    h.before, h.attempts, h.limit⟩

/-- A retry timeout belongs to a command that its connection has not carried. -/
theorem Entry.retry (h : Entry s requestId command) (timer : Option Nat)
    (hdiffers : timer ≠ none → command.transmissionGeneration ≠ s.connectionGeneration) :
    Entry s requestId { command with retryTimerId := timer } :=
  ⟨h.opened, h.issued, h.room, h.generation, h.counted, h.spent, h.tried, h.sent, hdiffers,
    h.before, h.attempts, h.limit⟩

/-- An attempt is counted as uncertain on a connection that has no future. -/
theorem Entry.count (h : Entry s requestId command) (hspent : s.Spent) (notBefore : Nat)
    (hlimit : command.retryAttempt + 1 < uncertainAttemptLimit) :
    Entry s requestId { command with
      retryAttempt := command.retryAttempt + 1
      retryCountedGeneration := s.connectionGeneration
      retryNotBefore := notBefore } where
  opened := h.opened
  issued := h.issued
  room := h.room
  generation := h.generation
  counted := le_refl _
  spent _ := hspent
  tried := h.tried
  sent := h.sent
  retrying := h.retrying
  before := h.before
  attempts := by
    have hattempts := h.attempts
    have hle : outstanding command ≤ 1 := outstanding_le
    show s.sentCount command.serial ≤ command.retryAttempt + 1 + _
    omega
  limit := hlimit

/-- The transmission of a counted command is over. -/
theorem Entry.idle (h : Entry s requestId command) (hspent : s.Spent)
    (hcounted : command.retryCountedGeneration = command.transmissionGeneration) :
    Entry s requestId { command with transmissionPhase := .idle } where
  opened := h.opened
  issued := h.issued
  room := h.room
  generation := h.generation
  counted := h.counted
  spent := h.spent
  tried _ _ := hspent
  sent := nofun
  retrying := h.retrying
  before := h.before
  attempts := by
    have hattempts := h.attempts
    have hzero : outstanding command = 0 := if_neg fun hboth => hboth.2 hcounted
    rw [hzero] at hattempts
    exact Nat.le_trans hattempts (Nat.le_add_right _ _)
  limit := h.limit

/-! ## Primitive operations -/

theorem clearTimeout_still (timer : Option Nat) : Still s (s.clearTimeout timer) := by
  cases timer <;> exact ⟨rfl, rfl, rfl, rfl, rfl, rfl, rfl, rfl⟩

theorem clearTimeout_context (timer : Option Nat) : Context s (s.clearTimeout timer) := by
  refine (clearTimeout_still timer).context ?_ ?_ <;> cases timer <;> rfl

theorem clearTimeout_pending (timer : Option Nat) : (s.clearTimeout timer).pending = s.pending := by
  cases timer <;> rfl

theorem clearTimeout_nextTimer (timer : Option Nat) :
    (s.clearTimeout timer).nextTimer = s.nextTimer := by
  cases timer <;> rfl

theorem setTimeout_still (task : TimerTask) : Still s (s.setTimeout task).2 :=
  ⟨rfl, rfl, rfl, rfl, rfl, rfl, rfl, rfl⟩

theorem setTimeout_context (task : TimerTask) : Context s (s.setTimeout task).2 :=
  (setTimeout_still task).context rfl rfl

theorem put_still (requestId : String) (command : PendingRoomCommand Payload) :
    Still s (s.put requestId command) :=
  ⟨rfl, rfl, rfl, rfl, rfl, rfl, rfl, rfl⟩

theorem put_context (requestId : String) (command : PendingRoomCommand Payload) :
    Context s (s.put requestId command) :=
  (put_still requestId command).context rfl rfl

theorem put_put : (s.put requestId command).put requestId command' = s.put requestId command' := by
  unfold put
  dsimp only
  rw [AList.insert_insert]

theorem settle_still (outcome : CommandOutcome Payload Result) :
    Still s (s.settle requestId command outcome) := by
  unfold settle
  cases command.timerId <;> cases command.retryTimerId <;>
    exact ⟨rfl, rfl, rfl, rfl, rfl, rfl, rfl, rfl⟩

theorem settle_pending (outcome : CommandOutcome Payload Result) :
    (s.settle requestId command outcome).pending = s.pending.erase requestId := by
  unfold settle
  dsimp only
  rw [clearTimeout_pending, clearTimeout_pending]

/-! ## The queue, and a command held out of it -/

structure Queue (live : Prop) (todo : List String) (s : RoomSocket Payload Result) : Prop where
  ledger : Ledger s fun id => s.pending.lookup id
  entries : ∀ id command, s.pending.lookup id = some command → Entry s id command
  awaits : live → ∀ id command, s.pending.lookup id = some command → s.Awaits todo id command

/-- The client is sound but for the row of `requestId`, which is to be `command`. -/
structure Held (live : Prop) (todo : List String) (s : RoomSocket Payload Result)
    (requestId : String) (command : PendingRoomCommand Payload) : Prop where
  ledger : Ledger s (Function.update (fun id => s.pending.lookup id) requestId (some command))
  entries : ∀ id other, id ≠ requestId → s.pending.lookup id = some other → Entry s id other
  awaits : live → ∀ id other, id ≠ requestId → s.pending.lookup id = some other →
    s.Awaits todo id other

variable {live : Prop} {todo : List String}

theorem Queue.hold (h : Queue live todo s) (hcommand : s.pending.lookup requestId = some command) :
    Held live todo s requestId command where
  ledger := by
    rw [← hcommand, Function.update_eq_self requestId fun id => s.pending.lookup id]
    exact h.ledger
  entries id other _ := h.entries id other
  awaits hlive id other _ := h.awaits hlive id other

theorem Queue.frame (h : Queue live todo s) (hcontext : Context s t)
    (hpending : t.pending = s.pending) (htimers : t.timers = s.timers)
    (hnext : t.nextTimer = s.nextTimer) (hsettled : t.settled = s.settled) :
    Queue live todo t where
  ledger := hpending ▸ h.ledger.congr htimers hnext hsettled hcontext.issued hcontext.sent
  entries id command hcommand := (h.entries id command (hpending ▸ hcommand)).frame hcontext
  awaits hlive id command hcommand :=
    hcontext.awaits (h.awaits hlive id command (hpending ▸ hcommand))

theorem Held.frame (h : Held live todo s requestId command) (hcontext : Context s t)
    (hpending : t.pending = s.pending) (htimers : t.timers = s.timers)
    (hnext : t.nextTimer = s.nextTimer) (hsettled : t.settled = s.settled) :
    Held live todo t requestId command where
  ledger := hpending ▸ h.ledger.congr htimers hnext hsettled hcontext.issued hcontext.sent
  entries id other hne hother := (h.entries id other hne (hpending ▸ hother)).frame hcontext
  awaits hlive id other hne hother :=
    hcontext.awaits (h.awaits hlive id other hne (hpending ▸ hother))

/-- The held command is visited: the round goes on with the others. -/
theorem Held.visited (h : Held live (requestId :: todo) s requestId command) :
    Held live todo s requestId command where
  ledger := h.ledger
  entries := h.entries
  awaits hlive id other hne hother := by
    rcases h.awaits hlive id other hne hother with harmed | ⟨hmem, hrest⟩
    · exact Or.inl harmed
    · exact Or.inr ⟨(List.mem_cons.mp hmem).resolve_left hne, hrest⟩

theorem Held.overwrite (h : Held live todo s requestId command)
    (row : PendingRoomCommand Payload) :
    Held live todo (s.put requestId row) requestId command := by
  have hoff : ∀ {id}, id ≠ requestId →
      (s.put requestId row).pending.lookup id = s.pending.lookup id := AList.lookup_insert_ne
  have hrows : Function.update (fun id => (s.put requestId row).pending.lookup id) requestId
      (some command) = Function.update (fun id => s.pending.lookup id) requestId (some command) := by
    funext id
    by_cases hid : id = requestId
    · rw [hid, Function.update_self, Function.update_self]
    · rw [Function.update_of_ne hid, Function.update_of_ne hid, hoff hid]
  constructor
  case ledger =>
    rw [hrows]
    exact h.ledger.congr rfl rfl rfl rfl rfl
  case entries =>
    intro id other hne hother
    rw [hoff hne] at hother
    exact (h.entries id other hne hother).frame (put_context _ _)
  case awaits =>
    intro hlive id other hne hother
    rw [hoff hne] at hother
    exact (put_context _ _).awaits (h.awaits hlive id other hne hother)

theorem Held.put (h : Held live todo s requestId command) (hentry : Entry s requestId command)
    (hawaits : live → s.Awaits todo requestId command) :
    Queue live todo (s.put requestId command) := by
  have hoff : ∀ {id}, id ≠ requestId →
      (s.put requestId command).pending.lookup id = s.pending.lookup id := AList.lookup_insert_ne
  have hat : (s.put requestId command).pending.lookup requestId = some command :=
    AList.lookup_insert _
  have hrows : (fun id => (s.put requestId command).pending.lookup id) =
      Function.update (fun id => s.pending.lookup id) requestId (some command) := by
    funext id
    by_cases hid : id = requestId
    · rw [hid, Function.update_self, hat]
    · rw [Function.update_of_ne hid, hoff hid]
  constructor
  case ledger =>
    rw [hrows]
    exact h.ledger.congr rfl rfl rfl rfl rfl
  case entries =>
    intro id other hother
    by_cases hid : id = requestId
    · subst hid
      obtain rfl := Option.some.inj (hat.symm.trans hother)
      exact hentry.frame (put_context _ _)
    · rw [hoff hid] at hother
      exact (h.entries id other hid hother).frame (put_context _ _)
  case awaits =>
    intro hlive id other hother
    by_cases hid : id = requestId
    · subst hid
      obtain rfl := Option.some.inj (hat.symm.trans hother)
      exact (put_context _ _).awaits (hawaits hlive)
    · rw [hoff hid] at hother
      exact (put_context _ _).awaits (h.awaits hlive id other hid hother)

theorem Held.edit (h : Held live todo s requestId command)
    (command' : PendingRoomCommand Payload) (hserial : command'.serial = command.serial)
    (hhandles : command'.handle = command.handle) :
    Held live todo s requestId command' where
  ledger := by
    have hledger := h.ledger.edit (Function.update_self ..) hserial hhandles
    rwa [Function.update_idem] at hledger
  entries := h.entries
  awaits := h.awaits

theorem Held.clear (h : Held live todo s requestId command) (kind : TimerKind) :
    Held live todo (s.clearTimeout (command.handle kind)) requestId
      (command.withHandle kind none) where
  ledger := by
    have hledger := h.ledger.clear (Function.update_self ..) kind
    rw [Function.update_idem] at hledger
    rwa [clearTimeout_pending]
  entries id other hne hother := by
    rw [clearTimeout_pending] at hother
    exact (h.entries id other hne hother).frame (clearTimeout_context _)
  awaits hlive id other hne hother := by
    rw [clearTimeout_pending] at hother
    exact (clearTimeout_context _).awaits (h.awaits hlive id other hne hother)

theorem Held.set (h : Held live todo s requestId command) (kind : TimerKind)
    (hclear : command.handle kind = none) :
    Held live todo (s.setTimeout ⟨kind, requestId, command.serial⟩).2 requestId
      (command.withHandle kind (some s.nextTimer)) where
  ledger := by
    have hledger := h.ledger.set (Function.update_self ..) hclear
    rwa [Function.update_idem] at hledger
  entries id other hne hother := (h.entries id other hne hother).frame (setTimeout_context _)
  awaits hlive id other hne hother :=
    (setTimeout_context _).awaits (h.awaits hlive id other hne hother)

/-- The row of a held command is dropped. -/
theorem Held.erase (h : Held live todo s requestId command) :
    Held live todo { s with pending := s.pending.erase requestId } requestId command := by
  have hoff : ∀ {id}, id ≠ requestId →
      (s.pending.erase requestId).lookup id = s.pending.lookup id := AList.lookup_erase_ne
  have hcontext : Context s { s with pending := s.pending.erase requestId } :=
    Still.context ⟨rfl, rfl, rfl, rfl, rfl, rfl, rfl, rfl⟩ rfl rfl
  have hrows : Function.update (fun id => (s.pending.erase requestId).lookup id) requestId
      (some command) = Function.update (fun id => s.pending.lookup id) requestId (some command) := by
    funext id
    by_cases hid : id = requestId
    · rw [hid, Function.update_self, Function.update_self]
    · rw [Function.update_of_ne hid, Function.update_of_ne hid, hoff hid]
  constructor
  case ledger =>
    rw [hrows]
    exact h.ledger.congr rfl rfl rfl rfl rfl
  case entries =>
    intro id other hne hother
    rw [hoff hne] at hother
    exact (h.entries id other hne hother).frame hcontext
  case awaits =>
    intro hlive id other hne hother
    rw [hoff hne] at hother
    exact hcontext.awaits (h.awaits hlive id other hne hother)

/-- A held command settles with its timeouts cleared. -/
theorem Held.settle (h : Held live todo s requestId command)
    {outcome : CommandOutcome Payload Result}
    (hsound : OutcomeSound s ⟨command.serial, outcome⟩) :
    Queue live todo (s.settle requestId command outcome) := by
  have hcontext : Context s (s.settle requestId command outcome) := by
    refine (settle_still outcome).context ?_ ?_ <;> unfold RoomSocket.settle <;>
      cases command.timerId <;> cases command.retryTimerId <;> rfl
  have hcases : ∀ {id other}, (s.settle requestId command outcome).pending.lookup id = some other →
      id ≠ requestId ∧ s.pending.lookup id = some other := by
    intro id other hother
    rw [settle_pending, Table.lookup_erase_ite] at hother
    split at hother
    · exact nomatch hother
    · next hne => exact ⟨hne, hother⟩
  constructor
  case ledger =>
    have hcleared := (h.erase.clear .deadline).clear .retry
    have hsound' := hsound.congr (t := ((({ s with pending := s.pending.erase requestId } :
      RoomSocket Payload Result).clearTimeout command.timerId).clearTimeout command.retryTimerId))
        (by rw [(clearTimeout_context _).issued, (clearTimeout_context _).issued])
        (by rw [(clearTimeout_context _).sent, (clearTimeout_context _).sent])
    have hledger := hcleared.ledger.settle (Function.update_self ..)
      (fun kind => by cases kind <;> rfl) hsound'
    rw [Function.update_idem] at hledger
    have hrows : (fun id => (s.settle requestId command outcome).pending.lookup id) =
        Function.update (fun id => (s.settle requestId command outcome).pending.lookup id)
          requestId none := by
      funext id
      by_cases hid : id = requestId
      · rw [hid, Function.update_self, settle_pending, AList.lookup_erase]
      · rw [Function.update_of_ne hid]
    rw [hrows]
    exact hledger
  case entries =>
    intro id other hother
    obtain ⟨hne, hold⟩ := hcases hother
    exact (h.entries id other hne hold).frame hcontext
  case awaits =>
    intro hlive id other hother
    obtain ⟨hne, hold⟩ := hcases hother
    exact hcontext.awaits (h.awaits hlive id other hne hold)

theorem Held.rejectUnknown (h : Held live todo s requestId command)
    (hentry : Entry s requestId command) :
    Queue live todo (s.rejectUnknown requestId command) :=
  h.settle hentry.unknown_sound

/-- A held command is put back with a fresh deadline. -/
theorem Held.arm (h : Held live todo s requestId command) (hentry : Entry s requestId command) :
    Queue live todo (s.armCommandDeadline requestId command) := by
  have hset := (h.clear .deadline).set .deadline rfl
  have hcontext := (clearTimeout_context (s := s) (command.handle .deadline)).trans
    (setTimeout_context ⟨.deadline, requestId, (command.withHandle .deadline none).serial⟩)
  exact hset.put ((hentry.deadline _).frame hcontext) fun _ => Or.inl (Or.inl (Option.some_ne_none _))

end RoomSocket

end AgentsAssemble.Browser
