import AgentsAssemble.Browser.Commands

/-!
# The room socket client: transmissions

The connection the client holds, and the round that sends the queue over it.
-/

namespace AgentsAssemble.Browser

open Foundation

variable {Payload Result : Type}

namespace RoomSocket

variable {s t : RoomSocket Payload Result} {requestId : String}
  {command : PendingRoomCommand Payload} {connection : Connection} {live : Prop}
  {todo : List String}

/-! ## The connection -/

/-- There is one connection at a time, and its room is the accepted one. -/
structure Link (s : RoomSocket Payload Result) : Prop where
  current : ∀ connection, s.socket = some connection → connection.generation = s.connectionGeneration
  unissued : s.socket ≠ none → s.connectionGeneration ∉ s.tickets
  bounded : ∀ generation ∈ s.tickets, generation ≤ s.connectionGeneration
  nodup : s.tickets.Nodup
  single : s.reconnectTimers = [] ∨ s.reconnectTimers = [s.reconnectTimer] ∧ s.socket = none ∧
    s.connectionGeneration ∉ s.tickets
  ready : s.transportReady = true → s.acceptedRoomUid ≠ none ∧
    ∃ connection, s.socket = some connection ∧ connection.readyState ≠ .connecting
  snapshot : ∀ connection, s.socket = some connection → connection.snapshotAccepted = true →
    s.acceptedRoomUid ≠ none
  failed : ∀ connection, s.socket = some connection → connection.connectionFailed = true →
    connection.readyState = .closing
  positive : 0 < s.connectionGeneration
  disposed : s.closed = true → s.socket = none

theorem Link.still (h : Link s) (hstill : Still s t) : Link t where
  current := by
    rw [hstill.socket, hstill.generation]
    exact h.current
  unissued := by
    rw [hstill.socket, hstill.generation, hstill.tickets]
    exact h.unissued
  bounded := by
    rw [hstill.generation, hstill.tickets]
    exact h.bounded
  nodup := by
    rw [hstill.tickets]
    exact h.nodup
  single := by
    rw [hstill.reconnectTimers, hstill.reconnectTimer, hstill.socket, hstill.generation,
      hstill.tickets]
    exact h.single
  ready := by
    rw [hstill.ready, hstill.room, hstill.socket]
    exact h.ready
  snapshot := by
    rw [hstill.socket, hstill.room]
    exact h.snapshot
  failed := by
    rw [hstill.socket]
    exact h.failed
  positive := by
    rw [hstill.generation]
    exact h.positive
  disposed := by
    rw [hstill.closed, hstill.socket]
    exact h.disposed

/-- A change of the connection that may close it, and does not reopen it. -/
structure Mild (f : Connection → Connection) : Prop where
  generation : ∀ connection, (f connection).generation = connection.generation
  closing : ∀ connection, connection.readyState = .closing → (f connection).readyState = .closing
  connecting : ∀ connection, (f connection).readyState = .connecting →
    connection.readyState = .connecting
  failed : ∀ connection, (f connection).connectionFailed = true →
    connection.connectionFailed = true ∨ (f connection).readyState = .closing

/-- A change of the connection after whose close the client reconnects as before. -/
structure Gentle (f : Connection → Connection) : Prop extends Mild f where
  leave : ∀ connection,
    (f connection).terminalLeaveCommitted = connection.terminalLeaveCommitted

/-- A change of the connection that leaves its place in the handshake alone. -/
structure Harmless (f : Connection → Connection) : Prop extends Gentle f where
  snapshot : ∀ connection, (f connection).snapshotAccepted = connection.snapshotAccepted

variable {f : Connection → Connection}

theorem updateConnection_some (hsocket : s.socket = some connection) :
    (s.updateConnection f).socket = some (f connection) := by
  unfold updateConnection
  rw [hsocket]
  rfl

theorem updateConnection_inv {updated : Connection}
    (h : (s.updateConnection f).socket = some updated) :
    ∃ connection, s.socket = some connection ∧ updated = f connection := by
  unfold updateConnection at h
  obtain ⟨connection, hsocket, rfl⟩ := Option.map_eq_some_iff.mp h
  exact ⟨connection, hsocket, rfl⟩

theorem updateConnection_none : (s.updateConnection f).socket = none ↔ s.socket = none :=
  Option.map_eq_none_iff

theorem Link.mild (h : Link s) (hf : Mild f)
    (haccepted : ∀ connection, (f connection).snapshotAccepted = true →
      connection.snapshotAccepted = true ∨ s.acceptedRoomUid ≠ none) :
    Link (s.updateConnection f) where
  current updated hsocket := by
    obtain ⟨connection, hold, rfl⟩ := updateConnection_inv hsocket
    rw [hf.generation]
    exact h.current connection hold
  unissued hsocket := h.unissued fun hnone => hsocket (updateConnection_none.mpr hnone)
  bounded := h.bounded
  nodup := h.nodup
  single := by
    rcases h.single with hempty | ⟨hone, hnone, hunissued⟩
    · exact Or.inl hempty
    · exact Or.inr ⟨hone, updateConnection_none.mpr hnone, hunissued⟩
  ready hready := by
    obtain ⟨hroom, connection, hsocket, hconnecting⟩ := h.ready hready
    exact ⟨hroom, f connection, updateConnection_some hsocket,
      fun hnew => hconnecting (hf.connecting connection hnew)⟩
  snapshot updated hsocket hnew := by
    obtain ⟨connection, hold, rfl⟩ := updateConnection_inv hsocket
    rcases haccepted connection hnew with hbefore | hroom
    · exact h.snapshot connection hold hbefore
    · exact hroom
  failed updated hsocket hfailed := by
    obtain ⟨connection, hold, rfl⟩ := updateConnection_inv hsocket
    rcases hf.failed connection hfailed with hbefore | hclosing
    · exact hf.closing connection (h.failed connection hold hbefore)
    · exact hclosing
  positive := h.positive
  disposed hclosed := updateConnection_none.mpr (h.disposed hclosed)

theorem Link.update (h : Link s) (hf : Harmless f) : Link (s.updateConnection f) :=
  h.mild hf.toMild fun connection haccepted => Or.inl (hf.snapshot connection ▸ haccepted)

theorem update_setting (hf : Mild f) : Setting s (s.updateConnection f) where
  closed := rfl
  issued := rfl
  room := rfl
  generation := rfl
  sent := rfl
  ready := rfl
  socket hsocket hnone := hsocket (updateConnection_none.mp hnone)
  spent hspent := by
    refine ⟨fun updated hsocket => ?_, hspent.unissued⟩
    obtain ⟨connection, hold, rfl⟩ := updateConnection_inv hsocket
    exact hf.closing connection (hspent.closing connection hold)

theorem update_context (hf : Gentle f) : Context s (s.updateConnection f) where
  toSetting := update_setting hf.toMild
  stays hstays updated hsocket := by
    obtain ⟨connection, hold, rfl⟩ := updateConnection_inv hsocket
    rw [hf.leave]
    exact hstays connection hold
  armed command harmed := by
    rcases harmed with hdeadline | ⟨hsent, connection, hsocket, hclosing⟩ | hreaches
    · exact Or.inl hdeadline
    · exact Or.inr (Or.inl ⟨hsent, f connection, updateConnection_some hsocket,
        hf.closing connection hclosing⟩)
    · right
      right
      unfold Reaches at hreaches ⊢
      cases hsocket : s.socket with
      | none =>
          rw [hsocket] at hreaches
          rw [updateConnection_none.mpr hsocket]
          exact hreaches
      | some connection =>
          rw [hsocket] at hreaches
          rw [updateConnection_some hsocket]
          refine ⟨(hf.leave connection).trans hreaches.1, ?_⟩
          exact hreaches.2.imp_left (hf.closing connection)

theorem Queue.update (h : Queue live todo s) (hf : Gentle f) :
    Queue live todo (s.updateConnection f) :=
  h.frame (update_context hf) rfl rfl rfl rfl

theorem Held.update (h : Held live todo s requestId command) (hf : Gentle f) :
    Held live todo (s.updateConnection f) requestId command :=
  h.frame (update_context hf) rfl rfl rfl rfl

/-- The first failure of a connection closes it. -/
def fail (connection : Connection) : Connection :=
  if connection.connectionFailed then connection
  else { connection with connectionFailed := true, readyState := .closing }

theorem fail_cases (connection : Connection) :
    fail connection = connection ∧ connection.connectionFailed = true ∨
      fail connection = { connection with connectionFailed := true, readyState := .closing } := by
  unfold fail
  split
  · next hfailed => exact Or.inl ⟨rfl, hfailed⟩
  · exact Or.inr rfl

theorem fail_harmless : Harmless fail where
  generation connection := by rcases fail_cases connection with ⟨heq, -⟩ | heq <;> rw [heq]
  closing connection hclosing := by
    rcases fail_cases connection with ⟨heq, -⟩ | heq <;> rw [heq]
    exact hclosing
  connecting connection hconnecting := by
    rcases fail_cases connection with ⟨heq, -⟩ | heq <;> rw [heq] at hconnecting
    · exact hconnecting
    · exact nomatch hconnecting
  leave connection := by rcases fail_cases connection with ⟨heq, -⟩ | heq <;> rw [heq]
  failed connection _ := by
    rcases fail_cases connection with ⟨-, hfailed⟩ | heq
    · exact Or.inl hfailed
    · exact Or.inr (by rw [heq])
  snapshot connection := by rcases fail_cases connection with ⟨heq, -⟩ | heq <;> rw [heq]

theorem failConnection_eq : s.failConnection = s.updateConnection fail := by
  have hsame : s.socket.map fail = s.socket → s.updateConnection fail = s := by
    intro hmap
    unfold updateConnection
    rw [hmap]
  unfold failConnection
  cases hsocket : s.socket with
  | none => exact (hsame (by rw [hsocket]; rfl)).symm
  | some connection =>
      by_cases hfailed : connection.connectionFailed = true
      · have hmap : s.socket.map fail = s.socket := by
          rw [hsocket, Option.map_some, fail, if_pos hfailed]
        simp only [hfailed, if_true]
        exact (hsame hmap).symm
      · unfold updateConnection fail
        simp [hsocket, hfailed]

theorem failConnection_closing (hlink : Link s) (hsocket : s.socket = some connection) :
    s.failConnection.Closing := by
  rw [failConnection_eq]
  refine ⟨fail connection, updateConnection_some hsocket, ?_⟩
  unfold fail
  split
  · next hfailed => exact hlink.failed connection hsocket hfailed
  · rfl

theorem Link.spent (hlink : Link s) (hclosing : s.Closing) : s.Spent := by
  obtain ⟨connection, hsocket, hclosing⟩ := hclosing
  refine ⟨fun other hother => ?_, hlink.unissued ?_⟩
  · obtain rfl := Option.some.inj (hsocket.symm.trans hother)
    exact hclosing
  · rw [hsocket]
    exact Option.some_ne_none _

/-- The keepalive of a connection is its own affair. -/
theorem keepalive_harmless (timer : Connection → Bool) :
    Harmless fun connection => { connection with keepaliveTimer := timer connection } where
  generation _ := rfl
  closing _ h := h
  connecting _ h := h
  leave _ := rfl
  snapshot _ := rfl
  failed _ h := Or.inl h

theorem arm_still : Still s (s.armCommandDeadline requestId command) := by
  have hcleared := clearTimeout_still (s := s) command.timerId
  exact (hcleared.trans (setTimeout_still _)).trans (put_still _ _)

/-! ## One command of a round -/

/-- The connection that carries a round of transmissions is open and ready. -/
structure Carries (s : RoomSocket Payload Result) : Prop where
  ready : s.transportReady = true
  openSocket : ∃ connection, s.socket = some connection ∧ connection.readyState = .open

theorem Carries.still (h : s.Carries) (hstill : Still s t) : t.Carries where
  ready := hstill.ready.trans h.ready
  openSocket := by
    rw [hstill.socket]
    exact h.openSocket

theorem Carries.keepalive (h : s.Carries) : s.scheduleKeepalive.Carries where
  ready := h.ready
  openSocket := by
    obtain ⟨connection, hsocket, hopen⟩ := h.openSocket
    exact ⟨_, updateConnection_some hsocket, hopen⟩

theorem Carries.not_spent (h : s.Carries) : ¬ s.Spent := by
  intro hspent
  obtain ⟨connection, hsocket, hopen⟩ := h.openSocket
  exact nomatch (hspent.closing connection hsocket).symm.trans hopen

theorem Queue.mono (h : Queue live [] s) : Queue live todo s where
  ledger := h.ledger
  entries := h.entries
  awaits hlive id command hcommand := by
    rcases h.awaits hlive id command hcommand with harmed | ⟨hmem, -⟩
    · exact Or.inl harmed
    · exact nomatch hmem

/-- A round that ends with the connection closing leaves the rest to the next connection. -/
theorem Queue.close_round (h : Queue live todo s) (hclosing : s.Closing) : Queue live [] s where
  ledger := h.ledger
  entries := h.entries
  awaits hlive id command hcommand := by
    obtain ⟨connection, hsocket, hclosing⟩ := hclosing
    rcases h.awaits hlive id command hcommand with harmed | ⟨-, hstays, -⟩
    · exact Or.inl harmed
    · left
      right
      right
      unfold Reaches
      rw [hsocket]
      exact ⟨hstays connection hsocket, Or.inl hclosing⟩

/-- A command that is gone, or that the connection already carried, is passed over. -/
theorem Queue.skip (h : Queue live (requestId :: todo) s)
    (hskip : ∀ command, s.pending.lookup requestId = some command →
      command.transmissionGeneration = s.connectionGeneration) :
    Queue live todo s where
  ledger := h.ledger
  entries := h.entries
  awaits hlive id command hcommand := by
    rcases h.awaits hlive id command hcommand with harmed | ⟨hmem, hstays, hdiffers⟩
    · exact Or.inl harmed
    · rcases List.mem_cons.mp hmem with rfl | hmem
      · exact absurd (hskip command hcommand) hdiffers
      · exact Or.inr ⟨hmem, hstays, hdiffers⟩

/-- A command that is not due gets a retry timeout. -/
theorem Queue.wait (h : Queue live (requestId :: todo) s) (hcarries : s.Carries)
    (hcommand : s.pending.lookup requestId = some command)
    (hdiffers : command.transmissionGeneration ≠ s.connectionGeneration) :
    Queue live todo (((s.clearTimeout command.retryTimerId).setTimeout
      ⟨.retry, requestId, command.serial⟩).2.put requestId
        { command with retryTimerId := some (s.clearTimeout command.retryTimerId).nextTimer }) := by
  have hentry := h.entries requestId command hcommand
  have hset := ((h.hold hcommand).visited.clear .retry).set .retry rfl
  have hcontext := (clearTimeout_context (s := s) (command.handle .retry)).trans
    (setTimeout_context ⟨.retry, requestId, (command.withHandle .retry none).serial⟩)
  refine hset.put ((hentry.retry _ fun _ => hdiffers).frame hcontext) fun hlive => ?_
  refine hcontext.awaits (Or.inl ?_)
  obtain ⟨connection, hsocket, -⟩ := hcarries.openSocket
  have hreaches : connection.terminalLeaveCommitted = false →
      s.Reaches { command with
        retryTimerId := some (s.clearTimeout command.retryTimerId).nextTimer } := by
    intro hstays
    unfold Reaches
    rw [hsocket]
    exact ⟨hstays, Or.inr (Or.inr (Option.some_ne_none _))⟩
  rcases h.awaits hlive requestId command hcommand with harmed | ⟨-, hstays, -⟩
  · rcases harmed with hdeadline | hsent | hold
    · exact Or.inl hdeadline
    · exact absurd (hentry.sent hsent.1).1 hdiffers
    · unfold Reaches at hold
      rw [hsocket] at hold
      exact Or.inr (Or.inr (hreaches hold.1))
  · exact Or.inr (Or.inr (hreaches (hstays connection hsocket)))

/-- A command as its connection takes it. -/
def taken (s : RoomSocket Payload Result) (command : PendingRoomCommand Payload) :
    PendingRoomCommand Payload :=
  { command with
    retryTimerId := none
    transmissionGeneration := s.connectionGeneration
    roomUid := command.roomUid.or s.acceptedRoomUid }

theorem taken_room (h : Entry s requestId command) {roomUid : String}
    (hroom : command.roomUid.or s.acceptedRoomUid = some roomUid) :
    s.acceptedRoomUid = some roomUid := by
  cases hbound : command.roomUid with
  | none => simpa [hbound] using hroom
  | some bound =>
      rw [h.room bound hbound]
      simpa [hbound] using hroom

theorem taken_bound {roomUid : String} (hbound : command.roomUid = some roomUid) :
    command.roomUid.or s.acceptedRoomUid = some roomUid := by
  rw [hbound]
  rfl

theorem not_sent (h : Entry s requestId command)
    (hdiffers : command.transmissionGeneration ≠ s.connectionGeneration) :
    command.transmissionPhase = .idle := by
  cases hphase : command.transmissionPhase with
  | idle => rfl
  | sent => exact absurd (h.sent hphase).1 hdiffers

/-- A command that a failing connection took is left to the next one. -/
theorem Queue.refuse (h : Queue live (requestId :: todo) s) (hlink : Link s)
    (hcarries : s.Carries) (hcommand : s.pending.lookup requestId = some command)
    (hdiffers : command.transmissionGeneration ≠ s.connectionGeneration) :
    Queue live [] (((s.clearTimeout command.retryTimerId).put requestId
      (s.taken command)).failConnection) := by
  have hentry := h.entries requestId command hcommand
  have hidle := not_sent hentry hdiffers
  obtain ⟨connection, hsocket, -⟩ := hcarries.openSocket
  have hcontext := (clearTimeout_context (s := s) command.retryTimerId).trans
    (update_context fail_harmless.toGentle)
  have hclosing : ((s.clearTimeout command.retryTimerId).updateConnection fail).Closing := by
    rw [← failConnection_eq]
    have hcleared : (s.clearTimeout command.retryTimerId).socket = some connection :=
      (clearTimeout_still _).socket.trans hsocket
    exact failConnection_closing (hlink.still (clearTimeout_still _)) hcleared
  have hspent : ((s.clearTimeout command.retryTimerId).updateConnection fail).Spent :=
    ((hlink.still (clearTimeout_still _)).update fail_harmless).spent hclosing
  have htaken : Entry ((s.clearTimeout command.retryTimerId).updateConnection fail) requestId
      (s.taken command) := by
    have hframed := hentry.frame hcontext
    constructor
    case opened => exact hframed.opened
    case issued =>
      obtain ⟨issue, hget, hid, haction, hencoded, hroom⟩ := hframed.issued
      exact ⟨issue, hget, hid, haction, hencoded,
        fun roomUid hissue => taken_bound (hroom roomUid hissue)⟩
    case room =>
      intro roomUid hroom
      rw [hcontext.room]
      exact taken_room hentry hroom
    case generation =>
      rw [hcontext.generation]
      exact le_refl _
    case counted => exact hframed.counted
    case spent => exact hframed.spent
    case tried => exact fun _ _ => hspent
    case sent => exact fun hsent => nomatch hidle.symm.trans hsent
    case retrying => exact fun hretry => absurd rfl hretry
    case before =>
      intro transmission hmem hserial
      obtain ⟨hever, hgeneration, hroom⟩ := hentry.before transmission
        (hcontext.sent ▸ hmem) hserial
      refine ⟨hever, Nat.le_trans hgeneration hentry.generation, ?_⟩
      obtain ⟨-, -, -, hsome, -⟩ := h.ledger.archive.sentSound transmission (hcontext.sent ▸ hmem)
      obtain ⟨roomUid, hroomUid⟩ := Option.ne_none_iff_exists'.mp hsome
      rw [hroomUid] at hroom ⊢
      exact taken_bound hroom
    case attempts =>
      have hzero : outstanding (s.taken command) = outstanding command := by
        unfold outstanding taken
        simp [hidle]
      rw [hzero]
      exact hframed.attempts
    case limit => exact hframed.limit
  rw [failConnection_eq]
  show Queue live [] (((s.clearTimeout command.retryTimerId).updateConnection fail).put requestId
    (s.taken command))
  have hheld := (((h.hold hcommand).visited.clear .retry).edit (s.taken command)
    rfl (funext fun kind => by cases kind <;> rfl)).update fail_harmless.toGentle
  refine Queue.close_round (hheld.put htaken fun hlive => ?_) hclosing
  have hstays : s.Stays → ((s.clearTimeout command.retryTimerId).updateConnection fail).Armed
      (s.taken command) := by
    intro hstays
    obtain ⟨closing, hsocket', hclosing⟩ := hclosing
    right
    right
    unfold Reaches
    rw [hsocket']
    exact ⟨hcontext.stays hstays closing hsocket', Or.inl hclosing⟩
  left
  rcases h.awaits hlive requestId command hcommand with harmed | ⟨-, hstay, -⟩
  · rcases harmed with hdeadline | hsent | hreaches
    · exact Or.inl hdeadline
    · exact nomatch hidle.symm.trans hsent.1
    · refine hstays fun other hother => ?_
      unfold Reaches at hreaches
      rw [hother] at hreaches
      exact hreaches.1
  · exact hstays hstay

theorem sentCount_append (transmission : Transmission) (serial : Nat) :
    ({ s with sent := s.sent ++ [transmission] } : RoomSocket Payload Result).sentCount serial =
      s.sentCount serial + if transmission.serial = serial then 1 else 0 := by
  unfold sentCount
  rw [List.countP_append, List.countP_singleton]
  simp

/-- A transmission says nothing about the other commands. -/
theorem Entry.sent_other (h : Entry s requestId command) {transmission : Transmission}
    (hother : transmission.serial ≠ command.serial) :
    Entry { s with sent := s.sent ++ [transmission] } requestId command where
  opened := h.opened
  issued := h.issued
  room := h.room
  generation := h.generation
  counted := h.counted
  spent hcounted := ⟨(h.spent hcounted).closing, (h.spent hcounted).unissued⟩
  tried htried hidle := ⟨(h.tried htried hidle).closing, (h.tried htried hidle).unissued⟩
  sent := h.sent
  retrying := h.retrying
  before sent hmem hserial := by
    rcases List.mem_append.mp hmem with hold | hnew
    · exact h.before sent hold hserial
    · rw [List.mem_singleton.mp hnew] at hserial
      exact absurd hserial hother
  attempts := by
    rw [sentCount_append, if_neg hother]
    exact h.attempts
  limit := h.limit

theorem Held.send (h : Held live todo s requestId command) (transmission : Transmission)
    (hserial : transmission.serial = command.serial)
    (hissue : ∃ issue, s.issued[command.serial]? = some issue ∧
      transmission.bytes = issue.encoded ∧
        ∀ roomUid, issue.roomUid = some roomUid → transmission.roomUid = some roomUid)
    (hroom : transmission.roomUid ≠ none)
    (hbefore : ∀ earlier ∈ s.sent, earlier.serial = command.serial →
      earlier.generation ≠ transmission.generation ∧ earlier.roomUid = transmission.roomUid)
    (hfew : s.sentCount command.serial < uncertainAttemptLimit) :
    Held live todo { s with sent := s.sent ++ [transmission] } requestId command where
  ledger := h.ledger.send (Function.update_self ..) hserial hissue hroom hbefore hfew
  entries id other hne hother := by
    refine (h.entries id other hne hother).sent_other fun hsame => hne ?_
    refine h.ledger.distinct id requestId other command ?_ (Function.update_self ..)
      (hsame.symm.trans hserial)
    rw [Function.update_of_ne hne]
    exact hother
  awaits := h.awaits

/-- What a transmission makes of the entry of its command. -/
theorem Entry.transmit (h : Entry s requestId command) (hcarries : s.Carries)
    (hdiffers : command.transmissionGeneration ≠ s.connectionGeneration)
    (hbound : ∀ earlier ∈ s.sent, earlier.serial = command.serial → earlier.roomUid ≠ none)
    {transmission : Transmission} (hgeneration : transmission.generation = s.connectionGeneration)
    (hroom : transmission.roomUid = s.acceptedRoomUid) (hsome : s.acceptedRoomUid ≠ none) :
    Entry { s with sent := s.sent ++ [transmission] } requestId
      { s.taken command with transmissionPhase := .sent, everSent := true } := by
  have hidle := not_sent h hdiffers
  constructor
  case opened => exact h.opened
  case issued =>
    obtain ⟨issue, hget, hid, haction, hencoded, hissue⟩ := h.issued
    exact ⟨issue, hget, hid, haction, hencoded,
      fun roomUid hroomUid => taken_bound (hissue roomUid hroomUid)⟩
  case room => exact fun roomUid => taken_room h
  case generation => exact le_refl _
  case counted => exact h.counted
  case spent => exact fun hcounted => ⟨(h.spent hcounted).closing, (h.spent hcounted).unissued⟩
  case tried => exact fun _ => nofun
  case sent =>
    intro _
    obtain ⟨connection, hsocket, -⟩ := hcarries.openSocket
    refine ⟨rfl, rfl, ?_, hcarries.ready⟩
    show s.socket ≠ none
    rw [hsocket]
    exact Option.some_ne_none _
  case retrying => exact fun hretry => absurd rfl hretry
  case before =>
    intro earlier hmem hsame
    rcases List.mem_append.mp hmem with hold | hnew
    · obtain ⟨-, hle, hroomUid⟩ := h.before earlier hold hsame
      refine ⟨rfl, Nat.le_trans hle h.generation, ?_⟩
      obtain ⟨roomUid, hsome'⟩ := Option.ne_none_iff_exists'.mp (hbound earlier hold hsame)
      rw [hsome'] at hroomUid ⊢
      exact taken_bound hroomUid
    · rw [List.mem_singleton.mp hnew, hgeneration, hroom]
      refine ⟨rfl, le_refl _, ?_⟩
      obtain ⟨roomUid, hroomUid⟩ := Option.ne_none_iff_exists'.mp hsome
      show command.roomUid.or s.acceptedRoomUid = s.acceptedRoomUid
      cases hcommand : command.roomUid with
      | none => rfl
      | some bound => rw [h.room bound hcommand, Option.some_or]
  case attempts =>
    -- nothing was outstanding before, and the new attempt is not counted yet
    have hattempts := h.attempts
    have hzero : outstanding command = 0 := if_neg fun hboth => by
      rw [hidle] at hboth
      exact nomatch hboth.1
    have hone : outstanding { s.taken command with
        transmissionPhase := .sent, everSent := true } = 1 :=
      if_pos ⟨rfl, fun hcounted => hcarries.not_spent (h.spent hcounted)⟩
    rw [sentCount_append, hone]
    show s.sentCount command.serial + _ ≤ command.retryAttempt + 1
    split <;> omega
  case limit => exact h.limit

theorem scheduleKeepalive_eq : s.scheduleKeepalive = s.updateConnection fun connection =>
    { connection with keepaliveTimer := decide (connection.readyState = .open) && s.transportReady } :=
  rfl

/-- The bytes of a held command go out, and its deadline is armed. -/
theorem Held.transmit (h : Held live todo s requestId command) (hentry : Entry s requestId command)
    (hlink : Link s) (hcarries : s.Carries)
    (hdiffers : command.transmissionGeneration ≠ s.connectionGeneration)
    (hretry : command.retryTimerId = none) :
    Queue live todo (({ s with sent := s.sent ++ [(⟨command.serial, s.connectionGeneration,
        command.encoded, s.acceptedRoomUid⟩ : Transmission)] } :
            RoomSocket Payload Result).scheduleKeepalive.armCommandDeadline requestId
        { s.taken command with transmissionPhase := .sent, everSent := true }) := by
  have hroom := (hlink.ready hcarries.ready).1
  have hbound : ∀ earlier ∈ s.sent, earlier.serial = command.serial →
      earlier.roomUid ≠ none := by
    intro earlier hmem _
    obtain ⟨-, -, -, hsome, -⟩ := h.ledger.archive.sentSound earlier hmem
    exact hsome
  have hsent : Entry { s with sent := s.sent ++ [(⟨command.serial, s.connectionGeneration,
      command.encoded, s.acceptedRoomUid⟩ : Transmission)] } requestId
      { s.taken command with transmissionPhase := .sent, everSent := true } :=
    hentry.transmit hcarries hdiffers hbound rfl rfl hroom
  have hedited := h.edit { s.taken command with
      transmissionPhase := .sent, everSent := true } rfl (funext fun kind => by
    cases kind
    case deadline => rfl
    case retry => exact hretry.symm)
  have hheld := hedited.send ⟨command.serial, s.connectionGeneration,
    command.encoded, s.acceptedRoomUid⟩ rfl ?issued hroom ?earlier ?few
  case issued =>
    obtain ⟨issue, hget, -, -, hencoded, hissue⟩ := hentry.issued
    refine ⟨issue, hget, hencoded.symm, fun roomUid hroomUid => ?_⟩
    exact hentry.room roomUid (hissue roomUid hroomUid)
  case earlier =>
    intro earlier hmem hserial
    obtain ⟨-, hle, hsame⟩ := hentry.before earlier hmem hserial
    obtain ⟨roomUid, hroomUid⟩ := Option.ne_none_iff_exists'.mp (hbound earlier hmem hserial)
    constructor
    · intro hgeneration
      exact hdiffers (Nat.le_antisymm hentry.generation
        (Nat.le_trans (Nat.le_of_eq hgeneration.symm) hle))
    · rw [hroomUid] at hsame ⊢
      exact (hentry.room roomUid hsame).symm
  case few =>
    have hattempts := hentry.attempts
    have hlimit := hentry.limit
    have hzero : outstanding command = 0 := if_neg fun hboth => by
      rw [not_sent hentry hdiffers] at hboth
      exact nomatch hboth.1
    show s.sentCount command.serial < _
    omega
  rw [scheduleKeepalive_eq]
  exact (hheld.update (keepalive_harmless _).toGentle).arm
    (hsent.frame (update_context (keepalive_harmless _).toGentle))

/-! ## The round -/

/-- What a round keeps while it goes on. -/
structure Round (live : Prop) (todo : List String) (s : RoomSocket Payload Result) : Prop where
  link : Link s
  carries : s.Carries
  queue : Queue live todo s

/-- What one command leaves of a round: the rest of it, or a client at peace. -/
structure Visited (live : Prop) (todo : List String) (generation : Nat)
    (result : RoomSocket Payload Result × Bool) : Prop where
  generation : result.1.connectionGeneration = generation
  goes : result.2 = true → Round live todo result.1
  ends : result.2 = false → Link result.1 ∧ Queue live [] result.1

variable {now : Nat} {sends : String → Bool}

theorem sendOne_skip (hskip : ∀ command, s.pending.lookup requestId = some command →
      command.transmissionGeneration = s.connectionGeneration) :
    s.sendOne s.connectionGeneration now sends requestId = (s, true) := by
  unfold sendOne
  cases hcommand : s.pending.lookup requestId with
  | none => rfl
  | some command => exact if_pos (hskip command hcommand)

theorem sendOne_wait (hcommand : s.pending.lookup requestId = some command)
    (hdiffers : command.transmissionGeneration ≠ s.connectionGeneration)
    (hwait : now < command.retryNotBefore) :
    s.sendOne s.connectionGeneration now sends requestId =
      (((s.clearTimeout command.retryTimerId).setTimeout
        ⟨.retry, requestId, command.serial⟩).2.put requestId
          { command with retryTimerId := some (s.clearTimeout command.retryTimerId).nextTimer },
        true) := by
  unfold sendOne
  rw [hcommand]
  exact (if_neg hdiffers).trans (if_pos hwait)

theorem sendOne_due (hcommand : s.pending.lookup requestId = some command)
    (hdiffers : command.transmissionGeneration ≠ s.connectionGeneration)
    (hdue : ¬ now < command.retryNotBefore) :
    s.sendOne s.connectionGeneration now sends requestId =
      let u := s.clearTimeout command.retryTimerId
      if sends requestId = true then
        (({ u with sent := u.sent ++ [(⟨command.serial, u.connectionGeneration, command.encoded,
          u.acceptedRoomUid⟩ : Transmission)] } :
            RoomSocket Payload Result).scheduleKeepalive.armCommandDeadline requestId
          { u.taken command with transmissionPhase := .sent, everSent := true }, true)
      else ((u.put requestId (u.taken command)).failConnection, false) := by
  have hgeneration := (clearTimeout_still (s := s) command.retryTimerId).generation
  unfold sendOne taken
  rw [hcommand]
  dsimp only
  rw [if_neg hdiffers, if_neg hdue, hgeneration]

theorem sendOne_round (h : Round live (requestId :: todo) s) (now : Nat)
    (sends : String → Bool) :
    Visited live todo s.connectionGeneration
      (s.sendOne s.connectionGeneration now sends requestId) := by
  obtain ⟨hlink, hcarries, hqueue⟩ := h
  by_cases hskip : ∀ command, s.pending.lookup requestId = some command →
      command.transmissionGeneration = s.connectionGeneration
  · rw [sendOne_skip hskip]
    exact ⟨rfl, fun _ => ⟨hlink, hcarries, hqueue.skip hskip⟩, nofun⟩
  · push Not at hskip
    obtain ⟨command, hcommand, hdiffers⟩ := hskip
    have hentry := hqueue.entries requestId command hcommand
    have hstill : Still s (s.clearTimeout command.retryTimerId) := clearTimeout_still _
    by_cases hwait : now < command.retryNotBefore
    · rw [sendOne_wait hcommand hdiffers hwait]
      have hstill' := (hstill.trans (setTimeout_still ⟨.retry, requestId, command.serial⟩)).trans
        (put_still requestId { command with
          retryTimerId := some (s.clearTimeout command.retryTimerId).nextTimer })
      exact ⟨hstill'.generation, fun _ => ⟨hlink.still hstill', hcarries.still hstill',
        hqueue.wait hcarries hcommand hdiffers⟩, nofun⟩
    · rw [sendOne_due hcommand hdiffers hwait]
      dsimp only
      split
      · have hheld := (hqueue.hold hcommand).visited.clear .retry
        have hcleared := (hentry.retry none fun hnone => absurd rfl hnone).frame
          (clearTimeout_context command.retryTimerId)
        have hround := hheld.transmit hcleared (hlink.still hstill) (hcarries.still hstill)
          (fun hsame => hdiffers (hsame.trans hstill.generation)) rfl
        have hsent : Still s { s.clearTimeout command.retryTimerId with
            sent := (s.clearTimeout command.retryTimerId).sent ++ [(⟨command.serial,
              (s.clearTimeout command.retryTimerId).connectionGeneration, command.encoded,
              (s.clearTimeout command.retryTimerId).acceptedRoomUid⟩ : Transmission)] } :=
          hstill.trans ⟨rfl, rfl, rfl, rfl, rfl, rfl, rfl, rfl⟩
        refine ⟨?_, fun _ => ⟨?_, ?_, hround⟩, nofun⟩
        · rw [arm_still.generation]
          exact hsent.generation
        · exact ((hlink.still hsent).update (keepalive_harmless _)).still arm_still
        · exact (hcarries.still hsent).keepalive.still arm_still
      · have htaken : (s.clearTimeout command.retryTimerId).taken command = s.taken command := by
          unfold taken
          rw [hstill.room, hstill.generation]
        rw [htaken]
        have hput := hstill.trans (put_still requestId (s.taken command))
        refine ⟨?_, nofun, fun _ => ⟨?_, hqueue.refuse hlink hcarries hcommand hdiffers⟩⟩
        · rw [failConnection_eq]
          exact hput.generation
        · rw [failConnection_eq]
          exact (hlink.still hput).update fail_harmless

/-- A whole round, over any list of request ids. -/
theorem sendEach_round (ids : List String) (h : Round live ids s) (now : Nat)
    (sends : String → Bool) :
    Link (s.sendEach s.connectionGeneration now sends ids) ∧
      Queue live [] (s.sendEach s.connectionGeneration now sends ids) := by
  induction ids generalizing s with
  | nil => exact ⟨h.link, h.queue⟩
  | cons requestId rest ih =>
      have hvisited := sendOne_round h now sends
      unfold sendEach
      generalize hone : s.sendOne s.connectionGeneration now sends requestId = result at hvisited
      obtain ⟨next, goes⟩ := result
      cases goes with
      | true =>
          have hnext := ih (hvisited.goes rfl)
          rwa [show next.connectionGeneration = s.connectionGeneration from
            hvisited.generation] at hnext
      | false => exact hvisited.ends rfl

/-- The client between two events. -/
structure Sound (live : Prop) (s : RoomSocket Payload Result) : Prop where
  link : Link s
  queue : Queue live [] s

/-- The queue is sent: the connection takes what awaits it. -/
theorem sendPending_sound (hlink : Link s) (hqueue : Queue live s.pendingIds s)
    (hidle : ¬ s.Carries → Queue live [] s) : Sound live (s.sendPending now sends) := by
  unfold sendPending
  cases hsocket : s.socket with
  | none =>
      refine ⟨hlink, hidle fun hcarries => ?_⟩
      obtain ⟨connection, hsome, -⟩ := hcarries.openSocket
      exact nomatch hsocket.symm.trans hsome
  | some connection =>
      dsimp only
      split
      · next hclosed =>
          refine ⟨hlink, hidle fun hcarries => ?_⟩
          obtain ⟨other, hother, hopen⟩ := hcarries.openSocket
          obtain rfl := Option.some.inj (hsocket.symm.trans hother)
          rcases hclosed with hclosed | hunready
          · exact hclosed hopen
          · exact nomatch hunready.symm.trans hcarries.ready
      · next hopen =>
          push Not at hopen
          have hready : s.transportReady = true := by simpa using hopen.2
          have hround := sendEach_round s.pendingIds
            ⟨hlink, ⟨hready, connection, hsocket, hopen.1⟩, hqueue⟩ now sends
          rw [hlink.current connection hsocket]
          exact ⟨hround.1, hround.2⟩

theorem Sound.sendPending (h : Sound live s) : Sound live (s.sendPending now sends) :=
  sendPending_sound h.link h.queue.mono fun _ => h.queue

end RoomSocket

end AgentsAssemble.Browser
