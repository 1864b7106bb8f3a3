import AgentsAssemble.Foundation.Counters
import AgentsAssemble.Foundation.Totals
import AgentsAssemble.Foundation.Transition

/-!
# Socket admission

Frames and history requests are counted in windows of ten seconds, for the
process, for the principal and for the room.  A frame is counted even where it
is refused; a history request is counted in all three windows or in none.  The
tables of windows are bounded, and make room by dropping expired windows.
-/

namespace AgentsAssemble.Server.Socket

open Foundation

/-- Ten seconds, in nanoseconds. -/
def windowLength : Nat := 10 * 1000000000

def maxTrackedPrincipals : Nat := 512

def maxTrackedRooms : Nat := 512

structure ScopePolicy where
  messages : Nat
  bytes : Nat
  controlFrames : Nat
  historyRequests : Nat
  historyEvents : Nat

def globalPolicy : ScopePolicy where
  messages := 4096
  bytes := 32 * 1024 * 1024
  controlFrames := 1024
  historyRequests := 640
  historyEvents := 6400

def principalPolicy : ScopePolicy where
  messages := 256
  bytes := 2 * 1024 * 1024
  controlFrames := 64
  historyRequests := 10
  historyEvents := 1000

def roomPolicy : ScopePolicy where
  messages := 2048
  bytes := 16 * 1024 * 1024
  controlFrames := 512
  historyRequests := 320
  historyEvents := 3200

structure WindowCounters where
  startedAt : Nat
  messages : Nat
  bytes : Nat
  controlFrames : Nat
  historyRequests : Nat
  historyEvents : Nat
deriving DecidableEq, Repr

namespace WindowCounters

def new (now : Nat) : WindowCounters := ⟨now, 0, 0, 0, 0, 0⟩

def expired (counters : WindowCounters) (now : Nat) : Bool :=
  windowLength ≤ now - counters.startedAt

def prepare (counters : WindowCounters) (now : Nat) : WindowCounters :=
  if counters.expired now then new now else counters

/-- A frame in a window that has been prepared for it. -/
def countFrame (counters : WindowCounters) (bytes : Nat) (controlFrame : Bool) :
    WindowCounters :=
  { counters with
    messages := saturatingAdd counters.messages 1
    bytes := saturatingAdd counters.bytes bytes
    controlFrames :=
      if controlFrame then saturatingAdd counters.controlFrames 1 else counters.controlFrames }

def admitsFrames (counters : WindowCounters) (policy : ScopePolicy) : Bool :=
  counters.messages ≤ policy.messages && counters.bytes ≤ policy.bytes &&
    counters.controlFrames ≤ policy.controlFrames

def chargeFrame (counters : WindowCounters) (now bytes : Nat) (controlFrame : Bool)
    (policy : ScopePolicy) : Bool × WindowCounters :=
  let charged := (counters.prepare now).countFrame bytes controlFrame
  (charged.admitsFrames policy, charged)

def admitsHistory (counters : WindowCounters) (events : Nat) (policy : ScopePolicy) : Bool :=
  saturatingAdd counters.historyRequests 1 ≤ policy.historyRequests &&
    saturatingAdd counters.historyEvents events ≤ policy.historyEvents

def commitHistory (counters : WindowCounters) (events : Nat) : WindowCounters :=
  { counters with
    historyRequests := saturatingAdd counters.historyRequests 1
    historyEvents := saturatingAdd counters.historyEvents events }

end WindowCounters

abbrev Windows := Table String WindowCounters

structure SocketAdmissionState where
  global : WindowCounters
  principals : Windows
  rooms : Windows

def SocketAdmissionState.new (now : Nat) : SocketAdmissionState := ⟨.new now, ∅, ∅⟩

/-- A full table without its expired windows. -/
def dropExpired (windows : Windows) (capacity now : Nat) : Windows :=
  if capacity ≤ windows.size then windows.retain fun _ window => !window.expired now else windows

/-- Whether a scope has a slot, and the windows once expired ones made room for it. -/
def ensureCapacity (windows : Windows) (key : String) (capacity now : Nat) : Bool × Windows :=
  if (windows.lookup key).isSome then (true, windows)
  else
    (decide ((dropExpired windows capacity now).size < capacity),
      dropExpired windows capacity now)

def chargeExistingFrame (windows : Windows) (key : String) (now bytes : Nat)
    (controlFrame : Bool) (policy : ScopePolicy) : Windows :=
  match windows.lookup key with
  | some window => windows.insert key (window.chargeFrame now bytes controlFrame policy).2
  | none => windows

/-- The window of a scope, opened where it has none. -/
def entry (windows : Windows) (key : String) (now : Nat) : WindowCounters :=
  (windows.lookup key).getD (.new now)

namespace SocketAdmissionState

/-- `charge_frame_scopes` once both scopes have a slot. -/
def chargeSlotted (state : SocketAdmissionState) (principalId roomId : String) (now bytes : Nat)
    (controlFrame : Bool) : Bool × SocketAdmissionState :=
  let global := state.global.chargeFrame now bytes controlFrame globalPolicy
  let principal := (entry state.principals principalId now).chargeFrame now bytes controlFrame
    principalPolicy
  let room := (entry state.rooms roomId now).chargeFrame now bytes controlFrame roomPolicy
  (global.1 && principal.1 && room.1,
    { global := global.2
      principals := state.principals.insert principalId principal.2
      rooms := state.rooms.insert roomId room.2 })

/-- `charge_frame_scopes`. -/
def admitFrame (state : SocketAdmissionState) (principalId roomId : String) (bytes : Nat)
    (controlFrame : Bool) (now : Nat) : Bool × SocketAdmissionState :=
  let principals := ensureCapacity state.principals principalId maxTrackedPrincipals now
  let rooms := ensureCapacity state.rooms roomId maxTrackedRooms now
  if !principals.1 || !rooms.1 then
    (false,
      { global := (state.global.chargeFrame now bytes controlFrame globalPolicy).2
        principals := chargeExistingFrame principals.2 principalId now bytes controlFrame
          principalPolicy
        rooms := chargeExistingFrame rooms.2 roomId now bytes controlFrame roomPolicy })
  else
    chargeSlotted { state with principals := principals.2, rooms := rooms.2 } principalId roomId
      now bytes controlFrame

/-- `admit_history_at` once both scopes have a slot. -/
def requestSlotted (state : SocketAdmissionState) (principalId roomId : String)
    (requestedEvents now : Nat) : Bool × SocketAdmissionState :=
  let global := state.global.prepare now
  let principal := (entry state.principals principalId now).prepare now
  let room := (entry state.rooms roomId now).prepare now
  if !global.admitsHistory requestedEvents globalPolicy ||
      !principal.admitsHistory requestedEvents principalPolicy ||
      !room.admitsHistory requestedEvents roomPolicy then
    (false,
      { global
        principals := state.principals.insert principalId principal
        rooms := state.rooms.insert roomId room })
  else
    (true,
      { global := global.commitHistory requestedEvents
        principals := state.principals.insert principalId
          (principal.commitHistory requestedEvents)
        rooms := state.rooms.insert roomId (room.commitHistory requestedEvents) })

def admitHistory (state : SocketAdmissionState) (principalId roomId : String)
    (requestedEvents now : Nat) : Bool × SocketAdmissionState :=
  let principals := ensureCapacity state.principals principalId maxTrackedPrincipals now
  let state := { state with principals := principals.2 }
  if !principals.1 then (false, state)
  else
    let rooms := ensureCapacity state.rooms roomId maxTrackedRooms now
    let state := { state with rooms := rooms.2 }
    if !rooms.1 then (false, state)
    else requestSlotted state principalId roomId requestedEvents now

end SocketAdmissionState

inductive SocketCall
  | frame (principalId roomId : String) (bytes : Nat) (controlFrame : Bool)
  | history (principalId roomId : String) (requestedEvents : Nat)

namespace SocketCall

def principalId : SocketCall → String
  | frame principalId _ _ _ => principalId
  | history principalId _ _ => principalId

def roomId : SocketCall → String
  | frame _ roomId _ _ => roomId
  | history _ roomId _ => roomId

end SocketCall

namespace SocketAdmissionState

def serve (state : SocketAdmissionState) (now : Nat) : SocketCall → Bool × SocketAdmissionState
  | .frame principalId roomId bytes controlFrame =>
      state.admitFrame principalId roomId bytes controlFrame now
  | .history principalId roomId requestedEvents =>
      state.admitHistory principalId roomId requestedEvents now

/-- Whether a call finds a slot for its principal and for its room. -/
def hasSlots (state : SocketAdmissionState) (now : Nat) (call : SocketCall) : Bool :=
  (ensureCapacity state.principals call.principalId maxTrackedPrincipals now).1 &&
    (ensureCapacity state.rooms call.roomId maxTrackedRooms now).1

/-- The reference: every scope has a slot, and no window is ever dropped. -/
def admitUnbounded (state : SocketAdmissionState) (now : Nat) :
    SocketCall → Bool × SocketAdmissionState
  | .frame principalId roomId bytes controlFrame =>
      state.chargeSlotted principalId roomId now bytes controlFrame
  | .history principalId roomId requestedEvents =>
      state.requestSlotted principalId roomId requestedEvents now

end SocketAdmissionState

/-! ## Windows and their table -/

theorem expired_mono {w : WindowCounters} {now later : Nat} (h : now ≤ later)
    (hexpired : w.expired now = true) : w.expired later = true := by
  rw [WindowCounters.expired, decide_eq_true_eq] at hexpired ⊢
  omega

theorem expired_new (now : Nat) : (WindowCounters.new now).expired now = false := by
  rw [WindowCounters.expired, decide_eq_false_iff_not, WindowCounters.new, Nat.sub_self]
  decide

theorem expired_prepare (w : WindowCounters) (now : Nat) : (w.prepare now).expired now = false := by
  rw [WindowCounters.prepare]
  split
  · exact expired_new now
  · rename_i hrunning
    exact eq_false_of_ne_true hrunning

theorem prepare_of_running {w : WindowCounters} {now : Nat} (h : w.expired now = false) :
    w.prepare now = w := by
  rw [WindowCounters.prepare, h]
  rfl

theorem prepare_of_expired {w : WindowCounters} {now : Nat} (h : w.expired now = true) :
    w.prepare now = .new now := by
  rw [WindowCounters.prepare, h]
  rfl

/-- What becomes of a scope's window that a call does not count in: it stays, or an expired one
goes or starts again, or a new one starts. -/
inductive Rests (now : Nat) : Option WindowCounters → Option WindowCounters → Prop
  | kept (o : Option WindowCounters) : Rests now o o
  | evicted {w : WindowCounters} (h : w.expired now = true) : Rests now (some w) none
  | restarted {w : WindowCounters} (h : w.expired now = true) :
      Rests now (some w) (some (.new now))
  | opened : Rests now none (some (.new now))

theorem Rests.trans_open {now : Nat} {o o' : Option WindowCounters} (h : Rests now o o') :
    Rests now o (some ((o'.getD (.new now)).prepare now)) := by
  cases h with
  | kept =>
      cases o with
      | none =>
          rw [Option.getD_none, prepare_of_running (expired_new now)]
          exact .opened
      | some w =>
          rw [Option.getD_some]
          cases hexpired : w.expired now with
          | false =>
              rw [prepare_of_running hexpired]
              exact .kept _
          | true =>
              rw [prepare_of_expired hexpired]
              exact .restarted hexpired
  | evicted hexpired =>
      rw [Option.getD_none, prepare_of_running (expired_new now)]
      exact .restarted hexpired
  | restarted hexpired =>
      rw [Option.getD_some, prepare_of_running (expired_new now)]
      exact .restarted hexpired
  | opened =>
      rw [Option.getD_some, prepare_of_running (expired_new now)]
      exact .opened

theorem lookup_dropExpired (windows : Windows) (capacity now : Nat) (k : String) :
    (dropExpired windows capacity now).lookup k = windows.lookup k ∨
      ∃ w, windows.lookup k = some w ∧ w.expired now = true ∧
        (dropExpired windows capacity now).lookup k = none := by
  rw [dropExpired]
  split
  · rw [Table.lookup_retain]
    cases windows.lookup k with
    | none => exact Or.inl rfl
    | some w =>
        rw [Option.filter_some]
        cases hexpired : w.expired now with
        | false => exact Or.inl rfl
        | true => exact Or.inr ⟨w, rfl, hexpired, rfl⟩
  · exact Or.inl rfl

theorem size_dropExpired (windows : Windows) (capacity now : Nat) :
    (dropExpired windows capacity now).size ≤ windows.size := by
  rw [dropExpired]
  split
  · exact Table.size_retain_le _ _
  · exact le_rfl

theorem ensureCapacity_of_some {windows : Windows} {key : String} {w : WindowCounters}
    (h : windows.lookup key = some w) (capacity now : Nat) :
    ensureCapacity windows key capacity now = (true, windows) := by
  rw [ensureCapacity, h]
  rfl

theorem ensureCapacity_of_none {windows : Windows} {key : String}
    (h : windows.lookup key = none) (capacity now : Nat) :
    ensureCapacity windows key capacity now =
      (decide ((dropExpired windows capacity now).size < capacity),
      dropExpired windows capacity now) := by
  rw [ensureCapacity, h]
  rfl

/-- Making room for one scope drops none but expired windows of others. -/
theorem lookup_ensureCapacity (windows : Windows) (key : String) (capacity now : Nat)
    (k : String) :
    (ensureCapacity windows key capacity now).2.lookup k = windows.lookup k ∨
      ∃ w, windows.lookup k = some w ∧ w.expired now = true ∧
        (ensureCapacity windows key capacity now).2.lookup k = none := by
  cases hlookup : windows.lookup key with
  | some w =>
      rw [ensureCapacity_of_some hlookup]
      exact Or.inl rfl
  | none =>
      rw [ensureCapacity_of_none hlookup]
      exact lookup_dropExpired windows capacity now k

theorem rests_ensureCapacity (windows : Windows) (key : String) (capacity now : Nat)
    (k : String) :
    Rests now (windows.lookup k) ((ensureCapacity windows key capacity now).2.lookup k) := by
  rcases lookup_ensureCapacity windows key capacity now k with hsame | ⟨w, hw, hexpired, hgone⟩
  · rw [hsame]
    exact .kept _
  · rw [hw, hgone]
    exact .evicted hexpired

/-- Room is only made for a scope without a window, which a tracked one keeps. -/
theorem lookup_ensureCapacity_self (windows : Windows) (key : String) (capacity now : Nat) :
    (ensureCapacity windows key capacity now).2.lookup key = windows.lookup key := by
  cases hlookup : windows.lookup key with
  | some w =>
      rw [ensureCapacity_of_some hlookup]
      exact hlookup
  | none =>
      rw [ensureCapacity_of_none hlookup, dropExpired]
      split
      · rw [Table.lookup_retain, hlookup]
        rfl
      · exact hlookup

theorem size_ensureCapacity (windows : Windows) (key : String) (capacity now : Nat) :
    (ensureCapacity windows key capacity now).2.size ≤ windows.size := by
  cases hlookup : windows.lookup key with
  | some w =>
      rw [ensureCapacity_of_some hlookup]
  | none =>
      rw [ensureCapacity_of_none hlookup]
      exact size_dropExpired windows capacity now

/-- A scope with a slot that has no window finds fewer than there may be. -/
theorem size_lt_of_ensureCapacity {windows : Windows} {key : String} {capacity now : Nat}
    (h : (ensureCapacity windows key capacity now).1 = true)
    (hnone : windows.lookup key = none) :
    (ensureCapacity windows key capacity now).2.size < capacity := by
  rw [ensureCapacity_of_none hnone] at h ⊢
  exact of_decide_eq_true h

theorem size_insert_le {windows : Windows} {key : String} {capacity : Nat}
    (hsize : windows.size ≤ capacity) (hslot : windows.lookup key = none → windows.size < capacity)
    (w : WindowCounters) : Table.size (windows.insert key w) ≤ capacity := by
  cases hlookup : windows.lookup key with
  | none =>
      rw [Table.size_insert_of_none hlookup]
      exact hslot hlookup
  | some old =>
      rw [Table.size_insert_of_some hlookup]
      exact hsize

end AgentsAssemble.Server.Socket
