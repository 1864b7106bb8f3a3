import AgentsAssemble.Server.Sockets

/-!
# Socket admission decides like unbounded tables

A window that a full table dropped has expired in the reference too, where it
starts again as soon as it is looked at.  So the two agree on what they decide
as long as every call finds a slot.
-/

namespace AgentsAssemble.Server.Socket

open Foundation

/-- One call at a time, with the state it met, the decision and the state it left. -/
structure Served where
  call : SocketCall
  now : Nat
  before : SocketAdmissionState
  decision : Bool
  after : SocketAdmissionState

/-- Calls come at times that do not go back. -/
inductive Serves : Served → Nat × SocketAdmissionState → Nat × SocketAdmissionState → Prop
  | serve (call : SocketCall) {clock now : Nat} (s : SocketAdmissionState) (hnow : clock ≤ now) :
      Serves ⟨call, now, s, (s.serve now call).1, (s.serve now call).2⟩ (clock, s)
        (now, (s.serve now call).2)

/-- The bounded windows are those of the reference, but for expired ones. -/
def Agrees (now : Nat) (bounded unbounded : Windows) : Prop :=
  ∀ k, bounded.lookup k = unbounded.lookup k ∨
    bounded.lookup k = none ∧ ∀ w, unbounded.lookup k = some w → w.expired now = true

section Agrees

variable {now later : Nat} {t r : Windows}

theorem Agrees.mono (h : Agrees now t r) (hlater : now ≤ later) : Agrees later t r :=
  fun k => (h k).imp id fun ⟨hnone, hexpired⟩ =>
    ⟨hnone, fun w hw => expired_mono hlater (hexpired w hw)⟩

theorem Agrees.ensureCapacity (h : Agrees now t r) (key : String) (capacity : Nat) :
    Agrees now (ensureCapacity t key capacity now).2 r := by
  intro k
  rcases lookup_ensureCapacity t key capacity now k with hsame | ⟨w, hw, hexpired, hgone⟩
  · rw [hsame]
    exact h k
  · refine Or.inr ⟨hgone, fun w' hw' => ?_⟩
    rcases h k with heq | ⟨hnone, -⟩
    · rw [hw, hw'] at heq
      exact Option.some.inj heq ▸ hexpired
    · rw [hw] at hnone
      cases hnone

/-- A call finds the same window on both sides, once it is prepared. -/
theorem Agrees.entry (h : Agrees now t r) (key : String) :
    (entry t key now).prepare now = (entry r key now).prepare now := by
  rcases h key with heq | ⟨hnone, hexpired⟩
  · rw [Socket.entry, Socket.entry, heq]
  · rw [Socket.entry, Socket.entry, hnone]
    cases hlookup : r.lookup key with
    | none => rfl
    | some w =>
        rw [Option.getD_none, Option.getD_some, prepare_of_running (expired_new now),
          prepare_of_expired (hexpired w hlookup)]

theorem Agrees.insert (h : Agrees now t r) (key : String) (w : WindowCounters) :
    Agrees now (t.insert key w) (r.insert key w) := by
  intro k
  rw [Table.lookup_insert_ite, Table.lookup_insert_ite]
  split
  · exact Or.inl rfl
  · exact h k

end Agrees

/-- The bounded state agrees with the state of the reference. -/
structure StateAgrees (now : Nat) (bounded unbounded : SocketAdmissionState) : Prop where
  global : bounded.global = unbounded.global
  principals : Agrees now bounded.principals unbounded.principals
  rooms : Agrees now bounded.rooms unbounded.rooms

section StateAgrees

variable {now later : Nat} {s r : SocketAdmissionState}

theorem StateAgrees.mono (h : StateAgrees now s r) (hlater : now ≤ later) :
    StateAgrees later s r :=
  ⟨h.global, h.principals.mono hlater, h.rooms.mono hlater⟩

theorem StateAgrees.chargeSlotted (h : StateAgrees now s r) (principalId roomId : String)
    (bytes : Nat) (controlFrame : Bool) :
    (s.chargeSlotted principalId roomId now bytes controlFrame).1 =
        (r.chargeSlotted principalId roomId now bytes controlFrame).1 ∧
      StateAgrees now (s.chargeSlotted principalId roomId now bytes controlFrame).2
        (r.chargeSlotted principalId roomId now bytes controlFrame).2 := by
  have hprincipal := h.principals.entry principalId
  have hroom := h.rooms.entry roomId
  unfold SocketAdmissionState.chargeSlotted WindowCounters.chargeFrame
  dsimp only
  rw [h.global, hprincipal, hroom]
  exact ⟨rfl, rfl, h.principals.insert _ _, h.rooms.insert _ _⟩

theorem StateAgrees.requestSlotted (h : StateAgrees now s r) (principalId roomId : String)
    (requestedEvents : Nat) :
    (s.requestSlotted principalId roomId requestedEvents now).1 =
        (r.requestSlotted principalId roomId requestedEvents now).1 ∧
      StateAgrees now (s.requestSlotted principalId roomId requestedEvents now).2
        (r.requestSlotted principalId roomId requestedEvents now).2 := by
  have hprincipal := h.principals.entry principalId
  have hroom := h.rooms.entry roomId
  unfold SocketAdmissionState.requestSlotted
  dsimp only
  rw [h.global, hprincipal, hroom]
  split
  · exact ⟨rfl, rfl, h.principals.insert _ _, h.rooms.insert _ _⟩
  · exact ⟨rfl, rfl, h.principals.insert _ _, h.rooms.insert _ _⟩

/-- A call that finds its slots is decided as by the reference. -/
theorem StateAgrees.serve (h : StateAgrees now s r) {call : SocketCall}
    (hslots : s.hasSlots now call = true) :
    (s.serve now call).1 = (r.admitUnbounded now call).1 ∧
      StateAgrees now (s.serve now call).2 (r.admitUnbounded now call).2 := by
  obtain ⟨hprincipal, hroom⟩ := Bool.and_eq_true_iff.mp hslots
  have hroomy : StateAgrees now
      { s with
        principals := (ensureCapacity s.principals call.principalId maxTrackedPrincipals now).2
        rooms := (ensureCapacity s.rooms call.roomId maxTrackedRooms now).2 } r :=
    ⟨h.global, h.principals.ensureCapacity _ _, h.rooms.ensureCapacity _ _⟩
  cases call with
  | frame principalId roomId bytes controlFrame =>
      have hframe : s.serve now (.frame principalId roomId bytes controlFrame) =
          SocketAdmissionState.chargeSlotted
            { s with
              principals := (ensureCapacity s.principals principalId maxTrackedPrincipals now).2
              rooms := (ensureCapacity s.rooms roomId maxTrackedRooms now).2 }
            principalId roomId now bytes controlFrame := by
        change (ensureCapacity s.principals principalId maxTrackedPrincipals now).1 = true
          at hprincipal
        change (ensureCapacity s.rooms roomId maxTrackedRooms now).1 = true at hroom
        rw [SocketAdmissionState.serve, SocketAdmissionState.admitFrame]
        exact if_neg (by rw [hprincipal, hroom]; decide)
      rw [hframe]
      exact hroomy.chargeSlotted principalId roomId bytes controlFrame
  | history principalId roomId requestedEvents =>
      have hhistory : s.serve now (.history principalId roomId requestedEvents) =
          SocketAdmissionState.requestSlotted
            { s with
              principals := (ensureCapacity s.principals principalId maxTrackedPrincipals now).2
              rooms := (ensureCapacity s.rooms roomId maxTrackedRooms now).2 }
            principalId roomId requestedEvents now := by
        change (ensureCapacity s.principals principalId maxTrackedPrincipals now).1 = true
          at hprincipal
        change (ensureCapacity s.rooms roomId maxTrackedRooms now).1 = true at hroom
        rw [SocketAdmissionState.serve, SocketAdmissionState.admitHistory]
        exact (if_neg (by rw [hprincipal]; decide)).trans (if_neg (by rw [hroom]; decide))
      rw [hhistory]
      exact hroomy.requestSlotted principalId roomId requestedEvents

end StateAgrees

end AgentsAssemble.Server.Socket
