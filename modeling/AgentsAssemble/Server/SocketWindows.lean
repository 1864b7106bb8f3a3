import AgentsAssemble.Server.SocketReference

/-!
# Socket admission within its policies

Each scope is followed on its own.  A call counts in the window of its scope if
it was admitted, or if it is a frame and the scope is tracked; the counters are
the saturated totals of what counted since the window started.
-/

namespace AgentsAssemble.Server.Socket

open Foundation

inductive Scope
  | global
  | principal (principalId : String)
  | room (roomId : String)
deriving DecidableEq

inductive Counter
  | messages
  | bytes
  | controlFrames
  | historyRequests
  | historyEvents

def Scope.policy : Scope → ScopePolicy
  | global => globalPolicy
  | principal _ => principalPolicy
  | room _ => roomPolicy

def ScopePolicy.get (policy : ScopePolicy) : Counter → Nat
  | .messages => policy.messages
  | .bytes => policy.bytes
  | .controlFrames => policy.controlFrames
  | .historyRequests => policy.historyRequests
  | .historyEvents => policy.historyEvents

def WindowCounters.get (counters : WindowCounters) : Counter → Nat
  | .messages => counters.messages
  | .bytes => counters.bytes
  | .controlFrames => counters.controlFrames
  | .historyRequests => counters.historyRequests
  | .historyEvents => counters.historyEvents

namespace SocketCall

def isFrame : SocketCall → Bool
  | frame _ _ _ _ => true
  | history _ _ _ => false

/-- What a call adds to a counter. -/
def load : SocketCall → Counter → Nat
  | frame _ _ _ _, .messages => 1
  | frame _ _ bytes _, .bytes => bytes
  | frame _ _ _ controlFrame, .controlFrames => controlFrame.toNat
  | history _ _ _, .historyRequests => 1
  | history _ _ requestedEvents, .historyEvents => requestedEvents
  | _, _ => 0

/-- Whether a call is one of a scope. -/
def within (call : SocketCall) : Scope → Bool
  | .global => true
  | .principal principalId => call.principalId = principalId
  | .room roomId => call.roomId = roomId

/-- A window that a call counted in. -/
def countedIn : SocketCall → WindowCounters → WindowCounters
  | frame _ _ bytes controlFrame, w => w.countFrame bytes controlFrame
  | history _ _ requestedEvents, w => w.commitHistory requestedEvents

end SocketCall

def SocketAdmissionState.windowOf (s : SocketAdmissionState) : Scope → Option WindowCounters
  | .global => some s.global
  | .principal principalId => s.principals.lookup principalId
  | .room roomId => s.rooms.lookup roomId

/-- A call counts in the window of a scope: it was admitted, or it is a frame of a tracked one. -/
def Served.counts (served : Served) (scope : Scope) : Bool :=
  served.call.within scope &&
    (served.decision || served.call.isFrame && (served.after.windowOf scope).isSome)

/-- A call of a scope that was admitted. -/
def Served.admitted (served : Served) (scope : Scope) : Bool :=
  served.call.within scope && served.decision

/-- The sum over the calls of a trace that satisfy `p`, from `start` on. -/
def loadSince (p : Served → Bool) (counter : Counter) (start : Nat) (trace : List Served) : Nat :=
  Log.total (fun served => served.call.load counter)
    (trace.filter fun served => p served && decide (start ≤ served.now))

/-! ## One window -/

/-- A sum as a counter shows it. -/
def saturate (n : Nat) : Nat := min n wordMax

theorem saturatingAdd_saturate (a b : Nat) :
    saturatingAdd (saturate a) b = saturate (a + b) := by
  rw [saturatingAdd, saturate, saturate]
  omega

theorem le_of_saturate_le {n limit : Nat} (h : saturate n ≤ limit) (hlimit : limit < wordMax) :
    n ≤ limit := by
  rw [saturate] at h
  omega

theorem policy_lt_wordMax (scope : Scope) (counter : Counter) :
    scope.policy.get counter < wordMax := by
  cases scope with
  | global => cases counter <;> decide
  | principal principalId =>
      show principalPolicy.get counter < wordMax
      cases counter <;> decide
  | room roomId =>
      show roomPolicy.get counter < wordMax
      cases counter <;> decide

theorem get_new (now : Nat) (counter : Counter) : (WindowCounters.new now).get counter = 0 := by
  cases counter <;> rfl

/-- A call adds its load to each counter. -/
theorem get_countedIn {w : WindowCounters} {counter : Counter} {total : Nat}
    (h : w.get counter = saturate total) (call : SocketCall) :
    (call.countedIn w).get counter = saturate (total + call.load counter) := by
  cases call with
  | frame principalId roomId bytes controlFrame =>
      cases counter with
      | messages =>
          rw [← saturatingAdd_saturate, ← h]
          rfl
      | bytes =>
          rw [← saturatingAdd_saturate, ← h]
          rfl
      | controlFrames =>
          cases controlFrame with
          | false => exact h
          | true =>
              rw [← saturatingAdd_saturate, ← h]
              rfl
      | historyRequests => exact h
      | historyEvents => exact h
  | history principalId roomId requestedEvents =>
      cases counter with
      | messages => exact h
      | bytes => exact h
      | controlFrames => exact h
      | historyRequests =>
          rw [← saturatingAdd_saturate, ← h]
          rfl
      | historyEvents =>
          rw [← saturatingAdd_saturate, ← h]
          rfl

theorem startedAt_countedIn (call : SocketCall) (w : WindowCounters) :
    (call.countedIn w).startedAt = w.startedAt := by
  cases call <;> rfl

/-- The counters a call adds to are within the policy. -/
def Fits (call : SocketCall) (w : WindowCounters) (policy : ScopePolicy) : Prop :=
  ∀ counter, call.load counter = 0 ∨ w.get counter ≤ policy.get counter

theorem fits_frame {principalId roomId : String} {bytes : Nat} {controlFrame : Bool}
    {w : WindowCounters} {policy : ScopePolicy} (h : w.admitsFrames policy = true) :
    Fits (.frame principalId roomId bytes controlFrame) w policy := by
  simp only [WindowCounters.admitsFrames, Bool.and_eq_true, decide_eq_true_eq] at h
  obtain ⟨⟨hmessages, hbytes⟩, hcontrol⟩ := h
  intro counter
  cases counter with
  | messages => exact Or.inr hmessages
  | bytes => exact Or.inr hbytes
  | controlFrames => exact Or.inr hcontrol
  | historyRequests => exact Or.inl rfl
  | historyEvents => exact Or.inl rfl

theorem fits_history {principalId roomId : String} {requestedEvents : Nat} {w : WindowCounters}
    {policy : ScopePolicy} (h : w.admitsHistory requestedEvents policy = true) :
    Fits (.history principalId roomId requestedEvents) (w.commitHistory requestedEvents)
      policy := by
  simp only [WindowCounters.admitsHistory, Bool.and_eq_true, decide_eq_true_eq] at h
  intro counter
  cases counter with
  | historyRequests => exact Or.inr h.1
  | historyEvents => exact Or.inr h.2
  | messages => exact Or.inl rfl
  | bytes => exact Or.inl rfl
  | controlFrames => exact Or.inl rfl

/-! ## What a call does to the window of its scope -/

/-- The window a call of its scope leaves: it counted in a running one, or it was refused and is no
frame of a tracked scope. -/
inductive Effect (now : Nat) (call : SocketCall) (decision : Bool) (policy : ScopePolicy)
    (before : Option WindowCounters) : Option WindowCounters → Prop
  | counted {w : WindowCounters} (hrests : Rests now before (some w))
      (hrunning : w.expired now = false) (hcounts : decision = true ∨ call.isFrame = true)
      (hfits : decision = true → Fits call (call.countedIn w) policy) :
      Effect now call decision policy before (some (call.countedIn w))
  | passed {after : Option WindowCounters} (hrests : Rests now before after)
      (hrefused : decision = false) (huntracked : call.isFrame = true → after = none) :
      Effect now call decision policy before after

section Effects

variable {now : Nat} {s : SocketAdmissionState} {principalId roomId : String}

theorem Rests.entry {o : Option WindowCounters} {windows : Windows} {key : String}
    (h : Rests now o (windows.lookup key)) :
    Rests now o (some ((entry windows key now).prepare now)) :=
  h.trans_open

theorem effect_chargeExistingFrame {policy : ScopePolicy} {bytes capacity : Nat}
    {controlFrame : Bool} (windows : Windows) (key : String) :
    Effect now (.frame principalId roomId bytes controlFrame) false policy (windows.lookup key)
      ((chargeExistingFrame (ensureCapacity windows key capacity now).2 key now bytes controlFrame
        policy).lookup key) := by
  have hself := lookup_ensureCapacity_self windows key capacity now
  have hrests := rests_ensureCapacity windows key capacity now key
  rw [chargeExistingFrame]
  cases hlookup : (ensureCapacity windows key capacity now).2.lookup key with
  | none =>
      dsimp only
      rw [hlookup] at hrests ⊢
      exact .passed hrests rfl fun _ => rfl
  | some w =>
      dsimp only
      rw [AList.lookup_insert]
      rw [hlookup] at hrests
      exact .counted hrests.trans_open
        (expired_prepare w now) (Or.inr rfl) (by rintro ⟨⟩)

/-- A frame leaves each of its scopes charged, but for scopes without a window. -/
theorem effect_admitFrame (s : SocketAdmissionState) (principalId roomId : String) (bytes : Nat)
    (controlFrame : Bool) (now : Nat) {scope : Scope}
    (hwithin : (SocketCall.frame principalId roomId bytes controlFrame).within scope = true) :
    Effect now (.frame principalId roomId bytes controlFrame)
      (s.admitFrame principalId roomId bytes controlFrame now).1 scope.policy (s.windowOf scope)
      ((s.admitFrame principalId roomId bytes controlFrame now).2.windowOf scope) := by
  have hprincipals := rests_ensureCapacity s.principals principalId maxTrackedPrincipals now
    principalId
  have hrooms := rests_ensureCapacity s.rooms roomId maxTrackedRooms now roomId
  have hglobal : Rests now (some s.global) (some (s.global.prepare now)) :=
    (Rests.kept (some s.global)).trans_open
  by_cases hslots : (!(ensureCapacity s.principals principalId maxTrackedPrincipals now).1 ||
      !(ensureCapacity s.rooms roomId maxTrackedRooms now).1) = true
  · have hframe : s.admitFrame principalId roomId bytes controlFrame now = _ := if_pos hslots
    rw [hframe]
    cases scope with
    | global =>
        exact .counted hglobal
          (expired_prepare _ now) (Or.inr rfl) (by rintro ⟨⟩)
    | principal id =>
        have hid : principalId = id := of_decide_eq_true hwithin
        subst hid
        exact effect_chargeExistingFrame s.principals principalId
    | room id =>
        have hid : roomId = id := of_decide_eq_true hwithin
        subst hid
        exact effect_chargeExistingFrame s.rooms roomId
  · have hframe : s.admitFrame principalId roomId bytes controlFrame now = _ := if_neg hslots
    rw [hframe, SocketAdmissionState.chargeSlotted]
    dsimp only [SocketAdmissionState.windowOf]
    cases scope with
    | global =>
        refine .counted hglobal
          (expired_prepare _ now) (Or.inr rfl) fun hadmitted => fits_frame ?_
        exact (Bool.and_eq_true_iff.mp (Bool.and_eq_true_iff.mp hadmitted).1).1
    | principal id =>
        have hid : principalId = id := of_decide_eq_true hwithin
        subst hid
        dsimp only
        rw [AList.lookup_insert]
        refine .counted hprincipals.entry
          (expired_prepare _ now) (Or.inr rfl) fun hadmitted => fits_frame ?_
        exact (Bool.and_eq_true_iff.mp (Bool.and_eq_true_iff.mp hadmitted).1).2
    | room id =>
        have hid : roomId = id := of_decide_eq_true hwithin
        subst hid
        dsimp only
        rw [AList.lookup_insert]
        refine .counted hrooms.entry
          (expired_prepare _ now) (Or.inr rfl) fun hadmitted => fits_frame ?_
        exact (Bool.and_eq_true_iff.mp hadmitted).2

/-- A history request counts in each of its scopes, or it is refused and counts in none. -/
theorem effect_admitHistory (s : SocketAdmissionState) (principalId roomId : String)
    (requestedEvents now : Nat) {scope : Scope}
    (hwithin : (SocketCall.history principalId roomId requestedEvents).within scope = true) :
    Effect now (.history principalId roomId requestedEvents)
      (s.admitHistory principalId roomId requestedEvents now).1 scope.policy (s.windowOf scope)
      ((s.admitHistory principalId roomId requestedEvents now).2.windowOf scope) := by
  have hprincipals := rests_ensureCapacity s.principals principalId maxTrackedPrincipals now
    principalId
  have hrooms := rests_ensureCapacity s.rooms roomId maxTrackedRooms now roomId
  have hglobal : Rests now (some s.global) (some (s.global.prepare now)) :=
    (Rests.kept (some s.global)).trans_open
  by_cases hprincipal :
      (!(ensureCapacity s.principals principalId maxTrackedPrincipals now).1) = true
  · have hhistory : s.admitHistory principalId roomId requestedEvents now = _ := if_pos hprincipal
    rw [hhistory]
    cases scope with
    | global => exact .passed (.kept _) rfl (by rintro ⟨⟩)
    | principal id =>
        have hid : principalId = id := of_decide_eq_true hwithin
        subst hid
        exact .passed hprincipals rfl (by rintro ⟨⟩)
    | room id => exact .passed (.kept _) rfl (by rintro ⟨⟩)
  by_cases hroom : (!(ensureCapacity s.rooms roomId maxTrackedRooms now).1) = true
  · have hhistory : s.admitHistory principalId roomId requestedEvents now = _ :=
      (if_neg hprincipal).trans (if_pos hroom)
    rw [hhistory]
    cases scope with
    | global => exact .passed (.kept _) rfl (by rintro ⟨⟩)
    | principal id =>
        have hid : principalId = id := of_decide_eq_true hwithin
        subst hid
        exact .passed hprincipals rfl (by rintro ⟨⟩)
    | room id =>
        have hid : roomId = id := of_decide_eq_true hwithin
        subst hid
        exact .passed hrooms rfl (by rintro ⟨⟩)
  have hhistory : s.admitHistory principalId roomId requestedEvents now = _ :=
    (if_neg hprincipal).trans (if_neg hroom)
  rw [hhistory, SocketAdmissionState.requestSlotted]
  dsimp only
  split
  · cases scope with
    | global => exact .passed hglobal rfl (by rintro ⟨⟩)
    | principal id =>
        have hid : principalId = id := of_decide_eq_true hwithin
        subst hid
        dsimp only [SocketAdmissionState.windowOf]
        rw [AList.lookup_insert]
        exact .passed hprincipals.entry rfl (by rintro ⟨⟩)
    | room id =>
        have hid : roomId = id := of_decide_eq_true hwithin
        subst hid
        dsimp only [SocketAdmissionState.windowOf]
        rw [AList.lookup_insert]
        exact .passed hrooms.entry rfl (by rintro ⟨⟩)
  · rename_i hadmits
    simp only [Bool.or_eq_true, Bool.not_eq_true', not_or, Bool.not_eq_false] at hadmits
    obtain ⟨⟨hfitsGlobal, hfitsPrincipal⟩, hfitsRoom⟩ := hadmits
    cases scope with
    | global =>
        exact .counted hglobal (expired_prepare _ now) (Or.inl rfl) fun _ =>
          fits_history hfitsGlobal
    | principal id =>
        have hid : principalId = id := of_decide_eq_true hwithin
        subst hid
        dsimp only [SocketAdmissionState.windowOf]
        rw [AList.lookup_insert]
        exact .counted hprincipals.entry (expired_prepare _ now) (Or.inl rfl) fun _ =>
          fits_history hfitsPrincipal
    | room id =>
        have hid : roomId = id := of_decide_eq_true hwithin
        subst hid
        dsimp only [SocketAdmissionState.windowOf]
        rw [AList.lookup_insert]
        exact .counted hrooms.entry (expired_prepare _ now) (Or.inl rfl) fun _ =>
          fits_history hfitsRoom

theorem effect_serve (s : SocketAdmissionState) (now : Nat) (call : SocketCall) {scope : Scope}
    (hwithin : call.within scope = true) :
    Effect now call (s.serve now call).1 scope.policy (s.windowOf scope)
      ((s.serve now call).2.windowOf scope) := by
  cases call with
  | frame principalId roomId bytes controlFrame =>
      exact effect_admitFrame s principalId roomId bytes controlFrame now hwithin
  | history principalId roomId requestedEvents =>
      exact effect_admitHistory s principalId roomId requestedEvents now hwithin

/-! ## The tables -/

/-- How a call may change a table of windows: other scopes only lose expired windows, and the table
stays within its capacity. -/
structure Tabled (now capacity : Nat) (key : String) (before after : Windows) : Prop where
  others : ∀ k ≠ key, Rests now (before.lookup k) (after.lookup k)
  size : before.size ≤ capacity → after.size ≤ capacity

theorem tabled_refl (now capacity : Nat) (key : String) (windows : Windows) :
    Tabled now capacity key windows windows :=
  ⟨fun _ _ => .kept _, id⟩

theorem tabled_ensureCapacity (now capacity : Nat) (key : String) (windows : Windows) :
    Tabled now capacity key windows (ensureCapacity windows key capacity now).2 :=
  ⟨fun k _ => rests_ensureCapacity windows key capacity now k,
    (size_ensureCapacity windows key capacity now).trans⟩

theorem tabled_insert {capacity : Nat} {key : String} {windows : Windows}
    (h : (ensureCapacity windows key capacity now).1 = true) (w : WindowCounters) :
    Tabled now capacity key windows
      ((ensureCapacity windows key capacity now).2.insert key w) := by
  refine ⟨fun k hk => ?_, fun hsize => ?_⟩
  · rw [AList.lookup_insert_ne hk]
    exact rests_ensureCapacity windows key capacity now k
  · refine size_insert_le ((size_ensureCapacity windows key capacity now).trans hsize)
      (fun hnone => size_lt_of_ensureCapacity h ?_) w
    rwa [lookup_ensureCapacity_self] at hnone

theorem tabled_chargeExistingFrame (now capacity bytes : Nat) (controlFrame : Bool)
    (policy : ScopePolicy) (key : String) (windows : Windows) :
    Tabled now capacity key windows
      (chargeExistingFrame (ensureCapacity windows key capacity now).2 key now bytes controlFrame
        policy) := by
  have hroom := tabled_ensureCapacity now capacity key windows
  rw [chargeExistingFrame]
  cases hlookup : (ensureCapacity windows key capacity now).2.lookup key with
  | none => exact hroom
  | some w =>
      refine ⟨fun k hk => ?_, fun hsize => ?_⟩
      · dsimp only
        rw [AList.lookup_insert_ne hk]
        exact hroom.others k hk
      · dsimp only
        rw [Table.size_insert_of_some hlookup]
        exact hroom.size hsize

/-- A call changes its own tables alone, and only at its own scopes. -/
theorem tabled_serve (s : SocketAdmissionState) (now : Nat) (call : SocketCall) :
    Tabled now maxTrackedPrincipals call.principalId s.principals
        (s.serve now call).2.principals ∧
      Tabled now maxTrackedRooms call.roomId s.rooms (s.serve now call).2.rooms := by
  cases call with
  | frame principalId roomId bytes controlFrame =>
      by_cases hslots : (!(ensureCapacity s.principals principalId maxTrackedPrincipals now).1 ||
          !(ensureCapacity s.rooms roomId maxTrackedRooms now).1) = true
      · have hframe : s.admitFrame principalId roomId bytes controlFrame now = _ := if_pos hslots
        rw [SocketAdmissionState.serve, hframe]
        exact ⟨tabled_chargeExistingFrame now _ bytes controlFrame _ principalId s.principals,
          tabled_chargeExistingFrame now _ bytes controlFrame _ roomId s.rooms⟩
      · have hframe : s.admitFrame principalId roomId bytes controlFrame now = _ := if_neg hslots
        rw [SocketAdmissionState.serve, hframe]
        simp only [Bool.or_eq_true, Bool.not_eq_true', not_or, Bool.not_eq_false] at hslots
        exact ⟨tabled_insert hslots.1 _, tabled_insert hslots.2 _⟩
  | history principalId roomId requestedEvents =>
      have hprincipals := tabled_ensureCapacity now maxTrackedPrincipals principalId s.principals
      have hrooms := tabled_ensureCapacity now maxTrackedRooms roomId s.rooms
      by_cases hprincipal :
          (!(ensureCapacity s.principals principalId maxTrackedPrincipals now).1) = true
      · have hhistory : s.admitHistory principalId roomId requestedEvents now = _ :=
          if_pos hprincipal
        rw [SocketAdmissionState.serve, hhistory]
        exact ⟨hprincipals, tabled_refl now _ roomId s.rooms⟩
      by_cases hroom : (!(ensureCapacity s.rooms roomId maxTrackedRooms now).1) = true
      · have hhistory : s.admitHistory principalId roomId requestedEvents now = _ :=
          (if_neg hprincipal).trans (if_pos hroom)
        rw [SocketAdmissionState.serve, hhistory]
        exact ⟨hprincipals, hrooms⟩
      have hhistory : s.admitHistory principalId roomId requestedEvents now = _ :=
        (if_neg hprincipal).trans (if_neg hroom)
      rw [Bool.not_eq_true, Bool.not_eq_false'] at hprincipal hroom
      rw [SocketAdmissionState.serve, hhistory, SocketAdmissionState.requestSlotted]
      dsimp only
      split
      · exact ⟨tabled_insert hprincipal _, tabled_insert hroom _⟩
      · exact ⟨tabled_insert hprincipal _, tabled_insert hroom _⟩

/-- The windows of other scopes only go when they have expired. -/
theorem rests_serve (s : SocketAdmissionState) (now : Nat) (call : SocketCall) {scope : Scope}
    (hwithin : call.within scope = false) :
    Rests now (s.windowOf scope) ((s.serve now call).2.windowOf scope) := by
  obtain ⟨hprincipals, hrooms⟩ := tabled_serve s now call
  cases scope with
  | global => cases hwithin
  | principal id => exact hprincipals.others id (Ne.symm (of_decide_eq_false hwithin))
  | room id => exact hrooms.others id (Ne.symm (of_decide_eq_false hwithin))

end Effects

/-! ## Runs -/

/-- What the window of a scope says about the trace so far.  Without a window, whatever counted
belongs to a window that is over. -/
def Follows (scope : Scope) (trace : List Served) (clock : Nat) : Option WindowCounters → Prop
  | none => ∀ served ∈ trace, served.counts scope = true → served.now < clock
  | some w =>
      w.startedAt ≤ clock ∧
      (∀ counter, w.get counter =
        saturate (loadSince (fun served => served.counts scope) counter w.startedAt trace)) ∧
      (∀ counter, loadSince (fun served => served.admitted scope) counter w.startedAt trace ≤
        scope.policy.get counter) ∧
      ∀ served ∈ trace, served.counts scope = true → served.now < w.startedAt + windowLength

section Runs

variable {scope : Scope} {trace : List Served} {clock now : Nat}
  {o o' : Option WindowCounters}

theorem loadSince_append (p : Served → Bool) (counter : Counter) (start : Nat)
    (a b : List Served) :
    loadSince p counter start (a ++ b) =
      loadSince p counter start a + loadSince p counter start b := by
  rw [loadSince, List.filter_append, Log.total_append]
  rfl

theorem loadSince_eq_zero {p : Served → Bool} {start : Nat} {trace : List Served}
    (h : ∀ served ∈ trace, p served = true → served.now < start) (counter : Counter) :
    loadSince p counter start trace = 0 := by
  rw [loadSince, List.filter_eq_nil_iff.mpr, Log.total_nil]
  intro served hserved hboth
  rw [Bool.and_eq_true, decide_eq_true_eq] at hboth
  exact Nat.not_le.mpr (h served hserved hboth.1) hboth.2

theorem counts_of_admitted {served : Served} (h : served.admitted scope = true) :
    served.counts scope = true := by
  obtain ⟨hwithin, hdecision⟩ := Bool.and_eq_true_iff.mp h
  rw [Served.counts, hwithin, hdecision]
  rfl

/-- A window that starts after everything that counted is empty, and so is what was admitted. -/
theorem follows_new (h : ∀ served ∈ trace, served.counts scope = true → served.now < now) :
    Follows scope trace now (some (.new now)) := by
  refine ⟨le_rfl, fun counter => ?_, fun counter => ?_, fun served hserved hcounts => ?_⟩
  · have hzero : loadSince (fun served => served.counts scope) counter now trace = 0 :=
      loadSince_eq_zero h counter
    rw [get_new, show (WindowCounters.new now).startedAt = now from rfl, hzero]
    rfl
  · have hzero : loadSince (fun served => served.admitted scope) counter now trace = 0 :=
      loadSince_eq_zero (fun served hserved hadmitted =>
        h served hserved (counts_of_admitted hadmitted)) counter
    rw [show (WindowCounters.new now).startedAt = now from rfl, hzero]
    exact Nat.zero_le _
  · exact (h served hserved hcounts).trans_le (Nat.le_add_right _ _)

/-- An expired window ended by now. -/
theorem end_le_of_expired {w : WindowCounters} (h : w.expired now = true) :
    w.startedAt + windowLength ≤ now := by
  rw [WindowCounters.expired, decide_eq_true_eq] at h
  have hlength : 0 < windowLength := by decide
  omega

theorem Follows.rests (h : Follows scope trace clock o) (hnow : clock ≤ now)
    (hrests : Rests now o o') : Follows scope trace now o' := by
  cases hrests with
  | kept =>
      cases o with
      | none => exact fun served hserved hcounts => (h served hserved hcounts).trans_le hnow
      | some w => exact ⟨h.1.trans hnow, h.2⟩
  | @evicted w hexpired =>
      obtain ⟨hstart, -, -, hlast⟩ := h
      exact fun served hserved hcounts =>
        (hlast served hserved hcounts).trans_le (end_le_of_expired hexpired)
  | @restarted w hexpired =>
      obtain ⟨hstart, -, -, hlast⟩ := h
      exact follows_new fun served hserved hcounts =>
        (hlast served hserved hcounts).trans_le (end_le_of_expired hexpired)
  | opened =>
      exact follows_new fun served hserved hcounts => (h served hserved hcounts).trans_le hnow

/-- A call that does not count for a scope changes nothing of what was counted. -/
theorem Follows.passed (h : Follows scope trace now o) {served : Served}
    (hcounts : served.counts scope = false) : Follows scope (trace ++ [served]) now o := by
  have hsum : ∀ {p : Served → Bool}, p served = false → ∀ counter start,
      loadSince p counter start (trace ++ [served]) = loadSince p counter start trace := by
    intro p hp counter start
    rw [loadSince_append]
    have hlast : loadSince p counter start [served] = 0 := by
      refine loadSince_eq_zero (fun other hother hcounted => ?_) counter
      rw [List.mem_singleton.mp hother, hp] at hcounted
      cases hcounted
    rw [hlast, Nat.add_zero]
  have hadmitted : served.admitted scope = false :=
    eq_false_of_ne_true fun hadmitted => by
      rw [counts_of_admitted hadmitted] at hcounts
      cases hcounts
  have hmem : ∀ other ∈ trace ++ [served], other.counts scope = true → other ∈ trace := by
    intro other hother hcounted
    rcases List.mem_append.mp hother with hold | hlast
    · exact hold
    · rw [List.mem_singleton.mp hlast, hcounts] at hcounted
      cases hcounted
  cases o with
  | none => exact fun other hother hcounted => h other (hmem other hother hcounted) hcounted
  | some w =>
      refine ⟨h.1, fun counter => ?_, fun counter => ?_, fun other hother hcounted =>
        h.2.2.2 other (hmem other hother hcounted) hcounted⟩
      · rw [hsum hcounts]
        exact h.2.1 counter
      · rw [hsum hadmitted]
        exact h.2.2.1 counter

/-- A call that counts adds its load to the window it counted in. -/
theorem Follows.counted {w : WindowCounters} (h : Follows scope trace now (some w))
    {served : Served} (htime : served.now = now) (hrunning : w.expired now = false)
    (hcounts : served.counts scope = true)
    (hfits : served.decision = true →
      Fits served.call (served.call.countedIn w) scope.policy) :
    Follows scope (trace ++ [served]) now (some (served.call.countedIn w)) := by
  obtain ⟨hstart, hget, hadmitted, hlast⟩ := h
  have hsum : ∀ (p : Served → Bool) counter, loadSince p counter w.startedAt (trace ++ [served]) =
      loadSince p counter w.startedAt trace +
        if p served = true then served.call.load counter else 0 := by
    intro p counter
    rw [loadSince_append, loadSince.eq_1 _ _ _ [served]]
    congr 1
    have hlate : decide (w.startedAt ≤ served.now) = true := decide_eq_true (htime ▸ hstart)
    cases hp : p served <;> simp [hp, hlate]
  have hnew : ∀ counter, (served.call.countedIn w).get counter = saturate (loadSince
      (fun other => other.counts scope) counter w.startedAt (trace ++ [served])) := by
    intro counter
    rw [hsum, if_pos hcounts]
    exact get_countedIn (hget counter) served.call
  have hle : ∀ counter, loadSince (fun other => other.admitted scope) counter w.startedAt
      (trace ++ [served]) ≤ loadSince (fun other => other.counts scope) counter w.startedAt
        (trace ++ [served]) := by
    intro counter
    refine Log.total_le_of_sublist (List.monotone_filter_right _ fun other hother => ?_)
    simp only [Bool.and_eq_true] at hother ⊢
    exact ⟨counts_of_admitted hother.1, hother.2⟩
  refine ⟨(startedAt_countedIn served.call w).trans_le hstart, ?_, fun counter => ?_,
    fun other hother hcounted => ?_⟩
  · rw [startedAt_countedIn]
    exact hnew
  · rw [startedAt_countedIn]
    by_cases hdecision : served.admitted scope = true
    · rcases hfits (Bool.and_eq_true_iff.mp hdecision).2 counter with hzero | hwithin
      · rw [hsum, hzero, ite_self]
        exact hadmitted counter
      · rw [hnew] at hwithin
        exact (hle counter).trans (le_of_saturate_le hwithin (policy_lt_wordMax scope counter))
    · rw [hsum, if_neg hdecision]
      exact hadmitted counter
  · rw [startedAt_countedIn]
    rcases List.mem_append.mp hother with hold | hserved
    · exact hlast other hold hcounted
    · rw [List.mem_singleton.mp hserved, htime]
      rw [WindowCounters.expired, decide_eq_false_iff_not] at hrunning
      omega

/-- What every state a run reaches satisfies. -/
structure Accounted (trace : List Served) (clock : Nat) (s : SocketAdmissionState) : Prop where
  follows : ∀ scope, Follows scope trace clock (s.windowOf scope)
  principals : s.principals.size ≤ maxTrackedPrincipals
  rooms : s.rooms.size ≤ maxTrackedRooms

theorem Accounted.step {s : SocketAdmissionState} (h : Accounted trace clock s)
    (call : SocketCall) (hnow : clock ≤ now) :
    Accounted (trace ++ [⟨call, now, s, (s.serve now call).1, (s.serve now call).2⟩]) now
      (s.serve now call).2 := by
  obtain ⟨hprincipals, hrooms⟩ := tabled_serve s now call
  refine ⟨fun scope => ?_, hprincipals.size h.principals, hrooms.size h.rooms⟩
  cases hwithin : call.within scope with
  | false =>
      refine ((h.follows scope).rests hnow (rests_serve s now call hwithin)).passed ?_
      rw [Served.counts, hwithin]
      rfl
  | true =>
      have heffect := effect_serve s now call hwithin
      generalize hafter : (s.serve now call).2.windowOf scope = after at heffect
      cases heffect with
      | counted hrests hrunning hcounts hfits =>
          refine ((h.follows scope).rests hnow hrests).counted rfl hrunning ?_ hfits
          rw [Served.counts, hwithin, hafter]
          rcases hcounts with hadmitted | hframe
          · rw [hadmitted]
            rfl
          · rw [hframe]
            simp
      | passed hrests hrefused huntracked =>
          refine ((h.follows scope).rests hnow hrests).passed ?_
          rw [Served.counts, hrefused, hafter]
          cases hframe : call.isFrame with
          | false => simp
          | true => simp [huntracked hframe]

end Runs

end AgentsAssemble.Server.Socket
