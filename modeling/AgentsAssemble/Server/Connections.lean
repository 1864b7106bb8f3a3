import AgentsAssemble.Foundation.Transition
import AgentsAssemble.Foundation.Table
import AgentsAssemble.Foundation.Counters

/-!
# Connection leases

Admission of room sockets.  A lease is counted in the process, for its
principal and for its room.  A scope's entry opens with its first lease and
closes with its last; entries and leases are numbered from one sequence, so a
late release cannot reach an entry that has been opened again.
-/

namespace AgentsAssemble.Server

open Foundation

def maxConnections : Nat := 128

def maxConnectionsPerPrincipal : Nat := 8

def maxConnectionsPerRoom : Nat := 64

structure Limits where
  total : Nat
  principal : Nat
  room : Nat
deriving DecidableEq, Repr

/-- The limits `ConnectionAdmission::new` serves under. -/
def Limits.default : Limits where
  total := maxConnections
  principal := maxConnectionsPerPrincipal
  room := maxConnectionsPerRoom

structure ScopeEntry where
  generation : Nat
  active : Nat
deriving DecidableEq, Repr

structure LeaseRecord where
  principalId : String
  principalGeneration : Nat
  roomId : String
  roomGeneration : Nat
deriving DecidableEq, Repr

structure AdmissionState where
  sequence : Nat
  active : Nat
  principals : Table String ScopeEntry
  rooms : Table String ScopeEntry
  leases : Table Nat LeaseRecord

def AdmissionState.default : AdmissionState := ⟨0, 0, ∅, ∅, ∅⟩

inductive ConnectionAdmissionError
  | globalLimit
  | principalLimit
  | roomLimit
  | identityUnavailable
deriving DecidableEq, Repr

def allocateIdentity (last : Nat) : Nat :=
  saturatingAdd last 1

/-- The generation a new lease finds its scope in, and the last number taken then. -/
def scopeGeneration (scopes : Table String ScopeEntry) (key : String) (last : Nat) : Nat × Nat :=
  match scopes.lookup key with
  | some entry => (entry.generation, last)
  | none => (allocateIdentity last, allocateIdentity last)

/-- One more lease in a scope, which opens if it has none. -/
def enterScope (scopes : Table String ScopeEntry) (key : String) (generation : Nat) :
    Table String ScopeEntry :=
  let entry := (scopes.lookup key).getD ⟨generation, 0⟩
  scopes.insert key { entry with active := entry.active + 1 }

def releaseScope (scopes : Table String ScopeEntry) (key : String) (generation : Nat) :
    Table String ScopeEntry :=
  match scopes.lookup key with
  | none => scopes
  | some entry =>
      if entry.generation ≠ generation then scopes
      else if entry.active - 1 = 0 then scopes.erase key
      else scopes.insert key { entry with active := entry.active - 1 }

namespace AdmissionState

/-- The lease's id, or why there is none. -/
def acquire (limits : Limits) (principalId roomId : String) (state : AdmissionState) :
    Except ConnectionAdmissionError Nat × AdmissionState :=
  if limits.total ≤ state.active then (.error .globalLimit, state)
  else if (state.principals.lookup principalId).any fun entry =>
      limits.principal ≤ entry.active then (.error .principalLimit, state)
  else if (state.rooms.lookup roomId).any fun entry => limits.room ≤ entry.active then
    (.error .roomLimit, state)
  else
    let newPrincipal := (state.principals.lookup principalId).isNone
    let newRoom := (state.rooms.lookup roomId).isNone
    match checkedAdd state.sequence (1 + newPrincipal.toNat + newRoom.toNat) with
    | none => (.error .identityUnavailable, state)
    | some finalSequence =>
        let principal := scopeGeneration state.principals principalId state.sequence
        let room := scopeGeneration state.rooms roomId principal.2
        let leaseId := allocateIdentity room.2
        (.ok leaseId,
          { sequence := finalSequence
            active := state.active + 1
            principals := enterScope state.principals principalId principal.1
            rooms := enterScope state.rooms roomId room.1
            leases := state.leases.insert leaseId ⟨principalId, principal.1, roomId, room.1⟩ })

def release (leaseId : Nat) (state : AdmissionState) : AdmissionState :=
  match state.leases.lookup leaseId with
  | none => state
  | some record =>
      { state with
        leases := state.leases.erase leaseId
        active := state.active - 1
        principals := releaseScope state.principals record.principalId record.principalGeneration
        rooms := releaseScope state.rooms record.roomId record.roomGeneration }

end AdmissionState

/-! ## One scope -/

/-- The leases a scope counts. -/
def activeIn (scopes : Table String ScopeEntry) (key : String) : Nat :=
  (scopes.lookup key).elim 0 ScopeEntry.active

/-- The entries of one kind of scope agree with the leases, which name their scope by `key`
and its generation by `generation`. -/
structure ScopeCounts (key : LeaseRecord → String) (generation : LeaseRecord → Nat)
    (scopes : Table String ScopeEntry) (leases : Table Nat LeaseRecord) : Prop where
  counted : ∀ k, activeIn scopes k = leases.count fun _ record => key record = k
  opened : ∀ k entry, scopes.lookup k = some entry → 0 < entry.active
  current : ∀ id record, leases.lookup id = some record →
    ∃ entry, scopes.lookup (key record) = some entry ∧ entry.generation = generation record

theorem lookup_enterScope (scopes : Table String ScopeEntry) (k k' : String) (g : Nat) :
    (enterScope scopes k g).lookup k' =
      if k' = k then
        some ⟨((scopes.lookup k).getD ⟨g, 0⟩).generation, activeIn scopes k + 1⟩
      else scopes.lookup k' := by
  rw [enterScope, Table.lookup_insert_ite, activeIn]
  split
  · cases scopes.lookup k <;> rfl
  · rfl

theorem activeIn_enterScope (scopes : Table String ScopeEntry) (k k' : String) (g : Nat) :
    activeIn (enterScope scopes k g) k' = activeIn scopes k' + if k = k' then 1 else 0 := by
  rw [activeIn, lookup_enterScope]
  by_cases h : k' = k
  · subst h
    simp
  · rw [if_neg h, if_neg (Ne.symm h), activeIn, Nat.add_zero]

theorem lookup_releaseScope {scopes : Table String ScopeEntry} {k : String} {entry : ScopeEntry}
    (h : scopes.lookup k = some entry) (k' : String) :
    (releaseScope scopes k entry.generation).lookup k' =
      if k' = k then
        if entry.active - 1 = 0 then none else some { entry with active := entry.active - 1 }
      else scopes.lookup k' := by
  rw [releaseScope, h]
  show (if entry.generation ≠ entry.generation then scopes
    else if entry.active - 1 = 0 then scopes.erase k
    else scopes.insert k { entry with active := entry.active - 1 }).lookup k' = _
  rw [if_neg (fun hne => hne rfl)]
  by_cases hlast : entry.active - 1 = 0
  · simp only [if_pos hlast, Table.lookup_erase_ite]
  · simp only [if_neg hlast, Table.lookup_insert_ite]

theorem activeIn_releaseScope {scopes : Table String ScopeEntry} {k : String}
    {entry : ScopeEntry} (h : scopes.lookup k = some entry) (k' : String) :
    activeIn (releaseScope scopes k entry.generation) k' =
      activeIn scopes k' - if k = k' then 1 else 0 := by
  rw [activeIn, lookup_releaseScope h]
  by_cases hk : k' = k
  · subst hk
    rw [if_pos rfl, if_pos rfl, activeIn, h]
    by_cases hlast : entry.active - 1 = 0
    · rw [if_pos hlast]
      exact hlast.symm
    · rw [if_neg hlast]
      rfl
  · rw [if_neg hk, if_neg (Ne.symm hk), activeIn, Nat.sub_zero]

section ScopeCounts

variable {key : LeaseRecord → String} {generation : LeaseRecord → Nat}
  {scopes : Table String ScopeEntry} {leases : Table Nat LeaseRecord}

theorem ScopeCounts.enter (h : ScopeCounts key generation scopes leases) {id : Nat}
    {record : LeaseRecord} (hnew : leases.lookup id = none)
    (hopen : ∀ entry, scopes.lookup (key record) = some entry →
      entry.generation = generation record) :
    ScopeCounts key generation (enterScope scopes (key record) (generation record))
      (leases.insert id record) := by
  have hentered : ∃ entry, (enterScope scopes (key record) (generation record)).lookup
      (key record) = some entry ∧ entry.generation = generation record := by
    rw [lookup_enterScope, if_pos rfl]
    refine ⟨_, rfl, ?_⟩
    cases hentry : scopes.lookup (key record) with
    | none => rfl
    | some entry => exact hopen entry hentry
  constructor
  case counted =>
    intro k
    rw [activeIn_enterScope, Table.count_insert, Table.count_erase_of_none _ hnew, h.counted]
    simp only [decide_eq_true_eq]
  case opened =>
    intro k entry hentry
    rw [lookup_enterScope] at hentry
    split at hentry
    · obtain rfl := Option.some.inj hentry
      exact Nat.succ_pos _
    · exact h.opened k entry hentry
  case current =>
    intro id' record' hrecord'
    rw [Table.lookup_insert_ite] at hrecord'
    split at hrecord'
    · obtain rfl := Option.some.inj hrecord'
      exact hentered
    · obtain ⟨entry, hentry, hgeneration⟩ := h.current id' record' hrecord'
      by_cases hk : key record' = key record
      · obtain ⟨entered, hlookup, hsame⟩ := hentered
        rw [hk] at hentry ⊢
        exact ⟨entered, hlookup, by rw [hsame, ← hopen entry hentry, hgeneration]⟩
      · rw [lookup_enterScope, if_neg hk]
        exact ⟨entry, hentry, hgeneration⟩

theorem ScopeCounts.leave (h : ScopeCounts key generation scopes leases) {id : Nat}
    {record : LeaseRecord} (hlive : leases.lookup id = some record) :
    ScopeCounts key generation (releaseScope scopes (key record) (generation record))
      (leases.erase id) := by
  obtain ⟨entry, hentry, hgeneration⟩ := h.current id record hlive
  have hcount : ∀ k, Table.count (fun _ r => key r = k) (leases.erase id) +
      (if key record = k then 1 else 0) = leases.count fun _ r => key r = k := by
    intro k
    have herase := Table.count_erase_of_some (fun _ r => decide (key r = k)) hlive
    simpa only [decide_eq_true_eq] using herase
  rw [← hgeneration]
  constructor
  case counted =>
    intro k
    rw [activeIn_releaseScope hentry, h.counted, ← hcount k, Nat.add_sub_cancel]
  case opened =>
    intro k later hlater
    rw [lookup_releaseScope hentry] at hlater
    split at hlater
    · split at hlater
      · cases hlater
      · obtain rfl := Option.some.inj hlater
        exact Nat.pos_of_ne_zero ‹_›
    · exact h.opened k later hlater
  case current =>
    intro id' record' hrecord'
    have hcopy := hrecord'
    rw [Table.lookup_erase_ite] at hrecord'
    split at hrecord'
    · cases hrecord'
    · obtain ⟨found, hfound, hsame⟩ := h.current id' record' hrecord'
      rw [lookup_releaseScope hentry]
      by_cases hk : key record' = key record
      · -- another lease of the scope is left, so the entry stays
        obtain rfl : found = entry := Option.some.inj ((hk ▸ hfound).symm.trans hentry)
        have hactive : found.active = leases.count fun _ r => key r = key record := by
          rw [← h.counted, activeIn, hentry]
          rfl
        have hrest : 0 < Table.count (fun _ r => key r = key record) (leases.erase id) :=
          List.countP_pos_iff.mpr
            ⟨(id', record'), Table.mem_rows.mpr hcopy, by simpa using hk⟩
        have hboth := hcount (key record)
        rw [if_pos rfl, ← hactive] at hboth
        rw [if_pos hk, if_neg (by omega)]
        exact ⟨_, rfl, hsame⟩
      · rw [if_neg hk]
        exact ⟨found, hfound, hsame⟩

end ScopeCounts

/-! ## One call -/

/-- The entries, counts and leases of a state agree. -/
structure Counted (s : AdmissionState) : Prop where
  active : s.active = Table.count (fun _ _ => true) s.leases
  principals : ScopeCounts LeaseRecord.principalId LeaseRecord.principalGeneration s.principals
    s.leases
  rooms : ScopeCounts LeaseRecord.roomId LeaseRecord.roomGeneration s.rooms s.leases

/-- Every count is within its limit; a scope that opens holds one lease in any case. -/
structure WithinLimits (limits : Limits) (s : AdmissionState) : Prop where
  total : s.active ≤ limits.total
  principal : ∀ k, activeIn s.principals k ≤ max 1 limits.principal
  room : ∀ k, activeIn s.rooms k ≤ max 1 limits.room

/-- The generation of a scope that a call opened. -/
def openedGeneration (before after : Table String ScopeEntry) (key : String) : List Nat :=
  if (before.lookup key).isNone then ((after.lookup key).map ScopeEntry.generation).toList else []

/-- What a call found and left, with what it answered. -/
inductive Served
  | acquired (principalId roomId : String) (before : AdmissionState)
      (result : Except ConnectionAdmissionError Nat) (after : AdmissionState)
  | released (leaseId : Nat) (before after : AdmissionState)

/-- The numbers a call took, for the scopes it opened and the lease it granted. -/
def Served.numbers : Served → List Nat
  | .acquired principalId roomId before (.ok leaseId) after =>
      openedGeneration before.principals after.principals principalId ++
        openedGeneration before.rooms after.rooms roomId ++ [leaseId]
  | _ => []

/-- The state a call found. -/
def Served.before : Served → AdmissionState
  | .acquired _ _ before _ _ => before
  | .released _ before _ => before

/-- The state a call left. -/
def Served.after : Served → AdmissionState
  | .acquired _ _ _ _ after => after
  | .released _ _ after => after

/-- One call on the admission, of either kind and by anyone. -/
inductive Serves (limits : Limits) : Served → AdmissionState → AdmissionState → Prop
  | acquire (principalId roomId : String) (s : AdmissionState) :
      Serves limits
        (.acquired principalId roomId s (s.acquire limits principalId roomId).1
          (s.acquire limits principalId roomId).2)
        s (s.acquire limits principalId roomId).2
  | release (leaseId : Nat) (s : AdmissionState) :
      Serves limits (.released leaseId s (s.release leaseId)) s (s.release leaseId)

/-- The state after a lease was granted. -/
def AdmissionState.granted (s : AdmissionState) (leaseId : Nat) (record : LeaseRecord) :
    AdmissionState where
  sequence := leaseId
  active := s.active + 1
  principals := enterScope s.principals record.principalId record.principalGeneration
  rooms := enterScope s.rooms record.roomId record.roomGeneration
  leases := s.leases.insert leaseId record

/-- The generation a lease takes in a scope that `last` numbers came before. -/
structure Joins (scopes : Table String ScopeEntry) (key : String) (limit last next : Nat)
    (generation : Nat) : Prop where
  room : ∀ entry, scopes.lookup key = some entry →
    entry.active < limit ∧ entry.generation = generation ∧ next = last
  fresh : scopes.lookup key = none → generation = last + 1 ∧ next = last + 1

theorem Joins.le {scopes : Table String ScopeEntry} {key : String}
    {limit last next generation : Nat} (h : Joins scopes key limit last next generation) :
    last ≤ next := by
  cases hentry : scopes.lookup key with
  | none =>
      have hfresh := h.fresh hentry
      omega
  | some entry =>
      have hroom := h.room entry hentry
      omega

/-- What a granted lease met and took. -/
structure Grant (limits : Limits) (s : AdmissionState) (leaseId : Nat)
    (record : LeaseRecord) (afterPrincipal : Nat) : Prop where
  total : s.active < limits.total
  principal : Joins s.principals record.principalId limits.principal s.sequence afterPrincipal
    record.principalGeneration
  room : Joins s.rooms record.roomId limits.room afterPrincipal (leaseId - 1)
    record.roomGeneration
  lease : s.sequence < leaseId
  identity : leaseId ≤ wordMax

theorem joins_scopeGeneration {scopes : Table String ScopeEntry} {key : String} {limit : Nat}
    (last : Nat)
    (hlimit : ¬ (scopes.lookup key).any (fun entry => limit ≤ entry.active) = true)
    (hlast : last + (scopes.lookup key).isNone.toNat ≤ wordMax) :
    Joins scopes key limit last (scopeGeneration scopes key last).2
        (scopeGeneration scopes key last).1 ∧
      (scopeGeneration scopes key last).2 = last + (scopes.lookup key).isNone.toNat := by
  rw [scopeGeneration]
  cases hentry : scopes.lookup key with
  | none =>
      rw [hentry] at hlast
      have hnext : allocateIdentity last = last + 1 := saturatingAdd_eq hlast
      refine ⟨⟨fun entry hsome => ?_, fun _ => ⟨hnext, hnext⟩⟩, hnext⟩
      rw [hentry] at hsome
      cases hsome
  | some entry =>
      refine ⟨⟨fun found hfound => ?_, fun hnone => ?_⟩, rfl⟩
      · obtain rfl : found = entry := Option.some.inj (hfound.symm.trans hentry)
        rw [hentry, Option.any_some, decide_eq_true_eq, Nat.not_le] at hlimit
        exact ⟨hlimit, rfl, rfl⟩
      · rw [hentry] at hnone
        cases hnone

/-- An acquisition is refused and changes nothing, or it grants a lease with its own number. -/
theorem acquire_cases (limits : Limits) (principalId roomId : String) (s : AdmissionState) :
    (∃ error, s.acquire limits principalId roomId = (.error error, s)) ∨
      ∃ leaseId principalGeneration roomGeneration afterPrincipal,
        s.acquire limits principalId roomId =
            (.ok leaseId, s.granted leaseId
              ⟨principalId, principalGeneration, roomId, roomGeneration⟩) ∧
          Grant limits s leaseId ⟨principalId, principalGeneration, roomId, roomGeneration⟩
            afterPrincipal := by
  by_cases htotal : limits.total ≤ s.active
  · exact Or.inl ⟨_, if_pos htotal⟩
  by_cases hprincipal : (s.principals.lookup principalId).any
      (fun entry => limits.principal ≤ entry.active) = true
  · exact Or.inl ⟨_, (if_neg htotal).trans (if_pos hprincipal)⟩
  by_cases hroom : (s.rooms.lookup roomId).any (fun entry => limits.room ≤ entry.active) = true
  · exact Or.inl ⟨_, (if_neg htotal).trans ((if_neg hprincipal).trans (if_pos hroom))⟩
  unfold AdmissionState.acquire
  rw [if_neg htotal, if_neg hprincipal, if_neg hroom]
  dsimp only
  cases hfinal : checkedAdd s.sequence (1 + (s.principals.lookup principalId).isNone.toNat +
      (s.rooms.lookup roomId).isNone.toNat) with
  | none => exact Or.inl ⟨_, rfl⟩
  | some finalSequence =>
      obtain ⟨hbound, rfl⟩ := checkedAdd_eq_some.mp hfinal
      obtain ⟨hjoins, hafter⟩ := joins_scopeGeneration s.sequence hprincipal (by omega)
      obtain ⟨hjoins', hafter'⟩ := joins_scopeGeneration
        (scopeGeneration s.principals principalId s.sequence).2 hroom (by omega)
      generalize hfirst : scopeGeneration s.principals principalId s.sequence = principal at *
      generalize hsecond : scopeGeneration s.rooms roomId principal.2 = room at *
      have hlease : allocateIdentity room.2 = room.2 + 1 := saturatingAdd_eq (by omega)
      refine Or.inr ⟨room.2 + 1, principal.1, room.1, principal.2, ?_, Nat.not_le.mp htotal,
        hjoins, hjoins', by omega, by omega⟩
      have hsequence : s.sequence + (1 + (s.principals.lookup principalId).isNone.toNat +
          (s.rooms.lookup roomId).isNone.toNat) = room.2 + 1 := by omega
      dsimp only
      rw [hlease, hsequence]
      rfl

/-! ## Counts and limits -/

section Steps

variable {limits : Limits} {s : AdmissionState} {leaseId afterPrincipal : Nat}
  {record : LeaseRecord}

theorem Grant.counted (h : Grant limits s leaseId record afterPrincipal) (hs : Counted s)
    (hnew : s.leases.lookup leaseId = none) : Counted (s.granted leaseId record) := by
  constructor
  case active =>
    show s.active + 1 = Table.count _ (s.leases.insert leaseId record)
    rw [Table.count_insert, Table.count_erase_of_none _ hnew, hs.active]
    rfl
  case principals =>
    exact hs.principals.enter hnew fun entry hentry => (h.principal.room entry hentry).2.1
  case rooms => exact hs.rooms.enter hnew fun entry hentry => (h.room.room entry hentry).2.1

theorem Joins.activeIn_le {scopes : Table String ScopeEntry} {key : String}
    {limit last next generation : Nat} (h : Joins scopes key limit last next generation)
    (hs : ∀ k, activeIn scopes k ≤ max 1 limit) (k : String) :
    activeIn (enterScope scopes key generation) k ≤ max 1 limit := by
  rw [activeIn_enterScope]
  by_cases hk : key = k
  · subst hk
    rw [if_pos rfl, activeIn]
    cases hentry : scopes.lookup key with
    | none => exact Nat.le_max_left 1 limit
    | some entry =>
        have hroom := (h.room entry hentry).1
        show entry.active + 1 ≤ _
        omega
  · rw [if_neg hk]
    exact hs k

theorem Grant.withinLimits (h : Grant limits s leaseId record afterPrincipal)
    (hs : WithinLimits limits s) : WithinLimits limits (s.granted leaseId record) where
  total := h.total
  principal := h.principal.activeIn_le hs.principal
  room := h.room.activeIn_le hs.room

/-- A release of a live lease takes it out of each count. -/
theorem release_of_live (hlive : s.leases.lookup leaseId = some record) :
    s.release leaseId =
      { s with
        leases := s.leases.erase leaseId
        active := s.active - 1
        principals := releaseScope s.principals record.principalId record.principalGeneration
        rooms := releaseScope s.rooms record.roomId record.roomGeneration } := by
  rw [AdmissionState.release, hlive]

theorem release_of_not_live (hgone : s.leases.lookup leaseId = none) : s.release leaseId = s := by
  rw [AdmissionState.release, hgone]

theorem Counted.release (hs : Counted s) (leaseId : Nat) : Counted (s.release leaseId) := by
  cases hlive : s.leases.lookup leaseId with
  | none => rwa [release_of_not_live hlive]
  | some record =>
      rw [release_of_live hlive]
      constructor
      case active =>
        have herase := Table.count_erase_of_some (fun _ _ => true) hlive
        rw [← hs.active, if_pos rfl] at herase
        show s.active - 1 = Table.count _ (s.leases.erase leaseId)
        omega
      case principals => exact hs.principals.leave hlive
      case rooms => exact hs.rooms.leave hlive

theorem ScopeCounts.activeIn_release {key : LeaseRecord → String}
    {generation : LeaseRecord → Nat} {scopes : Table String ScopeEntry}
    (h : ScopeCounts key generation scopes s.leases)
    (hlive : s.leases.lookup leaseId = some record) (k : String) :
    activeIn (releaseScope scopes (key record) (generation record)) k ≤ activeIn scopes k := by
  obtain ⟨entry, hentry, hgeneration⟩ := h.current leaseId record hlive
  rw [← hgeneration, activeIn_releaseScope hentry]
  exact Nat.sub_le _ _

theorem WithinLimits.release (h : WithinLimits limits s) (hs : Counted s) (leaseId : Nat) :
    WithinLimits limits (s.release leaseId) := by
  cases hlive : s.leases.lookup leaseId with
  | none => rwa [release_of_not_live hlive]
  | some record =>
      rw [release_of_live hlive]
      exact ⟨(Nat.sub_le _ _).trans h.total,
        fun k => (hs.principals.activeIn_release hlive k).trans (h.principal k),
        fun k => (hs.rooms.activeIn_release hlive k).trans (h.room k)⟩

/-! ## Numbers -/

/-- Whatever a call left and did not find is numbered by the numbers it took. -/
structure NumberedBy (numbers : List Nat) (before after : AdmissionState) : Prop where
  principal : ∀ k entry, after.principals.lookup k = some entry →
    (∃ old, before.principals.lookup k = some old ∧ old.generation = entry.generation) ∨
      entry.generation ∈ numbers
  room : ∀ k entry, after.rooms.lookup k = some entry →
    (∃ old, before.rooms.lookup k = some old ∧ old.generation = entry.generation) ∨
      entry.generation ∈ numbers
  lease : ∀ id record, after.leases.lookup id = some record →
    before.leases.lookup id = some record ∨ id ∈ numbers

/-- The numbers taken so far, in order, are those up to the sequence. -/
structure Issued (numbers : List Nat) (s : AdmissionState) : Prop where
  increasing : numbers.Pairwise (· < ·)
  upTo : ∀ n ∈ numbers, n ≤ s.sequence
  lease : ∀ id record, s.leases.lookup id = some record → id ∈ numbers

theorem Issued.lookup_eq_none {numbers : List Nat} (h : Issued numbers s)
    (hid : s.sequence < leaseId) : s.leases.lookup leaseId = none := by
  cases hlive : s.leases.lookup leaseId with
  | none => rfl
  | some record =>
      have hle := h.upTo leaseId (h.lease leaseId record hlive)
      omega

theorem openedGeneration_enterScope (scopes : Table String ScopeEntry) (key : String) (g : Nat) :
    openedGeneration scopes (enterScope scopes key g) key =
      if (scopes.lookup key).isNone then [g] else [] := by
  rw [openedGeneration, lookup_enterScope, if_pos rfl]
  cases scopes.lookup key <;> rfl

/-- The number a scope opens with lies between the numbers before and after it. -/
theorem Joins.opened {scopes : Table String ScopeEntry} {key : String}
    {limit last next generation : Nat} (h : Joins scopes key limit last next generation) :
    openedGeneration scopes (enterScope scopes key generation) key = [] ∧ next = last ∨
      openedGeneration scopes (enterScope scopes key generation) key = [next] ∧
        next = last + 1 := by
  rw [openedGeneration_enterScope]
  cases hentry : scopes.lookup key with
  | none =>
      obtain ⟨hgeneration, hnext⟩ := h.fresh hentry
      exact Or.inr ⟨by rw [hgeneration, hnext]; rfl, hnext⟩
  | some entry => exact Or.inl ⟨rfl, (h.room entry hentry).2.2⟩

/-- The numbers of a granted lease rise from the sequence to the lease. -/
theorem Grant.numbers (h : Grant limits s leaseId record afterPrincipal) :
    (Served.acquired record.principalId record.roomId s (.ok leaseId)
        (s.granted leaseId record)).numbers.Pairwise (· < ·) ∧
      ∀ n ∈ (Served.acquired record.principalId record.roomId s (.ok leaseId)
        (s.granted leaseId record)).numbers, s.sequence < n ∧ n ≤ leaseId := by
  have hlease := h.lease
  have hnext := h.room.le
  show (openedGeneration s.principals (enterScope _ _ _) _ ++
      openedGeneration s.rooms (enterScope _ _ _) _ ++ [leaseId]).Pairwise (· < ·) ∧
    ∀ n ∈ openedGeneration s.principals (enterScope _ _ _) _ ++
      openedGeneration s.rooms (enterScope _ _ _) _ ++ [leaseId], _
  rcases h.principal.opened with ⟨hold, hp⟩ | ⟨hnew, hp⟩ <;>
    rcases h.room.opened with ⟨hold', hr⟩ | ⟨hnew', hr⟩
  · rw [hold, hold']
    simp
    omega
  · rw [hold, hnew']
    simp
    omega
  · rw [hnew, hold']
    simp
    omega
  · rw [hnew, hnew']
    simp
    omega

end Steps

/-! ## Runs -/

section Runs

variable {limits : Limits} {s t : AdmissionState}

theorem Serves.before_eq {served : Served} (h : Serves limits served s t) : served.before = s := by
  cases h <;> rfl

theorem Serves.after_eq {served : Served} (h : Serves limits served s t) : served.after = t := by
  cases h <;> rfl

/-- One call keeps the counts right and within the limits. -/
theorem Serves.counted {served : Served} (h : Serves limits served s t) (hs : Counted s)
    (hlimits : WithinLimits limits s) (hfree : ∀ n, s.sequence < n → s.leases.lookup n = none) :
    Counted t ∧ WithinLimits limits t := by
  cases h with
  | acquire principalId roomId =>
      rcases acquire_cases limits principalId roomId s with
        ⟨error, hrefused⟩ | ⟨leaseId, _, _, _, hgranted, hgrant⟩
      · rw [hrefused]
        exact ⟨hs, hlimits⟩
      · rw [hgranted]
        exact ⟨hgrant.counted hs (hfree leaseId hgrant.lease), hgrant.withinLimits hlimits⟩
  | release leaseId => exact ⟨hs.release leaseId, hlimits.release hs leaseId⟩

theorem NumberedBy.refl (numbers : List Nat) (s : AdmissionState) : NumberedBy numbers s s where
  principal := fun _ entry hentry => Or.inl ⟨entry, hentry, rfl⟩
  room := fun _ entry hentry => Or.inl ⟨entry, hentry, rfl⟩
  lease := fun _ _ hrecord => Or.inl hrecord

/-- An entry after a release was there before it, in the same generation. -/
theorem lookup_releaseScope_some {scopes : Table String ScopeEntry} {key : String}
    {generation : Nat} {k : String} {entry : ScopeEntry}
    (h : (releaseScope scopes key generation).lookup k = some entry) :
    ∃ old, scopes.lookup k = some old ∧ old.generation = entry.generation := by
  cases hkey : scopes.lookup key with
  | none =>
      rw [releaseScope, hkey] at h
      exact ⟨entry, h, rfl⟩
  | some stored =>
      by_cases hgeneration : stored.generation = generation
      · subst hgeneration
        rw [lookup_releaseScope hkey] at h
        split at h
        · rename_i hk
          split at h
          · cases h
          · obtain rfl := Option.some.inj h
            exact ⟨stored, hk ▸ hkey, rfl⟩
        · exact ⟨entry, h, rfl⟩
      · rw [releaseScope, hkey] at h
        dsimp only at h
        rw [if_pos hgeneration] at h
        exact ⟨entry, h, rfl⟩

/-- An entry after a lease was granted was there before it, or opened for the lease. -/
theorem lookup_enterScope_some {scopes : Table String ScopeEntry} {key : String}
    {generation : Nat} {k : String} {entry : ScopeEntry}
    (hentry : (enterScope scopes key generation).lookup k = some entry) :
    (∃ old, scopes.lookup k = some old ∧ old.generation = entry.generation) ∨
      entry.generation ∈ openedGeneration scopes (enterScope scopes key generation) key := by
  rw [lookup_enterScope] at hentry
  split at hentry
  · rename_i hk
    obtain rfl := Option.some.inj hentry
    rw [hk, openedGeneration_enterScope]
    cases hstored : scopes.lookup key with
    | none => exact Or.inr (List.mem_singleton_self generation)
    | some stored => exact Or.inl ⟨stored, rfl, rfl⟩
  · exact Or.inl ⟨entry, hentry, rfl⟩

theorem Serves.numberedBy {served : Served} (h : Serves limits served s t) :
    NumberedBy served.numbers s t := by
  cases h with
  | acquire principalId roomId =>
      rcases acquire_cases limits principalId roomId s with
        ⟨error, hrefused⟩ | ⟨leaseId, _, _, _, hgranted, hgrant⟩
      · rw [hrefused]
        exact .refl _ s
      · rw [hgranted]
        constructor
        case principal =>
          intro k entry hentry
          refine (lookup_enterScope_some hentry).imp id fun hnew => ?_
          exact List.mem_append_left _ (List.mem_append_left _ hnew)
        case room =>
          intro k entry hentry
          refine (lookup_enterScope_some hentry).imp id fun hnew => ?_
          exact List.mem_append_left _ (List.mem_append_right _ hnew)
        case lease =>
          intro id record hrecord
          rcases (Table.sets_insert s.leases leaseId _).cases hrecord with
            ⟨rfl, -⟩ | ⟨-, hold⟩
          · exact Or.inr (List.mem_append_right _ (List.mem_singleton_self id))
          · exact Or.inl hold
  | release leaseId =>
      cases hlive : s.leases.lookup leaseId with
      | none =>
          rw [release_of_not_live hlive]
          exact .refl _ s
      | some record =>
          rw [release_of_live hlive]
          constructor
          case principal => exact fun k entry hentry => Or.inl (lookup_releaseScope_some hentry)
          case room => exact fun k entry hentry => Or.inl (lookup_releaseScope_some hentry)
          case lease =>
            intro id stored hstored
            change (s.leases.erase leaseId).lookup id = some stored at hstored
            rw [Table.lookup_erase_ite] at hstored
            split at hstored
            · cases hstored
            · exact Or.inl hstored

/-- The numbers of a call come after every number taken before it. -/
theorem Serves.issued {served : Served} {numbers : List Nat} (h : Serves limits served s t)
    (hs : Issued numbers s) : Issued (numbers ++ served.numbers) t := by
  have hleases : ∀ id record, t.leases.lookup id = some record →
      id ∈ numbers ++ served.numbers := by
    intro id record hrecord
    rcases h.numberedBy.lease id record hrecord with hold | hnew
    · exact List.mem_append_left _ (hs.lease id record hold)
    · exact List.mem_append_right _ hnew
  cases h with
  | acquire principalId roomId =>
      rcases acquire_cases limits principalId roomId s with
        ⟨error, hrefused⟩ | ⟨leaseId, _, _, _, hgranted, hgrant⟩
      · rw [hrefused] at hleases ⊢
        refine ⟨?_, ?_, hleases⟩
        · rw [show (Served.acquired principalId roomId s (.error error) s).numbers = [] from rfl,
            List.append_nil]
          exact hs.increasing
        · rw [show (Served.acquired principalId roomId s (.error error) s).numbers = [] from rfl,
            List.append_nil]
          exact hs.upTo
      · rw [hgranted] at hleases ⊢
        obtain ⟨hrise, hbetween⟩ := hgrant.numbers
        refine ⟨?_, ?_, hleases⟩
        · refine List.pairwise_append.mpr ⟨hs.increasing, hrise, fun a ha b hb => ?_⟩
          exact (hs.upTo a ha).trans_lt (hbetween b hb).1
        · intro n hn
          rcases List.mem_append.mp hn with hold | hnew
          · exact (hs.upTo n hold).trans hgrant.lease.le
          · exact (hbetween n hnew).2
  | release leaseId =>
      have hsequence : (s.release leaseId).sequence = s.sequence := by
        cases hlive : s.leases.lookup leaseId with
        | none => rw [release_of_not_live hlive]
        | some record => rw [release_of_live hlive]
      have hnumbers : (Served.released leaseId s (s.release leaseId)).numbers = [] := rfl
      rw [hnumbers, List.append_nil] at hleases ⊢
      exact ⟨hs.increasing, fun n hn => hsequence ▸ hs.upTo n hn, hleases⟩

/-- What holds in every state a run reaches. -/
structure Accounted (limits : Limits) (trace : List Served) (s : AdmissionState) : Prop where
  counted : Counted s
  withinLimits : WithinLimits limits s
  issued : Issued (trace.flatMap Served.numbers) s
  numberedBy : ∀ served ∈ trace, NumberedBy served.numbers served.before served.after

theorem Accounted.step {trace : List Served} {served : Served} (h : Accounted limits trace s)
    (hserves : Serves limits served s t) : Accounted limits (trace ++ [served]) t := by
  obtain ⟨hcounted, hlimits⟩ := hserves.counted h.counted h.withinLimits
    fun n hn => h.issued.lookup_eq_none hn
  refine ⟨hcounted, hlimits, ?_, ?_⟩
  · rw [List.flatMap_append, List.flatMap_singleton]
    exact hserves.issued h.issued
  · intro other hother
    rcases List.mem_append.mp hother with hold | hlast
    · exact h.numberedBy other hold
    · rw [List.mem_singleton.mp hlast, hserves.before_eq, hserves.after_eq]
      exact hserves.numberedBy

theorem count_eq_zero {κ ρ : Type} [DecidableEq κ] (p : κ → ρ → Bool) {table : Table κ ρ}
    (hnone : ∀ k, table.lookup k = none) : table.count p = 0 := by
  refine List.countP_eq_zero.mpr fun row hrow => ?_
  have hlookup : table.lookup row.1 = some row.2 := Table.mem_rows.mp hrow
  rw [hnone] at hlookup
  cases hlookup

theorem ScopeCounts.lookup_eq_none {key : LeaseRecord → String} {generation : LeaseRecord → Nat}
    {scopes : Table String ScopeEntry} {leases : Table Nat LeaseRecord}
    (h : ScopeCounts key generation scopes leases) (hnone : ∀ id, leases.lookup id = none)
    (k : String) : scopes.lookup k = none := by
  cases hentry : scopes.lookup k with
  | none => rfl
  | some entry =>
      have hpos := h.opened k entry hentry
      have hactive := h.counted k
      rw [activeIn, hentry, count_eq_zero _ hnone] at hactive
      exact absurd hactive hpos.ne'

end Runs

end AgentsAssemble.Server
