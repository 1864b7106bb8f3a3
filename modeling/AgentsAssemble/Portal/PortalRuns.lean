import AgentsAssemble.Portal.Turns
import Mathlib.Data.Finset.Range
import Mathlib.Data.Finset.Image

/-!
# The room portal: runs

Over every interleaving of calls the observation moves as a one-shot round moves, its budgets
hold, and a guard of an ended turn finds nothing to change.
-/

namespace AgentsAssemble.Portal

open Foundation Domain Tx
open Persistence (UuidSource)

section Runs

variable [UuidSource] {s t : RoomPortal} {label : PortalLabel} {labels : List PortalLabel}
  {active after : ActiveObservation}

/-! ## One move -/

omit [UuidSource] in
theorem remaining_eq_some :
    active.remaining = some after ↔
      after = active ∧ ¬ (active.closing && !active.hasPendingOperations) = true := by
  unfold ActiveObservation.remaining
  split
  · rename_i hgone
    simp [hgone]
  · rename_i hleft
    rw [Option.some_inj]
    constructor
    · rintro rfl
      exact ⟨rfl, hleft⟩
    · rintro ⟨rfl, -⟩
      rfl

theorem Moves.generation (h : Moves label s t) :
    label.generation = s.active.map ActiveObservation.turnGeneration := by
  cases h with
  | begun hnone => rw [hnone, Option.map_none]
  | discussed hactive => rw [hactive, Option.map_some]
  | staged hactive => rw [hactive, Option.map_some]
  | finished hactive => rw [hactive, Option.map_some]
  | closed hactive => rw [hactive, Option.map_some]
  | reservedTool hactive => rw [hactive, Option.map_some]
  | executing hactive => rw [hactive, Option.map_some]
  | releasedTool _ hactive => rw [hactive, Option.map_some]
  | reservedRead hactive => rw [hactive, Option.map_some]
  | releasedRead _ _ _ _ hactive => rw [hactive, Option.map_some]
  | idle hgeneration => exact hgeneration

theorem Moves.uuids (h : Moves label s t) : s.uuids ≤ t.uuids := by
  cases h with
  | begun _ _ huuids => exact huuids.symm ▸ Nat.le_succ _
  | discussed _ _ huuids => exact huuids.ge
  | staged _ _ _ _ _ huuids => exact huuids.ge
  | finished _ _ _ _ _ huuids => exact huuids.ge
  | closed _ _ huuids => exact huuids.ge
  | reservedTool _ _ _ _ _ huuids => exact huuids.symm ▸ Nat.le_succ _
  | executing _ _ _ _ huuids => exact huuids.ge
  | releasedTool _ _ _ _ huuids => exact huuids.ge
  | reservedRead _ _ _ _ _ huuids => exact huuids.symm ▸ Nat.le_succ _
  | releasedRead _ _ _ _ _ _ _ huuids => exact huuids.ge
  | idle _ _ _ _ huuids => exact huuids.ge

omit [UuidSource] in
/-- The end of a read accounts for its bytes or for nothing. -/
theorem endRead_cases {attachmentId : String} {size : Option Nat} {result : Except String Unit}
    {released : ActiveObservation} (h : active.endRead attachmentId size = (result, released)) :
    (released = active ∧ ∀ bytes, size = some bytes → ∃ message, result = .error message) ∨
      ∃ bytes reads limit, size = some bytes ∧ result = .ok () ∧ active.byteLimit = some limit ∧
        active.attachmentReads.successfulBytes + bytes ≤ limit ∧
        released = { active with
          attachmentReads := { active.attachmentReads with
            successfulReads := reads
            successfulBytes := active.attachmentReads.successfulBytes + bytes } } := by
  unfold ActiveObservation.endRead at h
  cases size with
  | none =>
      refine Or.inl ⟨(Prod.mk.inj h).2.symm, fun bytes hsize => ?_⟩
      cases hsize
  | some size =>
      dsimp only at h
      by_cases hclosing : active.closing = true
      · rw [if_pos hclosing] at h
        exact Or.inl ⟨(Prod.mk.inj h).2.symm, fun _ _ => ⟨_, (Prod.mk.inj h).1.symm⟩⟩
      · rw [if_neg hclosing] at h
        cases hcount : active.countRead attachmentId size with
        | error message =>
            rw [hcount] at h
            exact Or.inl ⟨(Prod.mk.inj h).2.symm, fun _ _ => ⟨_, (Prod.mk.inj h).1.symm⟩⟩
        | ok counted =>
            rw [hcount] at h
            obtain ⟨limit, bytes, hlimit, rfl, hfits, -, -, hcounted⟩ :=
              ActiveObservation.countRead_eq_ok hcount
            exact Or.inr ⟨size, _, limit, rfl, (Prod.mk.inj h).1.symm, hlimit, hfits,
              (Prod.mk.inj h).2 ▸ hcounted⟩

omit [UuidSource] in
/-- The end of a read takes it from what is pending. -/
theorem endRead_round {id attachmentId : String} {size : Option Nat} {result : Except String Unit}
    {released : ActiveObservation}
    (h : (active.releaseRead id).endRead attachmentId size = (result, released)) :
    released.turnGeneration = active.turnGeneration ∧
      released.pendingIds = active.pendingIds.erase (.inr id) := by
  rw [← ActiveObservation.pendingIds_releaseRead]
  rcases endRead_cases h with ⟨rfl, -⟩ | ⟨bytes, reads, limit, -, -, -, -, rfl⟩
  · exact ⟨rfl, rfl⟩
  · exact ⟨rfl, rfl⟩

/-! ## Guards of attachment reads -/

theorem Drawn.mono {uuids uuids' : Nat} {id : String} (h : Drawn uuids id)
    (hle : uuids ≤ uuids') : Drawn uuids' id := by
  obtain ⟨n, hn, rfl⟩ := h
  exact ⟨n, hn.trans_le hle, rfl⟩

theorem not_drawn_newV4 (uuids : Nat) : ¬ Drawn uuids (UuidSource.newV4 uuids) := by
  rintro ⟨n, hn, heq⟩
  exact absurd (UuidSource.newV4_injective heq) (Nat.ne_of_gt hn)

/-- The reads of the turn that go on, and the guards, are as they were. -/
theorem ReadsKept.carried (hs : ReadsKept s) (hreads : t.reads = s.reads)
    (huuids : s.uuids ≤ t.uuids)
    (hactive : ∀ after, t.active = some after → ∃ before, s.active = some before ∧
      after.turnGeneration = before.turnGeneration ∧
      after.attachmentReads.pending = before.attachmentReads.pending) : ReadsKept t := by
  constructor
  case generation =>
    intro after hafter
    obtain ⟨before, hbefore, hsame, -⟩ := hactive after hafter
    rw [hsame]
    exact (hs.generation before hbefore).mono huuids
  case drawn =>
    intro id guard hguard
    rw [hreads] at hguard
    exact (hs.drawn id guard hguard).mono huuids
  case pending =>
    intro id guard after hguard hresolved hafter hgeneration
    obtain ⟨before, hbefore, hsame, hpending⟩ := hactive after hafter
    rw [hreads] at hguard
    rw [hpending]
    exact hs.pending id guard before hguard hresolved hbefore (hsame.symm.trans hgeneration)

omit [UuidSource] in
/-- A guard that is not resolved is one that was there, under another id. -/
theorem Resolves.cases {before after : Table String AttachmentReadReservation} {id other : String}
    {guard guard' : AttachmentReadReservation} (h : Resolves before after id guard)
    (hafter : after.lookup other = some guard') :
    (other = id ∧ guard' = { guard with resolved := true }) ∨
      other ≠ id ∧ before.lookup other = some guard' := by
  rcases h with hset | hset
  · rcases hset.cases hafter with ⟨rfl, hrow⟩ | hkept
    · exact Or.inl ⟨rfl, (Option.some.inj hrow).symm⟩
    · exact Or.inr hkept
  · rcases hset.cases hafter with ⟨rfl, hrow⟩ | hkept
    · cases hrow
    · exact Or.inr hkept

theorem ReadsKept.moves (hs : ReadsKept s) (h : Moves label s t) : ReadsKept t := by
  have huuids := h.uuids
  cases h with
  | @begun _ _ start hnone hactive huuids' hreads =>
      constructor
      case generation =>
        intro after hafter
        obtain rfl := Option.some.inj (hactive.symm.trans hafter)
        exact ⟨s.uuids, by omega, rfl⟩
      case drawn =>
        intro id guard hguard
        rw [hreads] at hguard
        exact (hs.drawn id guard hguard).mono huuids
      case pending =>
        intro id guard after hguard _ hafter hgeneration
        obtain rfl := Option.some.inj (hactive.symm.trans hafter)
        rw [hreads] at hguard
        have hdrawn := hs.drawn id guard hguard
        rw [← hgeneration] at hdrawn
        exact absurd hdrawn (not_drawn_newV4 s.uuids)
  | discussed hactive hnext _ hreads =>
      refine hs.carried hreads huuids fun after hafter => ?_
      obtain rfl := Option.some.inj (hnext.symm.trans hafter)
      exact ⟨_, hactive, rfl, rfl⟩
  | staged hactive _ _ _ hnext _ hreads =>
      refine hs.carried hreads huuids fun after hafter => ?_
      obtain rfl := Option.some.inj (hnext.symm.trans hafter)
      exact ⟨_, hactive, rfl, rfl⟩
  | finished _ _ _ _ hnext _ hreads =>
      refine hs.carried hreads huuids fun after hafter => ?_
      cases hnext.symm.trans hafter
  | closed hactive hnext _ hreads =>
      refine hs.carried hreads huuids fun after hafter => ?_
      obtain ⟨rfl, -⟩ := remaining_eq_some.mp (hnext.symm.trans hafter)
      exact ⟨_, hactive, rfl, rfl⟩
  | reservedTool hactive _ _ _ hnext _ hreads =>
      refine hs.carried hreads huuids fun after hafter => ?_
      obtain rfl := Option.some.inj (hnext.symm.trans hafter)
      exact ⟨_, hactive, rfl, rfl⟩
  | executing hactive _ _ hnext _ hreads =>
      refine hs.carried hreads huuids fun after hafter => ?_
      obtain rfl := Option.some.inj (hnext.symm.trans hafter)
      exact ⟨_, hactive, rfl, rfl⟩
  | releasedTool _ hactive _ hnext _ hreads =>
      refine hs.carried hreads huuids fun after hafter => ?_
      obtain ⟨rfl, -⟩ := remaining_eq_some.mp (hnext.symm.trans hafter)
      exact ⟨_, hactive, rfl, rfl⟩
  | @reservedRead _ _ attachmentId reserved active hactive _ _ _ hnext _ hreads =>
      constructor
      case generation =>
        intro after hafter
        obtain rfl := Option.some.inj (hnext.symm.trans hafter)
        exact (hs.generation active hactive).mono huuids
      case drawn =>
        intro id guard hguard
        rcases hreads.cases hguard with ⟨-, hrow⟩ | ⟨-, hbefore⟩
        · obtain rfl := Option.some.inj hrow
          exact (hs.generation active hactive).mono huuids
        · exact (hs.drawn id guard hbefore).mono huuids
      case pending =>
        intro id guard after hguard hresolved hafter hgeneration
        obtain rfl := Option.some.inj (hnext.symm.trans hafter)
        dsimp only at hgeneration ⊢
        rw [Table.lookup_insert_ite]
        rcases hreads.cases hguard with ⟨rfl, hrow⟩ | ⟨hother, hbefore⟩
        · obtain rfl := Option.some.inj hrow
          exact if_pos rfl
        · rw [if_neg hother]
          exact hs.pending id guard active hbefore hresolved hactive hgeneration
  | @releasedRead _ _ _ _ id guard _ _ active released hguard _ _ _ hactive hended hnext _ hreads =>
      have hcarried : released.turnGeneration = active.turnGeneration ∧
          released.attachmentReads.pending = active.attachmentReads.pending.erase id := by
        rcases endRead_cases hended with ⟨rfl, -⟩ | ⟨bytes, reads, limit, -, -, -, -, rfl⟩
        · exact ⟨rfl, rfl⟩
        · exact ⟨rfl, rfl⟩
      constructor
      case generation =>
        intro after hafter
        obtain ⟨rfl, -⟩ := remaining_eq_some.mp (hnext.symm.trans hafter)
        rw [hcarried.1]
        exact (hs.generation active hactive).mono huuids
      case drawn =>
        intro other guard' hguard'
        rcases hreads.cases hguard' with ⟨-, rfl⟩ | ⟨-, hbefore⟩
        · exact (hs.drawn id guard hguard).mono huuids
        · exact (hs.drawn other guard' hbefore).mono huuids
      case pending =>
        intro other guard' after hguard' hresolved hafter hgeneration
        obtain ⟨rfl, -⟩ := remaining_eq_some.mp (hnext.symm.trans hafter)
        rcases hreads.cases hguard' with ⟨-, rfl⟩ | ⟨hother, hbefore⟩
        · cases hresolved
        · rw [hcarried.2, Table.lookup_erase_ite, if_neg hother]
          exact hs.pending other guard' active hbefore hresolved hactive
            (hcarried.1.symm.trans hgeneration)
  | idle _ _ _ hactive _ hreads =>
      rcases hreads with hreads | ⟨id, guard, hguard, hreads⟩
      · refine hs.carried hreads huuids fun after hafter => ?_
        exact ⟨after, hactive.symm.trans hafter, rfl, rfl⟩
      · constructor
        case generation =>
          intro after hafter
          exact (hs.generation after (hactive.symm.trans hafter)).mono huuids
        case drawn =>
          intro other guard' hguard'
          rcases hreads.cases hguard' with ⟨-, rfl⟩ | ⟨-, hbefore⟩
          · exact (hs.drawn id guard hguard).mono huuids
          · exact (hs.drawn other guard' hbefore).mono huuids
        case pending =>
          intro other guard' after hguard' hresolved hafter hgeneration
          rcases hreads.cases hguard' with ⟨-, rfl⟩ | ⟨-, hbefore⟩
          · cases hresolved
          · exact hs.pending other guard' after hbefore hresolved (hactive.symm.trans hafter)
              hgeneration

/-! ## Guards of the operations under way -/

/-- The callers keep the guards of what is pending, and resolved none of them. -/
def Held (s : RoomPortal) : Prop :=
  ∀ active, s.active = some active → ∀ operation ∈ active.pendingIds,
    s.guard operation = some ⟨active.turnGeneration, false⟩

omit [UuidSource] in
theorem Ends.off {before after : String ⊕ String → Option OperationGuard}
    {operation other : String ⊕ String} {guard : OperationGuard}
    (h : Ends before after operation guard) (hother : other ≠ operation) :
    after other = before other := by
  rcases h with rfl | rfl
  · rw [Function.update_of_ne hother]
  · rw [Function.update_of_ne hother]

omit [UuidSource] in
/-- A guard that has nothing left to release is not one of what is pending. -/
theorem Held.not_pending {operation : String ⊕ String} {guard : OperationGuard} (hs : Held s)
    (hactive : s.active = some active) (hguard : s.guard operation = some guard)
    (hspent : guard.Spent s) : operation ∉ active.pendingIds := by
  intro hpending
  obtain rfl := Option.some.inj (hguard.symm.trans (hs active hactive operation hpending))
  rcases hspent with hresolved | hother
  · cases hresolved
  · exact hother (generation_of_active hactive)

omit [UuidSource] in
/-- What goes on of the operations of the turn keeps its guards. -/
theorem Held.carried (hs : Held s)
    (hactive : ∀ after, t.active = some after → ∃ before, s.active = some before ∧
      after.turnGeneration = before.turnGeneration ∧ ∀ operation ∈ after.pendingIds,
        operation ∈ before.pendingIds ∧ t.guard operation = s.guard operation) : Held t := by
  intro after hafter operation hpending
  obtain ⟨before, hbefore, hsame, hkept⟩ := hactive after hafter
  obtain ⟨hwas, hguard⟩ := hkept operation hpending
  rw [hguard, hsame]
  exact hs before hbefore operation hwas

omit [UuidSource] in
theorem Held.reserved (hs : Held s) {operation : String ⊕ String}
    (hactive : s.active = some active) (hnext : t.active = some after)
    (hsame : after.turnGeneration = active.turnGeneration)
    (hpending : after.pendingIds = insert operation active.pendingIds)
    (hguards : t.guard =
      Function.update s.guard operation (some ⟨active.turnGeneration, false⟩)) : Held t := by
  intro after' hafter other hother
  obtain rfl := Option.some.inj (hnext.symm.trans hafter)
  rw [hguards, hsame]
  by_cases heq : other = operation
  · rw [heq, Function.update_self]
  · rw [Function.update_of_ne heq]
    rw [hpending] at hother
    exact hs active hactive other (Finset.mem_of_mem_insert_of_ne hother heq)

omit [UuidSource] in
theorem Held.released (hs : Held s) {operation : String ⊕ String} {guard : OperationGuard}
    {released : ActiveObservation} (hactive : s.active = some active)
    (hnext : t.active = released.remaining)
    (hsame : released.turnGeneration = active.turnGeneration)
    (hpending : released.pendingIds = active.pendingIds.erase operation)
    (hguards : Ends s.guard t.guard operation guard) : Held t := by
  refine hs.carried fun after hafter => ?_
  obtain ⟨rfl, -⟩ := remaining_eq_some.mp (hnext.symm.trans hafter)
  refine ⟨active, hactive, hsame, fun other hother => ?_⟩
  rw [hpending] at hother
  obtain ⟨hne, hwas⟩ := Finset.mem_erase.mp hother
  exact ⟨hwas, hguards.off hne⟩

theorem Held.moves (hs : Held s) (h : Moves label s t) : Held t := by
  cases h with
  | begun _ hactive =>
      intro after hafter operation hpending
      obtain rfl := Option.some.inj (hactive.symm.trans hafter)
      exact absurd hpending (Finset.notMem_empty operation)
  | discussed hactive hnext _ _ hguards =>
      refine hs.carried fun after hafter => ?_
      obtain rfl := Option.some.inj (hnext.symm.trans hafter)
      exact ⟨_, hactive, rfl, fun operation hpending => ⟨hpending, by rw [hguards]⟩⟩
  | staged hactive _ _ _ hnext _ _ hguards =>
      refine hs.carried fun after hafter => ?_
      obtain rfl := Option.some.inj (hnext.symm.trans hafter)
      exact ⟨_, hactive, rfl, fun operation hpending => ⟨hpending, by rw [hguards]⟩⟩
  | finished _ _ _ _ hnext =>
      refine hs.carried fun after hafter => ?_
      cases hnext.symm.trans hafter
  | closed hactive hnext _ _ hguards =>
      refine hs.carried fun after hafter => ?_
      obtain ⟨rfl, -⟩ := remaining_eq_some.mp (hnext.symm.trans hafter)
      refine ⟨_, hactive, rfl, fun operation hpending => ⟨?_, by rw [hguards]⟩⟩
      exact ActiveObservation.close_pendingIds_subset hpending
  | reservedTool hactive _ _ _ hnext _ _ _ hguards =>
      exact hs.reserved hactive hnext rfl (ActiveObservation.pendingIds_insert_tool _) hguards
  | executing hactive _ hqueued hnext _ _ hguards =>
      refine hs.carried fun after hafter => ?_
      obtain rfl := Option.some.inj (hnext.symm.trans hafter)
      refine ⟨_, hactive, rfl, fun operation hpending => ⟨?_, by rw [hguards]⟩⟩
      rwa [ActiveObservation.pendingIds_insert_tool, Finset.insert_eq_of_mem] at hpending
      exact ActiveObservation.mem_pendingIds_inl.mpr
        (AList.lookup_isSome.mp (Option.isSome_iff_exists.mpr ⟨_, hqueued⟩))
  | releasedTool _ hactive _ hnext _ _ hguards =>
      exact hs.released hactive hnext rfl (ActiveObservation.pendingIds_releaseTool _) hguards
  | reservedRead hactive _ _ _ hnext _ _ _ hguards =>
      exact hs.reserved hactive hnext rfl (ActiveObservation.pendingIds_insert_read _ _) hguards
  | releasedRead _ _ _ _ hactive hended hnext _ _ hguards =>
      obtain ⟨hsame, hpending⟩ := endRead_round hended
      exact hs.released hactive hnext hsame hpending hguards
  | idle _ _ _ hactive _ _ hguards =>
      refine hs.carried fun after hafter => ⟨after, hactive.symm.trans hafter, rfl, ?_⟩
      intro operation hpending
      refine ⟨hpending, ?_⟩
      rcases hguards with hguards | ⟨ended, guard, hguard, hspent, hends⟩
      · rw [hguards]
      · refine hends.off fun heq => ?_
        subst heq
        exact hs.not_pending (hactive.symm.trans hafter) hguard hspent hpending

/-! ## The budgets of a turn -/

/-- The bytes that the reads of a turn may take. -/
def readLimit (active : ActiveObservation) : Nat :=
  min active.attachmentIds.card maxMessageAttachmentsPerEvent * maxAttachmentBytes *
    attemptsPerAttachment

omit [UuidSource] in
/-- The limit is always one that a `usize` holds. -/
theorem byteLimit_eq (active : ActiveObservation) : active.byteLimit = some (readLimit active) := by
  have hcount : min active.attachmentIds.card maxMessageAttachmentsPerEvent ≤ 8 := min_le_right _ _
  have hbytes : maxAttachmentBytes = 10485760 := rfl
  have husize : maxUsize = 18446744073709551615 := rfl
  unfold ActiveObservation.byteLimit checkedMul readLimit attemptsPerAttachment
  rw [if_pos (by rw [hbytes, husize]; omega), Option.bind_some,
    if_pos (by rw [hbytes, husize]; omega)]

/-- The outcome of the observation can be answered, and its budgets hold. -/
structure ActiveObservation.Sound (active : ActiveObservation) : Prop where
  answerable : ∀ outcome, active.outcome = some outcome → Answerable active outcome
  results : active.successfulToolResults + active.toolReservations.size ≤ maxRoomToolResults
  attempts : ∀ attachmentId, (active.attachmentReads.attemptsById.lookup attachmentId).getD 0 ≤
    attemptsPerAttachment
  bytes : active.attachmentReads.successfulBytes ≤ readLimit active
  closed : active.closing = true → ∀ id status,
    active.toolReservations.lookup id = some status → status = .executing

omit [UuidSource] in
theorem sound_begun (start : RoomObservationStart) (generation : String) :
    (start.begun generation).Sound where
  answerable outcome houtcome := by cases houtcome
  results := (by decide : 0 ≤ maxRoomToolResults)
  attempts _ := Nat.zero_le _
  bytes := Nat.zero_le _
  closed hclosing := by cases hclosing

omit [UuidSource] in
theorem ActiveObservation.Sound.close (h : active.Sound) : active.close.Sound where
  answerable := h.answerable
  results := (Nat.add_le_add_left size_deleteWhere_le _).trans h.results
  attempts := h.attempts
  bytes := h.bytes
  closed _ id status hstatus := by
    simpa using (Table.lookup_deleteWhere.mp hstatus).2

omit [UuidSource] in
/-- A result that counts gives up the reservation that it came from. -/
theorem ActiveObservation.Sound.releaseTool (h : active.Sound) (id : String) (successful : Bool) :
    (active.releaseTool id successful).Sound where
  answerable := h.answerable
  results := by
    have hresults := h.results
    unfold ActiveObservation.releaseTool
    dsimp only
    split
    · rename_i hcounts
      have hmem : id ∈ active.toolReservations :=
        AList.lookup_isSome.mp (Option.isSome_iff_exists.mpr ⟨_, hcounts.2⟩)
      have hlen := size_erase_of_mem hmem
      omega
    · have hlen : Table.size (active.toolReservations.erase id) ≤ active.toolReservations.size :=
        size_erase_le
      omega
  attempts := h.attempts
  bytes := h.bytes
  closed hclosing other status hstatus := by
    unfold ActiveObservation.releaseTool at hstatus
    dsimp only at hstatus
    rw [Table.lookup_erase_ite] at hstatus
    split at hstatus
    · cases hstatus
    · exact h.closed hclosing other status hstatus

omit [UuidSource] in
theorem ActiveObservation.Sound.endRead (h : active.Sound) {id attachmentId : String}
    {size : Option Nat} {result : Except String Unit} {released : ActiveObservation}
    (hended : (active.releaseRead id).endRead attachmentId size = (result, released)) :
    released.Sound := by
  rcases endRead_cases hended with
    ⟨rfl, -⟩ | ⟨bytes, reads, limit, -, -, hlimit, hfits, rfl⟩
  · exact ⟨h.answerable, h.results, h.attempts, h.bytes, h.closed⟩
  · obtain rfl := Option.some.inj ((byteLimit_eq _).symm.trans hlimit)
    exact ⟨h.answerable, h.results, h.attempts, hfits, h.closed⟩

theorem Moves.sound (hs : ∀ active, s.active = some active → active.Sound) (h : Moves label s t) :
    ∀ active, t.active = some active → active.Sound := by
  intro after hafter
  cases h with
  | begun _ hactive =>
      obtain rfl := Option.some.inj (hactive.symm.trans hafter)
      exact sound_begun _ _
  | @discussed _ _ active hactive hnext =>
      obtain rfl := Option.some.inj (hnext.symm.trans hafter)
      have h := hs active hactive
      exact ⟨h.answerable, h.results, h.attempts, h.bytes, h.closed⟩
  | @staged _ _ _ active _ outcome hactive _ _ hanswer hnext =>
      obtain rfl := Option.some.inj (hnext.symm.trans hafter)
      have h := hs active hactive
      refine ⟨fun outcome' houtcome => ?_, h.results, h.attempts, h.bytes, h.closed⟩
      obtain rfl := Option.some.inj houtcome
      exact hanswer
  | finished _ _ _ _ hnext => cases hnext.symm.trans hafter
  | @closed _ _ active hactive hnext =>
      obtain ⟨rfl, -⟩ := remaining_eq_some.mp (hnext.symm.trans hafter)
      exact (hs active hactive).close
  | @reservedTool _ _ _ reserved active hactive hkept hnone hlimit hnext =>
      obtain rfl := Option.some.inj (hnext.symm.trans hafter)
      have h := hs active hactive
      refine ⟨h.answerable, ?_, h.attempts, h.bytes, fun hclosing => ?_⟩
      swap
      · cases hkept.symm.trans hclosing
      have hlen : Table.size (active.toolReservations.insert reserved.reservationId .queued) ≤
          active.toolReservations.size + 1 := size_insert_le
      dsimp only
      omega
  | @executing _ _ id _ active hactive _ hqueued hnext =>
      obtain rfl := Option.some.inj (hnext.symm.trans hafter)
      have h := hs active hactive
      have hmem : id ∈ active.toolReservations :=
        AList.lookup_isSome.mp (Option.isSome_iff_exists.mpr ⟨_, hqueued⟩)
      refine ⟨h.answerable, ?_, h.attempts, h.bytes, fun hclosing other status hstatus => ?_⟩
      · dsimp only
        rw [size_insert_of_mem hmem]
        exact h.results
      · dsimp only at hstatus
        rw [Table.lookup_insert_ite] at hstatus
        split at hstatus
        · exact (Option.some.inj hstatus).symm
        · exact h.closed hclosing other status hstatus
  | @releasedTool _ _ _ id successful active _ hactive _ hnext =>
      obtain ⟨rfl, -⟩ := remaining_eq_some.mp (hnext.symm.trans hafter)
      exact (hs active hactive).releaseTool id successful
  | @reservedRead _ _ attachmentId reserved active hactive _ hnone hlimit hnext =>
      obtain rfl := Option.some.inj (hnext.symm.trans hafter)
      have h := hs active hactive
      refine ⟨h.answerable, h.results, fun other => ?_, h.bytes, h.closed⟩
      dsimp only
      rw [Table.lookup_insert_ite]
      split
      · exact hlimit
      · exact h.attempts other
  | @releasedRead _ _ _ _ _ _ _ _ active _ _ _ _ _ hactive hended hnext =>
      obtain ⟨rfl, -⟩ := remaining_eq_some.mp (hnext.symm.trans hafter)
      exact (hs active hactive).endRead hended
  | idle _ _ _ hactive => exact hs after (hactive.symm.trans hafter)

/-! ## The one-shot round -/

/-- The portal as the rounds that it opens; every id that was drawn is used. -/
def RoomPortal.rounds (s : RoomPortal) : Rounds String (String ⊕ String) StagedOutcome :=
  { current := s.active.map ActiveObservation.round
    used := (Finset.range s.uuids).image UuidSource.newV4 }

/-- What the label of a call says about the move of the round. -/
structure Abstracts (label : PortalLabel)
    (move : RoundLabel String (String ⊕ String) StagedOutcome) : Prop where
  generation : move.generation = label.generation
  settles : ∀ outcome, label.staged = some outcome ↔ move.move = .settles outcome
  reads : label.readsDiscussion = true ↔ move.move = .reads

theorem mem_used {id : String} : id ∈ s.rounds.used ↔ Drawn s.uuids id := by
  unfold RoomPortal.rounds Drawn
  rw [Finset.mem_image]
  constructor
  · rintro ⟨n, hn, rfl⟩
    exact ⟨n, Finset.mem_range.mp hn, rfl⟩
  · rintro ⟨n, hn, rfl⟩
    exact ⟨n, Finset.mem_range.mpr hn, rfl⟩

omit [UuidSource] in
theorem map_round_of_some (h : s.active = some active) :
    s.active.map ActiveObservation.round = some active.round := by
  rw [h, Option.map_some]

/-- A call moves the observation as a round moves. -/
theorem Moves.round (h : Moves label s t) :
    ∃ move : RoundMove String (String ⊕ String) StagedOutcome,
      Abstracts label ⟨label.generation, move⟩ ∧
      (∀ generation, move = .opens generation → generation = UuidSource.newV4 s.uuids ∧
        s.uuids < t.uuids) ∧
      move.Moves (s.active.map ActiveObservation.round) (t.active.map ActiveObservation.round) := by
  cases h with
  | @begun _ _ start hnone hactive huuids =>
      refine ⟨.opens (UuidSource.newV4 s.uuids), ⟨rfl, ?_, ?_⟩, ?_, ?_⟩
      · simp [PortalLabel.staged]
      · simp [PortalLabel.readsDiscussion]
      · intro generation hopens
        exact ⟨(RoundMove.opens.inj hopens).symm, by omega⟩
      · rw [hnone, hactive]
        exact ⟨rfl, rfl⟩
  | @discussed _ _ active hactive hnext =>
      refine ⟨.reads, ⟨rfl, ?_, ?_⟩, ?_, active.round, map_round_of_some hactive, ?_⟩
      · simp [PortalLabel.staged]
      · simp [PortalLabel.readsDiscussion]
      · simp
      · rw [hnext]
        simp [ActiveObservation.round, ActiveObservation.pendingIds]
  | @staged _ _ _ active _ outcome hactive hready hnone _ hnext =>
      refine ⟨.settles outcome, ⟨rfl, ?_, ?_⟩, ?_, active.round, map_round_of_some hactive,
        hready, hnone, ?_⟩
      · simp [PortalLabel.staged]
      · simp [PortalLabel.readsDiscussion]
      · simp
      · rw [hnext]
        rfl
  | @finished _ _ _ _ active outcome _ hactive hready hstaged _ hnext =>
      refine ⟨.takes outcome, ⟨rfl, ?_, ?_⟩, ?_, active.round, map_round_of_some hactive,
        hready, hstaged, ?_⟩
      · simp [PortalLabel.staged]
      · simp [PortalLabel.readsDiscussion]
      · simp
      · rw [hnext]
        rfl
  | @closed _ _ active hactive hnext =>
      refine ⟨.closes, ⟨rfl, ?_, ?_⟩, ?_, active.round, map_round_of_some hactive,
        active.close.pendingIds, ActiveObservation.close_pendingIds_subset, ?_⟩
      · simp [PortalLabel.staged]
      · simp [PortalLabel.readsDiscussion]
      · simp
      · rw [hnext, ActiveObservation.map_round_remaining]
        rfl
  | @reservedTool _ _ _ reserved active hactive hkept hnone _ hnext =>
      refine ⟨.acquires (Sum.inl reserved.reservationId), ⟨rfl, ?_, ?_⟩, ?_, active.round,
        map_round_of_some hactive, hkept, hnone, ?_⟩
      · simp [PortalLabel.staged]
      · simp [PortalLabel.readsDiscussion]
      · simp
      · rw [hnext, Option.map_some]
        unfold ActiveObservation.round
        rw [ActiveObservation.pendingIds_insert_tool]
  | @executing _ _ id _ active hactive _ hqueued hnext =>
      have hmem : Sum.inl id ∈ active.pendingIds :=
        ActiveObservation.mem_pendingIds_inl.mpr
          (AList.lookup_isSome.mp (Option.isSome_iff_exists.mpr ⟨_, hqueued⟩))
      refine ⟨.idles, ⟨rfl, ?_, ?_⟩, ?_, ?_⟩
      · simp [PortalLabel.staged]
      · simp [PortalLabel.readsDiscussion]
      · simp
      · rw [hnext, hactive, Option.map_some, Option.map_some]
        unfold ActiveObservation.round RoundMove.Moves
        rw [ActiveObservation.pendingIds_insert_tool, Finset.insert_eq_of_mem hmem]
  | @releasedTool _ _ op id successful active hop hactive _ hnext =>
      refine ⟨.releases (Sum.inl id), ⟨rfl, ?_, ?_⟩, ?_, active.round, map_round_of_some hactive,
        ?_⟩
      · simp [PortalLabel.staged]
      · rcases hop with rfl | ⟨rfl, -⟩ <;> simp [PortalLabel.readsDiscussion]
      · simp
      · rw [hnext, ActiveObservation.map_round_remaining]
        unfold ActiveObservation.round
        rw [ActiveObservation.pendingIds_releaseTool]
        rfl
  | @reservedRead _ _ attachmentId reserved active hactive hkept hnone _ hnext =>
      refine ⟨.acquires (Sum.inr reserved.reservationId), ⟨rfl, ?_, ?_⟩, ?_, active.round,
        map_round_of_some hactive, hkept, hnone, ?_⟩
      · simp [PortalLabel.staged]
      · simp [PortalLabel.readsDiscussion]
      · simp
      · rw [hnext, Option.map_some]
        unfold ActiveObservation.round
        rw [ActiveObservation.pendingIds_insert_read]
  | @releasedRead _ _ op outcome id guard size result active released hguard _ _ hop hactive hended
      hnext =>
      have hround : released.round = (active.releaseRead id).round := by
        rcases endRead_cases hended with ⟨rfl, -⟩ | ⟨bytes, reads, limit, -, -, -, -, rfl⟩ <;> rfl
      refine ⟨.releases (Sum.inr id), ⟨rfl, ?_, ?_⟩, ?_, active.round, map_round_of_some hactive,
        ?_⟩
      · rcases hop with ⟨rfl, -, rfl⟩ | ⟨bytes, rfl, -, rfl⟩ <;> simp [PortalLabel.staged]
      · rcases hop with ⟨rfl, -, rfl⟩ | ⟨bytes, rfl, -, rfl⟩ <;>
          simp [PortalLabel.readsDiscussion]
      · simp
      · rw [hnext, ActiveObservation.map_round_remaining, hround]
        unfold ActiveObservation.round
        rw [ActiveObservation.pendingIds_releaseRead]
        rfl
  | idle _ hquiet _ hactive =>
      refine ⟨.idles, ⟨rfl, ?_, ?_⟩, ?_, ?_⟩
      · simp [hquiet.staged]
      · simp [hquiet.reads]
      · simp
      · rw [hactive]
        exact rfl

end Runs

end AgentsAssemble.Portal
