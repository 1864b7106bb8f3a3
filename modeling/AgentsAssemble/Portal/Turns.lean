import AgentsAssemble.Foundation.Result
import AgentsAssemble.Foundation.Rounds
import AgentsAssemble.Portal.RoomPortal
import Mathlib.Data.Finset.Sum

/-!
# The room portal: what a call may do

The observation is a one-shot round: its pending operations are the tool reservations and the
attachment reads, and its outcome is the action that was staged.
-/

namespace AgentsAssemble.Portal

open Foundation Domain Tx
open Persistence (UuidSource)

/-! ## Canonical messages -/

/-- A text that fits is not cut. -/
theorem cutAfterSpace_of_fits {value : String} {limit : Nat} (h : value.toList.length ≤ limit) :
    cutAfterSpace value limit = false := by
  have hlength : (trimmedMessage value).length ≤ value.toList.length := by
    calc (trimmedMessage value).length
        ≤ (normalizeNewlines (value.toList.filter (· ≠ '\x00'))).length :=
          length_trimMatches_le _ _
      _ ≤ (value.toList.filter (· ≠ '\x00')).length := length_normalizeNewlines_le _
      _ ≤ value.toList.length := List.length_filter_le _ _
  unfold cutAfterSpace
  cases hlast : (trimmedMessage value)[limit - 1]? with
  | none => simp
  | some c =>
      have hbound := (List.getElem?_eq_some_iff.mp hlast).1
      have hend : (trimmedMessage value).getLast? = some c := by
        rw [List.getLast?_eq_getElem?, ← hlast]
        congr 1
        omega
      rw [Option.any_some, getLast_trimMatches hend, Bool.and_false]

/-! ## The round of an observation -/

/-- The ids of a map. -/
def ids {ρ : Type} (table : Table String ρ) : Finset String :=
  table.keys.toFinset

section Ids

variable {ρ : Type} {table : Table String ρ} {id : String}

theorem mem_ids : id ∈ ids table ↔ id ∈ table := by
  rw [ids, List.mem_toFinset, AList.mem_keys]

theorem ids_empty : ids (∅ : Table String ρ) = ∅ :=
  rfl

theorem ids_insert {row : ρ} : ids (table.insert id row) = insert id (ids table) := by
  ext other
  rw [mem_ids, AList.mem_insert, Finset.mem_insert, mem_ids]

theorem ids_insert_of_mem {row : ρ} (h : id ∈ table) :
    ids (table.insert id row) = ids table := by
  rw [ids_insert, Finset.insert_eq_of_mem (mem_ids.mpr h)]

theorem ids_erase : ids (table.erase id) = (ids table).erase id := by
  ext other
  rw [mem_ids, AList.mem_erase, Finset.mem_erase, mem_ids]

theorem ids_deleteWhere_subset {p : String → ρ → Bool} :
    ids (table.deleteWhere p) ⊆ ids table := by
  intro other hother
  obtain ⟨row, hrow⟩ := Option.isSome_iff_exists.mp (AList.lookup_isSome.mpr (mem_ids.mp hother))
  have hbefore := (Table.lookup_deleteWhere.mp hrow).1
  exact mem_ids.mpr (AList.lookup_isSome.mp (Option.isSome_iff_exists.mpr ⟨row, hbefore⟩))

theorem size_eq_card : table.size = (ids table).card := by
  rw [ids, List.toFinset_card_of_nodup table.keys_nodup, AList.keys, List.keys, List.length_map,
    Table.size]

theorem size_eq_zero : table.size = 0 ↔ ids table = ∅ := by
  rw [size_eq_card, Finset.card_eq_zero]

theorem size_insert_le {row : ρ} : Table.size (table.insert id row) ≤ table.size + 1 := by
  rw [size_eq_card, size_eq_card, ids_insert]
  exact Finset.card_insert_le _ _

theorem size_insert_of_mem {row : ρ} (h : id ∈ table) :
    Table.size (table.insert id row) = table.size := by
  rw [size_eq_card, size_eq_card, ids_insert_of_mem h]

theorem size_erase_le : Table.size (table.erase id) ≤ table.size := by
  rw [size_eq_card, size_eq_card, ids_erase]
  exact Finset.card_erase_le

theorem size_erase_of_mem (h : id ∈ table) : Table.size (table.erase id) + 1 = table.size := by
  rw [size_eq_card, size_eq_card, ids_erase]
  exact Finset.card_erase_add_one (mem_ids.mpr h)

theorem size_deleteWhere_le {p : String → ρ → Bool} :
    Table.size (table.deleteWhere p) ≤ table.size := by
  rw [size_eq_card, size_eq_card]
  exact Finset.card_le_card ids_deleteWhere_subset

end Ids

theorem okOr_eq_ok {α : Type} {value : Option α} {message : String} {a : α} :
    okOr value message = .ok a ↔ value = some a := by
  cases value <;> simp [okOr]

namespace ActiveObservation

/-- The operations of the turn that are under way. -/
def pendingIds (active : ActiveObservation) : Finset (String ⊕ String) :=
  (ids active.toolReservations).disjSum (ids active.attachmentReads.pending)

/-- The observation as a one-shot round. -/
def round (active : ActiveObservation) : Round String (String ⊕ String) StagedOutcome :=
  { generation := active.turnGeneration
    read := decide (active.receiptGeneration = some active.turnGeneration)
    pending := active.pendingIds
    outcome := active.outcome
    closing := active.closing }

theorem pendingIds_eq_empty {active : ActiveObservation} :
    active.pendingIds = ∅ ↔ active.hasPendingOperations = false := by
  unfold pendingIds hasPendingOperations AttachmentReadBudget.hasPending
  rw [Finset.disjSum_eq_empty, Bool.or_eq_false_iff, bne_eq_false_iff_eq, bne_eq_false_iff_eq,
    size_eq_zero, size_eq_zero]

theorem map_round_remaining (active : ActiveObservation) :
    active.remaining.map round = active.round.remaining := by
  have hgone : (active.closing && !active.hasPendingOperations) = true ↔
      active.round.closing = true ∧ active.round.pending = ∅ := by
    rw [Bool.and_eq_true, Bool.not_eq_true', ← pendingIds_eq_empty]
    rfl
  unfold remaining Round.remaining
  by_cases h : active.round.closing = true ∧ active.round.pending = ∅
  · rw [if_pos h, if_pos (hgone.mpr h)]
    rfl
  · rw [if_neg h, if_neg (mt hgone.mp h)]
    rfl

/-! ### What changes the round -/

variable {active : ActiveObservation} {id : String}

theorem mem_pendingIds_inl : Sum.inl id ∈ active.pendingIds ↔ id ∈ active.toolReservations := by
  rw [pendingIds, Finset.inl_mem_disjSum, mem_ids]

theorem mem_pendingIds_inr :
    Sum.inr id ∈ active.pendingIds ↔ id ∈ active.attachmentReads.pending := by
  rw [pendingIds, Finset.inr_mem_disjSum, mem_ids]

theorem pendingIds_insert_tool (status : ToolReservationStatus) :
    pendingIds { active with toolReservations := active.toolReservations.insert id status } =
      insert (Sum.inl id) active.pendingIds := by
  ext other
  rcases other with other | other
  · rw [mem_pendingIds_inl, Finset.mem_insert, mem_pendingIds_inl, AList.mem_insert,
      Sum.inl.injEq]
  · rw [mem_pendingIds_inr, Finset.mem_insert, mem_pendingIds_inr]
    simp

theorem pendingIds_insert_read (attempts : Table String Nat) (attachmentId : String) :
    pendingIds { active with
      attachmentReads := { active.attachmentReads with
        attemptsById := attempts
        pending := active.attachmentReads.pending.insert id attachmentId } } =
      insert (Sum.inr id) active.pendingIds := by
  ext other
  rcases other with other | other
  · rw [mem_pendingIds_inl, Finset.mem_insert, mem_pendingIds_inl]
    simp
  · rw [mem_pendingIds_inr, Finset.mem_insert, mem_pendingIds_inr, AList.mem_insert, Sum.inr.injEq]

theorem pendingIds_releaseTool (successful : Bool) :
    (active.releaseTool id successful).pendingIds = active.pendingIds.erase (Sum.inl id) := by
  ext other
  rcases other with other | other
  · rw [mem_pendingIds_inl, Finset.mem_erase, mem_pendingIds_inl, releaseTool, AList.mem_erase,
      ne_eq, ne_eq, Sum.inl.injEq]
  · rw [mem_pendingIds_inr, Finset.mem_erase, mem_pendingIds_inr]
    simp [releaseTool]

theorem pendingIds_releaseRead :
    (active.releaseRead id).pendingIds = active.pendingIds.erase (Sum.inr id) := by
  ext other
  rcases other with other | other
  · rw [mem_pendingIds_inl, Finset.mem_erase, mem_pendingIds_inl]
    simp [releaseRead]
  · rw [mem_pendingIds_inr, Finset.mem_erase, mem_pendingIds_inr, releaseRead, AList.mem_erase,
      ne_eq, ne_eq, Sum.inr.injEq]

theorem close_pendingIds_subset : active.close.pendingIds ⊆ active.pendingIds :=
  Finset.disjSum_mono ids_deleteWhere_subset subset_rfl

/-- Accounting for a read changes only what the reads took. -/
theorem countRead_eq_ok {attachmentId : String} {size : Nat} {counted : ActiveObservation}
    (h : active.countRead attachmentId size = .ok counted) :
    ∃ limit bytes, active.byteLimit = some limit ∧
      bytes = active.attachmentReads.successfulBytes + size ∧ bytes ≤ limit ∧
      1 ≤ size ∧ size ≤ maxAttachmentBytes ∧
      counted = { active with
        attachmentReads := { active.attachmentReads with
          successfulReads := active.attachmentReads.successfulReads.insert attachmentId
            ((active.attachmentReads.successfulReads.lookup attachmentId).getD 0 + 1)
          successfulBytes := bytes } } := by
  unfold countRead at h
  obtain ⟨limit, hlimit, h⟩ := Result.bind_eq_ok.mp h
  obtain ⟨bytes, hbytes, h⟩ := Result.bind_eq_ok.mp h
  obtain ⟨hvalid, h⟩ := Result.check_eq_ok.mp h
  rw [not_or, not_not, not_lt] at hvalid
  have hsum := okOr_eq_ok.mp hbytes
  unfold checkedAdd at hsum
  split at hsum
  · obtain rfl := Option.some.inj hsum
    exact ⟨limit, _, okOr_eq_ok.mp hlimit, rfl, hvalid.2, hvalid.1.1, hvalid.1.2,
      (Result.pure_eq_ok.mp h).symm⟩
  · cases hsum

end ActiveObservation

/-! ## Guards of operations -/

/-- What a guard of an operation knows. -/
structure OperationGuard where
  turnGeneration : String
  resolved : Bool

/-- The guards that the callers keep. -/
def RoomPortal.guard (s : RoomPortal) : String ⊕ String → Option OperationGuard
  | .inl id => (s.tools.lookup id).map fun guard => ⟨guard.turnGeneration, guard.resolved⟩
  | .inr id => (s.reads.lookup id).map fun guard => ⟨guard.turnGeneration, guard.resolved⟩

/-- The guard has nothing left to release: it was resolved, or it is of another turn. -/
def OperationGuard.Spent (guard : OperationGuard) (s : RoomPortal) : Prop :=
  guard.resolved = true ∨
    s.active.map ActiveObservation.turnGeneration ≠ some guard.turnGeneration

/-- The guard of an operation is resolved or dropped. -/
def Ends (before after : String ⊕ String → Option OperationGuard) (operation : String ⊕ String)
    (guard : OperationGuard) : Prop :=
  after = Function.update before operation (some { guard with resolved := true }) ∨
    after = Function.update before operation none

section Guards

variable {s : RoomPortal} {id : String}

theorem guard_insert_tool (row : RoomToolReservation) :
    RoomPortal.guard { s with tools := s.tools.insert id row } =
      Function.update s.guard (.inl id) (some ⟨row.turnGeneration, row.resolved⟩) := by
  ext1 operation
  rcases operation with other | other
  · unfold RoomPortal.guard
    dsimp only
    rw [Table.lookup_insert_ite]
    by_cases hother : other = id
    · rw [if_pos hother, hother, Function.update_self, Option.map_some]
    · rw [if_neg hother, Function.update_of_ne (by simpa using hother)]
  · rw [Function.update_of_ne (by simp)]
    rfl

theorem guard_erase_tool :
    RoomPortal.guard { s with tools := s.tools.erase id } =
      Function.update s.guard (.inl id) none := by
  ext1 operation
  rcases operation with other | other
  · unfold RoomPortal.guard
    dsimp only
    rw [Table.lookup_erase_ite]
    by_cases hother : other = id
    · rw [if_pos hother, hother, Function.update_self, Option.map_none]
    · rw [if_neg hother, Function.update_of_ne (by simpa using hother)]
  · rw [Function.update_of_ne (by simp)]
    rfl

theorem guard_insert_read (row : AttachmentReadReservation) :
    RoomPortal.guard { s with reads := s.reads.insert id row } =
      Function.update s.guard (.inr id) (some ⟨row.turnGeneration, row.resolved⟩) := by
  ext1 operation
  rcases operation with other | other
  · rw [Function.update_of_ne (by simp)]
    rfl
  · unfold RoomPortal.guard
    dsimp only
    rw [Table.lookup_insert_ite]
    by_cases hother : other = id
    · rw [if_pos hother, hother, Function.update_self, Option.map_some]
    · rw [if_neg hother, Function.update_of_ne (by simpa using hother)]

theorem guard_erase_read :
    RoomPortal.guard { s with reads := s.reads.erase id } =
      Function.update s.guard (.inr id) none := by
  ext1 operation
  rcases operation with other | other
  · rw [Function.update_of_ne (by simp)]
    rfl
  · unfold RoomPortal.guard
    dsimp only
    rw [Table.lookup_erase_ite]
    by_cases hother : other = id
    · rw [if_pos hother, hother, Function.update_self, Option.map_none]
    · rw [if_neg hother, Function.update_of_ne (by simpa using hother)]

end Guards

/-! ## What a call does -/

/-- A guard of an attachment read is resolved or dropped. -/
def Resolves (before after : Table String AttachmentReadReservation) (id : String)
    (guard : AttachmentReadReservation) : Prop :=
  Table.Sets before after id (some { guard with resolved := true }) ∨
    Table.Sets before after id none

/-- The outcome can be answered when the turn is finished. -/
def Answerable (active : ActiveObservation) (outcome : StagedOutcome) : Prop :=
  finishedOutcome active active.turnGeneration outcome = some outcome.turnOutcome

/-- The call did not stage, read, finish, attempt, reserve or complete anything. -/
structure PortalLabel.Quiet (label : PortalLabel) : Prop where
  staged : label.staged = none
  finished : label.finished = none
  reads : label.readsDiscussion = false
  attempted : label.attempted = none
  reserved : label.reserved = none
  bytes : label.readBytes = 0

section Moves

variable [UuidSource]

/-- What a call does to the observation and to the guards of its operations. -/
inductive Moves : PortalLabel → RoomPortal → RoomPortal → Prop
  | begun {s t : RoomPortal} {start : RoomObservationStart} (hnone : s.active = none)
      (hactive : t.active = some (start.begun (UuidSource.newV4 s.uuids)))
      (huuids : t.uuids = s.uuids + 1) (hreads : t.reads = s.reads)
      (hguards : t.guard = s.guard) :
      Moves ⟨.begin start, none, .ok .done⟩ s t
  | discussed {s t : RoomPortal} {active : ActiveObservation} (hactive : s.active = some active)
      (hnext : t.active = some { active with receiptGeneration := some active.turnGeneration })
      (huuids : t.uuids = s.uuids) (hreads : t.reads = s.reads)
      (hguards : t.guard = s.guard) :
      Moves ⟨.readDiscussion, some active.turnGeneration, .ok (.reply active.roomView)⟩ s t
  | staged {s t : RoomPortal} {action : TerminalAction} {active : ActiveObservation}
      {text : String} {outcome : StagedOutcome} (hactive : s.active = some active)
      (hready : active.round.Ready) (hnone : active.outcome = none)
      (hanswer : Answerable active outcome)
      (hnext : t.active = some { active with outcome := some outcome })
      (huuids : t.uuids = s.uuids) (hreads : t.reads = s.reads)
      (hguards : t.guard = s.guard) :
      Moves ⟨.terminal action, some active.turnGeneration, .ok (.staged text (some outcome))⟩ s t
  | finished {s t : RoomPortal} {turnId : String} {inputUpToSeq : Int}
      {active : ActiveObservation} {outcome : StagedOutcome} {result : ProviderTurnOutcome}
      (hactive : s.active = some active) (hready : active.round.Ready)
      (hstaged : active.outcome = some outcome)
      (hresult : finishedOutcome active active.turnGeneration outcome = some result)
      (hnext : t.active = none) (huuids : t.uuids = s.uuids) (hreads : t.reads = s.reads)
      (hguards : t.guard = s.guard) :
      Moves ⟨.finish turnId inputUpToSeq, some active.turnGeneration, .ok (.finished result)⟩ s t
  | closed {s t : RoomPortal} {active : ActiveObservation} (hactive : s.active = some active)
      (hnext : t.active = active.close.remaining)
      (huuids : t.uuids = s.uuids) (hreads : t.reads = s.reads)
      (hguards : t.guard = s.guard) :
      Moves ⟨.endTurn, some active.turnGeneration, .ok .done⟩ s t
  | reservedTool {s t : RoomPortal} {requireTabletop : Bool} {reserved : ReservedTool}
      {active : ActiveObservation} (hactive : s.active = some active)
      (hkept : active.closing = false) (hnone : active.outcome = none)
      (hlimit : active.successfulToolResults + active.toolReservations.size < maxRoomToolResults)
      (hnext : t.active = some { active with
        toolReservations := active.toolReservations.insert reserved.reservationId .queued })
      (huuids : t.uuids = s.uuids + 1) (hreads : t.reads = s.reads)
      (hid : reserved.reservationId = UuidSource.newV4 s.uuids)
      (hguards : t.guard = Function.update s.guard (.inl reserved.reservationId)
        (some ⟨active.turnGeneration, false⟩)) :
      Moves ⟨.reserveTool requireTabletop, some active.turnGeneration,
        .ok (.reservedTool reserved)⟩ s t
  | executing {s t : RoomPortal} {id : String} {resolved : Bool}
      {active : ActiveObservation} (hactive : s.active = some active)
      (hguard : s.guard (.inl id) = some ⟨active.turnGeneration, resolved⟩)
      (hqueued : active.toolReservations.lookup id = some .queued)
      (hnext : t.active = some { active with
        toolReservations := active.toolReservations.insert id .executing })
      (huuids : t.uuids = s.uuids) (hreads : t.reads = s.reads)
      (hguards : t.guard = s.guard) :
      Moves ⟨.beginExecution id, some active.turnGeneration, .ok .done⟩ s t
  | releasedTool {s t : RoomPortal} {op : PortalOp} {id : String} {successful : Bool}
      {active : ActiveObservation}
      (hop : op = .resolveTool id successful ∨ op = .dropTool id ∧ successful = false)
      (hactive : s.active = some active)
      (hguard : s.guard (.inl id) = some ⟨active.turnGeneration, false⟩)
      (hnext : t.active = (active.releaseTool id successful).remaining)
      (huuids : t.uuids = s.uuids) (hreads : t.reads = s.reads)
      (hguards : Ends s.guard t.guard (.inl id) ⟨active.turnGeneration, false⟩) :
      Moves ⟨op, some active.turnGeneration, .ok .done⟩ s t
  | reservedRead {s t : RoomPortal} {attachmentId : String} {reserved : ReservedRead}
      {active : ActiveObservation} (hactive : s.active = some active)
      (hkept : active.closing = false) (hnone : active.outcome = none)
      (hlimit : (active.attachmentReads.attemptsById.lookup attachmentId).getD 0 <
        attemptsPerAttachment)
      (hnext : t.active = some { active with
        attachmentReads := { active.attachmentReads with
          attemptsById := active.attachmentReads.attemptsById.insert attachmentId
            ((active.attachmentReads.attemptsById.lookup attachmentId).getD 0 + 1)
          pending := active.attachmentReads.pending.insert reserved.reservationId attachmentId } })
      (huuids : t.uuids = s.uuids + 1)
      (hreads : Table.Sets s.reads t.reads reserved.reservationId
        (some ⟨active.turnGeneration, attachmentId, false⟩))
      (hid : reserved.reservationId = UuidSource.newV4 s.uuids)
      (hguards : t.guard = Function.update s.guard (.inr reserved.reservationId)
        (some ⟨active.turnGeneration, false⟩)) :
      Moves ⟨.reserveRead attachmentId, some active.turnGeneration,
        .ok (.reservedRead reserved)⟩ s t
  | releasedRead {s t : RoomPortal} {op : PortalOp} {outcome : PortalOutcome} {id : String}
      {guard : AttachmentReadReservation} {size : Option Nat} {result : Except String Unit}
      {active released : ActiveObservation} (hread : s.reads.lookup id = some guard)
      (hguard : s.guard (.inr id) = some ⟨active.turnGeneration, false⟩)
      (hsame : guard.turnGeneration = active.turnGeneration)
      (hop : op = .dropRead id ∧ size = none ∧ outcome = .done ∨
        ∃ bytes, op = .completeRead id bytes ∧ size = some bytes ∧ outcome = .completed result)
      (hactive : s.active = some active)
      (hended : (active.releaseRead id).endRead guard.attachmentId size = (result, released))
      (hnext : t.active = released.remaining)
      (huuids : t.uuids = s.uuids) (hreads : Resolves s.reads t.reads id guard)
      (hguards : Ends s.guard t.guard (.inr id) ⟨active.turnGeneration, false⟩) :
      Moves ⟨op, some active.turnGeneration, .ok outcome⟩ s t
  | idle {label : PortalLabel} {s t : RoomPortal}
      (hgeneration : label.generation = s.active.map ActiveObservation.turnGeneration)
      (hquiet : label.Quiet)
      (hspent : ∀ operation, label.ends = some operation →
        ∃ guard, s.guard operation = some guard ∧ guard.Spent s)
      (hactive : t.active = s.active) (huuids : t.uuids = s.uuids)
      (hreads : t.reads = s.reads ∨ ∃ id guard, s.reads.lookup id = some guard ∧
        Resolves s.reads t.reads id guard)
      (hguards : t.guard = s.guard ∨ ∃ operation guard, s.guard operation = some guard ∧
        guard.Spent s ∧ Ends s.guard t.guard operation guard) :
      Moves label s t

/-- The id was drawn before. -/
def Drawn (uuids : Nat) (id : String) : Prop :=
  ∃ n, n < uuids ∧ id = UuidSource.newV4 n

/-- Every generation was drawn, and an unresolved guard of the turn has its pending read. -/
structure ReadsKept (s : RoomPortal) : Prop where
  generation : ∀ active, s.active = some active → Drawn s.uuids active.turnGeneration
  drawn : ∀ id guard, s.reads.lookup id = some guard → Drawn s.uuids guard.turnGeneration
  pending : ∀ id guard active, s.reads.lookup id = some guard → guard.resolved = false →
    s.active = some active → active.turnGeneration = guard.turnGeneration →
    active.attachmentReads.pending.lookup id = some guard.attachmentId

omit [UuidSource] in
theorem commits_setActive {active : Option ActiveObservation} {s t : RoomPortal} {u : Unit} :
    Commits (setActive active) s u t ↔ t = { s with active } := by
  unfold setActive
  exact commits_write

theorem commits_drawUuid {s t : RoomPortal} {id : String} :
    Commits drawUuid s id t ↔
      id = UuidSource.newV4 s.uuids ∧ t = { s with uuids := s.uuids + 1 } := by
  constructor
  · intro h
    obtain ⟨rfl, rfl⟩ := Prod.mk.inj (Except.ok.inj h)
    exact ⟨rfl, rfl⟩
  · rintro ⟨rfl, rfl⟩
    rfl

/-! ### The turn -/

/-- A call that leaves the portal as it is. -/
theorem Moves.same {label : PortalLabel} {s : RoomPortal}
    (hgeneration : label.generation = s.active.map ActiveObservation.turnGeneration)
    (hquiet : label.Quiet) (hends : label.ends = none) : Moves label s s := by
  refine .idle hgeneration hquiet (fun operation hoperation => ?_) rfl rfl (Or.inl rfl)
    (Or.inl rfl)
  cases hends.symm.trans hoperation

section Calls

variable [CaseFold] {s t : RoomPortal} {outcome : PortalOutcome} {u : Unit}

omit [UuidSource] [CaseFold] in
theorem generation_of_active {active : ActiveObservation} (h : s.active = some active) :
    s.active.map ActiveObservation.turnGeneration = some active.turnGeneration := by
  rw [h, Option.map_some]

omit [UuidSource] [CaseFold] in
/-- The round is ready when nothing but its outcome is missing. -/
theorem ready_of {active : ActiveObservation}
    (hreceipt : active.receiptGeneration = some active.turnGeneration)
    (hkept : active.closing = false) (hquiet : active.hasPendingOperations = false) :
    active.round.Ready where
  read := decide_eq_true hreceipt
  quiet := ActiveObservation.pendingIds_eq_empty.mpr hquiet
  kept := hkept

omit [CaseFold] in
theorem beginObservation_moves {start : RoomObservationStart}
    (h : Commits (beginObservation start) s u t) :
    Moves ⟨.begin start, s.active.map ActiveObservation.turnGeneration, .ok .done⟩ s t := by
  unfold beginObservation requireServer at h
  simp only [commits_bind, commits_read, commits_require, commits_ofResult, and_assoc,
    exists_and_left, exists_eq_left] at h
  obtain ⟨-, -, -, -, h⟩ := h
  cases hactive : s.active with
  | some active =>
      rw [hactive] at h
      obtain ⟨-, rfl⟩ := commits_require.mp h
      rw [← hactive]
      exact Moves.same rfl ⟨rfl, rfl, rfl, rfl, rfl, rfl⟩ rfl
  | none =>
      rw [hactive] at h
      obtain ⟨generation, drawn, hdrawn, h⟩ := commits_bind.mp h
      obtain ⟨rfl, rfl⟩ := commits_drawUuid.mp hdrawn
      rw [commits_setActive.mp h]
      exact .begun hactive rfl rfl rfl rfl

omit [CaseFold] in
theorem readDiscussion_moves {text : String} (h : Commits readDiscussion s text t) :
    Moves ⟨.readDiscussion, s.active.map ActiveObservation.turnGeneration, .ok (.reply text)⟩
      s t := by
  unfold readDiscussion at h
  simp only [commits_bind, commits_read, commits_orReject, commits_setActive, commits_pure,
    and_assoc, exists_and_left, exists_eq_left, exists_const] at h
  obtain ⟨active, hactive, rfl, rfl⟩ := h
  rw [generation_of_active hactive]
  exact .discussed hactive rfl rfl rfl rfl

omit [CaseFold] in
theorem finishObservation_moves {turnId : String} {inputUpToSeq : Int}
    {result : ProviderTurnOutcome}
    (h : Commits (finishObservation turnId inputUpToSeq) s result t) :
    Moves ⟨.finish turnId inputUpToSeq, s.active.map ActiveObservation.turnGeneration,
      .ok (.finished result)⟩ s t := by
  unfold finishObservation requireServer at h
  simp only [commits_bind, commits_read, commits_require, commits_orReject, commits_setActive,
    commits_pure, and_assoc, exists_and_left, exists_eq_left, exists_const] at h
  obtain ⟨-, active, hactive, -, -, hkept, hquiet, receipt, hreceipt, rfl, outcome, hstaged,
    result, hresult, rfl, rfl⟩ := h
  rw [generation_of_active hactive]
  exact .finished hactive (ready_of hreceipt hkept hquiet) hstaged hresult rfl rfl rfl
    rfl

omit [CaseFold] in
theorem endObservation_moves (h : Commits endObservation s u t) :
    Moves ⟨.endTurn, s.active.map ActiveObservation.turnGeneration, .ok .done⟩ s t := by
  unfold endObservation at h
  simp only [commits_bind, commits_read, and_assoc, exists_and_left, exists_eq_left] at h
  cases hactive : s.active with
  | none =>
      rw [hactive] at h
      obtain ⟨-, rfl⟩ := commits_pure.mp h
      rw [← hactive]
      exact Moves.same rfl ⟨rfl, rfl, rfl, rfl, rfl, rfl⟩ rfl
  | some active =>
      rw [hactive] at h
      rw [commits_setActive.mp h]
      exact .closed hactive rfl rfl rfl rfl

/-! ### Terminal actions -/

omit [UuidSource] [CaseFold] in
theorem terminalObservation_spec {active : ActiveObservation}
    (h : Commits terminalObservation s active t) :
    t = s ∧ s.active = some active ∧ active.round.Ready ∧ active.outcome = none := by
  unfold terminalObservation requireCurrentReceipt at h
  simp only [commits_bind, commits_read, commits_require, commits_orReject, commits_pure,
    and_assoc, exists_and_left, exists_eq_left, exists_const] at h
  obtain ⟨active, hactive, hreceipt, hkept, hnone, hquiet, rfl, rfl⟩ := h
  exact ⟨rfl, hactive, ready_of hreceipt hkept hquiet, hnone⟩

omit [UuidSource] [CaseFold] in
/-- A message that was made canonical stays as it is. -/
theorem canonicalMessage_canonical {value content : String}
    (h : canonicalMessage value = some content) : canonicalMessage content = some content := by
  unfold canonicalMessage at h
  split at h
  · cases h
  · rename_i hfits
    rw [not_or, not_lt] at hfits
    dsimp only at h
    split at h
    · rename_i hvisible
      obtain rfl := Option.some.inj h
      have hclean := (cleanMessage_fixed_iff value maxMessageCharacters).mpr
        (cutAfterSpace_of_fits hfits.2)
      obtain ⟨htext, hlength⟩ := cleanMessage_eq_self_iff.mp hclean
      unfold canonicalMessage
      rw [if_neg (not_or.mpr ⟨htext.noNul, not_lt.mpr hlength⟩)]
      dsimp only
      rw [hclean, if_pos hvisible]
    · cases h

omit [UuidSource] in
/-- A terminal action stages one outcome that can be answered. -/
theorem TerminalAction.run_spec {action : TerminalAction} {text : String}
    (h : Commits action.run s text t) :
    ∃ active outcome, s.active = some active ∧ active.round.Ready ∧ active.outcome = none ∧
      Answerable active outcome ∧
      t = { s with active := some { active with outcome := some outcome } } := by
  have hvote : ∀ payload, Commits (stageVote payload) s text t →
      ∃ active outcome, s.active = some active ∧ active.round.Ready ∧ active.outcome = none ∧
        Answerable active outcome ∧
        t = { s with active := some { active with outcome := some outcome } } := by
    intro payload h
    unfold stageVote stage at h
    simp only [commits_bind, commits_ofResult, commits_setActive, commits_pure, and_assoc,
      exists_and_left, exists_eq_left, exists_const] at h
    obtain ⟨active, s', hterminal, command, -, -, rfl⟩ := h
    obtain ⟨rfl, hactive, hready, hnone⟩ := terminalObservation_spec hterminal
    refine ⟨active, .vote active.turnGeneration command, hactive, hready, hnone, ?_, rfl⟩
    exact if_pos rfl
  cases action with
  | publishMessage content nextAgentId =>
      change Commits (Portal.publishMessage content nextAgentId) s text t at h
      unfold Portal.publishMessage stage at h
      simp only [commits_bind, commits_orReject, commits_setActive, commits_pure, and_assoc,
        exists_and_left, exists_eq_left, exists_const] at h
      obtain ⟨active, s', hterminal, canonical, hcanonical, -, rfl⟩ := h
      obtain ⟨rfl, hactive, hready, hnone⟩ := terminalObservation_spec hterminal
      refine ⟨active, _, hactive, hready, hnone, ?_, rfl⟩
      have hagain := canonicalMessage_canonical hcanonical
      unfold Answerable finishedOutcome
      dsimp only
      rw [if_pos, hagain, Option.map_some]
      · rfl
      · refine ⟨rfl, Option.isSome_iff_exists.mpr ⟨_, hagain⟩, ?_⟩
        by_cases hallowed : nextAgentId ∈ active.authority.allowedAgentIds
        · rw [if_pos hallowed]
          exact Or.inr hallowed
        · rw [if_neg hallowed]
          exact Or.inl rfl
  | declineToSpeak reasonCode =>
      change Commits (Portal.declineToSpeak reasonCode) s text t at h
      unfold Portal.declineToSpeak stage at h
      simp only [commits_bind, commits_require, commits_setActive, commits_pure, and_assoc,
        exists_and_left, exists_eq_left, exists_const] at h
      obtain ⟨active, s', hterminal, hreason, -, rfl⟩ := h
      obtain ⟨rfl, hactive, hready, hnone⟩ := terminalObservation_spec hterminal
      refine ⟨active, .declined active.turnGeneration reasonCode, hactive, hready, hnone, ?_, rfl⟩
      exact if_pos ⟨rfl, hreason⟩
  | createVote question options durationSeconds => exact hvote _ h
  | castVote voteId choice => exact hvote _ h
  | withdrawVote voteId => exact hvote _ h
  | closeVote voteId => exact hvote _ h

theorem stagedReply_moves {action : TerminalAction} (h : Commits (stagedReply action) s outcome t) :
    Moves ⟨.terminal action, s.active.map ActiveObservation.turnGeneration, .ok outcome⟩ s t := by
  unfold stagedReply at h
  simp only [commits_bind, commits_read, commits_pure, and_assoc, exists_and_left,
    exists_eq_left] at h
  obtain ⟨text, s', hrun, rfl, rfl⟩ := h
  obtain ⟨active, outcome, hactive, hready, hnone, hanswer, rfl⟩ := TerminalAction.run_spec hrun
  rw [generation_of_active hactive]
  exact .staged hactive hready hnone hanswer rfl rfl rfl rfl

/-! ### Tool reservations -/

omit [UuidSource] [CaseFold] in
theorem observationOf_eq_some {generation : String} {active : ActiveObservation} :
    observationOf s generation = some active ↔
      s.active = some active ∧ active.turnGeneration = generation := by
  rw [observationOf, Option.filter_eq_some_iff, beq_iff_eq]

omit [UuidSource] [CaseFold] in
theorem observationOf_eq_none {generation : String} :
    observationOf s generation = none ↔
      s.active.map ActiveObservation.turnGeneration ≠ some generation := by
  unfold observationOf
  cases s.active with
  | none => simp
  | some active => simp [Option.filter]

omit [UuidSource] [CaseFold] in
theorem guard_of_tool {id : String} {row : RoomToolReservation} (h : s.tools.lookup id = some row) :
    s.guard (.inl id) = some ⟨row.turnGeneration, row.resolved⟩ := by
  unfold RoomPortal.guard
  dsimp only
  rw [h, Option.map_some]

omit [UuidSource] [CaseFold] in
theorem guard_of_read {id : String} {row : AttachmentReadReservation}
    (h : s.reads.lookup id = some row) :
    s.guard (.inr id) = some ⟨row.turnGeneration, row.resolved⟩ := by
  unfold RoomPortal.guard
  dsimp only
  rw [h, Option.map_some]

omit [CaseFold] in
theorem reserveTool_moves {requireTabletop : Bool} {reserved : ReservedTool}
    (h : Commits (reserveTool requireTabletop) s reserved t) :
    Moves ⟨.reserveTool requireTabletop, s.active.map ActiveObservation.turnGeneration,
      .ok (.reservedTool reserved)⟩ s t := by
  unfold reserveTool requireCurrentReceipt at h
  simp only [commits_bind, commits_read, commits_require, commits_orReject, commits_drawUuid,
    commits_setActive, commits_write, commits_pure, and_assoc, exists_and_left, exists_eq_left,
    exists_const] at h
  obtain ⟨active, hactive, hkept, hnone, -, -, ingress, -, hlimit, rfl, rfl⟩ := h
  rw [generation_of_active hactive]
  exact .reservedTool hactive hkept hnone hlimit rfl rfl rfl rfl (guard_insert_tool _)

omit [CaseFold] in
theorem beginExecution_moves {id : String} (h : Commits (beginExecution id) s u t) :
    Moves ⟨.beginExecution id, s.active.map ActiveObservation.turnGeneration, .ok .done⟩ s t := by
  unfold beginExecution at h
  simp only [commits_bind, commits_read, commits_require, commits_orReject, commits_setActive,
    id_eq, and_assoc, exists_and_left, exists_eq_left, exists_const] at h
  obtain ⟨guard, hguard, active, hfound, status, hstatus, rfl, rfl⟩ := h
  obtain ⟨hactive, hsame⟩ := observationOf_eq_some.mp (Option.filter_eq_some_iff.mp hfound).1
  have hheld : s.guard (.inl id) = some ⟨active.turnGeneration, guard.resolved⟩ := by
    rw [guard_of_tool hguard, hsame]
  rw [generation_of_active hactive]
  exact .executing hactive hheld hstatus rfl rfl rfl rfl

omit [UuidSource] [CaseFold] in
/-- A guard of a tool releases its own turn, or nothing. -/
theorem resolveTool_spec {id : String} {successful : Bool}
    (h : Commits (resolveTool id successful) s u t) :
    t.uuids = s.uuids ∧ t.reads = s.reads ∧ ∃ guard, s.guard (.inl id) = some guard ∧
      t.guard = Function.update s.guard (.inl id) (some { guard with resolved := true }) ∧
      (guard.Spent s ∧ t.active = s.active ∨
        ∃ active, s.active = some active ∧ guard = ⟨active.turnGeneration, false⟩ ∧
          t.active = (active.releaseTool id successful).remaining) := by
  unfold resolveTool at h
  simp only [commits_bind, commits_read, commits_orReject, and_assoc, exists_and_left,
    exists_eq_left] at h
  obtain ⟨guard, hguard, h⟩ := h
  have hheld := guard_of_tool hguard
  by_cases hresolved : guard.resolved = true
  · rw [if_pos hresolved] at h
    obtain ⟨-, rfl⟩ := commits_pure.mp h
    refine ⟨rfl, rfl, _, hheld, ?_, Or.inl ⟨Or.inl hresolved, rfl⟩⟩
    rw [hresolved] at hheld ⊢
    rw [← hheld, Function.update_eq_self]
  · rw [if_neg hresolved] at h
    simp only [commits_bind, commits_write, commits_read, id_eq, and_assoc, exists_and_left,
      exists_eq_left, exists_const] at h
    split at h
    · rename_i hgone
      obtain ⟨-, rfl⟩ := commits_pure.mp h
      exact ⟨rfl, rfl, _, hheld, guard_insert_tool _,
        Or.inl ⟨Or.inr (observationOf_eq_none.mp hgone), rfl⟩⟩
    · rename_i active hfound
      obtain ⟨hactive, hsame⟩ := observationOf_eq_some.mp hfound
      rw [commits_setActive.mp h]
      refine ⟨rfl, rfl, _, hheld, guard_insert_tool _, Or.inr ⟨active, hactive, ?_, rfl⟩⟩
      rw [hsame, Bool.eq_false_iff.mpr hresolved]

omit [CaseFold] in
theorem resolveTool_moves {id : String} {successful : Bool}
    (h : Commits (resolveTool id successful) s u t) :
    Moves ⟨.resolveTool id successful, s.active.map ActiveObservation.turnGeneration, .ok .done⟩
      s t := by
  obtain ⟨huuids, hreads, guard, hguard, hguards, ⟨hspent, hidle⟩ |
    ⟨active, hactive, rfl, hnext⟩⟩ := resolveTool_spec h
  · refine .idle rfl ⟨rfl, rfl, rfl, rfl, rfl, rfl⟩ (fun operation hoperation => ?_) hidle huuids
      (Or.inl hreads) (Or.inr ⟨.inl id, guard, hguard, hspent, Or.inl hguards⟩)
    obtain rfl := Option.some.inj hoperation
    exact ⟨guard, hguard, hspent⟩
  · rw [generation_of_active hactive]
    exact .releasedTool (Or.inl rfl) hactive hguard hnext huuids hreads (Or.inl hguards)

omit [CaseFold] in
theorem dropTool_moves {id : String} (h : Commits (dropTool id) s u t) :
    Moves ⟨.dropTool id, s.active.map ActiveObservation.turnGeneration, .ok .done⟩ s t := by
  unfold dropTool at h
  simp only [commits_bind, commits_write] at h
  obtain ⟨_, s', hresolve, rfl⟩ := h
  obtain ⟨huuids, hreads, guard, hguard, hguards, hmoved⟩ := resolveTool_spec hresolve
  have hdropped : RoomPortal.guard { s' with tools := s'.tools.erase id } =
      Function.update s.guard (.inl id) none := by
    rw [guard_erase_tool, hguards, Function.update_idem]
  rcases hmoved with ⟨hspent, hidle⟩ | ⟨active, hactive, rfl, hnext⟩
  · refine .idle rfl ⟨rfl, rfl, rfl, rfl, rfl, rfl⟩ (fun operation hoperation => ?_) hidle huuids
      (Or.inl hreads) (Or.inr ⟨.inl id, guard, hguard, hspent, Or.inr hdropped⟩)
    obtain rfl := Option.some.inj hoperation
    exact ⟨guard, hguard, hspent⟩
  · rw [generation_of_active hactive]
    exact .releasedTool (Or.inr ⟨rfl, rfl⟩) hactive hguard hnext huuids hreads (Or.inr hdropped)

/-! ### Attachment reads -/

omit [CaseFold] in
theorem reserveAttachmentRead_moves {attachmentId : String} {reserved : ReservedRead}
    (h : Commits (reserveAttachmentRead attachmentId) s reserved t) :
    Moves ⟨.reserveRead attachmentId, s.active.map ActiveObservation.turnGeneration,
      .ok (.reservedRead reserved)⟩ s t := by
  unfold reserveAttachmentRead at h
  simp only [commits_bind, commits_read, commits_require, commits_orReject, commits_drawUuid,
    commits_setActive, commits_write, commits_pure, and_assoc, exists_and_left, exists_eq_left,
    exists_const] at h
  obtain ⟨active, hactive, hkept, hnone, -, ingress, -, -, -, hlimit, rfl, rfl⟩ := h
  rw [generation_of_active hactive]
  exact .reservedRead hactive hkept hnone hlimit rfl rfl (Table.sets_insert _ _ _) rfl
    (guard_insert_read _)

omit [CaseFold] in
/-- A guard of a read releases its own turn, or nothing. -/
theorem resolveRead_spec (hs : ReadsKept s) {id : String} {size : Option Nat}
    {result : Except String Unit} (h : Commits (resolveRead id size) s result t) :
    t.uuids = s.uuids ∧ ∃ guard, s.reads.lookup id = some guard ∧
      Table.Sets s.reads t.reads id (some { guard with resolved := true }) ∧
      t.guard = Function.update s.guard (.inr id) (some ⟨guard.turnGeneration, true⟩) ∧
      ((∃ message, result = .error message) ∧ t.active = s.active ∧
          (guard.resolved = true ∨
            s.active.map ActiveObservation.turnGeneration ≠ some guard.turnGeneration) ∨
        ∃ active released, s.active = some active ∧
          active.turnGeneration = guard.turnGeneration ∧ guard.resolved = false ∧
          (active.releaseRead id).endRead guard.attachmentId size = (result, released) ∧
          t.active = released.remaining) := by
  unfold resolveRead at h
  simp only [commits_bind, commits_read, commits_orReject, and_assoc, exists_and_left,
    exists_eq_left] at h
  obtain ⟨guard, hguard, h⟩ := h
  have hheld := guard_of_read hguard
  by_cases hresolved : guard.resolved = true
  · rw [if_pos hresolved] at h
    obtain ⟨rfl, rfl⟩ := commits_pure.mp h
    have hsame : { guard with resolved := true } = guard := by
      rw [← hresolved]
    refine ⟨rfl, guard, hguard, ?_, ?_, Or.inl ⟨⟨_, rfl⟩, rfl, Or.inl hresolved⟩⟩
    · rw [hsame, ← hguard]
      exact Table.sets_self _ _
    · rw [hresolved] at hheld
      rw [← hheld, Function.update_eq_self]
  · rw [if_neg hresolved] at h
    simp only [commits_bind, commits_write, commits_read, id_eq, and_assoc, exists_and_left,
      exists_eq_left, exists_const] at h
    split at h
    · rename_i hgone
      obtain ⟨rfl, rfl⟩ := commits_pure.mp h
      exact ⟨rfl, guard, hguard, Table.sets_insert _ _ _, guard_insert_read _,
        Or.inl ⟨⟨_, rfl⟩, rfl, Or.inr (observationOf_eq_none.mp hgone)⟩⟩
    · rename_i active hfound
      obtain ⟨hactive, hsame⟩ := observationOf_eq_some.mp hfound
      have hopen := Bool.eq_false_iff.mpr hresolved
      have hpending := hs.pending id guard active hguard hopen hactive hsame
      rw [if_neg (not_not.mpr hpending)] at h
      simp only [commits_bind, commits_setActive, commits_pure, exists_and_left,
        exists_eq_left, exists_const] at h
      obtain ⟨rfl, rfl⟩ := h
      exact ⟨rfl, guard, hguard, Table.sets_insert _ _ _, guard_insert_read _,
        Or.inr ⟨active, _, hactive, hsame, hopen, rfl, rfl⟩⟩

omit [CaseFold] in
theorem completeRead_moves (hs : ReadsKept s) {id : String} {size : Nat}
    {result : Except String Unit} (h : Commits (completeRead id size) s result t) :
    Moves ⟨.completeRead id size, s.active.map ActiveObservation.turnGeneration,
      .ok (.completed result)⟩ s t := by
  obtain ⟨huuids, guard, hguard, hreads, hguards, hmoved⟩ := resolveRead_spec hs h
  have hheld := guard_of_read hguard
  rcases hmoved with ⟨⟨message, rfl⟩, hidle, hspent⟩ |
    ⟨active, released, hactive, hsame, hopen, hended, hnext⟩
  · refine .idle rfl ⟨rfl, rfl, rfl, rfl, rfl, rfl⟩ (fun operation hoperation => ?_) hidle huuids
      (Or.inr ⟨id, guard, hguard, Or.inl hreads⟩)
      (Or.inr ⟨.inr id, _, hheld, hspent, Or.inl hguards⟩)
    obtain rfl := Option.some.inj hoperation
    exact ⟨_, hheld, hspent⟩
  · rw [generation_of_active hactive]
    rw [hopen, ← hsame] at hheld
    rw [← hsame] at hguards
    exact .releasedRead hguard hheld hsame.symm (Or.inr ⟨size, rfl, rfl, rfl⟩) hactive hended hnext
      huuids (Or.inl hreads) (Or.inl hguards)

omit [UuidSource] [CaseFold] in
theorem sets_erase {before between : Table String AttachmentReadReservation} {id : String}
    {row : Option AttachmentReadReservation} (h : Table.Sets before between id row) :
    Table.Sets before (between.erase id) id none := by
  intro other
  rw [Table.lookup_erase_ite]
  by_cases hother : other = id
  · rw [if_pos hother, if_pos hother]
  · rw [if_neg hother, if_neg hother, h.off_key hother]

omit [CaseFold] in
theorem dropRead_moves (hs : ReadsKept s) {id : String} (h : Commits (dropRead id) s u t) :
    Moves ⟨.dropRead id, s.active.map ActiveObservation.turnGeneration, .ok .done⟩ s t := by
  unfold dropRead at h
  simp only [commits_bind, commits_write] at h
  obtain ⟨result, s', hresolve, rfl⟩ := h
  obtain ⟨huuids, guard, hguard, hreads, hguards, hmoved⟩ := resolveRead_spec hs hresolve
  have hheld := guard_of_read hguard
  have hdropped : RoomPortal.guard { s' with reads := s'.reads.erase id } =
      Function.update s.guard (.inr id) none := by
    rw [guard_erase_read, hguards, Function.update_idem]
  rcases hmoved with ⟨-, hidle, hspent⟩ |
    ⟨active, released, hactive, hsame, hopen, hended, hnext⟩
  · refine .idle rfl ⟨rfl, rfl, rfl, rfl, rfl, rfl⟩ (fun operation hoperation => ?_) hidle huuids
      (Or.inr ⟨id, guard, hguard, Or.inr (sets_erase hreads)⟩)
      (Or.inr ⟨.inr id, _, hheld, hspent, Or.inr hdropped⟩)
    obtain rfl := Option.some.inj hoperation
    exact ⟨_, hheld, hspent⟩
  · rw [generation_of_active hactive]
    rw [hopen, ← hsame] at hheld
    exact .releasedRead hguard hheld hsame.symm (Or.inl ⟨rfl, rfl, rfl⟩) hactive hended hnext huuids
      (Or.inr (sets_erase hreads)) (Or.inr hdropped)

/-! ### Every call -/

theorem perform_moves (hs : ReadsKept s) {op : PortalOp} (h : Commits (perform op) s outcome t) :
    Moves ⟨op, s.active.map ActiveObservation.turnGeneration, .ok outcome⟩ s t := by
  cases op with
  | begin start =>
      obtain ⟨_, hcall, rfl⟩ := commits_map.mp h
      exact beginObservation_moves hcall
  | readDiscussion =>
      obtain ⟨_, hcall, rfl⟩ := commits_map.mp h
      exact readDiscussion_moves hcall
  | terminal action => exact stagedReply_moves h
  | finish turnId inputUpToSeq =>
      obtain ⟨_, hcall, rfl⟩ := commits_map.mp h
      exact finishObservation_moves hcall
  | endTurn =>
      obtain ⟨_, hcall, rfl⟩ := commits_map.mp h
      exact endObservation_moves hcall
  | reserveTool requireTabletop =>
      obtain ⟨_, hcall, rfl⟩ := commits_map.mp h
      exact reserveTool_moves hcall
  | beginExecution id =>
      obtain ⟨_, hcall, rfl⟩ := commits_map.mp h
      exact beginExecution_moves hcall
  | resolveTool id successful =>
      obtain ⟨_, hcall, rfl⟩ := commits_map.mp h
      exact resolveTool_moves hcall
  | dropTool id =>
      obtain ⟨_, hcall, rfl⟩ := commits_map.mp h
      exact dropTool_moves hcall
  | reserveRead attachmentId =>
      obtain ⟨_, hcall, rfl⟩ := commits_map.mp h
      exact reserveAttachmentRead_moves hcall
  | completeRead id size =>
      obtain ⟨_, hcall, rfl⟩ := commits_map.mp h
      exact completeRead_moves hs hcall
  | dropRead id =>
      obtain ⟨_, hcall, rfl⟩ := commits_map.mp h
      exact dropRead_moves hs hcall
  | shutdown =>
      obtain ⟨_, hcall, rfl⟩ := commits_map.mp h
      rw [commits_write.mp hcall]
      refine .idle rfl ⟨rfl, rfl, rfl, rfl, rfl, rfl⟩ (fun operation hoperation => ?_) rfl rfl
        (Or.inl rfl) (Or.inl rfl)
      cases hoperation

/-- Every step is one of the moves; a call that is refused is none. -/
theorem Step.moves {label : PortalLabel} (hs : ReadsKept s) (h : Step label s t) :
    Moves label s t := by
  obtain ⟨op, generation, result⟩ := label
  obtain ⟨hgeneration, h⟩ := h
  dsimp only at hgeneration
  subst hgeneration
  cases result with
  | ok outcome => exact perform_moves hs h
  | error error =>
      obtain ⟨-, rfl⟩ := h
      refine Moves.same rfl ⟨rfl, rfl, ?_, ?_, rfl, ?_⟩ ?_
      · cases op <;> rfl
      · cases op <;> rfl
      · cases op <;> rfl
      · cases op <;> rfl

end Calls

end Moves

end AgentsAssemble.Portal
