import AgentsAssemble.Portal.PortalRuns

/-!
# The room portal: one outcome per turn

What a run leaves behind in its labels is what the observation knows of its turn: who read the
discussion, what was staged, which attachments were attempted and which reservation a guard is of.
-/

namespace AgentsAssemble.Portal

open Foundation Domain Tx
open Persistence (UuidSource unaryUuid unaryUuid_injective unaryUuid_ne_empty)

section Runs

variable [UuidSource] {s t : RoomPortal} {label : PortalLabel} {labels : List PortalLabel}
  {active after : ActiveObservation}

/-! ## Every reachable portal is sound -/

/-- What holds of a portal whatever its callers do, in whatever order. -/
structure RoomPortal.Sound (s : RoomPortal) : Prop where
  reads : ReadsKept s
  held : Held s
  active : ∀ active, s.active = some active → active.Sound

theorem sound_created : created.Sound where
  reads := by
    constructor
    · intro active hactive
      cases hactive
    · intro id guard hguard
      cases hguard
    · intro id guard active hguard
      cases hguard
  held := by
    intro active hactive
    cases hactive
  active := by
    intro active hactive
    cases hactive

theorem RoomPortal.Sound.step [CaseFold] (hs : s.Sound) (h : Step label s t) : t.Sound :=
  have hmoves := h.moves hs.reads
  { reads := hs.reads.moves hmoves
    held := hs.held.moves hmoves
    active := hmoves.sound hs.active }

theorem RoomPortal.Sound.run [CaseFold] (hs : s.Sound) (h : Run Step s labels t) : t.Sound :=
  h.invariant (fun _ _ _ hs hstep => hs.step hstep) hs

/-- Every call moves the portal as its rounds move. -/
theorem Moves.rounds (h : Moves label s t) :
    ∃ move, Abstracts label move ∧ Rounds.Step move s.rounds t.rounds := by
  obtain ⟨move, habstracts, hopens, hmoves⟩ := h.round
  refine ⟨_, habstracts, ?_, ?_, ?_, hmoves⟩
  · unfold RoomPortal.rounds
    rw [h.generation, Option.map_map]
    rfl
  · intro id hid
    exact mem_used.mpr ((mem_used.mp hid).mono h.uuids)
  · intro generation hmove
    obtain ⟨rfl, hlater⟩ := hopens generation hmove
    exact ⟨fun hused => not_drawn_newV4 _ (mem_used.mp hused), mem_used.mpr ⟨s.uuids, hlater, rfl⟩⟩

/-- A run of calls is matched by a run of the rounds. -/
theorem matched_rounds [CaseFold] (h : Run Step created labels s) :
    ∃ moves, List.Forall₂ Abstracts labels moves ∧ Run Rounds.Step created.rounds moves s.rounds :=
  h.matched (I := RoomPortal.Sound) (f := RoomPortal.rounds) (L := Abstracts)
    (fun _ _ _ hs hstep => hs.step hstep)
    (fun _ _ _ hs hstep => (hstep.moves hs.reads).rounds) sound_created

/-! ## What the rounds say of a run -/

/-- The call staged an outcome of the turn. -/
def PortalLabel.stagesIn (generation : String) (label : PortalLabel) : Bool :=
  label.generation == some generation && label.staged.isSome

omit [UuidSource] in
theorem Abstracts.stagesIn {move : RoundLabel String (String ⊕ String) StagedOutcome}
    (h : Abstracts label move) (generation : String) :
    label.stagesIn generation = move.settlesIn generation := by
  rw [Bool.eq_iff_iff, settlesIn_eq_true, PortalLabel.stagesIn, Bool.and_eq_true, beq_iff_eq,
    Option.isSome_iff_exists, h.generation]
  exact and_congr_right fun _ => exists_congr h.settles

theorem sound_rounds_created : created.rounds.Sound where
  round round hround := by cases hround
  used round hround := by cases hround

theorem staged_once [CaseFold] (h : Run Step created labels s) (generation : String) :
    labels.countP (PortalLabel.stagesIn generation) ≤ 1 := by
  obtain ⟨moves, hmatched, hrun⟩ := matched_rounds h
  have hcount : labels.countP (PortalLabel.stagesIn generation) =
      moves.countP (RoundLabel.settlesIn generation) := by
    have hkeys : labels.map (PortalLabel.stagesIn generation) =
        moves.map (RoundLabel.settlesIn generation) :=
      Result.forall₂_map_eq (fun _ _ hrel => hrel.stagesIn generation) hmatched
    calc labels.countP (PortalLabel.stagesIn generation)
        = (labels.map (PortalLabel.stagesIn generation)).countP id := by
          rw [List.countP_map, Function.id_comp]
      _ = (moves.map (RoundLabel.settlesIn generation)).countP id := by rw [hkeys]
      _ = moves.countP (RoundLabel.settlesIn generation) := by
          rw [List.countP_map, Function.id_comp]
  rw [hcount]
  exact Rounds.settled_once sound_rounds_created hrun generation

/-- The round of the observation is sound. -/
theorem sound_round [CaseFold] (h : Run Step created labels s) (hactive : s.active = some active) :
    active.round.Sound := by
  obtain ⟨moves, -, hrun⟩ := matched_rounds h
  exact (sound_rounds_created.run hrun).round _ (map_round_of_some hactive)

/-- The discussion that the turn knows was read by a call of the run. -/
theorem was_read [CaseFold] (h : Run Step created labels s) (hactive : s.active = some active)
    (hreceipt : active.receiptGeneration = some active.turnGeneration) :
    ∃ earlier ∈ labels, earlier.generation = some active.turnGeneration ∧
      earlier.readsDiscussion = true := by
  obtain ⟨moves, hmatched, hrun⟩ := matched_rounds h
  have hread := (Rounds.remembers rfl hrun).read _ (map_round_of_some hactive)
    (decide_eq_true hreceipt)
  obtain ⟨earlier, hearlier, hrel⟩ := Result.forall₂_mem_right hmatched hread
  exact ⟨earlier, hearlier, hrel.generation.symm, hrel.reads.mpr rfl⟩

/-- The outcome that the turn has was staged by a call of the run. -/
theorem was_staged [CaseFold] {outcome : StagedOutcome} (h : Run Step created labels s)
    (hactive : s.active = some active) (houtcome : active.outcome = some outcome) :
    ∃ earlier ∈ labels, earlier.generation = some active.turnGeneration ∧
      earlier.staged = some outcome := by
  obtain ⟨moves, hmatched, hrun⟩ := matched_rounds h
  have hsettled := (Rounds.remembers rfl hrun).settled _ outcome (map_round_of_some hactive)
    houtcome
  obtain ⟨earlier, hearlier, hrel⟩ := Result.forall₂_mem_right hmatched hsettled
  exact ⟨earlier, hearlier, hrel.generation.symm, (hrel.settles outcome).mpr rfl⟩

/-! ## The ledger of a run -/

def ActiveObservation.attempts (active : ActiveObservation) (attachmentId : String) : Nat :=
  (active.attachmentReads.attemptsById.lookup attachmentId).getD 0

/-- The call reserved a read of the attachment in the turn. -/
def PortalLabel.attemptsIn (generation attachmentId : String) (label : PortalLabel) : Bool :=
  label.generation == some generation && label.attempted == some attachmentId

/-- The bytes that the call read in the turn. -/
def PortalLabel.readBytesIn (generation : String) (label : PortalLabel) : Nat :=
  if label.generation = some generation then label.readBytes else 0

/-- What a call leaves of the budgets of the turn. -/
structure Spends (label : PortalLabel) (before after : ActiveObservation) : Prop where
  generation : after.turnGeneration = before.turnGeneration
  attempts : ∀ attachmentId, after.attempts attachmentId = before.attempts attachmentId +
    if label.attempted = some attachmentId then 1 else 0
  bytes : after.attachmentReads.successfulBytes =
    before.attachmentReads.successfulBytes + label.readBytes

omit [UuidSource] in
/-- A call that attempts and reads nothing leaves the budgets as they are. -/
theorem spends_nothing (hsame : after.turnGeneration = active.turnGeneration)
    (hreads : after.attachmentReads = active.attachmentReads) (hattempted : label.attempted = none)
    (hbytes : label.readBytes = 0) : Spends label active after where
  generation := hsame
  attempts attachmentId := by
    unfold ActiveObservation.attempts
    rw [hreads, hattempted, if_neg (by simp), Nat.add_zero]
  bytes := by rw [hreads, hbytes, Nat.add_zero]

/-- The observation after a call is a new one, or what the call left of the one before it. -/
theorem Moves.spends (h : Moves label s t) (hafter : t.active = some after) :
    (s.active = none ∧ label.generation = none ∧
        ∃ start : RoomObservationStart, after = start.begun (UuidSource.newV4 s.uuids)) ∨
      ∃ active, s.active = some active ∧ Spends label active after := by
  cases h with
  | @begun _ _ start hnone hactive =>
      obtain rfl := Option.some.inj (hactive.symm.trans hafter)
      exact Or.inl ⟨hnone, rfl, start, rfl⟩
  | @discussed _ _ active hactive hnext =>
      obtain rfl := Option.some.inj (hnext.symm.trans hafter)
      exact Or.inr ⟨active, hactive, spends_nothing rfl rfl rfl rfl⟩
  | @staged _ _ _ active _ _ hactive _ _ _ hnext =>
      obtain rfl := Option.some.inj (hnext.symm.trans hafter)
      exact Or.inr ⟨active, hactive, spends_nothing rfl rfl rfl rfl⟩
  | finished _ _ _ _ hnext => cases hnext.symm.trans hafter
  | @closed _ _ active hactive hnext =>
      obtain ⟨rfl, -⟩ := remaining_eq_some.mp (hnext.symm.trans hafter)
      exact Or.inr ⟨active, hactive, spends_nothing rfl rfl rfl rfl⟩
  | @reservedTool _ _ _ _ active hactive _ _ _ hnext =>
      obtain rfl := Option.some.inj (hnext.symm.trans hafter)
      exact Or.inr ⟨active, hactive, spends_nothing rfl rfl rfl rfl⟩
  | @executing _ _ _ _ active hactive _ _ hnext =>
      obtain rfl := Option.some.inj (hnext.symm.trans hafter)
      exact Or.inr ⟨active, hactive, spends_nothing rfl rfl rfl rfl⟩
  | @releasedTool _ _ _ _ _ active hop hactive _ hnext =>
      obtain ⟨rfl, -⟩ := remaining_eq_some.mp (hnext.symm.trans hafter)
      refine Or.inr ⟨active, hactive, ?_⟩
      rcases hop with rfl | ⟨rfl, -⟩
      · exact spends_nothing rfl rfl rfl rfl
      · exact spends_nothing rfl rfl rfl rfl
  | @reservedRead _ _ attachmentId _ active hactive _ _ _ hnext =>
      obtain rfl := Option.some.inj (hnext.symm.trans hafter)
      refine Or.inr ⟨active, hactive, rfl, fun other => ?_, rfl⟩
      unfold ActiveObservation.attempts PortalLabel.attempted
      dsimp only
      rw [Table.lookup_insert_ite]
      by_cases hother : other = attachmentId
      · rw [if_pos hother, if_pos (by rw [hother]), hother, Option.getD_some]
      · rw [if_neg hother, if_neg fun heq => hother (Option.some.inj heq).symm, Nat.add_zero]
  | @releasedRead _ _ op outcome id guard size result active released _ _ _ hop hactive hended
      hnext =>
      obtain ⟨rfl, -⟩ := remaining_eq_some.mp (hnext.symm.trans hafter)
      refine Or.inr ⟨active, hactive, ?_⟩
      rcases hop with ⟨rfl, rfl, rfl⟩ | ⟨bytes, rfl, rfl, rfl⟩
      · obtain rfl := (Prod.mk.inj hended).2
        exact ⟨rfl, fun _ => rfl, rfl⟩
      · rcases endRead_cases hended with ⟨rfl, hfailed⟩ | ⟨_, reads, limit, hsize, rfl, -, -, rfl⟩
        · obtain ⟨message, rfl⟩ := hfailed bytes rfl
          exact ⟨rfl, fun _ => rfl, rfl⟩
        · obtain rfl := Option.some.inj hsize
          exact ⟨rfl, fun _ => rfl, rfl⟩
  | idle _ hquiet _ hactive =>
      exact Or.inr ⟨after, hactive.symm.trans hafter,
        spends_nothing rfl rfl hquiet.attempted hquiet.bytes⟩

/-- A call that attempts a read had an attempt left. -/
theorem Moves.attempted {attachmentId : String} (h : Moves label s t)
    (hattempted : label.attempted = some attachmentId) :
    ∃ active, s.active = some active ∧ active.attempts attachmentId < attemptsPerAttachment := by
  cases h with
  | reservedRead hactive _ _ hlimit =>
      obtain rfl := Option.some.inj hattempted
      exact ⟨_, hactive, hlimit⟩
  | releasedTool hop =>
      rcases hop with rfl | ⟨rfl, -⟩
      · cases hattempted
      · cases hattempted
  | releasedRead _ _ _ hop =>
      rcases hop with ⟨rfl, -, rfl⟩ | ⟨bytes, rfl, -, rfl⟩
      · cases hattempted
      · cases hattempted
  | idle _ hquiet => cases hquiet.attempted.symm.trans hattempted
  | begun => cases hattempted
  | discussed => cases hattempted
  | staged => cases hattempted
  | finished => cases hattempted
  | closed => cases hattempted
  | reservedTool => cases hattempted
  | executing => cases hattempted

omit [UuidSource] in
theorem Ends.generation {before after : String ⊕ String → Option OperationGuard}
    {operation other : String ⊕ String} {guard guard' : OperationGuard}
    (h : Ends before after operation guard) (hguard : before operation = some guard)
    (hafter : after other = some guard') :
    ∃ earlier, before other = some earlier ∧ earlier.turnGeneration = guard'.turnGeneration := by
  by_cases hother : other = operation
  · subst hother
    refine ⟨guard, hguard, ?_⟩
    rcases h with rfl | rfl
    · rw [Function.update_self] at hafter
      rw [← Option.some.inj hafter]
    · rw [Function.update_self] at hafter
      cases hafter
  · exact ⟨guard', (h.off hother).symm.trans hafter, rfl⟩

/-- A guard is one that was there, of the same turn, or the one that the call reserved. -/
theorem Moves.guards (h : Moves label s t) :
    (label.reserved = none ∧ ∀ operation guard, t.guard operation = some guard →
        ∃ earlier, s.guard operation = some earlier ∧
          earlier.turnGeneration = guard.turnGeneration) ∨
      ∃ operation generation, label.reserved = some operation ∧
        label.generation = some generation ∧ operation.elim id id = UuidSource.newV4 s.uuids ∧
        s.uuids < t.uuids ∧
        t.guard = Function.update s.guard operation (some ⟨generation, false⟩) := by
  have hsame : t.guard = s.guard → ∀ operation guard, t.guard operation = some guard →
      ∃ earlier, s.guard operation = some earlier ∧
        earlier.turnGeneration = guard.turnGeneration := by
    intro hguards operation guard hguard
    rw [hguards] at hguard
    exact ⟨guard, hguard, rfl⟩
  cases h with
  | begun _ _ _ _ hguards => exact Or.inl ⟨rfl, hsame hguards⟩
  | discussed _ _ _ _ hguards => exact Or.inl ⟨rfl, hsame hguards⟩
  | staged _ _ _ _ _ _ _ hguards => exact Or.inl ⟨rfl, hsame hguards⟩
  | finished _ _ _ _ _ _ _ hguards => exact Or.inl ⟨rfl, hsame hguards⟩
  | closed _ _ _ _ hguards => exact Or.inl ⟨rfl, hsame hguards⟩
  | executing _ _ _ _ _ _ hguards => exact Or.inl ⟨rfl, hsame hguards⟩
  | releasedTool _ _ hguard _ _ _ hguards =>
      exact Or.inl ⟨rfl, fun _ _ hafter => hguards.generation hguard hafter⟩
  | releasedRead _ hguard _ hop _ _ _ _ _ hguards =>
      refine Or.inl ⟨?_, fun _ _ hafter => hguards.generation hguard hafter⟩
      rcases hop with ⟨-, -, rfl⟩ | ⟨bytes, -, -, rfl⟩
      · rfl
      · rfl
  | idle _ hquiet _ _ _ _ hguards =>
      refine Or.inl ⟨hquiet.reserved, ?_⟩
      rcases hguards with hguards | ⟨operation, guard, hguard, -, hends⟩
      · exact hsame hguards
      · exact fun _ _ hafter => hends.generation hguard hafter
  | reservedTool _ _ _ _ _ huuids _ hid hguards =>
      exact Or.inr ⟨_, _, rfl, rfl, hid, by omega, hguards⟩
  | reservedRead _ _ _ _ _ huuids _ hid hguards =>
      exact Or.inr ⟨_, _, rfl, rfl, hid, by omega, hguards⟩

/-- What the labels of a run say of its turns. -/
structure Ledger (labels : List PortalLabel) (s : RoomPortal) : Prop where
  generations : ∀ label ∈ labels, ∀ generation, label.generation = some generation →
    Drawn s.uuids generation
  reserved : ∀ label ∈ labels, ∀ operation, label.reserved = some operation →
    Drawn s.uuids (operation.elim id id)
  owned : ∀ label ∈ labels, ∀ operation guard, label.reserved = some operation →
    s.guard operation = some guard → label.generation = some guard.turnGeneration
  attempts : ∀ active, s.active = some active → ∀ attachmentId,
    labels.countP (PortalLabel.attemptsIn active.turnGeneration attachmentId) =
      active.attempts attachmentId
  limit : ∀ generation attachmentId,
    labels.countP (PortalLabel.attemptsIn generation attachmentId) ≤ attemptsPerAttachment
  bytes : ∀ active, s.active = some active →
    (labels.map (PortalLabel.readBytesIn active.turnGeneration)).sum =
      active.attachmentReads.successfulBytes

theorem ledger_created : Ledger [] created where
  generations label hlabel := by cases hlabel
  reserved label hlabel := by cases hlabel
  owned label hlabel := by cases hlabel
  attempts active hactive := by cases hactive
  limit _ _ := Nat.zero_le _
  bytes active hactive := by cases hactive

omit [UuidSource] in
theorem attemptsIn_eq_true {generation attachmentId : String} :
    label.attemptsIn generation attachmentId = true ↔
      label.generation = some generation ∧ label.attempted = some attachmentId := by
  rw [PortalLabel.attemptsIn, Bool.and_eq_true, beq_iff_eq, beq_iff_eq]

/-- No call was made in a turn whose generation was not drawn yet. -/
theorem Ledger.fresh {generation : String} (h : Ledger labels s)
    (hfresh : ¬ Drawn s.uuids generation) :
    ∀ label ∈ labels, label.generation ≠ some generation :=
  fun label hlabel heq => hfresh (h.generations label hlabel generation heq)

theorem Ledger.step (hs : s.Sound) (hledger : Ledger labels s) (h : Moves label s t) :
    Ledger (labels ++ [label]) t := by
  have hgeneration := h.generation
  constructor
  case generations =>
    intro label' hlabel generation hat
    rcases List.mem_append.mp hlabel with hbefore | hlast
    · exact (hledger.generations label' hbefore generation hat).mono h.uuids
    · obtain rfl := List.mem_singleton.mp hlast
      obtain ⟨active, hactive, rfl⟩ := Option.map_eq_some_iff.mp (hgeneration.symm.trans hat)
      exact (hs.reads.generation active hactive).mono h.uuids
  case reserved =>
    intro label' hlabel operation hreserved
    rcases List.mem_append.mp hlabel with hbefore | hlast
    · exact (hledger.reserved label' hbefore operation hreserved).mono h.uuids
    · obtain rfl := List.mem_singleton.mp hlast
      rcases h.guards with ⟨hnone, -⟩ | ⟨operation', generation, hown, -, hid, hlater, -⟩
      · cases hnone.symm.trans hreserved
      · obtain rfl := Option.some.inj (hown.symm.trans hreserved)
        exact ⟨s.uuids, hlater, hid⟩
  case owned =>
    intro label' hlabel operation guard hreserved hguard
    rcases h.guards with ⟨hnone, hkept⟩ | ⟨operation', generation, hown, hat, hid, -, hguards⟩
    · obtain ⟨earlier, hearlier, hsame⟩ := hkept operation guard hguard
      rw [← hsame]
      rcases List.mem_append.mp hlabel with hbefore | hlast
      · exact hledger.owned label' hbefore operation earlier hreserved hearlier
      · obtain rfl := List.mem_singleton.mp hlast
        cases hnone.symm.trans hreserved
    · rcases List.mem_append.mp hlabel with hbefore | hlast
      · -- An id that was reserved before is not the one that the call drew.
        have hother : operation ≠ operation' := by
          rintro rfl
          have hdrawn := hledger.reserved label' hbefore operation hreserved
          rw [hid] at hdrawn
          exact not_drawn_newV4 _ hdrawn
        rw [hguards, Function.update_of_ne hother] at hguard
        exact hledger.owned label' hbefore operation guard hreserved hguard
      · obtain rfl := List.mem_singleton.mp hlast
        obtain rfl := Option.some.inj (hown.symm.trans hreserved)
        rw [hguards, Function.update_self] at hguard
        rw [← Option.some.inj hguard, hat]
  case attempts =>
    intro after hafter attachmentId
    rw [List.countP_append, List.countP_singleton]
    rcases h.spends hafter with ⟨-, hnone, start, rfl⟩ | ⟨active, hactive, hspends⟩
    · have hfresh := hledger.fresh (not_drawn_newV4 s.uuids)
      rw [List.countP_eq_zero.mpr, if_neg]
      · rfl
      · intro hhit
        cases hnone.symm.trans (attemptsIn_eq_true.mp hhit).1
      · intro label' hlabel hhit
        exact hfresh label' hlabel (attemptsIn_eq_true.mp hhit).1
    · rw [hspends.generation, hspends.attempts, hledger.attempts active hactive]
      rw [hactive, Option.map_some] at hgeneration
      congr 1
      exact if_congr (attemptsIn_eq_true.trans (and_iff_right hgeneration)) rfl rfl
  case limit =>
    intro generation attachmentId
    rw [List.countP_append, List.countP_singleton]
    by_cases hhit : label.attemptsIn generation attachmentId = true
    · obtain ⟨hat, hattempted⟩ := attemptsIn_eq_true.mp hhit
      obtain ⟨active, hactive, hlimit⟩ := h.attempted hattempted
      rw [hactive, Option.map_some, hat] at hgeneration
      obtain rfl := Option.some.inj hgeneration
      rw [if_pos hhit, hledger.attempts active hactive]
      exact hlimit
    · rw [if_neg hhit, Nat.add_zero]
      exact hledger.limit generation attachmentId
  case bytes =>
    intro after hafter
    rw [List.map_append, List.sum_append, List.map_singleton, List.sum_singleton]
    rcases h.spends hafter with ⟨-, hnone, start, rfl⟩ | ⟨active, hactive, hspends⟩
    · have hfresh := hledger.fresh (not_drawn_newV4 s.uuids)
      rw [List.sum_eq_zero_iff_forall_eq_nat.mpr, PortalLabel.readBytesIn, if_neg]
      · rfl
      · rw [hnone]
        simp
      · intro bytes hbytes
        obtain ⟨label', hlabel, rfl⟩ := List.mem_map.mp hbytes
        exact if_neg (hfresh label' hlabel)
    · rw [hspends.generation, hspends.bytes, hledger.bytes active hactive]
      rw [hactive, Option.map_some] at hgeneration
      rw [PortalLabel.readBytesIn, if_pos hgeneration]

theorem ledger_of_run [CaseFold] (h : Run Step created labels s) : Ledger labels s := by
  have hboth : s.Sound ∧ Ledger labels s := by
    refine h.invariant_labels (I := fun labels s => s.Sound ∧ Ledger labels s) ?_
      ⟨sound_created, ledger_created⟩
    rintro ls l r u ⟨hs, hledger⟩ hstep
    exact ⟨hs.step hstep, hledger.step hs (hstep.moves hs.reads)⟩
  exact hboth.2

/-! ## The end of a turn -/

omit [UuidSource] in
theorem remaining_eq_none :
    active.remaining = none ↔ active.closing = true ∧ active.pendingIds = ∅ := by
  rw [← Option.map_eq_none_iff (f := ActiveObservation.round),
    ActiveObservation.map_round_remaining, Round.remaining_eq_none]
  rfl

omit [UuidSource] in
theorem erase_eq_empty {operation : String ⊕ String} (hpending : active.pendingIds.Nonempty) :
    active.pendingIds.erase operation = ∅ ↔ active.pendingIds = {operation} := by
  rw [Finset.erase_eq_empty_iff]
  exact or_iff_right hpending.ne_empty

omit [UuidSource] in
/-- Closing an observation that is being closed changes nothing. -/
theorem close_pendingIds (h : active.Sound) (hclosing : active.closing = true) :
    active.close.pendingIds = active.pendingIds := by
  apply Finset.Subset.antisymm ActiveObservation.close_pendingIds_subset
  intro operation hpending
  rcases operation with id | id
  · have hmem := ActiveObservation.mem_pendingIds_inl.mp hpending
    obtain ⟨status, hstatus⟩ := Option.isSome_iff_exists.mp (AList.lookup_isSome.mpr hmem)
    obtain rfl := h.closed hclosing id status hstatus
    refine ActiveObservation.mem_pendingIds_inl.mpr (AList.lookup_isSome.mp ?_)
    exact Option.isSome_iff_exists.mpr ⟨_, Table.lookup_deleteWhere.mpr ⟨hstatus, rfl⟩⟩
  · have hread := ActiveObservation.mem_pendingIds_inr.mp hpending
    exact ActiveObservation.mem_pendingIds_inr.mpr hread

/-- An observation that is being closed goes away with its last operation, and with nothing else. -/
theorem Moves.removes (hs : s.Sound) (h : Moves label s t) (hactive : s.active = some active)
    (hclosing : active.closing = true) (hpending : active.pendingIds.Nonempty) :
    t.active = none ↔
      ∃ operation, label.ends = some operation ∧ active.pendingIds = {operation} := by
  have hstays : ∀ {kept : ActiveObservation}, t.active = some kept → label.ends = none →
      (t.active = none ↔
        ∃ operation, label.ends = some operation ∧ active.pendingIds = {operation}) := by
    intro kept hkept hends
    rw [hkept, hends]
    simp
  cases h with
  | begun hnone => cases hnone.symm.trans hactive
  | discussed _ hnext => exact hstays hnext rfl
  | staged hactive' hready =>
      obtain rfl := Option.some.inj (hactive.symm.trans hactive')
      cases hclosing.symm.trans hready.kept
  | finished hactive' hready =>
      obtain rfl := Option.some.inj (hactive.symm.trans hactive')
      cases hclosing.symm.trans hready.kept
  | closed hactive' hnext =>
      obtain rfl := Option.some.inj (hactive.symm.trans hactive')
      have hsame := close_pendingIds (hs.active active hactive) hclosing
      obtain ⟨kept, hkept⟩ := Option.ne_none_iff_exists'.mp fun hgone =>
        hpending.ne_empty (hsame.symm.trans (remaining_eq_none.mp hgone).2)
      exact hstays (hnext.trans hkept) rfl
  | reservedTool hactive' hkept =>
      obtain rfl := Option.some.inj (hactive.symm.trans hactive')
      cases hclosing.symm.trans hkept
  | executing _ _ _ hnext => exact hstays hnext rfl
  | @releasedTool _ _ op id successful _ hop hactive' _ hnext =>
      obtain rfl := Option.some.inj (hactive.symm.trans hactive')
      have hends : PortalLabel.ends ⟨op, some active.turnGeneration, .ok .done⟩ =
          some (.inl id) := by
        rcases hop with rfl | ⟨rfl, -⟩
        · rfl
        · rfl
      rw [hnext, hends, remaining_eq_none, ActiveObservation.pendingIds_releaseTool,
        erase_eq_empty hpending]
      simp [ActiveObservation.releaseTool, hclosing]
  | reservedRead hactive' hkept =>
      obtain rfl := Option.some.inj (hactive.symm.trans hactive')
      cases hclosing.symm.trans hkept
  | @releasedRead _ _ op outcome id guard size result _ released _ _ _ hop hactive' hended hnext =>
      obtain rfl := Option.some.inj (hactive.symm.trans hactive')
      have hends : PortalLabel.ends ⟨op, some active.turnGeneration, .ok outcome⟩ =
          some (.inr id) := by
        rcases hop with ⟨rfl, -, rfl⟩ | ⟨bytes, rfl, -, rfl⟩
        · rfl
        · rfl
      have hkept : released.closing = true := by
        rcases endRead_cases hended with ⟨rfl, -⟩ | ⟨bytes, reads, limit, -, -, -, -, rfl⟩
        · exact hclosing
        · exact hclosing
      rw [hnext, hends, remaining_eq_none, (endRead_round hended).2, erase_eq_empty hpending]
      simp [hkept]
  | idle _ _ hspent hsame =>
      rw [hsame, hactive]
      constructor
      · intro hgone
        cases hgone
      · rintro ⟨operation, hends, honly⟩
        obtain ⟨guard, hguard, hspent⟩ := hspent operation hends
        refine absurd ?_ (hs.held.not_pending hactive hguard hspent)
        rw [honly]
        exact Finset.mem_singleton_self operation

/-- A call on a guard of another turn leaves the observation as it is. -/
theorem Moves.late {operation : String ⊕ String} (hledger : Ledger labels s)
    (h : Moves label s t) {earlier : PortalLabel} (hearlier : earlier ∈ labels)
    (hreserved : earlier.reserved = some operation) (hoperation : label.operation = some operation)
    (hother : earlier.generation ≠ s.active.map ActiveObservation.turnGeneration) :
    t.active = s.active := by
  have hown : ∀ active resolved, s.active = some active →
      s.guard operation ≠ some ⟨active.turnGeneration, resolved⟩ := by
    intro active resolved hactive hguard
    apply hother
    rw [hledger.owned earlier hearlier operation _ hreserved hguard, hactive, Option.map_some]
  cases h with
  | begun => cases hoperation
  | discussed => cases hoperation
  | staged => cases hoperation
  | finished => cases hoperation
  | closed => cases hoperation
  | reservedTool => cases hoperation
  | reservedRead => cases hoperation
  | executing hactive hguard =>
      obtain rfl := Option.some.inj hoperation
      exact absurd hguard (hown _ _ hactive)
  | releasedTool hop hactive hguard =>
      rcases hop with rfl | ⟨rfl, -⟩
      · obtain rfl := Option.some.inj hoperation
        exact absurd hguard (hown _ _ hactive)
      · obtain rfl := Option.some.inj hoperation
        exact absurd hguard (hown _ _ hactive)
  | releasedRead _ hguard _ hop hactive =>
      rcases hop with ⟨rfl, -, -⟩ | ⟨bytes, rfl, -, -⟩
      · obtain rfl := Option.some.inj hoperation
        exact absurd hguard (hown _ _ hactive)
      · obtain rfl := Option.some.inj hoperation
        exact absurd hguard (hown _ _ hactive)
  | idle _ _ _ hsame => exact hsame

/-! ## One outcome per turn -/

theorem Moves.of_staged {outcome : StagedOutcome} (h : Moves label s t)
    (hstaged : label.staged = some outcome) :
    ∃ active, s.active = some active ∧ active.round.Ready ∧ active.outcome = none ∧
      t.active = some { active with outcome := some outcome } := by
  cases h with
  | staged hactive hready hnone _ hnext =>
      obtain rfl := Option.some.inj hstaged
      exact ⟨_, hactive, hready, hnone, hnext⟩
  | releasedRead _ _ _ hop =>
      rcases hop with ⟨-, -, rfl⟩ | ⟨bytes, -, -, rfl⟩
      · cases hstaged
      · cases hstaged
  | idle _ hquiet => cases hquiet.staged.symm.trans hstaged
  | begun => cases hstaged
  | discussed => cases hstaged
  | finished => cases hstaged
  | closed => cases hstaged
  | reservedTool => cases hstaged
  | executing => cases hstaged
  | releasedTool => cases hstaged
  | reservedRead => cases hstaged

theorem Moves.of_finished {result : ProviderTurnOutcome} (h : Moves label s t)
    (hfinished : label.finished = some result) :
    ∃ active outcome, s.active = some active ∧ active.round.Ready ∧
      active.outcome = some outcome ∧
      finishedOutcome active active.turnGeneration outcome = some result ∧ t.active = none := by
  cases h with
  | finished hactive hready hstaged hresult hnext =>
      obtain rfl := Option.some.inj hfinished
      exact ⟨_, _, hactive, hready, hstaged, hresult, hnext⟩
  | releasedRead _ _ _ hop =>
      rcases hop with ⟨-, -, rfl⟩ | ⟨bytes, -, -, rfl⟩
      · cases hfinished
      · cases hfinished
  | idle _ hquiet => cases hquiet.finished.symm.trans hfinished
  | begun => cases hfinished
  | discussed => cases hfinished
  | staged => cases hfinished
  | closed => cases hfinished
  | reservedTool => cases hfinished
  | executing => cases hfinished
  | releasedTool => cases hfinished
  | reservedRead => cases hfinished

omit [UuidSource] in
theorem receipt_of_ready (h : active.round.Ready) :
    active.receiptGeneration = some active.turnGeneration :=
  of_decide_eq_true h.read

omit [UuidSource] in
theorem quiet_of_ready (h : active.round.Ready) : active.hasPendingOperations = false :=
  ActiveObservation.pendingIds_eq_empty.mp h.quiet

/-- A finished turn answers the outcome that was staged. -/
theorem finishes [CaseFold] {outcome : StagedOutcome} (h : Run Step created labels s)
    (hactive : s.active = some active) (hrunning : s.running = true)
    (houtcome : active.outcome = some outcome) :
    Commits (finishObservation active.authority.turnId active.authority.inputUpToSeq) s
      outcome.turnOutcome { s with active := none } := by
  have hready := (sound_round h hactive).settled (by
    change active.outcome.isSome = true
    rw [houtcome]
    rfl)
  have hanswer := ((sound_created.run h).active active hactive).answerable outcome houtcome
  unfold finishObservation requireServer
  simp only [commits_bind, commits_read, commits_require, commits_orReject, commits_setActive,
    commits_pure, and_assoc, exists_and_left, exists_eq_left, exists_const]
  exact ⟨hrunning, active, hactive, rfl, rfl, hready.kept, quiet_of_ready hready, _,
    receipt_of_ready hready, rfl, outcome, houtcome, _, hanswer, rfl, trivial⟩

/-- What a call of a run may do, after the calls before it. -/
structure OneOutcome [CaseFold] (labels : List PortalLabel) (label : PortalLabel)
    (s t : RoomPortal) : Prop where
  once : ∀ generation, (labels ++ [label]).countP (PortalLabel.stagesIn generation) ≤ 1
  staged : ∀ outcome, label.staged = some outcome → ∃ active, s.active = some active ∧
    active.closing = false ∧ active.hasPendingOperations = false ∧ active.outcome = none ∧
    (∃ earlier ∈ labels, earlier.generation = some active.turnGeneration ∧
      earlier.readsDiscussion = true) ∧
    t.active = some { active with outcome := some outcome }
  quiet : ∀ active, t.active = some active → active.outcome.isSome = true →
    active.closing = false ∧ active.hasPendingOperations = false
  finished : ∀ result, label.finished = some result → ∃ active outcome, s.active = some active ∧
    active.closing = false ∧ active.hasPendingOperations = false ∧
    active.outcome = some outcome ∧ result = outcome.turnOutcome ∧
    (∃ earlier ∈ labels, earlier.generation = some active.turnGeneration ∧
      earlier.staged = some outcome) ∧
    t.active = none
  finishes : ∀ active outcome, s.active = some active → s.running = true →
    active.outcome = some outcome →
    Commits (finishObservation active.authority.turnId active.authority.inputUpToSeq) s
      outcome.turnOutcome { s with active := none }
  results : ∀ active, t.active = some active →
    active.successfulToolResults + active.toolReservations.size ≤ maxRoomToolResults
  attempts : ∀ generation attachmentId,
    (labels ++ [label]).countP (PortalLabel.attemptsIn generation attachmentId) ≤
      attemptsPerAttachment
  bytes : ∀ active, t.active = some active →
    ((labels ++ [label]).map (PortalLabel.readBytesIn active.turnGeneration)).sum =
        active.attachmentReads.successfulBytes ∧
      active.attachmentReads.successfulBytes ≤ readLimit active
  late : ∀ earlier ∈ labels, ∀ operation, earlier.reserved = some operation →
    label.operation = some operation →
    earlier.generation ≠ s.active.map ActiveObservation.turnGeneration → t.active = s.active
  fresh : ∀ active, s.active = none → t.active = some active →
    ∀ earlier ∈ labels, earlier.generation ≠ some active.turnGeneration
  removed : ∀ active, s.active = some active → active.closing = true →
    (t.active = none ↔
        ∃ operation, label.ends = some operation ∧ active.pendingIds = {operation}) ∧
      ∀ after, t.active = some after → after.turnGeneration = active.turnGeneration ∧
        after.closing = true ∧ after.hasPendingOperations = true

/-- Whatever the callers of the portal do, in whatever order, a turn has at most one outcome. -/
theorem one_outcome_per_turn [CaseFold] (hrun : Run Step created labels s)
    (hstep : Step label s t) : OneOutcome labels label s t := by
  have hs := sound_created.run hrun
  have ht := hs.step hstep
  have hmoves := hstep.moves hs.reads
  have hledger := ledger_of_run hrun
  have hnext := hrun.snoc hstep
  have hledger' := ledger_of_run hnext
  constructor
  case once => exact staged_once hnext
  case staged =>
    intro outcome hstaged
    obtain ⟨active, hactive, hready, hnone, hafter⟩ := hmoves.of_staged hstaged
    exact ⟨active, hactive, hready.kept, quiet_of_ready hready, hnone,
      was_read hrun hactive (receipt_of_ready hready), hafter⟩
  case quiet =>
    intro active hactive houtcome
    have hready := (sound_round hnext hactive).settled houtcome
    exact ⟨hready.kept, quiet_of_ready hready⟩
  case finished =>
    intro result hfinished
    obtain ⟨active, outcome, hactive, hready, houtcome, hresult, hgone⟩ :=
      hmoves.of_finished hfinished
    have hanswer := (hs.active active hactive).answerable outcome houtcome
    exact ⟨active, outcome, hactive, hready.kept, quiet_of_ready hready, houtcome,
      Option.some.inj (hresult.symm.trans hanswer), was_staged hrun hactive houtcome, hgone⟩
  case finishes =>
    intro active outcome hactive hrunning houtcome
    exact finishes hrun hactive hrunning houtcome
  case results => exact fun active hactive => (ht.active active hactive).results
  case attempts => exact hledger'.limit
  case bytes => exact fun active hactive =>
    ⟨hledger'.bytes active hactive, (ht.active active hactive).bytes⟩
  case late => exact fun earlier hearlier operation hreserved hoperation hother =>
    hmoves.late hledger hearlier hreserved hoperation hother
  case fresh =>
    intro active hnone hactive
    rcases hmoves.spends hactive with ⟨-, -, start, rfl⟩ | ⟨before, hbefore, -⟩
    · exact hledger.fresh (not_drawn_newV4 s.uuids)
    · cases hnone.symm.trans hbefore
  case removed =>
    intro active hactive hclosing
    refine ⟨hmoves.removes hs hactive hclosing ((sound_round hrun hactive).waiting hclosing), ?_⟩
    intro after hafter
    obtain ⟨move, -, -, hround⟩ := hmoves.round
    rcases hround.closing (map_round_of_some hactive) hclosing with
      ⟨round, hkept, hsame, hstill⟩ | ⟨hgone, -⟩
    · obtain rfl := Option.some.inj ((map_round_of_some hafter).symm.trans hkept)
      refine ⟨hsame, hstill, ?_⟩
      rw [← Bool.not_eq_false, ← ActiveObservation.pendingIds_eq_empty]
      exact ((sound_round hnext hafter).waiting hstill).ne_empty
    · cases (map_round_of_some hafter).symm.trans hgone

end Runs

/-! ## A sample turn -/

namespace PortalSample

scoped instance : UuidSource where
  newV4 := unaryUuid
  newV4_injective := unaryUuid_injective
  newV4_ne_empty := unaryUuid_ne_empty
  isUuid _ := true

scoped instance : CaseFold where
  defaultCaseFoldStr := id

/-- A turn without attachments, which may hand the floor to one agent. -/
def start : RoomObservationStart :=
  { sessionId := "agent-1"
    turnId := "turn-1"
    inputUpToSeq := 7
    durableTurnGeneration := 3
    executionId := "execution"
    roomView := "Ann: hello"
    attachmentIds := []
    attachmentIngress := none
    allowedAgentIds := ["agent-2"]
    tabletopTools := false
    toolIngress := some ⟨0⟩ }

/-- The step that an operation takes. -/
def take (op : PortalOp) (s : RoomPortal) : PortalLabel × RoomPortal :=
  match (perform op).run s with
  | .ok (outcome, t) => (⟨op, s.active.map ActiveObservation.turnGeneration, .ok outcome⟩, t)
  | .error error => (⟨op, s.active.map ActiveObservation.turnGeneration, .error error⟩, s)

theorem step_take (op : PortalOp) (s : RoomPortal) : Step (take op s).1 s (take op s).2 := by
  unfold take Step
  split
  · rename_i hrun
    exact ⟨rfl, hrun⟩
  · rename_i hrun
    exact ⟨rfl, hrun, rfl⟩

def takeAll (s : RoomPortal) : List PortalOp → List PortalLabel × RoomPortal
  | [] => ([], s)
  | op :: ops => ((take op s).1 :: (takeAll (take op s).2 ops).1, (takeAll (take op s).2 ops).2)

theorem run_takeAll (ops : List PortalOp) (s : RoomPortal) :
    Run Step s (takeAll s ops).1 (takeAll s ops).2 := by
  induction ops generalizing s with
  | nil => exact Run.nil s
  | cons op ops ih => exact (Run.single (step_take op s)).append (ih _)

/-- The agent reads the discussion, calls a tool, and publishes when the tool has answered. -/
def turn : List PortalLabel × RoomPortal :=
  takeAll created
    [.begin start, .readDiscussion, .reserveTool false, .terminal (.declineToSpeak "duplicate"),
      .beginExecution "uu", .resolveTool "uu" true, .terminal (.publishMessage " Hi. " "agent-2"),
      .dropTool "uu"]

def ending : PortalLabel × RoomPortal :=
  take (.finish "turn-1" 7) turn.2

end PortalSample

open PortalSample in
/-- A turn that called a tool ends with the message that it published. -/
theorem published_message_finishes_turn :
    ending.1.finished = some (.message "Hi." "agent-2") ∧
      OneOutcome turn.1 ending.1 turn.2 ending.2 := by
  constructor
  · decide +kernel
  · exact one_outcome_per_turn (run_takeAll _ created) (step_take _ turn.2)

end AgentsAssemble.Portal
