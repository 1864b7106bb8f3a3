import AgentsAssemble.Paging.Complete
import AgentsAssemble.Streaming.Publication

/-!
# The snapshot and the catch-up of a subscription

A snapshot ends at the newest event of the log.  It starts behind the cursor that it resumes, or
says that it does not.  The catch-up is what was added to the log since.
-/

namespace AgentsAssemble.Streaming

open Foundation Paging

/-! ## Catching up -/

inductive CatchUpError
  | invalidCursor (durableLastSeq : Nat)
  | catchUpExceeded (highWater : Nat) (limit : Int)
  | sequenceGap (expected found : Nat)
  deriving DecidableEq, Repr

structure RoomCatchUp where
  highWater : Nat
  events : List RoomEvent

def roomSubscriptionCatchUp (log : RoomLog) (afterSeq maxEvents : Int) :
    Except CatchUpError RoomCatchUp :=
  if afterSeq < 0 then .error (.invalidCursor 0)
  else
    let maxEvents := max maxEvents 1
    let highWater := log.lastSeq
    if (highWater : Int) < afterSeq then .error (.invalidCursor highWater)
    else
      let rows := ((log.rows.filter fun row => afterSeq < (row.seq : Int)).filter fun row =>
        row.seq ≤ highWater).take (maxEvents + 1).toNat
      if maxEvents < rows.length then .error (.catchUpExceeded highWater maxEvents)
      else do
        let events ← countUp CatchUpError.sequenceGap log.roomId rows (afterSeq.toNat + 1)
        if afterSeq.toNat + rows.length + 1 ≠ highWater + 1 then
          .error (.sequenceGap (afterSeq.toNat + rows.length + 1) highWater)
        else pure { highWater, events }

section CatchUp

variable {log : RoomLog} {cursor limit : Nat}

/-- Every event after the cursor is caught up with, unless there are too many. -/
theorem roomSubscriptionCatchUp_eq (hcursor : cursor ≤ log.events.length) (hlimit : 1 ≤ limit) :
    roomSubscriptionCatchUp log cursor limit =
      if limit < log.events.length - cursor then
        .error (.catchUpExceeded log.events.length limit)
      else .ok { highWater := log.events.length, events := log.events.drop cursor } := by
  have hmax : max (limit : Int) 1 = limit := max_eq_left (by omega)
  have hlength : log.rows.length = log.events.length := RoomLog.length_events.symm
  have hbelow : ((log.rows.drop cursor).filter fun row => row.seq ≤ log.events.length) =
      log.rows.drop cursor := by
    refine List.filter_eq_self.mpr fun row hrow => decide_eq_true ?_
    obtain ⟨i, hi, rfl⟩ := List.getElem_of_mem (List.mem_of_mem_drop hrow)
    rw [seq_getElem log.numbered hi]
    omega
  have htoNat : ((limit : Int) + 1).toNat = limit + 1 := by omega
  unfold roomSubscriptionCatchUp
  dsimp only
  rw [if_neg (by omega), hmax, RoomLog.lastSeq_eq, if_neg (by omega), filter_after log.numbered,
    Nat.sub_zero, hbelow, htoNat, Int.toNat_natCast, countUp_window]
  rw [List.length_take, List.length_drop, hlength]
  by_cases hmany : limit < log.events.length - cursor
  · rw [if_pos (by omega), if_pos hmany]
  · rw [if_neg (by omega), if_neg hmany]
    refine Result.bind_eq_ok.mpr ⟨_, rfl, ?_⟩
    rw [if_neg (by omega), List.take_of_length_le]
    · rfl
    · rw [List.length_drop]
      omega

end CatchUp

/-! ## Reading a snapshot -/

/-- How many events of the log are before those of a snapshot. -/
def snapshotStart (log : RoomLog) (resumeFromSeq limit : Nat) : Nat :=
  if resumeFromSeq = 0 ∨ limit < log.events.length - resumeFromSeq then log.events.length - limit
  else resumeFromSeq

section Reading

variable {log : RoomLog} {resumeFromSeq limit : Nat}

theorem getLast_drop_events {low : Nat} (h : low < log.events.length) :
    (log.events.drop low).getLast?.map RoomEvent.seq = some log.events.length := by
  have hlast : log.events.length - 1 < log.events.length := by omega
  rw [List.getLast?_drop, if_neg (by omega), List.getLast?_eq_getElem?,
    List.getElem?_eq_getElem hlast, Option.map_some, RoomLog.seq_event hlast]
  congr 1
  omega

theorem head_drop_events {low : Nat} (h : low < log.events.length) :
    (log.events.drop low).head?.map RoomEvent.seq = some (low + 1) := by
  rw [List.head?_drop, List.getElem?_eq_getElem h, Option.map_some, RoomLog.seq_event h]

/-- A cursor within the log is answered with an end of the log. -/
theorem snapshotInner_ok (hlimit : 1 ≤ limit) (hresume : resumeFromSeq ≤ log.events.length)
    {data : RoomSnapshotData} (h : snapshotInner log resumeFromSeq limit = .ok data) :
    data.events = log.events.drop (snapshotStart log resumeFromSeq limit) ∧
      data.lastSeq = log.events.length ∧
      data.oldestSeq = (data.events.head?.map RoomEvent.seq).getD 0 ∧
      data.resumeGap = decide (0 < resumeFromSeq ∧ limit < log.events.length - resumeFromSeq) ∧
      data.snapshotMode = if resumeFromSeq = 0 then .initial
        else if data.resumeGap then .gap else .resume := by
  have hmax : max (limit : Int) 1 = limit := max_eq_left (by omega)
  have hlength : log.rows.length = log.events.length := RoomLog.length_events.symm
  have hgap : decide (0 < (resumeFromSeq : Int) ∧
      (limit : Int) < (log.events.length : Int) - resumeFromSeq) =
        decide (0 < resumeFromSeq ∧ limit < log.events.length - resumeFromSeq) := by
    rw [decide_eq_decide]
    omega
  have hzero : ((resumeFromSeq : Int) = 0) = (resumeFromSeq = 0) := by
    rw [eq_iff_iff]
    omega
  unfold snapshotInner at h
  dsimp only at h
  rw [if_neg (by omega), hmax, RoomLog.lastSeq_eq, if_neg (by omega), hgap, Int.toNat_natCast,
    Int.toNat_natCast, List.take_reverse, List.reverse_reverse, filter_after log.numbered,
    Nat.sub_zero, hlength] at h
  simp only [hzero] at h
  have hrows : (if resumeFromSeq = 0 ∨ decide (0 < resumeFromSeq ∧
      limit < log.events.length - resumeFromSeq) = true then
        log.rows.drop (log.events.length - limit) else log.rows.drop resumeFromSeq) =
      log.rows.drop (snapshotStart log resumeFromSeq limit) := by
    rw [snapshotStart]
    by_cases hold : resumeFromSeq = 0 ∨ limit < log.events.length - resumeFromSeq
    · rw [if_pos hold, if_pos]
      rw [decide_eq_true_eq]
      omega
    · rw [if_neg hold, if_neg]
      rw [decide_eq_true_eq]
      omega
  rw [hrows] at h
  have hevents : (log.rows.drop (snapshotStart log resumeFromSeq limit)).map StoredEvent.event =
      log.events.drop (snapshotStart log resumeFromSeq limit) := List.map_drop
  rw [hevents] at h
  obtain rfl := Except.ok.inj h
  refine ⟨rfl, ?_, rfl, rfl, rfl⟩
  dsimp only
  by_cases hsome : snapshotStart log resumeFromSeq limit < log.events.length
  · rw [getLast_drop_events hsome, Option.getD_some]
  · rw [List.drop_eq_nil_of_le (Nat.le_of_not_lt hsome)]
    show resumeFromSeq = log.events.length
    rw [snapshotStart] at hsome
    split at hsome <;> omega

/-- A cursor within the log is not refused. -/
theorem snapshotInner_isOk (hresume : resumeFromSeq ≤ log.events.length) :
    ∃ data, snapshotInner log resumeFromSeq limit = .ok data := by
  unfold snapshotInner
  dsimp only
  rw [if_neg (by omega), RoomLog.lastSeq_eq, if_neg (by omega)]
  exact ⟨_, rfl⟩

theorem snapshotStart_le (limit : Nat) (hresume : resumeFromSeq ≤ log.events.length) :
    snapshotStart log resumeFromSeq limit ≤ log.events.length := by
  rw [snapshotStart]
  split <;> omega

end Reading

/-! ## What a snapshot says of itself -/

/-- The snapshot is a run of events up to its cursor, and says whether it starts behind the cursor
that was resumed. -/
structure Continues (resumeFromSeq : Nat) (snapshot : RoomSnapshot) : Prop where
  numbered : snapshot.events.map RoomEvent.seq =
    List.range' (snapshot.lastSeq + 1 - snapshot.events.length) snapshot.events.length
  within : snapshot.events.length ≤ snapshot.lastSeq
  forward : resumeFromSeq ≤ snapshot.lastSeq
  initial : snapshot.snapshotMode = .initial ↔ resumeFromSeq = 0
  resume : snapshot.snapshotMode = .resume →
    snapshot.lastSeq = resumeFromSeq + snapshot.events.length
  gap : snapshot.resumeGap = decide (snapshot.snapshotMode = .gap)
  browser : snapshot.snapshotMode ≠ .bridge
  oldest : snapshot.events ≠ [] →
    snapshot.oldestSeq = snapshot.lastSeq + 1 - snapshot.events.length
  empty : snapshot.events = [] → snapshot.oldestSeq = 0 →
    snapshot.snapshotMode ≠ .gap ∧ snapshot.lastSeq = resumeFromSeq

/-- What a principal is shown of an event.  It hides what is in the event, but not its number. -/
structure Projection where
  view : RoomEvent → RoomEvent
  seq_view : ∀ event, (view event).seq = event.seq

namespace Projection

variable (projection : Projection)

theorem map_seq (events : List RoomEvent) :
    (events.map projection.view).map RoomEvent.seq = events.map RoomEvent.seq := by
  rw [List.map_map]
  exact List.map_congr_left fun event _ => projection.seq_view event

end Projection

/-- What is shown of a snapshot's events. -/
def project (projection : Projection) (data : RoomSnapshotData) : RoomSnapshotData :=
  { data with events := data.events.map projection.view }

section Saying

variable {log : RoomLog} {resumeFromSeq : Nat} {snapshot sent : RoomSnapshot}

theorem Continues.head (h : Continues resumeFromSeq snapshot) :
    snapshot.events.head?.map RoomEvent.seq =
      if snapshot.events = [] then none
      else some (snapshot.lastSeq + 1 - snapshot.events.length) := by
  rw [← List.head?_map, h.numbered]
  cases snapshot.events with
  | nil => rfl
  | cons event events => rw [List.length_cons, List.range'_succ, if_neg (List.cons_ne_nil _ _)]; rfl

/-- A halved snapshot still ends at its cursor, and says that it does not start behind the one that
was resumed. -/
theorem Continues.shrink (h : Continues resumeFromSeq snapshot) (hevents : snapshot.events ≠ []) :
    Continues resumeFromSeq snapshot.shrink := by
  have hpos := List.length_pos_of_ne_nil hevents
  have hwithin := h.within
  have hlength := length_shrink snapshot
  have hremove : 1 ≤ max (snapshot.events.length / 2) 1 ∧
      max (snapshot.events.length / 2) 1 ≤ snapshot.events.length := by omega
  have hnumbered : snapshot.shrink.events.map RoomEvent.seq =
      List.range' (snapshot.lastSeq + 1 - snapshot.shrink.events.length)
        snapshot.shrink.events.length := by
    rw [hlength]
    show (snapshot.events.drop (max (snapshot.events.length / 2) 1)).map RoomEvent.seq = _
    rw [List.map_drop, h.numbered, List.drop_range']
    congr 1
    omega
  have holdest : snapshot.shrink.oldestSeq =
      (snapshot.shrink.events.head?.map RoomEvent.seq).getD snapshot.lastSeq := rfl
  refine
    { numbered := hnumbered
      within := by rw [hlength]; show _ ≤ snapshot.lastSeq; omega
      forward := h.forward
      initial := ?_
      resume := ?_
      gap := ?_
      browser := ?_
      oldest := fun hsome => ?_
      empty := fun hnone hzero => ?_ }
  · show (if snapshot.snapshotMode = .initial then SnapshotMode.initial else .gap) = _ ↔ _
    rw [← h.initial]
    split <;> simp_all
  · show (if snapshot.snapshotMode = .initial then SnapshotMode.initial else .gap) = _ → _
    split <;> simp
  · show (if snapshot.snapshotMode = .initial then snapshot.resumeGap else true) =
      decide ((if snapshot.snapshotMode = .initial then SnapshotMode.initial else .gap) = .gap)
    rw [h.gap]
    split <;> simp_all
  · show (if snapshot.snapshotMode = .initial then SnapshotMode.initial else .gap) ≠ _
    split <;> simp
  · rw [holdest, ← List.head?_map, hnumbered]
    obtain ⟨count, hcount⟩ := Nat.exists_eq_succ_of_ne_zero
      (List.length_pos_of_ne_nil hsome).ne'
    rw [hcount, List.range'_succ]
    rfl
  · rw [holdest, hnone] at hzero
    have hlast : snapshot.lastSeq = 0 := hzero
    omega

/-- What is sent still ends at its cursor. -/
theorem Continues.fit (h : Continues resumeFromSeq snapshot)
    (hfit : fitSnapshotFrame snapshot = some sent) :
    Continues resumeFromSeq sent ∧ sent.lastSeq = snapshot.lastSeq := by
  fun_induction fitSnapshotFrame snapshot with
  | case1 snapshot =>
      obtain rfl := Option.some.inj hfit
      exact ⟨h, rfl⟩
  | case2 => cases hfit
  | case3 snapshot _ hevents ih => exact ih (h.shrink hevents) hfit

/-- The snapshot of a cursor within the log ends at the newest event. -/
theorem continues_prepared {limit : Nat} {data : RoomSnapshotData}
    (metadata : SnapshotMetadata) (projection : Projection) (hlimit : 1 ≤ limit)
    (hresume : resumeFromSeq ≤ log.events.length)
    (h : snapshotInner log resumeFromSeq limit = .ok data) :
    Continues resumeFromSeq (prepareSnapshot metadata (project projection data)) ∧
      data.lastSeq = log.events.length := by
  obtain ⟨hevents, hlast, holdest, hgap, hmode⟩ := snapshotInner_ok hlimit hresume h
  have hlow := snapshotStart_le limit hresume
  have hlength : data.events.length =
      log.events.length - snapshotStart log resumeFromSeq limit := by
    rw [hevents, List.length_drop]
  have hcount : (data.events.map projection.view).length = data.events.length :=
    List.length_map _
  have hnumbered : data.events.map RoomEvent.seq =
      List.range' (log.events.length + 1 - data.events.length) data.events.length := by
    have hwindow := seq_events_window log (snapshotStart log resumeFromSeq limit)
      log.events.length
    rw [List.take_of_length_le (by rw [List.length_drop]; omega)] at hwindow
    rw [← hevents] at hwindow
    rw [hwindow]
    congr 1
    omega
  have hstart : snapshotStart log resumeFromSeq limit =
      if resumeFromSeq = 0 ∨ limit < log.events.length - resumeFromSeq then
        log.events.length - limit
      else resumeFromSeq := rfl
  refine ⟨?_, hlast⟩
  refine
    { numbered := ?_
      within := ?_
      forward := by show _ ≤ data.lastSeq; omega
      initial := ?_
      resume := fun hresumes => ?_
      gap := ?_
      browser := ?_
      oldest := fun hsome => ?_
      empty := fun hnone hzero => ?_ }
  · show (data.events.map projection.view).map RoomEvent.seq = _
    rw [projection.map_seq, hnumbered]
    show _ = List.range' (data.lastSeq + 1 - (data.events.map projection.view).length)
      (data.events.map projection.view).length
    rw [hcount, hlast]
  · show (data.events.map projection.view).length ≤ data.lastSeq
    omega
  · show data.snapshotMode = _ ↔ _
    rw [hmode]
    split
    · simp_all
    · split <;> simp_all
  · show data.lastSeq = resumeFromSeq + (data.events.map projection.view).length
    have hresumes : data.snapshotMode = .resume := hresumes
    rw [hmode, hgap] at hresumes
    split at hresumes
    · cases hresumes
    · split at hresumes
      · cases hresumes
      · rename_i hwide
        rw [decide_eq_true_eq] at hwide
        rw [if_neg (by omega)] at hstart
        omega
  · show data.resumeGap = decide (data.snapshotMode = .gap)
    rw [hmode]
    split
    · simp_all
    · split <;> simp_all
  · show data.snapshotMode ≠ _
    rw [hmode]
    split
    · simp
    · split <;> simp
  · show data.oldestSeq = data.lastSeq + 1 - (data.events.map projection.view).length
    have hpos : 0 < data.events.length := by
      rw [← hcount]
      exact List.length_pos_of_ne_nil hsome
    rw [holdest, ← List.head?_map, hnumbered]
    obtain ⟨count, hsucc⟩ := Nat.exists_eq_succ_of_ne_zero hpos.ne'
    rw [hcount, hlast, hsucc, List.range'_succ]
    rfl
  · have hnone : data.events.map projection.view = [] := hnone
    have hzeroLength : data.events.length = 0 := by
      rw [← hcount, hnone]
      rfl
    constructor
    · show data.snapshotMode ≠ .gap
      rw [hmode, hgap]
      split
      · simp
      · split
        · rename_i hwide
          rw [decide_eq_true_eq] at hwide
          rw [if_pos (Or.inr hwide.2)] at hstart
          omega
        · simp
    · show data.lastSeq = resumeFromSeq
      split at hstart <;> omega

end Saying

end AgentsAssemble.Streaming
