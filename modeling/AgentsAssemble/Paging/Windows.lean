import AgentsAssemble.Foundation.Result
import AgentsAssemble.Paging.Frames

/-!
# Windows of the log

A history page is a window of the log that ends before its cursor, and so is what is left of the
page when it has to give up its oldest events.
-/

namespace AgentsAssemble.Paging

open Foundation Domain

/-! ## Numbered rows -/

section Rows

variable {rows : List StoredEvent} {start : Nat}

theorem seq_getElem (h : rows.map StoredEvent.seq = List.range' (start + 1) rows.length) {i : Nat}
    (hi : i < rows.length) : rows[i].seq = start + 1 + i := by
  have hget := congrArg (fun seqs => seqs[i]?) h
  rw [List.getElem?_map, List.getElem?_eq_getElem hi, List.getElem?_range' hi] at hget
  simpa using hget

theorem filter_before (h : rows.map StoredEvent.seq = List.range' (start + 1) rows.length)
    (upper : Nat) :
    (rows.filter fun row => row.seq < upper) = rows.take (upper - 1 - start) := by
  induction rows generalizing start with
  | nil => simp
  | cons row rows ih =>
      rw [List.map_cons, List.length_cons, List.range'_succ] at h
      obtain ⟨hseq, hrest⟩ := List.cons.inj h
      rw [List.filter_cons, hseq, ih hrest]
      by_cases hbefore : start + 1 < upper
      · have hcount : upper - 1 - start = (upper - 1 - (start + 1)) + 1 := by omega
        rw [if_pos (decide_eq_true hbefore), hcount, List.take_succ_cons]
      · have hnone : upper - 1 - start = 0 := by omega
        have hrest : upper - 1 - (start + 1) = 0 := by omega
        rw [if_neg (by simpa using hbefore), hnone, hrest, List.take_zero, List.take_zero]

theorem filter_after (h : rows.map StoredEvent.seq = List.range' (start + 1) rows.length)
    (cursor : Nat) :
    (rows.filter fun row => (cursor : Int) < (row.seq : Int)) = rows.drop (cursor - start) := by
  induction rows generalizing start with
  | nil => simp
  | cons row rows ih =>
      rw [List.map_cons, List.length_cons, List.range'_succ] at h
      obtain ⟨hseq, hrest⟩ := List.cons.inj h
      rw [List.filter_cons, hseq, ih hrest]
      by_cases hafter : cursor < start + 1
      · have hall : cursor - start = 0 := by omega
        have hrest : cursor - (start + 1) = 0 := by omega
        rw [if_pos (decide_eq_true (Int.ofNat_lt.mpr hafter)), hall, hrest, List.drop_zero,
          List.drop_zero]
      · have hcount : cursor - start = (cursor - (start + 1)) + 1 := by omega
        rw [if_neg, hcount, List.drop_succ_cons]
        rw [decide_eq_true_eq, Int.ofNat_lt]
        exact hafter

/-- Rows that count down to the expected number are read. -/
theorem countDown_eq_ok {roomId : String} {expected : Nat}
    (hseq : ∀ i (hi : i < rows.length), rows[i].seq + i = expected)
    (hstored : ∀ row ∈ rows, row.event.seq = row.seq ∧ row.event.roomId = roomId) :
    countDown roomId rows expected = .ok (rows.map StoredEvent.event) := by
  induction rows generalizing expected with
  | nil => rfl
  | cons row rows ih =>
      have hfirst : row.seq = expected := hseq 0 (Nat.succ_pos _)
      obtain ⟨heventSeq, hroom⟩ := hstored row List.mem_cons_self
      have hrest : countDown roomId rows (expected - 1) = .ok (rows.map StoredEvent.event) := by
        refine ih (fun i hi => ?_) fun row hrow => hstored row (List.mem_cons_of_mem _ hrow)
        have hnext := hseq (i + 1) (Nat.succ_lt_succ hi)
        rw [List.getElem_cons_succ] at hnext
        omega
      rw [countDown, if_neg, hrest]
      · rfl
      · rintro (hwrong | hwrong | hwrong)
        · exact hwrong hfirst
        · exact hwrong heventSeq
        · exact hwrong hroom

end Rows

namespace RoomLog

variable {log : RoomLog}

theorem length_events : log.events.length = log.rows.length := by
  rw [events, List.length_map]

theorem lastSeq_eq : log.lastSeq = log.events.length := by
  rw [length_events, lastSeq, List.getLast?_eq_getElem?]
  cases hrows : log.rows.length with
  | zero =>
      rw [List.getElem?_eq_none (by omega)]
      rfl
  | succ n =>
      have hlast : n < log.rows.length := by omega
      rw [Nat.add_sub_cancel, List.getElem?_eq_getElem hlast, Option.map_some, Option.getD_some,
        seq_getElem log.numbered hlast]
      omega

/-- The events are numbered from one. -/
theorem seq_event {i : Nat} (hi : i < log.events.length) : (log.events[i]).seq = i + 1 := by
  have hrow : i < log.rows.length := length_events ▸ hi
  have hevent : log.events[i] = log.rows[i].event := by
    simp [events]
  rw [hevent, (log.stored _ (List.getElem_mem hrow)).1,
    seq_getElem log.numbered hrow]
  omega

/-- The events after the first `low`, up to the `high`th. -/
def window (log : RoomLog) (low high : Nat) : List RoomEvent :=
  (log.events.take high).drop low

theorem length_window {low high : Nat} (h : high ≤ log.events.length) :
    (log.window low high).length = high - low := by
  rw [window, List.length_drop, List.length_take, Nat.min_eq_left h]

theorem head_window {low high : Nat} (hlow : low < high) (hhigh : high ≤ log.events.length) :
    (log.window low high).head?.map RoomEvent.seq = some (low + 1) := by
  have hlt : low < log.events.length := by omega
  rw [window, List.head?_drop, List.getElem?_take_of_lt hlow, List.getElem?_eq_getElem hlt,
    Option.map_some, seq_event hlt]

theorem drop_window (low high dropped : Nat) :
    (log.window low high).drop dropped = log.window (low + dropped) high := by
  rw [window, window, List.drop_drop]

theorem take_append_window {low high : Nat} (h : low ≤ high) :
    log.events.take low ++ log.window low high = log.events.take high := by
  rw [window]
  calc log.events.take low ++ (log.events.take high).drop low
      = (log.events.take high).take low ++ (log.events.take high).drop low := by
        rw [List.take_take, Nat.min_eq_left h]
    _ = log.events.take high := List.take_append_drop _ _

end RoomLog

/-! ## Pages -/

/-- The page of a window. -/
def pageOf (log : RoomLog) (low high : Nat) : RoomHistoryPage :=
  { events := log.window low high
    oldestSeq := if low < high then low + 1 else 0
    lastSeq := log.events.length
    hasMoreBefore := decide (0 < low) }

section Pages

variable {log : RoomLog} {low high : Nat}

/-- A page reads a window that ends before its cursor. -/
theorem roomHistoryPage_eq {limit : Int} (hlimit : 1 ≤ limit ∧ limit ≤ roomHistoryMaxEvents)
    (hhigh : high ≤ log.events.length) :
    roomHistoryPage log ⟨((high + 1 : Nat) : Int), limit⟩ =
      .ok (pageOf log (high - limit.toNat) high) := by
  obtain ⟨count, rfl⟩ := Int.eq_ofNat_of_zero_le (by omega : 0 ≤ limit)
  have hrowsLength : high ≤ log.rows.length := RoomLog.length_events ▸ hhigh
  have hbefore : (log.rows.filter fun row => row.seq < high + 1) = log.rows.take high :=
    filter_before log.numbered (high + 1)
  have hread : ((log.rows.take high).reverse.take (count + 1)).take count =
      ((log.rows.take high).drop (high - count)).reverse := by
    rw [List.take_take, Nat.min_eq_left (Nat.le_succ count), List.take_reverse, List.length_take,
      Nat.min_eq_left hrowsLength]
  have hcount : countDown log.roomId ((log.rows.take high).drop (high - count)).reverse high =
      .ok (((log.rows.take high).drop (high - count)).reverse.map StoredEvent.event) := by
    apply countDown_eq_ok
    · intro i hi
      rw [List.length_reverse, List.length_drop, List.length_take,
        Nat.min_eq_left hrowsLength] at hi
      rw [List.getElem_reverse, List.getElem_drop, List.getElem_take,
        seq_getElem log.numbered, List.length_drop, List.length_take,
        Nat.min_eq_left hrowsLength]
      omega
    · intro row hrow
      exact log.stored row (List.mem_of_mem_take (List.mem_of_mem_drop (List.mem_reverse.mp hrow)))
  have hevents : (((log.rows.take high).drop (high - count)).reverse.map
      StoredEvent.event).reverse = log.window (high - count) high := by
    rw [List.map_reverse, List.reverse_reverse, List.map_drop, List.map_take]
    rfl
  have hmore : ((log.rows.take high).reverse.take (count + 1)).length = min (count + 1) high := by
    rw [List.length_take, List.length_reverse, List.length_take, Nat.min_eq_left hrowsLength]
  unfold roomHistoryPage
  dsimp only
  rw [if_neg (by omega), if_neg (by omega), Int.toNat_natCast, Int.toNat_natCast,
    RoomLog.newestBefore,
    hbefore, hread, RoomLog.lastSeq_eq, Nat.add_sub_cancel, Nat.min_eq_right hhigh, hcount]
  refine Result.bind_eq_ok.mpr ⟨_, rfl, Result.pure_eq_ok.mpr ?_⟩
  have holdest : ((log.window (high - count) high).head?.map RoomEvent.seq).getD 0 =
      if high - count < high then high - count + 1 else 0 := by
    split
    · rename_i hsome
      rw [RoomLog.head_window hsome hhigh, Option.getD_some]
    · rename_i hnone
      have hempty : high = 0 := by omega
      rw [hempty, RoomLog.window, List.take_zero, List.drop_nil]
      rfl
  have hmore' : decide (count < min (count + 1) high) = decide (0 < high - count) := by
    rw [decide_eq_decide]
    omega
  rw [hevents, hmore, holdest, hmore', pageOf]

end Pages

end AgentsAssemble.Paging
