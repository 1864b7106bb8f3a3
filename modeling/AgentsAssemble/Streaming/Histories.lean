import AgentsAssemble.Streaming.Hubs

/-!
# The browser accepts every history page

A history page is checked by the browser against what it asked for: the page ends right before the
cursor, has no more events than asked for, and says whether there are older ones.
-/

namespace AgentsAssemble.Streaming

open Foundation Paging
open Domain (asI64)

/-- What the browser sends with `room.history`. -/
def historyPayload (beforeSeq limit : Nat) : Json :=
  .object
    [("before_seq", .number (.posInt (UInt64.ofNat beforeSeq))),
      ("limit", .number (.posInt (UInt64.ofNat limit)))]

/-- The part of `roomHistoryResultIsValid` that is about numbers. -/
def historySequenceIsValid (beforeSeq limit : Nat) (page : RoomHistoryPage) : Bool :=
  let sequences := page.events.map RoomEvent.seq
  if isSequence beforeSeq = false ∨ limit < 1 ∨ (200 : Nat) < limit ∨ limit < sequences.length ∨
      isSequence page.oldestSeq = false ∨ isSequence page.lastSeq = false then false
  else if sequences.any fun seq =>
      !(isSequence seq && decide (0 < seq)) || decide (0 < beforeSeq ∧ beforeSeq ≤ seq) then false
  else if contiguous sequences = false then false
  else
    match sequences.head?, sequences.getLast? with
    | some firstSeq, some finalSeq =>
        let expectedFinalSeq :=
          if beforeSeq = 0 then page.lastSeq else min page.lastSeq (beforeSeq - 1)
        decide (page.oldestSeq = firstSeq ∧ finalSeq = expectedFinalSeq ∧
          page.hasMoreBefore = decide (1 < firstSeq))
    | _, _ =>
        decide (page.oldestSeq = 0 ∧ page.hasMoreBefore = false ∧
          (page.lastSeq = 0 ∨ beforeSeq = 1))

/-- Where a page before a cursor ends. -/
def historyEnd (log : RoomLog) (beforeSeq : Nat) : Nat :=
  if beforeSeq = 0 then log.events.length else min log.events.length (beforeSeq - 1)

section Reading

variable {log : RoomLog} {beforeSeq limit : Nat}

/-- The payload is read as the browser means it. -/
theorem fromPayload_historyPayload (hbefore : beforeSeq ≤ maxSafeInteger)
    (hlimit : 1 ≤ limit ∧ limit ≤ 200) :
    RoomHistoryRequest.fromPayload (historyPayload beforeSeq limit) =
      .ok ⟨(beforeSeq : Int), (limit : Int)⟩ := by
  have hnumber : ∀ n : Nat, n ≤ maxSafeInteger →
      asI64 (.number (.posInt (UInt64.ofNat n))) = some (n : Int) := by
    intro n hn
    have hbound : n < 2 ^ 63 := by
      unfold maxSafeInteger at hn
      omega
    have hnat : (UInt64.ofNat n).toNat = n := by
      rw [UInt64.toNat_ofNat']
      omega
    unfold asI64
    dsimp only
    rw [hnat, if_pos hbound]
  have hsmall : limit ≤ maxSafeInteger := hlimit.2.trans (by decide)
  have hcursor : max (beforeSeq : Int) 0 = beforeSeq := max_eq_left (Int.natCast_nonneg _)
  have hclamp : clamp (limit : Int) 1 roomHistoryMaxEvents = limit := by
    unfold clamp roomHistoryMaxEvents
    split_ifs <;> omega
  have hread : ∀ n field, n ≤ maxSafeInteger →
      integerField (some (.number (.posInt (UInt64.ofNat n)))) field = .ok (some (n : Int)) :=
    fun n field hn => integerField_some (hnumber n hn)
  unfold RoomHistoryRequest.fromPayload historyPayload
  have hbeforeRead := hread beforeSeq "before_seq" hbefore
  have hlimitRead := hread limit "limit" hsmall
  generalize Json.number (.posInt (UInt64.ofNat beforeSeq)) = before at hbeforeRead ⊢
  generalize Json.number (.posInt (UInt64.ofNat limit)) = count at hlimitRead ⊢
  have hknown : (([("before_seq", before), ("limit", count)] : List (String × Json)).any
      fun member => !(["before_seq", "limit"].contains member.1)) = false := rfl
  have hget : Json.get [("before_seq", before), ("limit", count)] "before_seq" = some before := rfl
  have hget' : Json.get [("before_seq", before), ("limit", count)] "limit" = some count := rfl
  dsimp only [Json.asObject]
  rw [hknown, if_neg Bool.false_ne_true, hget, hbeforeRead, hget', hlimitRead]
  refine Result.bind_eq_ok.mpr ⟨_, rfl, Result.bind_eq_ok.mpr ⟨_, rfl, ?_⟩⟩
  rw [Option.getD_some, Option.getD_some, hcursor, hclamp]
  rfl

/-- A page is decided by the number that it ends before. -/
theorem roomHistoryPage_upper {cursor : Int} {upper : Nat} (hcursor : 0 ≤ cursor)
    (hlimit : 1 ≤ limit ∧ limit ≤ 200)
    (hupper : (if cursor = 0 then min (log.lastSeq + 1) maxI64 else cursor.toNat) = upper) :
    roomHistoryPage log ⟨cursor, (limit : Int)⟩ =
      (do
        let rows := log.newestBefore upper (limit + 1)
        let events ← countDown log.roomId (rows.take limit) (min log.lastSeq (upper - 1))
        let events := events.reverse
        pure
          { events
            oldestSeq := (events.head?.map RoomEvent.seq).getD 0
            lastSeq := log.lastSeq
            hasMoreBefore := decide (limit < rows.length) }) := by
  have hguard : ¬ (cursor < 0 ∨ ¬ (1 ≤ (limit : Int) ∧ (limit : Int) ≤ roomHistoryMaxEvents)) := by
    unfold roomHistoryMaxEvents
    omega
  unfold roomHistoryPage
  dsimp only
  rw [if_neg hguard, hupper, Int.toNat_natCast]

/-- A cursor behind the log reads as one right behind its newest event. -/
theorem roomHistoryPage_end (hlog : log.events.length ≤ maxSafeInteger)
    (hlimit : 1 ≤ limit ∧ limit ≤ 200) :
    roomHistoryPage log ⟨(beforeSeq : Int), (limit : Int)⟩ =
      .ok (pageOf log (historyEnd log beforeSeq - limit) (historyEnd log beforeSeq)) := by
  have hlimit' : 1 ≤ (limit : Int) ∧ (limit : Int) ≤ roomHistoryMaxEvents := by
    unfold roomHistoryMaxEvents
    omega
  have hend : historyEnd log beforeSeq ≤ log.events.length := by
    unfold historyEnd
    split_ifs <;> omega
  have hmain := roomHistoryPage_eq hlimit' hend
  rw [Int.toNat_natCast] at hmain
  have hupper : (if ((historyEnd log beforeSeq + 1 : Nat) : Int) = 0 then
      min (log.lastSeq + 1) maxI64 else ((historyEnd log beforeSeq + 1 : Nat) : Int).toNat) =
      historyEnd log beforeSeq + 1 := by
    rw [if_neg (by omega), Int.toNat_natCast]
  rw [← hmain, roomHistoryPage_upper (by omega) hlimit hupper,
    roomHistoryPage_upper (by omega) hlimit rfl]
  have hmax : log.events.length + 1 ≤ maxI64 :=
    (Nat.succ_le_succ hlog).trans (by decide)
  have hrows : log.rows.length = log.events.length := RoomLog.length_events.symm
  by_cases hzero : beforeSeq = 0
  · have hsame : historyEnd log beforeSeq = log.events.length := if_pos hzero
    rw [hsame, hzero, RoomLog.lastSeq_eq, min_eq_left hmax]
    simp only [Int.natCast_zero, if_true]
  · have hsame : historyEnd log beforeSeq = min log.events.length (beforeSeq - 1) := if_neg hzero
    have hcursor : (if (beforeSeq : Int) = 0 then min (log.lastSeq + 1) maxI64
        else (beforeSeq : Int).toNat) = beforeSeq := by
      rw [if_neg (by omega), Int.toNat_natCast]
    have hfirst : min log.events.length (beforeSeq - 1) =
        min log.events.length (min log.events.length (beforeSeq - 1) + 1 - 1) := by omega
    -- both read the same rows and expect the same number first
    have hread : log.newestBefore beforeSeq (limit + 1) =
        log.newestBefore (min log.events.length (beforeSeq - 1) + 1) (limit + 1) := by
      unfold RoomLog.newestBefore
      rw [filter_before log.numbered, filter_before log.numbered, Nat.sub_zero, Nat.sub_zero,
        Nat.add_sub_cancel]
      rcases Nat.le_total log.events.length (beforeSeq - 1) with hle | hle
      · have hall : log.rows.take (beforeSeq - 1) = log.rows :=
          List.take_of_length_le (by omega)
        have hall' : log.rows.take log.events.length = log.rows :=
          List.take_of_length_le (by omega)
        rw [min_eq_left hle, hall, hall']
      · rw [min_eq_right hle]
    rw [hcursor, hsame, RoomLog.lastSeq_eq, hread, ← hfirst]

/-- What is answered is what is left of the page. -/
theorem fitHistoryAck_left {requestId : String} {low high : Nat} {page : RoomHistoryPage}
    (hlow : low ≤ high) (hhigh : high ≤ log.events.length)
    (h : fitHistoryAck requestId (pageOf log low high) = .ok page) :
    ∃ low', low ≤ low' ∧ (low' < high ∨ low' = low) ∧ page = pageOf log low' high := by
  unfold fitHistoryAck at h
  split at h
  · rename_i dropped hfound
    obtain rfl := Except.ok.inj h
    obtain ⟨-, hdropped⟩ := fitBoundedHistory_fits hfound
    have hlength : (pageOf log low high).events.length = high - low := RoomLog.length_window hhigh
    rw [hlength] at hdropped
    exact ⟨low + dropped, Nat.le_add_right _ _, by omega, dropOldest_pageOf hhigh⟩
  · cases h

/-- A window that ends before the cursor passes. -/
theorem pageOf_valid {low : Nat} (hlog : log.events.length ≤ maxSafeInteger)
    (hbefore : beforeSeq ≤ maxSafeInteger) (hlimit : 1 ≤ limit ∧ limit ≤ 200)
    (hlow : low < historyEnd log beforeSeq ∨ historyEnd log beforeSeq = 0 ∧ low = 0)
    (hcount : historyEnd log beforeSeq - low ≤ limit) :
    historySequenceIsValid beforeSeq limit (pageOf log low (historyEnd log beforeSeq)) = true := by
  have hend : historyEnd log beforeSeq ≤ log.events.length := by
    unfold historyEnd
    split_ifs <;> omega
  have hcursor : 0 < beforeSeq → historyEnd log beforeSeq < beforeSeq := by
    intro hpos
    unfold historyEnd
    split_ifs <;> omega
  have hexpected : historyEnd log beforeSeq =
      if beforeSeq = 0 then log.events.length else min log.events.length (beforeSeq - 1) := rfl
  generalize historyEnd log beforeSeq = high at *
  have hseqs : (log.window low high).map RoomEvent.seq = List.range' (low + 1) (high - low) := by
    have hwindow := seq_events_window log low (high - low)
    have hsame : (log.events.drop low).take (high - low) = log.window low high := by
      rw [RoomLog.window, List.drop_take]
    rw [hsame, RoomLog.length_window hend] at hwindow
    exact hwindow
  have hsafe : ∀ n ≤ log.events.length, isSequence n = true :=
    fun n hn => decide_eq_true (hn.trans hlog)
  have holdest : (if low < high then low + 1 else 0) ≤ log.events.length := by
    split_ifs <;> omega
  unfold historySequenceIsValid pageOf
  dsimp only
  rw [hseqs, if_neg, if_neg, if_neg]
  · rcases hlow with hlow | ⟨hhigh, hlow⟩
    · obtain ⟨count, hsucc⟩ := Nat.exists_eq_succ_of_ne_zero (Nat.sub_ne_zero_of_lt hlow)
      rw [hsucc, List.getLast?_range', List.range'_succ, if_neg (Nat.succ_ne_zero _)]
      simp only [List.head?_cons, decide_eq_true_eq]
      refine ⟨if_pos hlow, by omega, ?_⟩
      rw [decide_eq_decide]
      omega
    · subst hhigh hlow
      simp only [Nat.sub_self, List.range'_zero, List.head?_nil, List.getLast?_nil,
        decide_eq_true_eq]
      refine ⟨rfl, rfl, ?_⟩
      split_ifs at hexpected <;> omega
  · rw [contiguous_range']
    exact Bool.noConfusion
  · rw [Bool.not_eq_true, List.any_eq_false]
    intro seq hseq
    rw [List.mem_range'_1] at hseq
    have hpos : decide (0 < seq) = true := decide_eq_true (by omega)
    have hbehind : decide (0 < beforeSeq ∧ beforeSeq ≤ seq) = false :=
      decide_eq_false fun hbehind => by
        have hlt := hcursor hbehind.1
        have hle := hbehind.2
        omega
    rw [hsafe seq (by omega), hpos, hbehind]
    exact Bool.noConfusion
  · rw [List.length_range']
    rintro (hinexact | hnone | hmany | hlong | hinexact | hinexact)
    · exact absurd (decide_eq_true hbefore) (Bool.eq_false_iff.mp hinexact)
    · omega
    · omega
    · omega
    · rw [hsafe _ holdest] at hinexact
      cases hinexact
    · rw [hsafe _ (le_refl _)] at hinexact
      cases hinexact

/-- Every page that the server answers passes the checks of the browser that asked for it. -/
theorem history_page_accepted {requestId : String} {page : RoomHistoryPage}
    (hlog : log.events.length ≤ maxSafeInteger) (hbefore : beforeSeq ≤ maxSafeInteger)
    (hlimit : 1 ≤ limit ∧ limit ≤ 200)
    (h : readHistoryFrame log requestId (historyPayload beforeSeq limit) = .ok page) :
    historySequenceIsValid beforeSeq limit page = true := by
  unfold readHistoryFrame at h
  split at h
  · cases h
  · obtain ⟨request, hread, h⟩ := Result.bind_eq_ok.mp h
    obtain rfl := Except.ok.inj ((fromPayload_historyPayload hbefore hlimit).symm.trans
      (Result.mapError_eq_ok.mp hread))
    obtain ⟨full, hfull, h⟩ := Result.bind_eq_ok.mp h
    obtain rfl := Except.ok.inj ((roomHistoryPage_end hlog hlimit).symm.trans
      (Result.mapError_eq_ok.mp hfull))
    have hend : historyEnd log beforeSeq ≤ log.events.length := by
      unfold historyEnd
      split_ifs <;> omega
    obtain ⟨low, hle, hlow, rfl⟩ := fitHistoryAck_left (Nat.sub_le _ _) hend h
    exact pageOf_valid hlog hbefore hlimit (by omega) (by omega)

end Reading

open HubSample in
theorem sample_history_accepted :
    historySequenceIsValid 0 200 (pageOf log 0 1) = true := by
  have hfit : fitBoundedHistory 1 (fun dropped =>
      encodes (historyAck "r" ((pageOf log 0 1).dropOldest dropped))) = some 0 := by
    rw [fitBoundedHistory, if_pos (by decide +kernel)]
  have hanswer : fitHistoryAck "r" (pageOf log 0 1) = .ok (pageOf log 0 1) := by
    have hlength : (pageOf log 0 1).events.length = 1 := rfl
    unfold fitHistoryAck
    rw [hlength, hfit]
    exact congrArg Except.ok (dropOldest_pageOf (by decide))
  have hread : readHistoryFrame log "r" (historyPayload 0 200) = .ok (pageOf log 0 1) := by
    have hrequest := fromPayload_historyPayload (Nat.zero_le maxSafeInteger)
      (by decide : 1 ≤ 200 ∧ 200 ≤ 200)
    have hpage : roomHistoryPage log ⟨((0 : Nat) : Int), ((200 : Nat) : Int)⟩ =
        .ok (pageOf log 0 1) := roomHistoryPage_end (by decide) (by decide)
    unfold readHistoryFrame
    rw [if_neg (by decide)]
    exact Result.bind_eq_ok.mpr ⟨_, Result.mapError_eq_ok.mpr hrequest,
      Result.bind_eq_ok.mpr ⟨_, Result.mapError_eq_ok.mpr hpage, hanswer⟩⟩
  exact history_page_accepted (by decide) (by decide) (by decide) hread

end AgentsAssemble.Streaming
