import AgentsAssemble.Paging.Windows

/-!
# What a client gathers

A page that fits gives every event of it a frame that fits, and a page whose newest event fits can
always be cut down to a page that does.  So a client gathers a beginning of the log exactly when
each of its events fits a frame of its own.
-/

namespace AgentsAssemble.Paging

open Foundation Domain

/-! ## The search for what fits -/

section Search

variable {fits : Nat → Bool} {count fuel first last : Nat} {fitted : Option Nat} {dropped : Nat}

/-- What the search answers fits, and leaves an event. -/
theorem searchFitted_fits (hfirst : 1 ≤ first) (hlast : last < count)
    (hfitted : ∀ d, fitted = some d → fits d = true ∧ d < count)
    (h : searchFitted fits fuel first last fitted = some dropped) :
    fits dropped = true ∧ dropped < count := by
  induction fuel generalizing first last fitted with
  | zero => exact hfitted dropped h
  | succ fuel ih =>
      rw [searchFitted] at h
      dsimp only at h
      split at h
      · rename_i hle
        have hmiddle : first + (last - first) / 2 ≤ last := by omega
        split at h
        · rename_i hfits
          split at h
          · obtain rfl := Option.some.inj h
            exact ⟨hfits, hmiddle.trans_lt hlast⟩
          · refine ih hfirst (by omega) (fun d hd => ?_) h
            obtain rfl := Option.some.inj hd
            exact ⟨hfits, hmiddle.trans_lt hlast⟩
        · exact ih (by omega) hlast hfitted h
      · exact hfitted dropped h

/-- The search finds something when the last page that it may try fits. -/
theorem searchFitted_isSome (hfirst : 1 ≤ first) (hfuel : last + 1 - first ≤ fuel)
    (h : fitted.isSome = true ∨ first ≤ last ∧ fits last = true) :
    (searchFitted fits fuel first last fitted).isSome = true := by
  induction fuel generalizing first last fitted with
  | zero =>
      rcases h with hfitted | ⟨hle, -⟩
      · exact hfitted
      · omega
  | succ fuel ih =>
      rw [searchFitted]
      dsimp only
      split
      · rename_i hle
        split
        · split
          · rfl
          · exact ih hfirst (by omega) (Or.inl rfl)
        · rename_i hmisses
          refine ih (by omega) (by omega) ?_
          rcases h with hfitted | ⟨-, hlast⟩
          · exact Or.inl hfitted
          · have hother : first + (last - first) / 2 ≠ last := by
              intro heq
              rw [heq, hlast] at hmisses
              exact hmisses rfl
            exact Or.inr ⟨by omega, hlast⟩
      · rename_i hover
        rcases h with hfitted | ⟨hle, -⟩
        · exact hfitted
        · exact absurd hle hover

theorem fitBoundedHistory_fits (h : fitBoundedHistory count fits = some dropped) :
    fits dropped = true ∧ (dropped = 0 ∨ dropped < count) := by
  unfold fitBoundedHistory at h
  split at h
  · rename_i hfull
    obtain rfl := Option.some.inj h
    exact ⟨hfull, Or.inl rfl⟩
  · split at h
    · cases h
    · obtain ⟨hfits, hlt⟩ := searchFitted_fits (Nat.le_refl 1) (by omega : count - 1 < count)
        (fun d hd => by cases hd) h
      exact ⟨hfits, Or.inr hlt⟩

theorem fitBoundedHistory_isSome (hcount : 0 < count) (h : fits (count - 1) = true) :
    (fitBoundedHistory count fits).isSome = true := by
  unfold fitBoundedHistory
  split
  · rfl
  · rename_i hmisses
    split
    · have hone : count - 1 = 0 := by omega
      rw [hone] at h
      exact absurd h hmisses
    · exact searchFitted_isSome (Nat.le_refl 1) (by omega) (Or.inr ⟨by omega, h⟩)

end Search

/-! ## Sizes -/

theorem length_toDigits_succ (n : Nat) :
    (Nat.toDigits 10 (n + 1)).length ≤ (Nat.toDigits 10 n).length + 1 := by
  have hn : n < 10 ^ (Nat.toDigits 10 n).length :=
    (Nat.length_toDigits_le_iff (by decide) Nat.length_toDigits_pos).mp (Nat.le_refl _)
  refine (Nat.length_toDigits_le_iff (by decide) (Nat.succ_pos _)).mpr ?_
  rw [Nat.pow_succ]
  omega

theorem length_toDigits_add (n k : Nat) :
    (Nat.toDigits 10 (n + k)).length ≤ (Nat.toDigits 10 n).length + k := by
  induction k with
  | zero => exact Nat.le_refl _
  | succ k ih =>
      have hstep := length_toDigits_succ (n + k)
      rw [Nat.add_assoc] at hstep
      omega

/-- An item takes no more than the list, which has a comma for each item before it. -/
theorem size_item_le {items : List JsonText} {i : Nat} (hi : i < items.length) :
    items[i].size + i + 2 ≤ (JsonText.array items).size := by
  have hsum : items[i].size ≤ (items.map JsonText.size).sum :=
    List.single_le_sum (fun _ _ => Nat.zero_le _) _ (List.mem_map_of_mem (List.getElem_mem hi))
  rw [JsonText.size_array]
  omega

/-- An answer grows with the page that it carries. -/
theorem size_historyAck_le {requestId : String} {page page' : RoomHistoryPage}
    (hlast : page'.lastSeq = page.lastSeq)
    (h : (eventDocuments page.events).size + (JsonText.bool page.hasMoreBefore).size +
        (JsonText.natural page.oldestSeq).size ≤
      (eventDocuments page'.events).size + (JsonText.bool page'.hasMoreBefore).size +
        (JsonText.natural page'.oldestSeq).size) :
    (historyAck requestId page).size ≤ (historyAck requestId page').size := by
  simp only [historyAck, RoomHistoryPage.document, member, JsonText.size_object,
    JsonText.membersSize, hlast]
  omega

/-- The page of one event. -/
def alone (log : RoomLog) (event : RoomEvent) : RoomHistoryPage :=
  { events := [event]
    oldestSeq := event.seq
    lastSeq := log.events.length
    hasMoreBefore := decide (1 < event.seq) }

section Pages

variable {log : RoomLog} {low high : Nat} {requestId : String}

theorem alone_eq {i : Nat} (hi : i < log.events.length) :
    alone log log.events[i] = pageOf log i (i + 1) := by
  have hwindow : log.window i (i + 1) = [log.events[i]] := by
    rw [RoomLog.window, List.drop_take, Nat.add_sub_cancel_left, List.drop_eq_getElem_cons hi,
      List.take_succ_cons, List.take_zero]
  unfold alone pageOf
  rw [hwindow, RoomLog.seq_event hi, if_pos (Nat.lt_succ_self i)]
  congr 1
  rw [decide_eq_decide]
  omega

/-- Every event of a page takes no more on its own. -/
theorem size_alone_le {i : Nat} (hlow : low ≤ i) (hi : i < high)
    (hhigh : high ≤ log.events.length) :
    (historyAck requestId (pageOf log i (i + 1))).size ≤
      (historyAck requestId (pageOf log low high)).size := by
  have hlength : (log.window low high).length = high - low := RoomLog.length_window hhigh
  have hin : i - low < (log.window low high).length := by omega
  have hlt : i < log.events.length := by omega
  have hitem : (log.window low high)[i - low] = log.events[i] := by
    simp only [RoomLog.window, List.getElem_drop, List.getElem_take]
    congr 1
    omega
  have hin' : i - low < ((log.window low high).map RoomEvent.document).length := by
    rwa [List.length_map]
  have hevents := size_item_le hin'
  rw [List.getElem_map, hitem] at hevents
  have hone : (eventDocuments (pageOf log i (i + 1)).events).size =
      log.events[i].document.size + 2 := by
    rw [← alone_eq hlt, eventDocuments, JsonText.size_array]
    simp [alone]
  have hdigits := length_toDigits_add (low + 1) (i - low)
  have hnumber : low + 1 + (i - low) = i + 1 := by omega
  rw [hnumber] at hdigits
  have hmore : (JsonText.bool (decide (0 < i))).size ≤ (JsonText.bool (decide (0 < low))).size := by
    by_cases hstart : low = 0
    · rw [hstart]
      exact JsonText.size_bool_le _
    · rw [decide_eq_true (by omega : 0 < i), decide_eq_true (by omega : 0 < low)]
  have holdest : (pageOf log i (i + 1)).oldestSeq = i + 1 := if_pos (Nat.lt_succ_self i)
  have holdest' : (pageOf log low high).oldestSeq = low + 1 := if_pos (by omega)
  refine size_historyAck_le rfl ?_
  rw [hone, holdest, holdest', JsonText.size_natural, JsonText.size_natural]
  change _ + 2 + (JsonText.bool (decide (0 < i))).size + _ ≤
    (JsonText.array ((log.window low high).map RoomEvent.document)).size +
      (JsonText.bool (decide (0 < low))).size + _
  -- The arithmetic does not look into the sizes.
  generalize (JsonText.array ((log.window low high).map RoomEvent.document)).size = whole at *
  generalize log.events[i].document.size = single at *
  omega

theorem dropOldest_pageOf {dropped : Nat} (hhigh : high ≤ log.events.length) :
    (pageOf log low high).dropOldest dropped = pageOf log (low + dropped) high := by
  have holdest : ((log.window (low + dropped) high).head?.map RoomEvent.seq).getD 0 =
      if low + dropped < high then low + dropped + 1 else 0 := by
    split
    · rename_i hsome
      rw [RoomLog.head_window hsome hhigh, Option.getD_some]
    · rename_i hnone
      have hempty : log.window (low + dropped) high = [] := by
        apply List.eq_nil_of_length_eq_zero
        rw [RoomLog.length_window hhigh]
        omega
      rw [hempty]
      rfl
  have hmore : (decide (0 < dropped) || decide (0 < low)) = decide (0 < low + dropped) := by
    rw [← Bool.decide_or, decide_eq_decide]
    omega
  unfold RoomHistoryPage.dropOldest pageOf
  dsimp only
  rw [RoomLog.drop_window, holdest, hmore]

/-- A page that is answered is the end of a window, and fits. -/
theorem fitHistoryAck_spec {page : RoomHistoryPage} (hlow : low ≤ high)
    (hhigh : high ≤ log.events.length)
    (h : fitHistoryAck requestId (pageOf log low high) = .ok page) :
    ∃ low', low' ≤ high ∧ (low' < high ∨ low' = low) ∧ page = pageOf log low' high ∧
      encodes (historyAck requestId (pageOf log low' high)) = true := by
  unfold fitHistoryAck at h
  split at h
  · rename_i dropped hfound
    obtain rfl := Except.ok.inj h
    obtain ⟨hfits, hdropped⟩ := fitBoundedHistory_fits hfound
    have hlength : (pageOf log low high).events.length = high - low := RoomLog.length_window hhigh
    rw [hlength] at hdropped
    have hpage : (pageOf log low high).dropOldest dropped = pageOf log (low + dropped) high :=
      dropOldest_pageOf hhigh
    rw [hpage] at hfits
    exact ⟨low + dropped, by omega, by omega, hpage, hfits⟩
  · cases h

/-- A page is answered when its newest event fits. -/
theorem fitHistoryAck_ok (hlow : low < high) (hhigh : high ≤ log.events.length)
    (h : encodes (historyAck requestId (pageOf log (high - 1) high)) = true) :
    ∃ page, fitHistoryAck requestId (pageOf log low high) = .ok page := by
  have hlength : (pageOf log low high).events.length = high - low := RoomLog.length_window hhigh
  have hnewest : low + (high - low - 1) = high - 1 := by omega
  have hfound : (fitBoundedHistory (pageOf log low high).events.length fun dropped =>
      encodes (historyAck requestId ((pageOf log low high).dropOldest dropped))).isSome = true := by
    apply fitBoundedHistory_isSome
    · omega
    · rw [hlength, dropOldest_pageOf hhigh, hnewest]
      exact h
  obtain ⟨dropped, hdropped⟩ := Option.isSome_iff_exists.mp hfound
  refine ⟨(pageOf log low high).dropOldest dropped, ?_⟩
  unfold fitHistoryAck
  rw [hdropped]

end Pages

/-! ## Asking for a page -/

section Asks

variable {log : RoomLog} {ask : HistoryAsk} {high : Nat}

theorem integerField_some {value : Json} {number : Int} {field : String}
    (h : asI64 value = some number) :
    integerField (some value) field = .ok (some number) := by
  unfold integerField
  dsimp only
  rw [h]

/-- What a client asks for is read as it means it. -/
theorem fromPayload_payload (ask : HistoryAsk) (hhigh : high ≤ maxI64) :
    ∃ limit, (1 ≤ limit ∧ limit ≤ roomHistoryMaxEvents) ∧
      RoomHistoryRequest.fromPayload (ask.payload high) = .ok ⟨(high : Int), limit⟩ := by
  have hbound : high < 2 ^ 63 := by
    unfold maxI64 at hhigh
    omega
  have hnumber : asI64 (.number (.posInt (UInt64.ofNat high))) = some (high : Int) := by
    have hnat : (UInt64.ofNat high).toNat = high := by
      rw [UInt64.toNat_ofNat']
      omega
    unfold asI64
    dsimp only
    rw [hnat, if_pos hbound]
  have hclamp : ∀ value, 1 ≤ clamp value 1 roomHistoryMaxEvents ∧
      clamp value 1 roomHistoryMaxEvents ≤ roomHistoryMaxEvents := by
    intro value
    unfold clamp roomHistoryMaxEvents
    split_ifs <;> omega
  have hcursor : max (high : Int) 0 = high := max_eq_left (Int.natCast_nonneg high)
  have hbefore : integerField _ "before_seq" = _ := integerField_some hnumber
  unfold RoomHistoryRequest.fromPayload HistoryAsk.payload
  generalize Json.number (.posInt (UInt64.ofNat high)) = before at hbefore ⊢
  cases hlimit : ask.limit with
  | none =>
      refine ⟨clamp roomHistoryMaxEvents 1 roomHistoryMaxEvents, hclamp _, ?_⟩
      have hknown : (([("before_seq", before)] : List (String × Json)).any fun member =>
          !(["before_seq", "limit"].contains member.1)) = false := rfl
      have hget : Json.get [("before_seq", before)] "before_seq" = some before := rfl
      have hnone : Json.get [("before_seq", before)] "limit" = none := rfl
      dsimp only [Json.asObject, Option.elim_none]
      rw [hknown, if_neg Bool.false_ne_true, hget, hbefore, hnone]
      refine Result.bind_eq_ok.mpr ⟨_, rfl, Result.bind_eq_ok.mpr ⟨none, rfl, ?_⟩⟩
      rw [Option.getD_some, hcursor]
      rfl
  | some value =>
      obtain ⟨number, hvalue⟩ := Option.isSome_iff_exists.mp (ask.integer value hlimit)
      refine ⟨clamp number 1 roomHistoryMaxEvents, hclamp _, ?_⟩
      have hknown : (([("before_seq", before), ("limit", value)] : List (String × Json)).any
          fun member => !(["before_seq", "limit"].contains member.1)) = false := rfl
      have hget : Json.get [("before_seq", before), ("limit", value)] "before_seq" =
        some before := rfl
      have hsome : Json.get [("before_seq", before), ("limit", value)] "limit" = some value := rfl
      dsimp only [Json.asObject, Option.elim_some]
      rw [hknown, if_neg Bool.false_ne_true, hget, hbefore, hsome, integerField_some hvalue]
      refine Result.bind_eq_ok.mpr ⟨_, rfl, Result.bind_eq_ok.mpr ⟨some number, rfl, ?_⟩⟩
      rw [Option.getD_some, hcursor]
      rfl

/-- The page that is answered is a window that ends before the cursor. -/
theorem readHistoryFrame_spec {page : RoomHistoryPage} (hhigh : high + 1 ≤ log.events.length)
    (h : readHistoryFrame log ask.requestId (ask.payload (high + 1)) = .ok page) :
    ∃ low, low ≤ high ∧ (low < high ∨ low = 0) ∧ page = pageOf log low high ∧
      encodes (historyAck ask.requestId (pageOf log low high)) = true := by
  have hbound : high + 1 ≤ maxI64 := hhigh.trans (RoomLog.length_events ▸ log.bounded)
  obtain ⟨limit, hlimit, hrequest⟩ := fromPayload_payload ask hbound
  have hpage : roomHistoryPage log ⟨((high + 1 : Nat) : Int), limit⟩ =
      .ok (pageOf log (high - limit.toNat) high) := roomHistoryPage_eq hlimit (by omega)
  unfold readHistoryFrame at h
  rw [if_neg (by simp [ask.valid])] at h
  obtain ⟨request, hread, h⟩ := Result.bind_eq_ok.mp h
  obtain rfl := Except.ok.inj (hrequest.symm.trans (Result.mapError_eq_ok.mp hread))
  obtain ⟨full, hfull, h⟩ := Result.bind_eq_ok.mp h
  obtain rfl := Except.ok.inj (hpage.symm.trans (Result.mapError_eq_ok.mp hfull))
  obtain ⟨low, hle, hlow, rfl, hfits⟩ := fitHistoryAck_spec (by omega) (by omega) h
  have hsome : 1 ≤ limit.toNat := by omega
  exact ⟨low, hle, by omega, rfl, hfits⟩

/-- A client is answered when the newest event before its cursor fits. -/
theorem readHistoryFrame_ok (hpos : 0 < high) (hhigh : high + 1 ≤ log.events.length)
    (h : encodes (historyAck ask.requestId (pageOf log (high - 1) high)) = true) :
    ∃ page, readHistoryFrame log ask.requestId (ask.payload (high + 1)) = .ok page := by
  have hbound : high + 1 ≤ maxI64 := hhigh.trans (RoomLog.length_events ▸ log.bounded)
  obtain ⟨limit, hlimit, hrequest⟩ := fromPayload_payload ask hbound
  have hfull : roomHistoryPage log ⟨((high + 1 : Nat) : Int), limit⟩ =
      .ok (pageOf log (high - limit.toNat) high) := roomHistoryPage_eq hlimit (by omega)
  have hlow : high - limit.toNat < high := by omega
  obtain ⟨page, hpage⟩ := fitHistoryAck_ok hlow (by omega) h
  refine ⟨page, ?_⟩
  unfold readHistoryFrame
  rw [if_neg (by simp [ask.valid])]
  exact Result.bind_eq_ok.mpr ⟨_, Result.mapError_eq_ok.mpr hrequest,
    Result.bind_eq_ok.mpr ⟨_, Result.mapError_eq_ok.mpr hfull, hpage⟩⟩

end Asks

/-! ## Gathering -/

section Gathering

variable {log : RoomLog} {asks : Nat → HistoryAsk}

theorem encodes_of_le {frame frame' : JsonText} (hle : frame.size ≤ frame'.size)
    (h : encodes frame' = true) : encodes frame = true :=
  decide_eq_true (hle.trans (of_decide_eq_true h))

/-- What a client gathers is a beginning of the log, and each of its events fits on its own. -/
theorem gather_spec {fuel turn high : Nat} {older : List RoomEvent}
    (hhigh : high + 1 ≤ log.events.length)
    (h : gather log asks fuel turn (high + 1) = some older) :
    older = log.events.take high ∧ ∀ i < high, ∃ turn',
      encodes (historyAck (asks turn').requestId (pageOf log i (i + 1))) = true := by
  induction fuel generalizing turn high older with
  | zero => cases h
  | succ fuel ih =>
      rw [gather] at h
      split at h
      · cases h
      · rename_i page hpage
        obtain ⟨low, hle, hlow, rfl, hfits⟩ := readHistoryFrame_spec hhigh hpage
        have hown : ∀ i < high, low ≤ i →
            encodes (historyAck (asks turn).requestId (pageOf log i (i + 1))) = true :=
          fun i hi hin => encodes_of_le (size_alone_le hin hi (by omega)) hfits
        split at h
        · rename_i hmore
          have hpos : 0 < low := of_decide_eq_true hmore
          obtain ⟨rest, hrest, rfl⟩ := Option.map_eq_some_iff.mp h
          have holdest : (pageOf log low high).oldestSeq = low + 1 := if_pos (by omega)
          rw [holdest] at hrest
          obtain ⟨rfl, hbefore⟩ := ih (by omega) hrest
          refine ⟨RoomLog.take_append_window hle, fun i hi => ?_⟩
          by_cases hin : low ≤ i
          · exact ⟨turn, hown i hi hin⟩
          · exact hbefore i (by omega)
        · rename_i hdone
          obtain rfl := Option.some.inj h
          have hstart : low = 0 := by
            by_contra hne
            exact hdone (decide_eq_true (Nat.pos_of_ne_zero hne))
          subst hstart
          exact ⟨List.drop_zero, fun i hi => ⟨turn, hown i hi (Nat.zero_le i)⟩⟩

/-- A client whose answers have room for each event gathers everything before its cursor. -/
theorem gather_complete {high : Nat} (hpos : 0 < high) (hhigh : high + 1 ≤ log.events.length)
    (hfits : ∀ i < high, ∀ turn,
      encodes (historyAck (asks turn).requestId (pageOf log i (i + 1))) = true) (turn : Nat) :
    ∃ fuel, gather log asks fuel turn (high + 1) = some (log.events.take high) := by
  induction high using Nat.strong_induction_on generalizing turn with
  | _ high ih =>
      have hnewest : encodes (historyAck (asks turn).requestId (pageOf log (high - 1) high)) =
          true := by
        have hlast := hfits (high - 1) (by omega) turn
        rwa [Nat.sub_add_cancel hpos] at hlast
      obtain ⟨page, hpage⟩ := readHistoryFrame_ok hpos hhigh hnewest
      obtain ⟨low, hle, hlow, rfl, -⟩ := readHistoryFrame_spec hhigh hpage
      by_cases hstart : low = 0
      · subst hstart
        refine ⟨1, ?_⟩
        rw [gather, hpage]
        exact congrArg some List.drop_zero
      · obtain ⟨fuel, hrest⟩ := ih low (by omega) (Nat.pos_of_ne_zero hstart) (by omega)
          (fun i hi => hfits i (by omega)) (turn + 1)
        have holdest : (pageOf log low high).oldestSeq = low + 1 := if_pos (by omega)
        have hmore : (pageOf log low high).hasMoreBefore = true :=
          decide_eq_true (Nat.pos_of_ne_zero hstart)
        refine ⟨fuel + 1, ?_⟩
        rw [gather, hpage]
        dsimp only
        rw [if_pos hmore, holdest, hrest, Option.map_some]
        exact congrArg some (RoomLog.take_append_window hle)

end Gathering

end AgentsAssemble.Paging
