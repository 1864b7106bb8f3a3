import AgentsAssemble.Persistence.PersonaRisu

/-!
# The Risu module format

The byte strings that are a module with its assets, apart from the parser, which
accepts exactly those.  Within the size limit no position and no total leaves its
word.
-/

namespace AgentsAssemble.Persistence.Risu

open Domain Foundation
open Foundation.Bytes
open Foundation.Result

/-! ## The format -/

def assetRecord (asset : List UInt8) : List UInt8 :=
  assetMarker :: (leBytes 4 asset.length ++ asset)

def assetRecords (assets : List (List UInt8)) : List UInt8 :=
  assets.flatMap assetRecord ++ [eofMarker]

/-- A module file around the encoded main payload. -/
def risumBytes (main : List UInt8) (assets : List (List UInt8)) : List UInt8 :=
  risuMagic :: risuVersion :: (leBytes 4 main.length ++ (main ++ assetRecords assets))

/-- `content` is this module with these assets. -/
structure IsRisum (fromSlice : List UInt8 → Option Json) (content : List UInt8)
    (module : List (String × Json)) (assets : List (List UInt8)) : Prop where
  size : content.length ≤ maxAttachmentBytes
  payload : ∃ main json root,
    content = risumBytes main assets ∧ main.length ≤ maxMainBytes ∧
      main.mapM rpackDecode = .ok json ∧ fromSlice json = some (.object root) ∧
      text (Json.get root "type") = "risuModule".toList ∧
      Json.get root "module" = some (.object module)
  count : assets.length ≤ maxAssetCount
  total : (assets.map List.length).sum ≤ maxAssetBytes

/-! ## Reading at a position -/

section Reading

variable {content rest : List UInt8} {offset : Nat}

theorem offset_word (hat : At content offset rest) (hsize : content.length ≤ maxAttachmentBytes) :
    offset + rest.length + 5 ≤ wordMax := by
  have hlimit : maxAttachmentBytes + 5 ≤ wordMax := by decide
  have hlength := hat.length
  omega

theorem readLength_eq_ok (hat : At content offset rest)
    (hsize : content.length ≤ maxAttachmentBytes) {n stop : Nat} :
    readLength content offset = .ok (n, stop) ↔
      n < 256 ^ 4 ∧ stop = offset + 4 ∧ ∃ left, rest = leBytes 4 n ++ left := by
  have hword := offset_word hat hsize
  simp only [readLength, bind_eq_ok, okOr_eq_ok, checkedAdd_eq_some, Option.filter_eq_some_iff,
    hat.slice_eq_some, decide_eq_true_eq]
  constructor
  · rintro ⟨_, ⟨-, rfl⟩, bytes, ⟨⟨hstop, left, rfl⟩, hlength⟩, hpure⟩
    obtain ⟨rfl, rfl⟩ := Prod.mk.inj (pure_eq_ok.mp hpure)
    refine ⟨hlength ▸ leValue_lt bytes, rfl, left, ?_⟩
    rw [← hlength, leBytes_leValue]
  · rintro ⟨hn, rfl, left, rfl⟩
    refine ⟨_, ⟨by omega, rfl⟩, leBytes 4 n, ⟨⟨by rw [length_leBytes], left, rfl⟩, ?_⟩, ?_⟩
    · exact length_leBytes 4 n
    · rw [leValue_leBytes hn]
      rfl

theorem readRecord_eq_ok (hat : At content offset rest)
    (hsize : content.length ≤ maxAttachmentBytes) {length stop : Nat} {record : List UInt8} :
    readRecord content offset length = .ok (record, stop) ↔
      record.length = length ∧ stop = offset + length ∧ ∃ left, rest = record ++ left := by
  have hword := offset_word hat hsize
  simp only [readRecord, bind_eq_ok, okOr_eq_ok, checkedAdd_eq_some, hat.slice_eq_some]
  constructor
  · rintro ⟨_, ⟨-, rfl⟩, bytes, ⟨hstop, left, rfl⟩, hpure⟩
    obtain ⟨rfl, rfl⟩ := Prod.mk.inj (pure_eq_ok.mp hpure)
    exact ⟨by omega, rfl, left, rfl⟩
  · rintro ⟨rfl, rfl, left, rfl⟩
    rw [List.length_append] at hword
    exact ⟨_, ⟨by omega, rfl⟩, record, ⟨rfl, left, rfl⟩, rfl⟩

/-- One turn of the loop reads one record off the front of what is left. -/
theorem nextRecord_iff {cursor cursor' : RecordCursor} (hat : At content cursor.offset rest)
    (hsize : content.length ≤ maxAttachmentBytes) :
    nextRecord content cursor = .ok (some cursor') ↔
      ∃ asset left, rest = assetRecord asset ++ left ∧ asset.length < 256 ^ 4 ∧
        cursor.assetCount < maxAssetCount ∧
        cursor.assetBytes + asset.length ≤ maxAssetBytes ∧
        cursor' = ⟨cursor.offset + (assetRecord asset).length, cursor.assetCount + 1,
          cursor.assetBytes + asset.length⟩ := by
  rw [nextRecord_eq_some, hat.getElem?]
  constructor
  · rintro ⟨hmarker, -, hcount, length, offset, hlength, hbytes, record, hrecord, hcounted,
      htotal⟩
    obtain ⟨tail, rfl⟩ := List.head?_eq_some_iff.mp hmarker
    obtain ⟨hword, rfl, left, rfl⟩ := (readLength_eq_ok hat.next hsize).mp hlength
    have hbody : At content (cursor.offset + 1 + 4) left := by
      have hadvance := hat.next.advance
      rwa [length_leBytes] at hadvance
    obtain ⟨rfl, hstop, left, rfl⟩ := (readRecord_eq_ok hbody hsize).mp hrecord
    refine ⟨record, left, by simp [assetRecord], hword, hcount, hbytes, ?_⟩
    cases cursor'
    simp only [RecordCursor.mk.injEq]
    refine ⟨?_, hcounted, htotal⟩
    dsimp only at hstop
    rw [hstop, assetRecord, List.length_cons, List.length_append, length_leBytes]
    omega
  · rintro ⟨asset, left, rfl, hword, hcount, hbytes, rfl⟩
    have hfits := offset_word hat hsize
    refine ⟨rfl, by omega, hcount, asset.length, cursor.offset + 1 + 4, ?_, hbytes, asset, ?_, rfl,
      rfl⟩
    · refine (readLength_eq_ok hat.next hsize).mpr ⟨hword, rfl, asset ++ left, ?_⟩
      exact List.append_assoc _ _ _
    · have hbody : At content (cursor.offset + 1 + 4) (asset ++ left) := by
        have hsplit : At content (cursor.offset + 1) (leBytes 4 asset.length ++ (asset ++ left)) := by
          rw [← List.append_assoc]
          exact hat.next
        have hadvance := hsplit.advance
        rwa [length_leBytes] at hadvance
      refine (readRecord_eq_ok hbody hsize).mpr ⟨rfl, ?_, left, rfl⟩
      dsimp only
      rw [assetRecord, List.length_cons, List.length_append, length_leBytes]
      omega

/-- The loop ends at an end marker with nothing behind it. -/
theorem nextRecord_eq_none {cursor : RecordCursor} (hat : At content cursor.offset rest)
    (hsize : content.length ≤ maxAttachmentBytes) :
    nextRecord content cursor = .ok none ↔ rest = [eofMarker] := by
  have hword := offset_word hat hsize
  have hlength := hat.length
  simp only [nextRecord, bind_eq_ok, okOr_eq_ok, plus_eq_ok, hat.getElem?]
  constructor
  · rintro ⟨marker, hmarker, offset, ⟨-, rfl⟩, h⟩
    obtain ⟨tail, rfl⟩ := List.head?_eq_some_iff.mp hmarker
    split at h
    · next heof =>
        obtain ⟨_, hend, -⟩ := bind_eq_ok.mp h
        rw [refuse_eq_ok, not_not] at hend
        rw [List.length_cons] at hlength
        have htail : tail = [] := List.length_eq_zero_iff.mp (by omega)
        rw [heof, htail]
    · simp only [bind_eq_ok] at h
      obtain ⟨_, -, _, -, _, -, _, -, _, -, _, -, _, -, hpure⟩ := h
      cases pure_eq_ok.mp hpure
  · rintro rfl
    refine ⟨eofMarker, rfl, _, ⟨by omega, rfl⟩, ?_⟩
    rw [if_pos rfl, bind_eq_ok]
    exact ⟨(), refuse_eq_ok.mpr (by rw [hlength]; exact not_not.mpr rfl), rfl⟩

/-- The loop accepts records up to an end marker, and counts them. -/
theorem validateAssetRecords_eq_ok {cursor : RecordCursor} (hat : At content cursor.offset rest)
    (hsize : content.length ≤ maxAttachmentBytes) (hcount : cursor.assetCount ≤ maxAssetCount)
    (hbytes : cursor.assetBytes ≤ maxAssetBytes) {n : Nat} :
    validateAssetRecords content cursor = .ok n ↔
      ∃ assets, rest = assetRecords assets ∧ n = cursor.assetCount + assets.length ∧
        n ≤ maxAssetCount ∧
        cursor.assetBytes + (assets.map List.length).sum ≤ maxAssetBytes := by
  induction hleft : maxAssetCount - cursor.assetCount using Nat.strong_induction_on
    generalizing cursor rest with
  | _ left ih =>
      subst hleft
      rw [validateAssetRecords_eq]
      constructor
      · intro h
        split at h
        · cases h
        · next hnext =>
            obtain rfl := Except.ok.inj h
            exact ⟨[], (nextRecord_eq_none hat hsize).mp hnext, rfl, hcount, hbytes⟩
        · next cursor' hnext =>
            obtain ⟨asset, left, rfl, -, hless, hfits, rfl⟩ := (nextRecord_iff hat hsize).mp hnext
            obtain ⟨assets, rfl, hn, hmax, htotal⟩ :=
              (ih _ (Nat.sub_succ_lt_self _ _ hless) hat.advance (Nat.succ_le_of_lt hless) hfits
                rfl).mp h
            dsimp only at hn htotal
            refine ⟨asset :: assets, ?_, ?_, hmax, ?_⟩
            · rw [assetRecords, assetRecords, List.flatMap_cons, List.append_assoc]
            · rw [List.length_cons]
              omega
            · rw [List.map_cons, List.sum_cons]
              omega
      · rintro ⟨assets, hrest, rfl, hn, htotal⟩
        cases assets with
        | nil => rw [(nextRecord_eq_none hat hsize).mpr hrest]; rfl
        | cons asset assets =>
            rw [List.map_cons, List.sum_cons] at htotal
            rw [List.length_cons] at hn
            rw [assetRecords, List.flatMap_cons, List.append_assoc] at hrest
            subst hrest
            have hlimit : maxAssetBytes < 256 ^ 4 := by decide
            have hless : cursor.assetCount < maxAssetCount := by omega
            have hnext := (nextRecord_iff hat hsize).mpr
              ⟨asset, _, rfl, by omega, hless, by omega, rfl⟩
            rw [hnext]
            refine (ih _ (Nat.sub_succ_lt_self _ _ hless) hat.advance (Nat.succ_le_of_lt hless) ?_
              rfl).mpr ⟨assets, rfl, ?_, hn, ?_⟩
            · dsimp only
              omega
            · dsimp only [List.length_cons]
              omega
            · dsimp only
              omega

/-! ## What never happens -/

/-- The faults of arithmetic and of indexing. -/
def OutOfRange (e : Fault) : Prop :=
  e = .panicked ∨ e = invalid "record offset overflowed" ∨ e = invalid "asset sizes overflow"

instance (e : Fault) : Decidable (OutOfRange e) :=
  inferInstanceAs (Decidable (_ ∨ _ ∨ _))

abbrev InRange {α : Type} (x : Except Fault α) : Prop :=
  FailsWithin (fun e => ¬ OutOfRange e) x

theorem inRange_okOr {α : Type} {o : Option α} {e : Fault} (h : o.isSome = true ∨ ¬ OutOfRange e) :
    InRange (okOr o e) := by
  cases o with
  | some a => exact failsWithin_ok a
  | none => exact failsWithin_error (h.resolve_left (by simp))

theorem inRange_refuse {c : Prop} [Decidable c] {e : Fault} (h : ¬ OutOfRange e) :
    InRange (refuse c e) :=
  failsWithin_ite (failsWithin_error h) (failsWithin_ok _)

theorem checkedAdd_isSome {a b : Nat} (h : a + b ≤ wordMax) : (checkedAdd a b).isSome = true := by
  rw [checkedAdd_eq_some.mpr ⟨h, rfl⟩]
  rfl

theorem inRange_readLength (hat : At content offset rest)
    (hsize : content.length ≤ maxAttachmentBytes) : InRange (readLength content offset) := by
  have hword := offset_word hat hsize
  refine failsWithin_bind (inRange_okOr (Or.inl (checkedAdd_isSome (by omega)))) fun stop _ => ?_
  exact failsWithin_bind (inRange_okOr (Or.inr (by decide))) fun bytes _ => failsWithin_pure _

theorem inRange_readRecord (hat : At content offset rest)
    (hsize : content.length ≤ maxAttachmentBytes) {length : Nat} (hlength : length < 256 ^ 4) :
    InRange (readRecord content offset length) := by
  have hword := offset_word hat hsize
  have hinside := hat.inside
  have hlimit : maxAttachmentBytes + 256 ^ 4 ≤ wordMax := by decide
  refine failsWithin_bind (inRange_okOr (Or.inl (checkedAdd_isSome (by omega)))) fun stop _ => ?_
  exact failsWithin_bind (inRange_okOr (Or.inr (by decide))) fun record _ => failsWithin_pure _

theorem inRange_nextRecord {cursor : RecordCursor} (hat : At content cursor.offset rest)
    (hsize : content.length ≤ maxAttachmentBytes) (hcount : cursor.assetCount ≤ maxAssetCount)
    (hbytes : cursor.assetBytes ≤ maxAssetBytes) : InRange (nextRecord content cursor) := by
  have hword := offset_word hat hsize
  have hlimits : maxAssetCount + 1 ≤ wordMax ∧ maxAssetBytes + 256 ^ 4 ≤ wordMax := by decide
  refine failsWithin_bind (inRange_okOr (Or.inr (by decide))) fun marker hmarker => ?_
  rw [okOr_eq_ok, hat.getElem?] at hmarker
  obtain ⟨tail, rfl⟩ := List.head?_eq_some_iff.mp hmarker
  refine failsWithin_bind (inRange_okOr (Or.inl (checkedAdd_isSome (by omega)))) fun offset h => ?_
  obtain ⟨-, rfl⟩ := plus_eq_ok.mp h
  refine failsWithin_ite ?_ ?_
  · exact failsWithin_bind (inRange_refuse (by decide)) fun _ _ => failsWithin_pure _
  · refine failsWithin_bind (inRange_refuse (by decide)) fun _ _ => ?_
    refine failsWithin_bind (inRange_refuse (by decide)) fun _ _ => ?_
    refine failsWithin_bind (inRange_readLength hat.next hsize) fun read hread => ?_
    obtain ⟨length, stop⟩ := read
    obtain ⟨hlength, rfl, left, rfl⟩ := (readLength_eq_ok hat.next hsize).mp hread
    refine failsWithin_bind (inRange_okOr (Or.inl (checkedAdd_isSome ?_))) fun total _ => ?_
    · omega
    refine failsWithin_bind (inRange_refuse (by decide)) fun _ _ => ?_
    have hbody : At content (cursor.offset + 1 + 4) left := by
      have hadvance := hat.next.advance
      rwa [length_leBytes] at hadvance
    refine failsWithin_bind (inRange_readRecord hbody hsize hlength) fun record _ => ?_
    refine failsWithin_bind (inRange_okOr (Or.inl (checkedAdd_isSome ?_))) fun _ _ => ?_
    · omega
    · exact failsWithin_pure _

theorem inRange_validateAssetRecords {cursor : RecordCursor}
    (hat : At content cursor.offset rest) (hsize : content.length ≤ maxAttachmentBytes)
    (hcount : cursor.assetCount ≤ maxAssetCount) (hbytes : cursor.assetBytes ≤ maxAssetBytes) :
    InRange (validateAssetRecords content cursor) := by
  induction hleft : maxAssetCount - cursor.assetCount using Nat.strong_induction_on
    generalizing cursor rest with
  | _ left ih =>
      subst hleft
      rw [validateAssetRecords_eq]
      split
      · next hnext =>
          exact failsWithin_error (inRange_nextRecord hat hsize hcount hbytes _ hnext)
      · exact failsWithin_ok _
      · next cursor' hnext =>
          obtain ⟨asset, left, rfl, -, hless, hfits, rfl⟩ := (nextRecord_iff hat hsize).mp hnext
          exact ih _ (Nat.sub_succ_lt_self _ _ hless) hat.advance (Nat.succ_le_of_lt hless) hfits
            rfl

end Reading

/-! ## The parser -/

section Parser

variable {fromSlice : List UInt8 → Option Json} {content : List UInt8}

theorem rpackDecode_isOk (byte : UInt8) : rpackDecodeTable[byte.toNat]?.isSome = true := by
  have hlength : rpackDecodeTable.length = 256 := by decide +kernel
  rw [List.getElem?_eq_getElem (hlength ▸ byte.toNat_lt)]
  rfl

theorem bind_asObject_eq_some {value : Option Json} {members : List (String × Json)} :
    value.bind Json.asObject = some members ↔ value = some (.object members) := by
  constructor
  · intro h
    obtain ⟨json, rfl, hobject⟩ := Option.bind_eq_some_iff.mp h
    cases json with
    | object members' =>
        obtain rfl := Option.some.inj hobject
        rfl
    | null | bool | number | string | array => cases hobject
  · rintro rfl
    rfl

/-- The parser accepts a byte string with the module and the count of its assets. -/
theorem decodeRisumPayload_eq_ok {payload : DecodedRisuPayload} :
    decodeRisumPayload fromSlice content = .ok payload ↔
      ∃ assets, IsRisum fromSlice content payload.module assets ∧
        payload.assetRecords = assets.length := by
  simp only [decodeRisumPayload, bind_eq_ok, okOr_eq_ok, refuse_eq_ok, not_or, Nat.not_lt, not_not,
    bind_asObject_eq_some]
  constructor
  · rintro ⟨_, ⟨-, hsize⟩, _, -, magic, hmagic, _, rfl, version, hversion, _, rfl,
      ⟨length, offset⟩, hlength, _, hmain, ⟨main, stop⟩, hread, json, hjson, value, hvalue, root,
      hroot, _, htype, module, hmodule, n, hrecords, hpure⟩
    obtain rfl := pure_eq_ok.mp hpure
    rw [← List.head?_eq_getElem?] at hmagic
    obtain ⟨tail, rfl⟩ := List.head?_eq_some_iff.mp hmagic
    rw [List.getElem?_cons_succ, ← List.head?_eq_getElem?] at hversion
    obtain ⟨tail, rfl⟩ := List.head?_eq_some_iff.mp hversion
    have hheader : At (risuMagic :: risuVersion :: tail) 2 tail := (at_start _).next.next
    obtain ⟨-, rfl, left, rfl⟩ := (readLength_eq_ok hheader hsize).mp hlength
    have hbody := hheader.advance
    rw [length_leBytes] at hbody
    obtain ⟨rfl, rfl, left, rfl⟩ := (readRecord_eq_ok hbody hsize).mp hread
    obtain ⟨assets, rfl, rfl, hcount, htotal⟩ :=
      (validateAssetRecords_eq_ok hbody.advance hsize (Nat.zero_le _) (Nat.zero_le _)).mp hrecords
    rw [Nat.zero_add] at hcount htotal ⊢
    obtain rfl : value = .object root := Option.some.inj (bind_asObject_eq_some.mp hroot)
    exact ⟨assets, ⟨hsize, ⟨main, json, root, rfl, hmain, hjson, hvalue, htype, hmodule⟩, hcount,
      htotal⟩, rfl⟩
  · rintro ⟨assets, ⟨hsize, ⟨main, json, root, rfl, hmain, hjson, hvalue, htype, hmodule⟩, hcount,
      htotal⟩, hn⟩
    have hlimit : maxMainBytes < 256 ^ 4 := by decide
    have hheader : At (risumBytes main assets) 2
        (leBytes 4 main.length ++ (main ++ assetRecords assets)) := (at_start _).next.next
    have hbody := hheader.advance
    rw [length_leBytes] at hbody
    have hlong : 7 ≤ (risumBytes main assets).length := by
      rw [hheader.length, List.length_append, List.length_append, length_leBytes, assetRecords,
        List.length_append, List.length_singleton]
      omega
    have hrecords : validateAssetRecords (risumBytes main assets) ⟨2 + 4 + main.length, 0, 0⟩ =
        .ok assets.length :=
      (validateAssetRecords_eq_ok hbody.advance hsize (Nat.zero_le _) (Nat.zero_le _)).mpr
        ⟨assets, rfl, (Nat.zero_add _).symm, hcount, (Nat.zero_add _).trans_le htotal⟩
    refine ⟨(), ⟨List.cons_ne_nil _ _, hsize⟩, (), hlong, risuMagic, rfl, (), rfl, risuVersion, rfl,
      (), rfl, _, (readLength_eq_ok hheader hsize).mpr ⟨by omega, rfl, _, rfl⟩, (), hmain, _,
      (readRecord_eq_ok hbody hsize).mpr ⟨rfl, rfl, _, rfl⟩, json, hjson, _, hvalue, root, rfl, (),
      htype, _, hmodule, _, hrecords, ?_⟩
    cases payload
    dsimp only at hn
    rw [hn]
    rfl

/-- No index and no sum is out of range, whatever the bytes are. -/
theorem inRange_decodeRisumPayload : InRange (decodeRisumPayload fromSlice content) := by
  refine failsWithin_bind (inRange_refuse (by decide)) fun _ hsized => ?_
  rw [refuse_eq_ok, not_or, Nat.not_lt] at hsized
  refine failsWithin_bind (inRange_refuse (by decide)) fun _ hlong => ?_
  rw [refuse_eq_ok, Nat.not_lt] at hlong
  refine failsWithin_bind (inRange_okOr (Or.inl ?_)) fun magic hmagic => ?_
  · rw [List.getElem?_eq_getElem (by omega)]
    rfl
  refine failsWithin_bind (inRange_refuse (by decide)) fun _ _ => ?_
  refine failsWithin_bind (inRange_okOr (Or.inl ?_)) fun version hversion => ?_
  · rw [List.getElem?_eq_getElem (by omega)]
    rfl
  refine failsWithin_bind (inRange_refuse (by decide)) fun _ _ => ?_
  have hheader : At content 2 (content.drop 2) := ⟨by omega, rfl⟩
  refine failsWithin_bind (inRange_readLength hheader hsized.2) fun read hread => ?_
  obtain ⟨length, offset⟩ := read
  obtain ⟨hword, rfl, left, hleft⟩ := (readLength_eq_ok hheader hsized.2).mp hread
  refine failsWithin_bind (inRange_refuse (by decide)) fun _ _ => ?_
  rw [hleft] at hheader
  have hbody := hheader.advance
  rw [length_leBytes] at hbody
  refine failsWithin_bind (inRange_readRecord hbody hsized.2 hword) fun record hrecord => ?_
  obtain ⟨main, stop⟩ := record
  obtain ⟨rfl, rfl, left, rfl⟩ := (readRecord_eq_ok hbody hsized.2).mp hrecord
  refine failsWithin_bind (failsWithin_mapM fun byte _ =>
    inRange_okOr (Or.inl (rpackDecode_isOk byte))) fun json _ => ?_
  refine failsWithin_bind (inRange_okOr (Or.inr (by decide))) fun value _ => ?_
  refine failsWithin_bind (inRange_okOr (Or.inr (by decide))) fun root _ => ?_
  refine failsWithin_bind (inRange_refuse (by decide)) fun _ _ => ?_
  refine failsWithin_bind (inRange_okOr (Or.inr (by decide))) fun module _ => ?_
  refine failsWithin_bind ?_ fun _ _ => failsWithin_pure _
  exact inRange_validateAssetRecords hbody.advance hsized.2 (Nat.zero_le _) (Nat.zero_le _)

/-! ## Encoding -/

/-- The JSON of a module, as the exporter writes it. -/
def moduleRoot (module : List (String × Json)) : Json :=
  .object [("type", .string "risuModule"), ("module", .object module)]

/-- `toVec` is `serde_json::to_vec`. -/
def encodeRisum (toVec : Json → List UInt8) (module : List (String × Json))
    (assets : List (List UInt8)) : List UInt8 :=
  risumBytes ((toVec (moduleRoot module)).map rpackEncode) assets

theorem mapM_rpackDecode (json : List UInt8) :
    (json.map rpackEncode).mapM rpackDecode = .ok json := by
  induction json with
  | nil => rfl
  | cons byte json ih =>
      rw [List.map_cons, mapM_cons_eq_ok]
      exact ⟨byte, json, rpackDecode_rpackEncode byte, ih, rfl⟩

theorem isRisum_encodeRisum {toVec : Json → List UInt8} {module : List (String × Json)}
    {assets : List (List UInt8)}
    (hroundTrip : fromSlice (toVec (moduleRoot module)) = some (moduleRoot module))
    (hmain : (toVec (moduleRoot module)).length ≤ maxMainBytes)
    (hcount : assets.length ≤ maxAssetCount)
    (htotal : (assets.map List.length).sum ≤ maxAssetBytes)
    (hsize : (encodeRisum toVec module assets).length ≤ maxAttachmentBytes) :
    IsRisum fromSlice (encodeRisum toVec module assets) module assets := by
  refine ⟨hsize, ⟨_, _, _, rfl, ?_, mapM_rpackDecode _, hroundTrip, ?_, ?_⟩, hcount, htotal⟩
  · rw [List.length_map]
    exact hmain
  · show text (some (.string "risuModule")) = "risuModule".toList
    decide +kernel
  · rfl

end Parser

/-- The parser accepts exactly the module files, reads their module and the number of their
records, stays in range on all bytes, and reads back what is encoded within the limits. -/
theorem risum_parser_exact (fromSlice : List UInt8 → Option Json) :
    (∀ content module n,
      decodeRisumPayload fromSlice content = .ok ⟨module, n⟩ ↔
        ∃ assets, IsRisum fromSlice content module assets ∧ n = assets.length) ∧
    (∀ content e, decodeRisumPayload fromSlice content = .error e → ¬ OutOfRange e) ∧
    ∀ (toVec : Json → List UInt8) module assets,
      fromSlice (toVec (moduleRoot module)) = some (moduleRoot module) →
      (toVec (moduleRoot module)).length ≤ maxMainBytes →
      assets.length ≤ maxAssetCount →
      (assets.map List.length).sum ≤ maxAssetBytes →
      (encodeRisum toVec module assets).length ≤ maxAttachmentBytes →
      decodeRisumPayload fromSlice (encodeRisum toVec module assets) =
        .ok ⟨module, assets.length⟩ := by
  refine ⟨fun content module n => decodeRisumPayload_eq_ok, ?_, ?_⟩
  · exact fun content => inRange_decodeRisumPayload
  · intro toVec module assets hroundTrip hmain hcount htotal hsize
    exact decodeRisumPayload_eq_ok.mpr
      ⟨assets, isRisum_encodeRisum hroundTrip hmain hcount htotal hsize, rfl⟩

/-- An empty module with one asset of three bytes. -/
theorem risum_one_asset :
    let json : List UInt8 := "\x7b\"type\":\"risuModule\",\"module\":\x7b\x7d\x7d".toUTF8.toList
    let fromSlice : List UInt8 → Option Json := fun bytes =>
      if bytes = json then some (moduleRoot []) else none
    decodeRisumPayload fromSlice (encodeRisum (fun _ => json) [] [[1, 2, 3]]) = .ok ⟨[], 1⟩ := by
  intro json fromSlice
  obtain ⟨-, -, hreads⟩ := risum_parser_exact fromSlice
  refine hreads (fun _ => json) [] [[1, 2, 3]] (if_pos rfl) ?_ (by decide) (by decide) ?_
  · decide +kernel
  · decide +kernel

end AgentsAssemble.Persistence.Risu
