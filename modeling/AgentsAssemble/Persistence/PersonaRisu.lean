import AgentsAssemble.Domain.Event
import AgentsAssemble.Domain.Persona
import AgentsAssemble.Foundation.Bytes
import AgentsAssemble.Foundation.Counters
import AgentsAssemble.Foundation.Errors
import AgentsAssemble.Foundation.Json

/-!
# Risu modules

The binary module format: a header, the module as JSON behind a permutation of the
bytes, records of assets, and an end marker.  Positions and totals are 64-bit words;
an index or an unchecked sum out of range would be a panic.
-/

namespace AgentsAssemble.Persistence.Risu

open Domain Foundation
open Foundation.Bytes (leValue slice)
open Foundation.Result (bind_eq_ok pure_eq_ok)

def risuMagic : UInt8 := 111
def risuVersion : UInt8 := 0
def assetMarker : UInt8 := 1
def eofMarker : UInt8 := 0
def maxMainBytes : Nat := 5 * 1024 * 1024
def maxAssetBytes : Nat := 8 * 1024 * 1024
def maxAssetCount : Nat := 256

inductive PersonaImportError
  | invalidSize
  | invalidModule (message : String)
  deriving DecidableEq, Repr

/-- How the parser stops without a module. -/
inductive Fault
  | rejected (error : PersonaImportError)
  | panicked
  deriving DecidableEq, Repr

def invalid (message : String) : Fault :=
  .rejected (.invalidModule message)

/-- `ok_or_else`. -/
def okOr {α : Type} (o : Option α) (e : Fault) : Except Fault α :=
  match o with
  | some a => .ok a
  | none => .error e

/-- `if c { return Err(e) }`. -/
def refuse (c : Prop) [Decidable c] (e : Fault) : Except Fault Unit :=
  if c then .error e else .ok ()

/-- The sum of two words, which panics where it overflows. -/
def plus (a b : Nat) : Except Fault Nat :=
  okOr (checkedAdd a b) .panicked

/-! ## The byte permutation -/

def rpackDecodeTable : List UInt8 :=
  [ 0x2c, 0xf7, 0x84, 0x8b, 0xc9, 0x65, 0xfb, 0xb6, 0x9f, 0xae, 0xb3, 0x03, 0x2d, 0x01, 0x69, 0x74
  , 0x1f, 0xe4, 0xa3, 0xec, 0xee, 0x5c, 0x34, 0x21, 0x93, 0x4a, 0x0f, 0x6a, 0xe2, 0x62, 0x02, 0x9e
  , 0x22, 0x9c, 0xfd, 0x3c, 0xfc, 0x71, 0xc7, 0xc6, 0xad, 0x59, 0x67, 0x05, 0x70, 0x6d, 0x8a, 0x44
  , 0x12, 0xfa, 0x24, 0x86, 0x5f, 0xaf, 0xd1, 0x7a, 0x47, 0xce, 0xfe, 0x50, 0x63, 0xdd, 0x51, 0x06
  , 0x6f, 0x18, 0xe0, 0x52, 0xa8, 0x09, 0x9d, 0x56, 0x73, 0x4c, 0xb8, 0x53, 0x6c, 0xc3, 0xa0, 0x0e
  , 0x19, 0xcf, 0x3e, 0x0d, 0x7e, 0x07, 0x32, 0x68, 0x46, 0xea, 0x48, 0xf9, 0x99, 0x2e, 0xab, 0xa4
  , 0x49, 0x20, 0x5e, 0x55, 0x35, 0x38, 0x0c, 0xbc, 0xd3, 0xb1, 0x58, 0x16, 0x79, 0x28, 0x0a, 0x1a
  , 0xe1, 0xf2, 0xcd, 0xc4, 0x39, 0xdb, 0xa2, 0xba, 0x60, 0x72, 0x76, 0x7d, 0x95, 0xef, 0x7f, 0xc8
  , 0xc0, 0xde, 0x37, 0x94, 0xbf, 0xb5, 0x14, 0x81, 0x92, 0x25, 0x45, 0xac, 0xe7, 0xf5, 0x66, 0xa7
  , 0x2b, 0x36, 0x5a, 0xc1, 0x13, 0xe3, 0x4b, 0x3a, 0xe8, 0x8d, 0x83, 0x1b, 0x7c, 0x27, 0xb0, 0x9a
  , 0x42, 0xeb, 0x87, 0xaa, 0xdc, 0x54, 0x8e, 0x78, 0x26, 0xd2, 0x57, 0x29, 0xd4, 0xb7, 0xf8, 0x2f
  , 0x8f, 0x89, 0x75, 0xf0, 0x41, 0x77, 0xc2, 0x1e, 0xff, 0xd8, 0x15, 0x11, 0xe5, 0x04, 0x97, 0x17
  , 0xf3, 0x31, 0xd0, 0x9b, 0x00, 0xd7, 0xca, 0xb4, 0x4f, 0x2a, 0x3b, 0xd9, 0xb2, 0x6b, 0xda, 0x5d
  , 0xa1, 0x3f, 0x30, 0x61, 0xbd, 0x91, 0x3d, 0x4e, 0xe6, 0xdf, 0xbe, 0x4d, 0x82, 0x8c, 0x1d, 0x23
  , 0x10, 0x98, 0x64, 0xf4, 0x85, 0x33, 0x7b, 0x90, 0x43, 0xbb, 0xa9, 0x88, 0xf1, 0xd6, 0xa5, 0x1c
  , 0xf6, 0xcc, 0x6e, 0xb9, 0x5b, 0x0b, 0x96, 0xed, 0xd5, 0xe9, 0xc5, 0xcb, 0x08, 0xa6, 0x80, 0x40 ]

/-- `RPACK_DECODE[usize::from(byte)]`. -/
def rpackDecode (byte : UInt8) : Except Fault UInt8 :=
  okOr rpackDecodeTable[byte.toNat]? .panicked

/-- The position of a byte in the table. -/
def rpackEncode (byte : UInt8) : UInt8 :=
  UInt8.ofNat (rpackDecodeTable.idxOf byte)

/-- Every byte is the decoding of one. -/
theorem mem_rpackDecodeTable (byte : UInt8) : byte ∈ rpackDecodeTable := by
  have hmask : Bytes.mask (rpackDecodeTable.map UInt8.toNat) = 2 ^ 256 - 1 := by decide +kernel
  obtain ⟨other, hother, hsame⟩ := List.mem_map.mp (Bytes.mem_of_mask hmask byte.toNat_lt)
  exact UInt8.toNat_inj.mp hsame ▸ hother

/-! ## Reading -/

def readLength (content : List UInt8) (offset : Nat) : Except Fault (Nat × Nat) := do
  let stop ← okOr (checkedAdd offset 4) (invalid "record offset overflowed")
  let bytes ← okOr ((slice content offset stop).filter fun bytes => bytes.length = 4)
    (invalid "record length is truncated")
  pure (leValue bytes, stop)

def readRecord (content : List UInt8) (offset length : Nat) :
    Except Fault (List UInt8 × Nat) := do
  let stop ← okOr (checkedAdd offset length) (invalid "record offset overflowed")
  let record ← okOr (slice content offset stop) (invalid "record body is truncated")
  pure (record, stop)

/-- Where the loop over the asset records stands. -/
structure RecordCursor where
  offset : Nat
  assetCount : Nat
  assetBytes : Nat
  deriving DecidableEq, Repr

/-- One turn of the loop; no cursor at the end marker. -/
def nextRecord (content : List UInt8) (cursor : RecordCursor) :
    Except Fault (Option RecordCursor) := do
  let marker ← okOr content[cursor.offset]? (invalid "EOF marker is missing")
  let offset ← plus cursor.offset 1
  if marker = eofMarker then
    refuse (offset ≠ content.length) (invalid "trailing bytes follow the EOF marker")
    pure none
  else
    refuse (marker ≠ assetMarker) (invalid "asset record marker is invalid")
    refuse (maxAssetCount ≤ cursor.assetCount) (invalid "too many asset records")
    let (length, offset) ← readLength content offset
    let assetBytes ← okOr (checkedAdd cursor.assetBytes length) (invalid "asset sizes overflow")
    refuse (maxAssetBytes < assetBytes) (invalid "asset records exceed 8 MiB")
    let (_, offset) ← readRecord content offset length
    let assetCount ← plus cursor.assetCount 1
    pure (some { offset, assetCount, assetBytes })

/-! ## What one turn does -/

theorem okOr_eq_ok {α : Type} {o : Option α} {e : Fault} {a : α} :
    okOr o e = .ok a ↔ o = some a := by
  cases o with
  | none => simp [okOr]
  | some b => simp [okOr]

/-- The tables of encoding and decoding are each other's inverse. -/
theorem rpackDecode_rpackEncode (byte : UInt8) : rpackDecode (rpackEncode byte) = .ok byte := by
  have hlength : rpackDecodeTable.length = 256 := by decide +kernel
  have hindex : rpackDecodeTable.idxOf byte < 256 :=
    (List.idxOf_lt_length_of_mem (mem_rpackDecodeTable byte)).trans_eq hlength
  rw [rpackDecode, rpackEncode, okOr_eq_ok, UInt8.toNat_ofNat', Nat.mod_eq_of_lt hindex]
  exact List.getElem?_idxOf (mem_rpackDecodeTable byte)

theorem refuse_eq_ok {c : Prop} [Decidable c] {e : Fault} {u : Unit} :
    refuse c e = .ok u ↔ ¬ c := by
  by_cases h : c
  · simp [refuse, h]
  · simp [refuse, h]

theorem plus_eq_ok {a b c : Nat} : plus a b = .ok c ↔ a + b ≤ wordMax ∧ a + b = c := by
  rw [plus, okOr_eq_ok, checkedAdd_eq_some]

/-- One turn that goes on read a record, within the limits. -/
theorem nextRecord_eq_some {content : List UInt8} {cursor cursor' : RecordCursor} :
    nextRecord content cursor = .ok (some cursor') ↔
      content[cursor.offset]? = some assetMarker ∧ cursor.offset + 1 ≤ wordMax ∧
        cursor.assetCount < maxAssetCount ∧
        ∃ length offset, readLength content (cursor.offset + 1) = .ok (length, offset) ∧
          cursor.assetBytes + length ≤ maxAssetBytes ∧
          ∃ record, readRecord content offset length = .ok (record, cursor'.offset) ∧
            cursor'.assetCount = cursor.assetCount + 1 ∧
            cursor'.assetBytes = cursor.assetBytes + length := by
  simp only [nextRecord, bind_eq_ok, okOr_eq_ok, plus_eq_ok]
  constructor
  · rintro ⟨marker, hmarker, offset, ⟨hoffset, rfl⟩, h⟩
    split at h
    · obtain ⟨_, -, hnone⟩ := bind_eq_ok.mp h
      cases hnone
    · simp only [bind_eq_ok, okOr_eq_ok, plus_eq_ok, refuse_eq_ok, checkedAdd_eq_some,
        Decidable.not_not, Nat.not_le, Nat.not_lt] at h
      obtain ⟨_, rfl, _, hcount, ⟨length, offset⟩, hlength, _, ⟨-, rfl⟩, _, hbytes,
        ⟨record, stop⟩, hrecord, _, ⟨-, rfl⟩, hcursor⟩ := h
      obtain rfl := Option.some.inj (pure_eq_ok.mp hcursor)
      exact ⟨hmarker, hoffset, hcount, length, offset, hlength, hbytes, record, hrecord, rfl, rfl⟩
  · rintro ⟨hmarker, hoffset, hcount, length, offset, hlength, hbytes, record, hrecord, hcounted,
      htotal⟩
    have hword : maxAssetBytes ≤ wordMax := by decide
    have hwordCount : maxAssetCount ≤ wordMax := by decide
    refine ⟨assetMarker, hmarker, _, ⟨hoffset, rfl⟩, ?_⟩
    rw [if_neg (by decide)]
    simp only [bind_eq_ok, okOr_eq_ok, plus_eq_ok, refuse_eq_ok, checkedAdd_eq_some,
      Decidable.not_not, Nat.not_le, Nat.not_lt]
    refine ⟨(), trivial, (), hcount, _, hlength, _, ⟨hbytes.trans hword, rfl⟩, (), hbytes, _,
      hrecord, _, ⟨?_, rfl⟩, ?_⟩
    · exact (Nat.succ_le_of_lt hcount).trans hwordCount
    · rw [← hcounted, ← htotal]
      rfl

theorem nextRecord_counts {content : List UInt8} {cursor cursor' : RecordCursor}
    (h : nextRecord content cursor = .ok (some cursor')) :
    cursor.assetCount < maxAssetCount ∧ cursor'.assetCount = cursor.assetCount + 1 := by
  obtain ⟨-, -, hless, _, _, -, -, _, -, hcount, -⟩ := nextRecord_eq_some.mp h
  exact ⟨hless, hcount⟩

/-- The loop over the asset records. -/
def validateAssetRecords (content : List UInt8) (cursor : RecordCursor) : Except Fault Nat :=
  match _hnext : nextRecord content cursor with
  | .error e => .error e
  | .ok none => .ok cursor.assetCount
  | .ok (some cursor') => validateAssetRecords content cursor'
termination_by maxAssetCount - cursor.assetCount
decreasing_by
  obtain ⟨hless, hcount⟩ := nextRecord_counts _hnext
  omega

theorem validateAssetRecords_eq (content : List UInt8) (cursor : RecordCursor) :
    validateAssetRecords content cursor =
      match nextRecord content cursor with
      | .error e => .error e
      | .ok none => .ok cursor.assetCount
      | .ok (some cursor') => validateAssetRecords content cursor' := by
  rw [validateAssetRecords]
  split
  · next hnext => rw [hnext]
  · next hnext => rw [hnext]
  · next hnext => rw [hnext]

structure DecodedRisuPayload where
  module : List (String × Json)
  assetRecords : Nat

/-- `persona_import::text`. -/
def text (value : Option Json) : List Char :=
  trimPersonaCardText ((value.bind Json.asStr).getD "").toList

/-- `fromSlice` is `serde_json::from_slice`. -/
def decodeRisumPayload (fromSlice : List UInt8 → Option Json) (content : List UInt8) :
    Except Fault DecodedRisuPayload := do
  refuse (content = [] ∨ maxAttachmentBytes < content.length) (.rejected .invalidSize)
  refuse (content.length < 7) (invalid "magic byte is invalid")
  let magic ← okOr content[0]? .panicked
  refuse (magic ≠ risuMagic) (invalid "magic byte is invalid")
  let version ← okOr content[1]? .panicked
  refuse (version ≠ risuVersion) (invalid "version is unsupported")
  let (mainLength, offset) ← readLength content 2
  refuse (maxMainBytes < mainLength) (invalid "main payload exceeds 5 MiB")
  let (encoded, offset) ← readRecord content offset mainLength
  let decoded ← encoded.mapM rpackDecode
  let value ← okOr (fromSlice decoded) (invalid "JSON is invalid")
  let root ← okOr value.asObject (invalid "payload root must be an object")
  refuse (text (Json.get root "type") ≠ "risuModule".toList)
    (invalid "payload type must be risuModule")
  let module ← okOr ((Json.get root "module").bind Json.asObject)
    (invalid "module must be an object")
  let assetRecords ← validateAssetRecords content ⟨offset, 0, 0⟩
  pure { module, assetRecords }

end AgentsAssemble.Persistence.Risu
