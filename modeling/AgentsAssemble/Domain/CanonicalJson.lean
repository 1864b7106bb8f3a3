import AgentsAssemble.Foundation.Json
import AgentsAssemble.Foundation.JsonText
import Mathlib.Data.List.Sort
import Mathlib.Order.Basic
import Mathlib.Data.String.Basic

/-!
# Canonical JSON

The canonical encoding of a JSON value sorts the members of every object by key
and spells everything else in one way, so that its text identifies the value up
to the order of members.  The digest of the text is what commands are compared
by.

An encoding is the printed text of one document, and the reader of the JSON
grammar gets that document back; everything below rests on that.
-/

namespace AgentsAssemble.Domain.CanonicalJson

open Foundation

/-! ## Values -/

/-- The exponent of a double is not the one of infinities and NaNs. -/
def isFiniteDouble (bits : UInt64) : Bool :=
  bits.toNat / 2 ^ 52 % 2 ^ 11 != 2 ^ 11 - 1

/-- How the JSON library spells a double. -/
class DoubleText where
  text : UInt64 → List Char
  isNumberToken_text : ∀ bits, isFiniteDouble bits = true →
    JsonText.isNumberToken (text bits) = true

/-- What a decoded value satisfies: an object is a map, and a double is finite. -/
structure IsValue (v : Json) : Prop where
  distinct : ∀ members, Json.Nested (.object members) v → (members.map Prod.fst).Nodup
  finite : ∀ bits, Json.Nested (.number (.float bits)) v → isFiniteDouble bits = true

abbrev Value := { v : Json // IsValue v }

theorem IsValue.nested {v w : Json} (h : IsValue v) (hw : Json.Nested w v) : IsValue w :=
  ⟨fun members hmembers => h.distinct members (hmembers.trans hw),
    fun bits hbits => h.finite bits (hbits.trans hw)⟩

theorem IsValue.item {items : List Json} (h : IsValue (.array items)) {item : Json}
    (hitem : item ∈ items) : IsValue item :=
  h.nested (.item hitem .here)

theorem IsValue.member {members : List (String × Json)} (h : IsValue (.object members))
    {member : String × Json} (hmember : member ∈ members) : IsValue member.2 :=
  h.nested (.member hmember .here)

/-! ## Encoding -/

/-- `{:04x}`. -/
def hex4 (n : Nat) : List Char :=
  [Nat.digitChar (n / 4096 % 16), Nat.digitChar (n / 256 % 16), Nat.digitChar (n / 16 % 16),
    Nat.digitChar (n % 16)]

def encodeCharacter (character : Char) : List Char :=
  if character = '"' then ['\\', '"']
  else if character = '\\' then ['\\', '\\']
  else if character = '\x08' then ['\\', 'b']
  else if character = '\x0c' then ['\\', 'f']
  else if character = '\n' then ['\\', 'n']
  else if character = '\r' then ['\\', 'r']
  else if character = '\t' then ['\\', 't']
  else if character ≤ '\x1f' then '\\' :: 'u' :: hex4 character.toNat
  else [character]

def encodeString (value : String) : List Char :=
  '"' :: (value.toList.flatMap encodeCharacter ++ ['"'])

/-- `sort_unstable_by_key` on the keys of a map, which are distinct. -/
def sortEntries {α : Type} (entries : List (String × α)) : List (String × α) :=
  entries.insertionSort fun a b => a.1 ≤ b.1

section Encode

variable [DoubleText]

/-- `Number::to_string`. -/
def numberText : Number → List Char
  | .posInt value => Nat.toDigits 10 value.toNat
  | .negInt value => (toString value.toInt).toList
  | .float bits => DoubleText.text bits

mutual

def encode : Json → List Char
  | .null => ['n', 'u', 'l', 'l']
  | .bool true => ['t', 'r', 'u', 'e']
  | .bool false => ['f', 'a', 'l', 's', 'e']
  | .number value => numberText value
  | .string value => encodeString value
  | .array values => '[' :: (List.intercalate [','] (encodeItems values) ++ [']'])
  | .object values =>
      '{' :: (List.intercalate [',']
        ((sortEntries (encodeEntries values)).map fun entry =>
          encodeString entry.1 ++ ':' :: entry.2) ++ ['}'])

def encodeItems : List Json → List (List Char)
  | [] => []
  | value :: values => encode value :: encodeItems values

/-- The entries with their values encoded.  Sorting looks at the keys alone, so it does not
matter that it comes second. -/
def encodeEntries : List (String × Json) → List (String × List Char)
  | [] => []
  | (key, value) :: values => (key, encode value) :: encodeEntries values

end

/-- `canonical_json::encode`. -/
def encoded (value : Json) : String :=
  String.ofList (encode value)

end Encode

/-- A cryptographic digest of a byte string. -/
class Sha256 where
  digest : List UInt8 → List UInt8

/-- `{:x}` of a digest: two hexadecimal digits for each byte. -/
def hexText (bytes : List UInt8) : String :=
  String.ofList (bytes.flatMap fun byte =>
    [Nat.digitChar (byte.toNat / 16), Nat.digitChar (byte.toNat % 16)])

def bytesOf (text : String) : List UInt8 :=
  text.toUTF8.data.toList

def canonicalPayloadHash [DoubleText] [Sha256] (payload : Json) : String :=
  hexText (Sha256.digest (bytesOf (encoded payload)))

/-! ## Equality of values -/

/-- Two values are equal as JSON values: objects as unordered maps, numbers by their text. -/
inductive SameValue [DoubleText] : Json → Json → Prop
  | null : SameValue .null .null
  | bool (value : Bool) : SameValue (.bool value) (.bool value)
  | number {m n : Number} : numberText m = numberText n → SameValue (.number m) (.number n)
  | string (value : String) : SameValue (.string value) (.string value)
  | array {vs ws : List Json} : vs.length = ws.length →
      (∀ (i : Nat) (v w : Json), vs[i]? = some v → ws[i]? = some w → SameValue v w) →
      SameValue (.array vs) (.array ws)
  | object {vs ws : List (String × Json)} :
      (∀ key, Json.get vs key = none ↔ Json.get ws key = none) →
      (∀ key v w, Json.get vs key = some v → Json.get ws key = some w → SameValue v w) →
      SameValue (.object vs) (.object ws)

/-! ## Sorted entries -/

section Sorting

variable {α β : Type}

theorem mem_sortEntries {entries : List (String × α)} {entry : String × α} :
    entry ∈ sortEntries entries ↔ entry ∈ entries :=
  List.mem_insertionSort _

theorem perm_sortEntries (entries : List (String × α)) : (sortEntries entries).Perm entries :=
  List.perm_insertionSort _ _

theorem pairwise_sortEntries (entries : List (String × α)) :
    (sortEntries entries).Pairwise fun a b => a.1 ≤ b.1 := by
  have htotal : Std.Total fun a b : String × α => a.1 ≤ b.1 := ⟨fun a b => le_total a.1 b.1⟩
  have htrans : IsTrans (String × α) fun a b => a.1 ≤ b.1 := ⟨fun a b c => le_trans⟩
  exact List.pairwise_insertionSort _ entries

theorem map_sortEntries (f : α → β) (entries : List (String × α)) :
    (sortEntries entries).map (fun entry => (entry.1, f entry.2)) =
      sortEntries (entries.map fun entry => (entry.1, f entry.2)) :=
  List.map_insertionSort _ _ _ _ fun _ _ _ _ => Iff.rfl

/-- Maps with the same entries are sorted into the same list. -/
theorem sortEntries_eq {entries others : List (String × α)}
    (hkeys : (entries.map Prod.fst).Nodup) (hkeys' : (others.map Prod.fst).Nodup)
    (hsame : ∀ entry, entry ∈ entries ↔ entry ∈ others) :
    sortEntries entries = sortEntries others := by
  have hperm : (sortEntries entries).Perm (sortEntries others) :=
    (perm_sortEntries entries).trans
      (((List.perm_ext_iff_of_nodup hkeys.of_map hkeys'.of_map).mpr hsame).trans
        (perm_sortEntries others).symm)
  refine hperm.eq_of_pairwise ?_ (pairwise_sortEntries entries) (pairwise_sortEntries others)
  intro a b ha hb hab hba
  have ha := mem_sortEntries.mp ha
  have hb := (hsame b).mpr (mem_sortEntries.mp hb)
  exact List.inj_on_of_nodup_map hkeys ha hb (le_antisymm hab hba)

/-- The members of a printed object are the sorted entries under their keys. -/
theorem members_inj {entries others : List (String × JsonText)}
    (h : (entries.map fun entry => (entry.1.toList, entry.2)) =
      others.map fun entry => (entry.1.toList, entry.2)) : entries = others := by
  refine List.map_injective_iff.mpr ?_ h
  rintro ⟨key, read⟩ ⟨key', read'⟩ heq
  obtain ⟨hkey, rfl⟩ := Prod.mk.inj heq
  obtain rfl : key = key' := String.toList_inj.mp hkey
  rfl

end Sorting

/-! ## Encodings are printed documents -/

theorem encodeCharacter_eq (c : Char) : encodeCharacter c = JsonText.escape c := by
  have hcontrol : c ≤ '\x1f' ↔ c.toNat ≤ 0x1f := Iff.rfl
  unfold encodeCharacter JsonText.escape
  simp only [hcontrol]
  split_ifs with _ _ _ _ _ _ _ hsmall
  case pos | pos | pos | pos | pos | pos | pos | neg => rfl
  case pos =>
    have hhigh : c.toNat / 4096 % 16 = 0 ∧ c.toNat / 256 % 16 = 0 ∧
        c.toNat / 16 % 16 = c.toNat / 16 := by omega
    simp only [hex4, JsonText.hexDigit, hhigh]
    rfl

theorem encodeString_eq (value : String) : encodeString value = JsonText.quote value.toList := by
  have hsame : encodeCharacter = JsonText.escape := funext encodeCharacter_eq
  rw [encodeString, hsame]
  rfl

/-! ## Digests are spelled uniquely -/

theorem bytesOf_inj {text other : String} : bytesOf text = bytesOf other ↔ text = other := by
  refine ⟨fun h => ?_, congrArg bytesOf⟩
  rw [bytesOf, bytesOf, Array.toList_inj] at h
  exact String.toByteArray_inj.mp (ByteArray.ext h)

theorem hexByte_inj : ∀ m < 256, ∀ n < 256,
    Nat.digitChar (m / 16) = Nat.digitChar (n / 16) →
    Nat.digitChar (m % 16) = Nat.digitChar (n % 16) → m = n := by
  have hdigit : ∀ m < 16, ∀ n < 16, Nat.digitChar m = Nat.digitChar n → m = n := by decide
  intro m hm n hn hhigh hlow
  have hhigh := hdigit _ (by omega) _ (by omega) hhigh
  have hlow := hdigit _ (by omega) _ (by omega) hlow
  omega

theorem hexText_inj {bytes others : List UInt8} (h : hexText bytes = hexText others) :
    bytes = others := by
  rw [hexText, hexText, String.ofList_inj] at h
  induction bytes generalizing others with
  | nil =>
      cases others with
      | nil => rfl
      | cons other others => simp at h
  | cons byte bytes ih =>
      cases others with
      | nil => simp at h
      | cons other others =>
          simp only [List.flatMap_cons, List.cons_append, List.nil_append, List.cons.injEq] at h
          obtain ⟨hhigh, hlow, hrest⟩ := h
          have hbyte := hexByte_inj _ byte.toNat_lt _ other.toNat_lt hhigh hlow
          rw [UInt8.toNat_inj.mp hbyte, ih hrest]

section Documents

variable [DoubleText]

mutual

/-- The document an encoding prints. -/
def document : Json → JsonText
  | .null => .null
  | .bool value => .bool value
  | .number value => .number (numberText value)
  | .string value => .string value.toList
  | .array values => .array (documentItems values)
  | .object values =>
      .object ((sortEntries (documentEntries values)).map fun entry => (entry.1.toList, entry.2))

def documentItems : List Json → List JsonText
  | [] => []
  | value :: values => document value :: documentItems values

def documentEntries : List (String × Json) → List (String × JsonText)
  | [] => []
  | (key, value) :: values => (key, document value) :: documentEntries values

end

@[simp] theorem encodeItems_eq (values : List Json) : encodeItems values = values.map encode := by
  induction values with
  | nil => rfl
  | cons value values ih => rw [encodeItems, ih, List.map_cons]

@[simp] theorem encodeEntries_eq (values : List (String × Json)) :
    encodeEntries values = values.map fun entry => (entry.1, encode entry.2) := by
  induction values with
  | nil => rfl
  | cons entry values ih => rw [encodeEntries, ih, List.map_cons]

@[simp] theorem documentItems_eq (values : List Json) :
    documentItems values = values.map document := by
  induction values with
  | nil => rfl
  | cons value values ih => rw [documentItems, ih, List.map_cons]

@[simp] theorem documentEntries_eq (values : List (String × Json)) :
    documentEntries values = values.map fun entry => (entry.1, document entry.2) := by
  induction values with
  | nil => rfl
  | cons entry values ih => rw [documentEntries, ih, List.map_cons]

theorem encode_eq_print (v : Json) : encode v = (document v).print := by
  induction v using Json.induction with
  | null => rfl
  | bool value => cases value <;> rfl
  | number value => rfl
  | string value => rw [encode, encodeString_eq, document, JsonText.print]
  | array values ih =>
      cases values with
      | nil => rfl
      | cons value values =>
          have hrest : (values.map encode) = values.map fun value => (document value).print :=
            List.map_congr_left fun other hother => ih other (List.mem_cons_of_mem _ hother)
          simp [encode, document, JsonText.print, JsonText.intercalate_cons, JsonText.printItems_eq,
            ih value List.mem_cons_self, hrest, List.flatMap_map]
  | object values ih =>
      have hentries : (values.map fun entry => (entry.1, encode entry.2)) =
          (values.map fun entry => (entry.1, document entry.2)).map
            fun entry => (entry.1, entry.2.print) := by
        rw [List.map_map]
        exact List.map_congr_left fun entry hentry => by rw [ih entry hentry]; rfl
      rw [encode, encodeEntries_eq, hentries, ← map_sortEntries, document, documentEntries_eq]
      cases sortEntries (values.map fun entry => (entry.1, document entry.2)) with
      | nil => rfl
      | cons entry entries =>
          simp [JsonText.print, JsonText.intercalate_cons, JsonText.printMembers_eq, encodeString_eq,
            List.flatMap_map]

/-! ## Documents of values -/

theorem isNumberToken_numberText {n : Number}
    (hfinite : ∀ bits, n = .float bits → isFiniteDouble bits = true) :
    JsonText.isNumberToken (numberText n) = true := by
  cases n with
  | posInt value => exact JsonText.isNumberToken_toDigits value.toNat
  | negInt value => exact JsonText.isNumberToken_intText value.toInt
  | float bits => exact DoubleText.isNumberToken_text bits (hfinite bits rfl)

theorem valid_document {v : Json} (h : IsValue v) : (document v).Valid := by
  induction v using Json.induction with
  | null | bool _ | string _ => trivial
  | number value =>
      refine isNumberToken_numberText fun bits hbits => h.finite bits ?_
      rw [hbits]
      exact .here
  | array values ih =>
      rw [document, JsonText.valid_array, documentItems_eq]
      intro item hitem
      obtain ⟨value, hvalue, rfl⟩ := List.mem_map.mp hitem
      exact ih value hvalue (h.item hvalue)
  | object values ih =>
      rw [document, JsonText.valid_object, documentEntries_eq]
      intro member hmember
      obtain ⟨entry, hentry, rfl⟩ := List.mem_map.mp hmember
      obtain ⟨value, hvalue, rfl⟩ := List.mem_map.mp (mem_sortEntries.mp hentry)
      exact ih value hvalue (h.member hvalue)

theorem keys_documentEntries (values : List (String × Json)) :
    (documentEntries values).map Prod.fst = values.map Prod.fst := by
  rw [documentEntries_eq, List.map_map]
  rfl

/-- Under distinct keys the entries of a document are what the keys read. -/
theorem mem_documentEntries {values : List (String × Json)}
    (h : (values.map Prod.fst).Nodup) {key : String} {read : JsonText} :
    (key, read) ∈ documentEntries values ↔ ∃ v, Json.get values key = some v ∧ document v = read := by
  rw [documentEntries_eq, List.mem_map]
  constructor
  · rintro ⟨⟨key', v⟩, hmem, heq⟩
    obtain ⟨rfl, rfl⟩ := Prod.mk.inj heq
    exact ⟨v, (Json.get_eq_some_iff h).mpr hmem, rfl⟩
  · rintro ⟨v, hget, rfl⟩
    exact ⟨(key, v), (Json.get_eq_some_iff h).mp hget, rfl⟩

theorem document_eq_of_same {v w : Json} (hsame : SameValue v w) (hv : IsValue v)
    (hw : IsValue w) : document v = document w := by
  induction hsame with
  | null | bool _ | string _ => rfl
  | number htext => rw [document, document, htext]
  | array hlength _ ih =>
      rw [document, document, documentItems_eq, documentItems_eq]
      refine congrArg JsonText.array (List.ext_getElem (by simpa using hlength) ?_)
      intro i hi hi'
      rw [List.length_map] at hi hi'
      rw [List.getElem_map, List.getElem_map]
      exact ih i _ _ (List.getElem?_eq_getElem hi) (List.getElem?_eq_getElem hi')
        (hv.item (List.getElem_mem hi)) (hw.item (List.getElem_mem hi'))
  | @object vs ws hkeys _ ih =>
      have hdistinct := hv.distinct vs .here
      have hdistinct' := hw.distinct ws .here
      have hread : ∀ {key v w}, Json.get vs key = some v → Json.get ws key = some w →
          document v = document w := fun hget hget' =>
        ih _ _ _ hget hget' (hv.member (Json.mem_of_get hget)) (hw.member (Json.mem_of_get hget'))
      have hentries : sortEntries (documentEntries vs) = sortEntries (documentEntries ws) := by
        refine sortEntries_eq (by rwa [keys_documentEntries]) (by rwa [keys_documentEntries]) ?_
        rintro ⟨key, read⟩
        rw [mem_documentEntries hdistinct, mem_documentEntries hdistinct']
        constructor
        · rintro ⟨v, hget, rfl⟩
          obtain ⟨w, hget'⟩ := Option.ne_none_iff_exists'.mp
            (mt (hkeys key).mpr (by rw [hget]; exact Option.some_ne_none v))
          exact ⟨w, hget', (hread hget hget').symm⟩
        · rintro ⟨w, hget', rfl⟩
          obtain ⟨v, hget⟩ := Option.ne_none_iff_exists'.mp
            (mt (hkeys key).mp (by rw [hget']; exact Option.some_ne_none w))
          exact ⟨v, hget, hread hget hget'⟩
      rw [document, document, hentries]

theorem same_of_document_eq {v w : Json} (h : document v = document w) (hv : IsValue v)
    (hw : IsValue w) : SameValue v w := by
  induction v using Json.induction generalizing w with
  | null =>
      cases w with
      | null => exact .null
      | _ => exact nomatch h
  | bool value =>
      cases w with
      | bool value' => obtain rfl := JsonText.bool.inj h; exact .bool _
      | _ => exact nomatch h
  | number value =>
      cases w with
      | number value' => exact .number (JsonText.number.inj h)
      | _ => exact nomatch h
  | string value =>
      cases w with
      | string value' => obtain rfl := String.toList_inj.mp (JsonText.string.inj h); exact .string _
      | _ => exact nomatch h
  | array values ih =>
      cases w with
      | array values' =>
          rw [document, document, documentItems_eq, documentItems_eq] at h
          have hitems := JsonText.array.inj h
          refine .array (by simpa using congrArg List.length hitems) ?_
          intro i v w hv' hw'
          have hat : (values.map document)[i]? = (values'.map document)[i]? := by rw [hitems]
          rw [List.getElem?_map, List.getElem?_map, hv', hw'] at hat
          have hmem := List.mem_of_getElem? hv'
          exact ih v hmem (Option.some.inj hat) (hv.item hmem) (hw.item (List.mem_of_getElem? hw'))
      | _ => exact nomatch h
  | object values ih =>
      cases w with
      | object values' =>
          rw [document, document] at h
          have hentries := members_inj (JsonText.object.inj h)
          have hdistinct := hv.distinct values .here
          have hdistinct' := hw.distinct values' .here
          have hmem : ∀ key read, (∃ v, Json.get values key = some v ∧ document v = read) ↔
              ∃ w, Json.get values' key = some w ∧ document w = read := by
            intro key read
            rw [← mem_documentEntries hdistinct, ← mem_documentEntries hdistinct',
              ← mem_sortEntries, hentries, mem_sortEntries]
          refine .object (fun key => ⟨fun hnone => ?_, fun hnone => ?_⟩) ?_
          · refine Option.eq_none_iff_forall_ne_some.mpr fun w hget => ?_
            obtain ⟨v, hget', -⟩ := (hmem key (document w)).mpr ⟨w, hget, rfl⟩
            exact nomatch hnone.symm.trans hget'
          · refine Option.eq_none_iff_forall_ne_some.mpr fun v hget => ?_
            obtain ⟨w, hget', -⟩ := (hmem key (document v)).mp ⟨v, hget, rfl⟩
            exact nomatch hnone.symm.trans hget'
          · intro key v w hget hget'
            obtain ⟨w', hget'', hread⟩ := (hmem key (document v)).mp ⟨v, hget, rfl⟩
            obtain rfl := Option.some.inj (hget'.symm.trans hget'')
            have hmember := Json.mem_of_get hget
            exact ih (key, v) hmember hread.symm (hv.member hmember)
              (hw.member (Json.mem_of_get hget'))
      | _ => exact nomatch h

theorem encoded_eq_iff {v w : Json} (hv : IsValue v) (hw : IsValue w) :
    encoded v = encoded w ↔ SameValue v w := by
  rw [encoded, encoded, String.ofList_inj, encode_eq_print, encode_eq_print]
  constructor
  · intro h
    exact same_of_document_eq
      (JsonText.print_injective (valid_document hv) (valid_document hw) h) hv hw
  · intro h
    rw [document_eq_of_same h hv hw]

/-! ## Reading an encoding -/

/-- A document spells a value: the same members under the same keys, numbers by their text. -/
inductive Spells : JsonText → Json → Prop
  | null : Spells .null .null
  | bool (value : Bool) : Spells (.bool value) (.bool value)
  | number (n : Number) : Spells (.number (numberText n)) (.number n)
  | string (value : String) : Spells (.string value.toList) (.string value)
  | array {items : List JsonText} {values : List Json} : items.length = values.length →
      (∀ (i : Nat) (item : JsonText) (v : Json), items[i]? = some item → values[i]? = some v →
        Spells item v) →
      Spells (.array items) (.array values)
  | object {members : List (List Char × JsonText)} {values : List (String × Json)} :
      (members.map Prod.fst).Perm (values.map fun entry => entry.1.toList) →
      (∀ key item v, (String.toList key, item) ∈ members → Json.get values key = some v →
        Spells item v) →
      Spells (.object members) (.object values)

theorem spells_document {v : Json} (h : IsValue v) : Spells (document v) v := by
  induction v using Json.induction with
  | null => exact .null
  | bool value => exact .bool value
  | number value => exact .number value
  | string value => exact .string value
  | array values ih =>
      rw [document, documentItems_eq]
      refine .array (List.length_map _) ?_
      intro i item v hitem hv
      rw [List.getElem?_map, hv] at hitem
      obtain rfl := Option.some.inj hitem
      have hmem := List.mem_of_getElem? hv
      exact ih v hmem (h.item hmem)
  | object values ih =>
      have hdistinct := h.distinct values .here
      rw [document]
      refine .object ?_ ?_
      · have hperm := (perm_sortEntries (documentEntries values)).map fun entry => entry.1.toList
        rw [List.map_map]
        simpa only [documentEntries_eq, List.map_map, Function.comp_def] using hperm
      · intro key item v hmem hget
        obtain ⟨entry, hentry, heq⟩ := List.mem_map.mp hmem
        obtain ⟨hkey, rfl⟩ := Prod.mk.inj heq
        obtain rfl : entry.1 = key := String.toList_inj.mp hkey
        obtain ⟨v', hget', hread⟩ :=
          (mem_documentEntries hdistinct).mp (mem_sortEntries.mp hentry)
        obtain rfl := Option.some.inj (hget.symm.trans hget')
        have hmember := Json.mem_of_get hget
        rw [← hread]
        exact ih _ hmember (h.member hmember)

theorem parse_encoded {v : Json} (h : IsValue v) :
    JsonText.parse (encoded v).toList = some (document v) := by
  rw [encoded, String.toList_ofList, encode_eq_print]
  exact JsonText.parse_print (valid_document h)

/-! ## Identity of payloads -/

/-- The encoding and the digest identify a value up to the order of members, the encoding reads
back as the value, and two values share a digest only through a collision. -/
theorem canonical_payload_identified [Sha256] (v w : Value) :
    (encoded v.1 = encoded w.1 ↔ SameValue v.1 w.1) ∧
      (∃ read, JsonText.parse (encoded v.1).toList = some read ∧ Spells read v.1) ∧
      (canonicalPayloadHash v.1 = canonicalPayloadHash w.1 ↔
        SameValue v.1 w.1 ∨
          bytesOf (encoded v.1) ≠ bytesOf (encoded w.1) ∧
            Sha256.digest (bytesOf (encoded v.1)) = Sha256.digest (bytesOf (encoded w.1))) := by
  have hencoded := encoded_eq_iff v.2 w.2
  refine ⟨hencoded, ⟨_, parse_encoded v.2, spells_document v.2⟩, ?_⟩
  rw [← hencoded]
  constructor
  · intro h
    by_cases hbytes : bytesOf (encoded v.1) = bytesOf (encoded w.1)
    · exact Or.inl (bytesOf_inj.mp hbytes)
    · exact Or.inr ⟨hbytes, hexText_inj h⟩
  · rintro (htext | ⟨-, hdigest⟩)
    · rw [canonicalPayloadHash, canonicalPayloadHash, htext]
    · rw [canonicalPayloadHash, canonicalPayloadHash, hdigest]

end Documents

end AgentsAssemble.Domain.CanonicalJson
