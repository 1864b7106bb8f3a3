import Mathlib.Algebra.Order.Ring.Nat
import Mathlib.Data.List.Basic
import Mathlib.Tactic.Common

/-!
# JSON values

Decoded JSON, and the recursive removal of object keys.  An object is the list
of its members; reading a member takes the first one under its key.
-/

namespace AgentsAssemble.Foundation

/-- A decoded number: what `u64` or a negative `i64` can hold, or the bits of a double. -/
inductive Number
  | posInt (value : UInt64)
  | negInt (value : Int64)
  | float (bits : UInt64)
  deriving DecidableEq, Repr

inductive Json
  | null
  | bool (value : Bool)
  | number (value : Number)
  | string (value : String)
  | array (items : List Json)
  | object (members : List (String × Json))
  deriving Repr

namespace Json

/-! ## Accessors -/

def asStr : Json → Option String
  | .string value => some value
  | _ => none

def asArray : Json → Option (List Json)
  | .array items => some items
  | _ => none

def asObject : Json → Option (List (String × Json))
  | .object members => some members
  | _ => none

/-- `Value::as_u64`. -/
def asU64 : Json → Option Nat
  | .number (.posInt value) => some value.toNat
  | _ => none

/-- The member of an object under a key. -/
def get (members : List (String × Json)) (key : String) : Option Json :=
  (members.find? fun member => member.1 == key).map Prod.snd

def containsKey (members : List (String × Json)) (key : String) : Bool :=
  members.any fun member => member.1 == key

/-! ## Members -/

theorem get_nil (key : String) : get [] key = none :=
  rfl

theorem get_cons (m : String × Json) (members : List (String × Json)) (key : String) :
    get (m :: members) key = if m.1 = key then some m.2 else get members key := by
  unfold get
  by_cases hkey : m.1 = key
  · rw [List.find?_cons_of_pos (by simpa using hkey), if_pos hkey]
    rfl
  · rw [List.find?_cons_of_neg (by simpa using hkey), if_neg hkey]

theorem get_append (members members' : List (String × Json)) (key : String) :
    get (members ++ members') key = (get members key).or (get members' key) := by
  induction members with
  | nil => rfl
  | cons m members ih =>
      rw [List.cons_append, get_cons, get_cons, ih]
      split <;> rfl

theorem get_eq_none {members : List (String × Json)} {key : String}
    (h : ∀ m ∈ members, m.1 ≠ key) : get members key = none := by
  induction members with
  | nil => rfl
  | cons m members ih =>
      rw [get_cons, if_neg (h m (List.mem_cons_self ..))]
      exact ih fun other hother => h other (List.mem_cons_of_mem _ hother)

theorem mem_of_get {members : List (String × Json)} {key : String} {value : Json}
    (h : get members key = some value) : (key, value) ∈ members := by
  induction members with
  | nil => exact nomatch h
  | cons m members ih =>
      rw [get_cons] at h
      split at h
      · next hkey =>
          obtain rfl := Option.some.inj h
          rw [← hkey]
          exact List.mem_cons_self ..
      · exact List.mem_cons_of_mem _ (ih h)

/-- Under distinct keys the members are exactly what the keys read. -/
theorem get_eq_some_iff {members : List (String × Json)} (h : (members.map Prod.fst).Nodup)
    {key : String} {value : Json} : get members key = some value ↔ (key, value) ∈ members := by
  refine ⟨mem_of_get, fun hmem => ?_⟩
  induction members with
  | nil => cases hmem
  | cons m members ih =>
      rw [List.map_cons, List.nodup_cons] at h
      rw [get_cons]
      rcases List.mem_cons.mp hmem with rfl | hmem
      · rw [if_pos rfl]
      · have hne : m.1 ≠ key := by
          intro hkey
          exact h.1 (List.mem_map.mpr ⟨(key, value), hmem, hkey.symm⟩)
        rw [if_neg hne, ih h.2 hmem]

theorem containsKey_eq_false {members : List (String × Json)} {key : String}
    (h : ∀ m ∈ members, m.1 ≠ key) : containsKey members key = false := by
  unfold containsKey
  rw [List.any_eq_false]
  intro m hm hkey
  exact h m hm (by simpa using hkey)

theorem containsKey_of_get_none {members : List (String × Json)} {key : String}
    (h : get members key = none) : containsKey members key = false := by
  refine containsKey_eq_false fun m hm hkey => ?_
  induction members with
  | nil => exact nomatch hm
  | cons other members ih =>
      rw [get_cons] at h
      split at h
      · exact nomatch h
      · next hne =>
          rcases List.mem_cons.mp hm with rfl | hm
          · exact hne hkey
          · exact ih h hm

/-- A filter on keys keeps what stands under the keys it accepts. -/
theorem get_filter {p : String → Bool} {key : String} (hkey : p key = true)
    (members : List (String × Json)) :
    get (members.filter fun m => p m.1) key = get members key := by
  induction members with
  | nil => rfl
  | cons m members ih =>
      rw [List.filter_cons, get_cons, ← ih]
      by_cases hm : p m.1 = true
      · rw [if_pos hm, get_cons]
      · rw [if_neg hm, if_neg]
        rintro rfl
        exact hm hkey

theorem get_map (f : Json → Json) (members : List (String × Json)) (key : String) :
    get (members.map fun m => (m.1, f m.2)) key = (get members key).map f := by
  induction members with
  | nil => rfl
  | cons m members ih =>
      rw [List.map_cons, get_cons, get_cons, ih]
      split <;> rfl

/-! ## Induction -/

/-- Induction over a value: arrays from their items, objects from their members. -/
theorem induction {motive : Json → Prop} (null : motive .null)
    (bool : ∀ value, motive (.bool value)) (number : ∀ value, motive (.number value))
    (string : ∀ value, motive (.string value))
    (array : ∀ items, (∀ item ∈ items, motive item) → motive (.array items))
    (object : ∀ members, (∀ member ∈ members, motive member.2) → motive (.object members))
    (value : Json) : motive value := by
  refine @Json.rec motive (fun items => ∀ item ∈ items, motive item)
    (fun members => ∀ member ∈ members, motive member.2) (fun member => motive member.2)
    null bool number string array object ?_ ?_ ?_ ?_ ?_ value
  · intro item hitem
    cases hitem
  · intro head tail hhead htail item hitem
    rcases List.mem_cons.mp hitem with rfl | hitem
    · exact hhead
    · exact htail item hitem
  · intro member hmember
    cases hmember
  · intro head tail hhead htail member hmember
    rcases List.mem_cons.mp hmember with rfl | hmember
    · exact hhead
    · exact htail member hmember
  · intro _ _ hvalue
    exact hvalue

/-! ## Nested values -/

/-- `Nested w v`: the value `w` occurs in `v`, at any depth. -/
inductive Nested (w : Json) : Json → Prop
  | here : Nested w w
  | item {items : List Json} {v : Json} : v ∈ items → Nested w v → Nested w (.array items)
  | member {members : List (String × Json)} {m : String × Json} :
      m ∈ members → Nested w m.2 → Nested w (.object members)

/-- No object in the value has a key of the class. -/
def KeyFree (p : String → Bool) (v : Json) : Prop :=
  ∀ members, Nested (.object members) v → ∀ m ∈ members, p m.1 = false

theorem Nested.trans {u v w : Json} (h : Nested u v) (h' : Nested v w) : Nested u w := by
  induction h' with
  | here => exact h
  | item hmem _ ih => exact .item hmem ih
  | member hmem _ ih => exact .member hmem ih

theorem KeyFree.nested {p : String → Bool} {v w : Json} (h : KeyFree p v) (hw : Nested w v) :
    KeyFree p w :=
  fun members hmembers => h members (hmembers.trans hw)

theorem KeyFree.members {p : String → Bool} {members : List (String × Json)}
    (h : KeyFree p (.object members)) :
    ∀ m ∈ members, p m.1 = false ∧ KeyFree p m.2 :=
  fun m hm => ⟨h members .here m hm, h.nested (.member hm .here)⟩

theorem keyFree_object {p : String → Bool} {members : List (String × Json)}
    (h : ∀ m ∈ members, p m.1 = false ∧ KeyFree p m.2) : KeyFree p (.object members) := by
  intro inner hinner m hm
  cases hinner with
  | here => exact (h m hm).1
  | member hmem hnested => exact (h _ hmem).2 inner hnested m hm

theorem keyFree_array {p : String → Bool} {items : List Json}
    (h : ∀ item ∈ items, KeyFree p item) : KeyFree p (.array items) := by
  intro inner hinner m hm
  cases hinner with
  | item hmem hnested => exact h _ hmem inner hnested m hm

/-! ## Removing keys -/

mutual

/-- Removes every key of a class from every object of the value. -/
def dropKeys (p : String → Bool) : Json → Json
  | .array items => .array (dropItems p items)
  | .object members => .object (dropMembers p members)
  | value => value

def dropItems (p : String → Bool) : List Json → List Json
  | [] => []
  | item :: items => dropKeys p item :: dropItems p items

def dropMembers (p : String → Bool) : List (String × Json) → List (String × Json)
  | [] => []
  | (key, value) :: members =>
      if p key then dropMembers p members else (key, dropKeys p value) :: dropMembers p members

end

theorem dropItems_eq (p : String → Bool) (items : List Json) :
    dropItems p items = items.map (dropKeys p) := by
  induction items with
  | nil => rfl
  | cons item items ih => rw [dropItems, ih, List.map_cons]

theorem dropMembers_eq (p : String → Bool) (members : List (String × Json)) :
    dropMembers p members =
      (members.filter fun m => !p m.1).map fun m => (m.1, dropKeys p m.2) := by
  induction members with
  | nil => rfl
  | cons m members ih =>
      obtain ⟨key, value⟩ := m
      rw [dropMembers]
      by_cases hkey : p key = true
      · rw [if_pos hkey, ih, List.filter_cons_of_neg (by simp [hkey])]
      · rw [if_neg hkey, ih, List.filter_cons_of_pos (by simp [hkey]), List.map_cons]

theorem get_dropMembers {p : String → Bool} {key : String} (hkey : p key = false)
    (members : List (String × Json)) :
    get (dropMembers p members) key = (get members key).map (dropKeys p) := by
  rw [dropMembers_eq, get_map, get_filter (p := fun key => !p key)]
  rw [hkey]
  rfl

theorem mem_dropMembers {p : String → Bool} {members : List (String × Json)}
    {m : String × Json} (h : m ∈ dropMembers p members) :
    p m.1 = false ∧ ∃ value, (m.1, value) ∈ members ∧ m.2 = dropKeys p value := by
  rw [dropMembers_eq] at h
  obtain ⟨⟨key, value⟩, hmem, rfl⟩ := List.mem_map.mp h
  obtain ⟨hmem, hkey⟩ := List.mem_filter.mp hmem
  exact ⟨by simpa using hkey, value, hmem, rfl⟩

theorem keyFree_dropKeys (p : String → Bool) (v : Json) : KeyFree p (dropKeys p v) := by
  induction v using Json.induction with
  | null | bool | number | string =>
      intro members hmembers
      cases hmembers
  | array items ih =>
      refine keyFree_array fun item hitem => ?_
      rw [dropItems_eq] at hitem
      obtain ⟨original, hmem, rfl⟩ := List.mem_map.mp hitem
      exact ih original hmem
  | object members ih =>
      refine keyFree_object fun m hm => ?_
      obtain ⟨hkey, value, hmem, hvalue⟩ := mem_dropMembers hm
      rw [hvalue]
      exact ⟨hkey, ih _ hmem⟩

theorem dropKeys_of_free {p : String → Bool} {v : Json} (h : KeyFree p v) :
    dropKeys p v = v := by
  induction v using Json.induction with
  | null | bool | number | string => rfl
  | array items ih =>
      rw [dropKeys, dropItems_eq]
      congr 1
      refine (List.map_congr_left fun item hitem => ?_).trans (List.map_id items)
      exact ih item hitem (h.nested (.item hitem .here))
  | object members ih =>
      have hmembers := h.members
      rw [dropKeys, dropMembers_eq]
      congr 1
      rw [List.filter_eq_self.mpr fun m hm => by simp [(hmembers m hm).1]]
      refine (List.map_congr_left fun m hm => ?_).trans (List.map_id members)
      rw [ih m hm (hmembers m hm).2]
      rfl

@[simp] theorem dropKeys_dropKeys (p : String → Bool) (v : Json) :
    dropKeys p (dropKeys p v) = dropKeys p v :=
  dropKeys_of_free (keyFree_dropKeys p v)

end Json

end AgentsAssemble.Foundation
