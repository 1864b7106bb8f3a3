import Mathlib.Algebra.Order.Ring.Nat
import Mathlib.Data.List.AList
import Mathlib.Data.List.Sort

/-!
# Keyed tables

A table is a Mathlib association list, so its primary key is unique by
construction.  The lemmas here are the ones a keyed `UPDATE` needs: what a
lookup sees after an insertion, and rows listed in key order.
-/

namespace AgentsAssemble.Foundation

/-- Rows of type `ρ` under unique keys of type `κ`. -/
abbrev Table (κ ρ : Type) := AList fun _ : κ => ρ

namespace Table

variable {κ ρ : Type} [DecidableEq κ]

theorem lookup_insert_ite (table : Table κ ρ) (k k' : κ) (row : ρ) :
    (table.insert k row).lookup k' = if k' = k then some row else table.lookup k' := by
  by_cases h : k' = k
  · subst h
    rw [if_pos rfl, AList.lookup_insert]
  · rw [if_neg h, AList.lookup_insert_ne h]

theorem lookup_erase_ite (table : Table κ ρ) (k k' : κ) :
    (table.erase k).lookup k' = if k' = k then none else table.lookup k' := by
  by_cases h : k' = k
  · subst h
    rw [if_pos rfl, AList.lookup_erase]
  · rw [if_neg h, AList.lookup_erase_ne h]

/-- The rows with their keys. -/
def rows (table : Table κ ρ) : List (κ × ρ) :=
  table.entries.map fun entry => (entry.1, entry.2)

theorem mem_rows {table : Table κ ρ} {k : κ} {row : ρ} :
    (k, row) ∈ table.rows ↔ table.lookup k = some row := by
  rw [← Option.mem_def, AList.mem_lookup_iff, rows, List.mem_map]
  constructor
  · rintro ⟨entry, hmem, heq⟩
    obtain ⟨rfl, rfl⟩ := Prod.mk.inj heq
    exact hmem
  · intro h
    exact ⟨⟨k, row⟩, h, rfl⟩

omit [DecidableEq κ] in
theorem nodup_rows (table : Table κ ρ) : (table.rows.map Prod.fst).Nodup := by
  have h := table.keys_nodup
  rwa [AList.keys, List.keys, show (Sigma.fst : (Σ _ : κ, ρ) → κ) =
    Prod.fst ∘ fun entry => (entry.1, entry.2) from rfl, ← List.map_map] at h

/-- The table without the rows whose key satisfies `p`, as a cascade leaves it. -/
def eraseWhere (table : Table κ ρ) (p : κ → Bool) : Table κ ρ :=
  ⟨table.entries.filter fun entry => !p entry.1,
    table.nodupKeys.sublist List.filter_sublist⟩

theorem lookup_eraseWhere (table : Table κ ρ) (p : κ → Bool) (k : κ) :
    (table.eraseWhere p).lookup k = if p k = true then none else table.lookup k := by
  apply Option.ext
  intro row
  rw [← Option.mem_def, AList.mem_lookup_iff, eraseWhere, List.mem_filter,
    ← AList.mem_lookup_iff, Option.mem_def]
  cases hp : p k <;> simp

/-- The table after a `DELETE` of the rows that satisfy `p`. -/
def deleteWhere (table : Table κ ρ) (p : κ → ρ → Bool) : Table κ ρ :=
  ⟨table.entries.filter fun entry => !p entry.1 entry.2,
    table.nodupKeys.sublist List.filter_sublist⟩

theorem lookup_deleteWhere {table : Table κ ρ} {p : κ → ρ → Bool} {k : κ} {row : ρ} :
    (table.deleteWhere p).lookup k = some row ↔ table.lookup k = some row ∧ p k row = false := by
  rw [← Option.mem_def, AList.mem_lookup_iff, deleteWhere, List.mem_filter,
    ← AList.mem_lookup_iff, Option.mem_def, Bool.not_eq_true']

/-- The table after a keyed `UPDATE` of the rows that satisfy `p`. -/
def update (table : Table κ ρ) (p : κ → ρ → Bool) (f : ρ → ρ) : Table κ ρ :=
  ⟨table.entries.map fun entry => ⟨entry.1, if p entry.1 entry.2 then f entry.2 else entry.2⟩, by
    have hkeys := table.nodupKeys
    rw [List.NodupKeys, List.keys] at hkeys ⊢
    rwa [List.map_map]⟩

omit [DecidableEq κ] in
theorem rows_update (table : Table κ ρ) (p : κ → ρ → Bool) (f : ρ → ρ) :
    (table.update p f).rows =
      table.rows.map fun row => (row.1, if p row.1 row.2 then f row.2 else row.2) := by
  rw [rows, rows, update, List.map_map, List.map_map]
  rfl

theorem lookup_update (table : Table κ ρ) (p : κ → ρ → Bool) (f : ρ → ρ) (k : κ) :
    (table.update p f).lookup k =
      (table.lookup k).map fun row => if p k row then f row else row := by
  apply Option.ext
  intro row
  rw [← mem_rows, rows_update, List.mem_map, Option.map_eq_some_iff]
  constructor
  · rintro ⟨⟨k', stored⟩, hmem, heq⟩
    obtain ⟨rfl, rfl⟩ := Prod.mk.inj heq
    exact ⟨stored, mem_rows.mp hmem, rfl⟩
  · rintro ⟨stored, hstored, rfl⟩
    exact ⟨(k, stored), mem_rows.mpr hstored, rfl⟩

omit [DecidableEq κ] in
/-- Two updates by the same function are one, when the second skips what the first wrote. -/
theorem update_update (table : Table κ ρ) {p q : κ → ρ → Bool} {f : ρ → ρ}
    (h : ∀ k row, p k row = true → q k (f row) = false) :
    (table.update p f).update q f = table.update (fun k row => p k row || q k row) f := by
  apply AList.ext
  unfold update
  dsimp only
  rw [List.map_map]
  refine List.map_congr_left fun entry _ => ?_
  rw [Function.comp_apply]
  by_cases hp : p entry.1 entry.2 = true
  · simp [hp, h _ _ hp]
  · simp [hp]

/-- The first row whose columns satisfy `p`, with its key. -/
def find? (table : Table κ ρ) (p : κ → ρ → Bool) : Option (κ × ρ) :=
  table.rows.find? fun entry => p entry.1 entry.2

theorem find?_eq_some {table : Table κ ρ} {p : κ → ρ → Bool} {k : κ} {row : ρ}
    (h : table.find? p = some (k, row)) : table.lookup k = some row ∧ p k row = true :=
  ⟨mem_rows.mp (List.mem_of_find?_eq_some h), by simpa using List.find?_some h⟩

/-- The one row that satisfies `p` is the row a search finds. -/
theorem find?_of_unique {table : Table κ ρ} {p : κ → ρ → Bool} {k : κ} {row : ρ}
    (h : table.lookup k = some row) (hp : p k row = true)
    (hunique : ∀ k' row', table.lookup k' = some row' → p k' row' = true → k' = k) :
    table.find? p = some (k, row) := by
  cases hfind : table.find? p with
  | none =>
      have hnone := List.find?_eq_none.mp hfind (k, row) (mem_rows.mpr h)
      exact absurd hp hnone
  | some found =>
      obtain ⟨k', row'⟩ := found
      obtain ⟨hrow', hp'⟩ := find?_eq_some hfind
      obtain rfl := hunique k' row' hrow' hp'
      obtain rfl := Option.some.inj (h.symm.trans hrow')
      rfl

/-! ## Pointwise updates -/

/-- `t'` holds `row` under `k` and otherwise agrees with `t`. -/
def Sets (t t' : Table κ ρ) (k : κ) (row : Option ρ) : Prop :=
  ∀ k', t'.lookup k' = if k' = k then row else t.lookup k'

section Sets

variable {t t' : Table κ ρ} {k k' : κ} {row : Option ρ}

theorem Sets.at_key (h : Sets t t' k row) : t'.lookup k = row := by
  rw [h k, if_pos rfl]

theorem Sets.off_key (h : Sets t t' k row) (hne : k' ≠ k) : t'.lookup k' = t.lookup k' := by
  rw [h k', if_neg hne]

theorem Sets.cases {r : ρ} (h : Sets t t' k row) (hr : t'.lookup k' = some r) :
    (k' = k ∧ row = some r) ∨ (k' ≠ k ∧ t.lookup k' = some r) := by
  by_cases hk : k' = k
  · subst hk
    exact Or.inl ⟨rfl, h.at_key ▸ hr⟩
  · exact Or.inr ⟨hk, h.off_key hk ▸ hr⟩

theorem sets_insert (t : Table κ ρ) (k : κ) (row : ρ) : Sets t (t.insert k row) k (some row) :=
  fun k' => lookup_insert_ite t k k' row

theorem sets_self (t : Table κ ρ) (k : κ) : Sets t t k (t.lookup k) := by
  intro k'
  by_cases hk : k' = k
  · rw [if_pos hk, hk]
  · rw [if_neg hk]

theorem sets_of_lookup (h : t.lookup k = row) : Sets t t k row :=
  h ▸ sets_self t k

theorem sets_insert_insert (t : Table κ ρ) (k : κ) (a b : ρ) :
    Sets (t.insert k a) (t.insert k b) k (some b) := by
  intro k'
  rw [lookup_insert_ite, lookup_insert_ite]
  split <;> rfl

end Sets

/-! ## Counting rows -/

section Count

variable (p : κ → ρ → Bool)

/-- How many rows satisfy `p`, as `COUNT(*)` with a condition. -/
def count (table : Table κ ρ) : Nat :=
  table.rows.countP fun row => p row.1 row.2

theorem count_erase_of_none {table : Table κ ρ} {k : κ} (h : table.lookup k = none) :
    count p (table.erase k) = count p table := by
  have hkey : k ∉ table.entries.keys := AList.lookup_eq_none.mp h
  have hentries : (table.erase k).entries = table.entries := List.kerase_of_notMem_keys hkey
  rw [count, count, rows, rows, hentries]

theorem count_erase_of_some {table : Table κ ρ} {k : κ} {row : ρ}
    (h : table.lookup k = some row) :
    count p (table.erase k) + (if p k row then 1 else 0) = count p table := by
  have hkey : k ∈ table.entries.keys := by
    have hmem : k ∈ table := by
      rw [← AList.lookup_isSome, h]
      rfl
    exact hmem
  obtain ⟨stored, before, after, -, hentries, herase⟩ := List.exists_of_kerase hkey
  have hrow : stored = row := by
    have hmem : (⟨k, stored⟩ : Σ _ : κ, ρ) ∈ table.entries := by
      rw [hentries]
      simp
    rw [← AList.mem_lookup_iff, Option.mem_def, h] at hmem
    exact (Option.some.inj hmem).symm
  have herased : (table.erase k).entries = before ++ after := herase
  subst hrow
  rw [count, count, rows, rows, hentries, herased]
  simp only [List.map_append, List.map_cons, List.countP_append, List.countP_cons]
  omega

theorem count_insert (table : Table κ ρ) (k : κ) (row : ρ) :
    count p (table.insert k row) =
      count p (table.erase k) + (if p k row then 1 else 0) := by
  have hentries : (table.insert k row).entries = ⟨k, row⟩ :: (table.erase k).entries := rfl
  rw [count, count, rows, rows, hentries, List.map_cons, List.countP_cons]

omit [DecidableEq κ] in
theorem count_mono {p' : κ → ρ → Bool} {table : Table κ ρ}
    (h : ∀ k row, p k row = true → p' k row = true) : count p table ≤ count p' table :=
  List.countP_mono_left fun row _ hrow => h row.1 row.2 hrow

/-- A table whose counted rows have keys of counted rows of another holds no more of them. -/
theorem count_le_count {p' : κ → ρ → Bool} {table table' : Table κ ρ}
    (h : ∀ k row, table.lookup k = some row → p k row = true →
      ∃ row', table'.lookup k = some row' ∧ p' k row' = true) :
    count p table ≤ count p' table' := by
  rw [count, count, List.countP_eq_length_filter, List.countP_eq_length_filter,
    ← List.length_map (f := Prod.fst), ← List.length_map (f := Prod.fst)]
  have hnodup : ((table.rows.filter fun row => p row.1 row.2).map Prod.fst).Nodup :=
    table.nodup_rows.sublist (List.filter_sublist.map Prod.fst)
  refine (List.subperm_of_subset hnodup fun k hk => ?_).length_le
  obtain ⟨⟨k, row⟩, hmem, rfl⟩ := List.mem_map.mp hk
  obtain ⟨hrow, hp⟩ := List.mem_filter.mp hmem
  obtain ⟨row', hrow', hp'⟩ := h k row (mem_rows.mp hrow) hp
  exact List.mem_map.mpr ⟨(k, row'), List.mem_filter.mpr ⟨mem_rows.mpr hrow', hp'⟩, rfl⟩

omit [DecidableEq κ] in
/-- The rows that satisfy `p` after an update satisfied `p'` before it. -/
theorem count_update_le_of {p' : κ → ρ → Bool} {table : Table κ ρ} {q : κ → ρ → Bool} {f : ρ → ρ}
    (h : ∀ k row, p k (if q k row then f row else row) = true → p' k row = true) :
    count p (table.update q f) ≤ count p' table := by
  rw [count, count, rows_update, List.countP_map]
  exact List.countP_mono_left fun row _ hrow => h row.1 row.2 hrow

omit [DecidableEq κ] in
/-- An update whose new rows only satisfy `p` where the old rows did cannot raise the count. -/
theorem count_update_le {table : Table κ ρ} {q : κ → ρ → Bool} {f : ρ → ρ}
    (h : ∀ k row, p k (f row) = true → p k row = true) :
    count p (table.update q f) ≤ count p table := by
  refine count_update_le_of p fun k row hrow => ?_
  split at hrow
  · exact h k row hrow
  · exact hrow

omit [DecidableEq κ] in
theorem count_eraseWhere {table : Table κ ρ} {q : κ → Bool}
    (h : ∀ k row, p k row = true → q k = false) :
    count p (table.eraseWhere q) = count p table := by
  rw [count, count, rows, rows, eraseWhere, List.countP_map, List.countP_map,
    List.countP_filter]
  refine List.countP_congr fun entry _ => ?_
  show (p entry.1 entry.2 && !q entry.1) = true ↔ p entry.1 entry.2 = true
  constructor
  · intro hboth
    exact (Bool.and_eq_true_iff.mp hboth).1
  · intro hp
    rw [hp, h _ _ hp]
    rfl

end Count

section Sorted

variable (le : κ → κ → Prop) [DecidableRel le]

/-- The rows in key order, as `ORDER BY` lists them. -/
def sorted (table : Table κ ρ) : List (κ × ρ) :=
  table.rows.insertionSort fun a b => le a.1 b.1

theorem mem_sorted {table : Table κ ρ} {k : κ} {row : ρ} :
    (k, row) ∈ table.sorted le ↔ table.lookup k = some row := by
  rw [sorted, List.mem_insertionSort, mem_rows]

omit [DecidableEq κ] in
theorem nodup_sorted (table : Table κ ρ) : ((table.sorted le).map Prod.fst).Nodup := by
  have hperm := (List.perm_insertionSort (fun a b : κ × ρ => le a.1 b.1) table.rows).map Prod.fst
  exact hperm.nodup_iff.mpr table.nodup_rows

omit [DecidableEq κ] in
theorem length_sorted (table : Table κ ρ) : (table.sorted le).length = table.rows.length :=
  List.length_insertionSort _ _

/-- The keys of a table are the first `n` numbers exactly if they are listed as such. -/
theorem keys_sorted_eq_range {table : Table ℕ ρ} {n : ℕ} :
    (table.sorted (· ≤ ·)).map Prod.fst = List.range n ↔
      ∀ k, (table.lookup k).isSome ↔ k < n := by
  have hmem : ∀ k, k ∈ (table.sorted (· ≤ ·)).map Prod.fst ↔ (table.lookup k).isSome := by
    intro k
    rw [List.mem_map, Option.isSome_iff_exists]
    constructor
    · rintro ⟨⟨_, row⟩, hrow, rfl⟩
      exact ⟨row, (mem_sorted _).mp hrow⟩
    · rintro ⟨row, hrow⟩
      exact ⟨(k, row), (mem_sorted _).mpr hrow, rfl⟩
  constructor
  · intro h k
    rw [← hmem, h, List.mem_range]
  · intro h
    have hkeys : ((table.sorted (· ≤ ·)).map Prod.fst).Perm (List.range n) := by
      refine (List.perm_ext_iff_of_nodup (nodup_sorted _ table) List.nodup_range).mpr fun k => ?_
      rw [hmem, h, List.mem_range]
    have hsorted : ((table.sorted (· ≤ ·)).map Prod.fst).Pairwise (· ≤ ·) :=
      List.Pairwise.map _ (fun _ _ hle => hle)
        (List.pairwise_insertionSort (fun a b : ℕ × ρ => a.1 ≤ b.1) _)
    exact hkeys.eq_of_pairwise' hsorted List.pairwise_le_range

end Sorted

end Table

end AgentsAssemble.Foundation
