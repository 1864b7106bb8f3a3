import AgentsAssemble.Foundation.Table
import Mathlib.Algebra.BigOperators.Group.List.Basic

/-!
# Sums over keyed tables

The size of a table, a sum over its rows, and the rows a `retain` keeps.
-/

namespace AgentsAssemble.Foundation.Table

variable {κ ρ : Type}

/-- The table of the rows that satisfy `p`. -/
def retain (table : Table κ ρ) (p : κ → ρ → Bool) : Table κ ρ :=
  ⟨table.entries.filter fun entry => p entry.1 entry.2,
    table.nodupKeys.sublist List.filter_sublist⟩

/-- How many rows a table has. -/
def size (table : Table κ ρ) : Nat := table.entries.length

/-- The sum of `f` over the rows. -/
def total (f : κ → ρ → Nat) (table : Table κ ρ) : Nat :=
  (table.rows.map fun row => f row.1 row.2).sum

theorem rows_retain (table : Table κ ρ) (p : κ → ρ → Bool) :
    (table.retain p).rows = table.rows.filter fun row => p row.1 row.2 := by
  rw [rows, rows, retain, List.filter_map]
  rfl

theorem size_eq_total (table : Table κ ρ) : table.size = table.total fun _ _ => 1 := by
  rw [size, total, rows, List.map_map]
  induction table.entries with
  | nil => rfl
  | cons entry entries ih =>
      rw [List.length_cons, List.map_cons, List.sum_cons, ← ih, Nat.add_comm]
      rfl

/-- Rows that weigh nothing can go. -/
theorem total_retain {f : κ → ρ → Nat} {table : Table κ ρ} {p : κ → ρ → Bool}
    (h : ∀ k row, p k row = false → f k row = 0) : (table.retain p).total f = table.total f := by
  rw [total, total, rows_retain]
  induction table.rows with
  | nil => rfl
  | cons row rows ih =>
      rw [List.map_cons, List.sum_cons, ← ih]
      cases hp : p row.1 row.2 with
      | true =>
          rw [List.filter_cons, if_pos hp, List.map_cons, List.sum_cons]
      | false =>
          rw [List.filter_cons, if_neg (by simp [hp]), h _ _ hp, Nat.zero_add]

theorem total_update (f : κ → ρ → Nat) (table : Table κ ρ) (g : ρ → ρ) :
    (table.update (fun _ _ => true) g).total f = table.total fun k row => f k (g row) := by
  rw [total, total, rows_update, List.map_map]
  rfl

theorem total_add (f g : κ → ρ → Nat) (table : Table κ ρ) :
    (table.total fun k row => f k row + g k row) = table.total f + table.total g := by
  rw [total, total, total, ← List.sum_map_add]

theorem total_le_total {f g : κ → ρ → Nat} {table : Table κ ρ}
    (h : ∀ k row, f k row ≤ g k row) : table.total f ≤ table.total g := by
  rw [total, total]
  induction table.rows with
  | nil => exact le_rfl
  | cons row rows ih =>
      rw [List.map_cons, List.map_cons, List.sum_cons, List.sum_cons]
      exact Nat.add_le_add (h _ _) ih

theorem size_retain_le (table : Table κ ρ) (p : κ → ρ → Bool) :
    (table.retain p).size ≤ table.size :=
  List.length_filter_le _ _

theorem size_update (table : Table κ ρ) (p : κ → ρ → Bool) (g : ρ → ρ) :
    (table.update p g).size = table.size :=
  List.length_map _

variable [DecidableEq κ]

theorem lookup_retain (table : Table κ ρ) (p : κ → ρ → Bool) (k : κ) :
    (table.retain p).lookup k = (table.lookup k).filter (p k) := by
  apply Option.ext
  intro row
  rw [← mem_rows, rows_retain, List.mem_filter, mem_rows, Option.filter_eq_some_iff]

theorem total_erase (f : κ → ρ → Nat) (table : Table κ ρ) (k : κ) :
    total f (table.erase k) + (table.lookup k).elim 0 (f k) = table.total f := by
  cases h : table.lookup k with
  | none =>
      have hkey : k ∉ table.entries.keys := AList.lookup_eq_none.mp h
      have hentries : (table.erase k).entries = table.entries := List.kerase_of_notMem_keys hkey
      rw [total, rows, hentries]
      rfl
  | some row =>
      have hmem : (⟨k, row⟩ : Σ _ : κ, ρ) ∈ table.entries := AList.mem_lookup_iff.mp h
      obtain ⟨stored, before, after, -, hentries, herase⟩ :=
        List.exists_of_kerase (List.mem_keys_of_mem hmem)
      have hrow : stored = row := by
        have hstored : (⟨k, stored⟩ : Σ _ : κ, ρ) ∈ table.entries := by
          rw [hentries]
          simp
        rw [← AList.mem_lookup_iff, Option.mem_def, h] at hstored
        exact (Option.some.inj hstored).symm
      have herased : (table.erase k).entries = before ++ after := herase
      subst hrow
      rw [total, total, rows, rows, hentries, herased]
      simp only [List.map_append, List.map_cons, List.sum_append, List.sum_cons, Option.elim_some]
      omega

theorem total_insert (f : κ → ρ → Nat) (table : Table κ ρ) (k : κ) (row : ρ) :
    total f (table.insert k row) + (table.lookup k).elim 0 (f k) = table.total f + f k row := by
  have hentries : (table.insert k row).entries = ⟨k, row⟩ :: (table.erase k).entries := rfl
  have herase := total_erase f table k
  rw [total, rows, hentries, List.map_cons, List.map_cons, List.sum_cons]
  rw [total, rows] at herase
  dsimp only
  omega

theorem size_insert_of_some {table : Table κ ρ} {k : κ} {stored : ρ}
    (h : table.lookup k = some stored) (row : ρ) : size (table.insert k row) = table.size := by
  have hinsert := total_insert (fun _ _ => 1) table k row
  rw [h, ← size_eq_total, ← size_eq_total, Option.elim_some] at hinsert
  exact Nat.add_right_cancel hinsert

theorem size_insert_of_none {table : Table κ ρ} {k : κ} (h : table.lookup k = none)
    (row : ρ) : size (table.insert k row) = table.size + 1 := by
  have hinsert := total_insert (fun _ _ => 1) table k row
  rwa [h, ← size_eq_total, ← size_eq_total, Option.elim_none, Nat.add_zero] at hinsert

end AgentsAssemble.Foundation.Table
