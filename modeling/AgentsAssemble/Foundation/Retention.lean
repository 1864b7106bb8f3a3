import Mathlib.Algebra.Order.Ring.Nat
import Mathlib.Data.List.Basic
import Mathlib.Data.List.Nodup
import Mathlib.Tactic.Common

/-!
# Retention of a numbered log

The entries of a log are numbered from one.  A window of it keeps the entries above a low mark;
forgetting takes entries from the front, so the mark says what could have been forgotten.
-/

namespace AgentsAssemble.Foundation

variable {α : Type}

/-- The entries are numbered `low + 1`, …, `high`, in order. -/
structure Window (number : α → Nat) (low high : Nat) (entries : List α) : Prop where
  numbers : entries.map number = List.range' (low + 1) entries.length
  reaches : low + entries.length = high

namespace Window

variable {number : α → Nat} {low high : Nat} {entry : α} {entries : List α}

theorem nil (number : α → Nat) (low : Nat) : Window number low low [] :=
  ⟨rfl, rfl⟩

theorem head (h : Window number low high (entry :: entries)) : number entry = low + 1 := by
  have hnumbers := h.numbers
  rw [List.map_cons, List.length_cons, List.range'_succ] at hnumbers
  exact (List.cons.inj hnumbers).1

/-- The entry in front can be forgotten. -/
theorem pop (h : Window number low high (entry :: entries)) :
    Window number (number entry) high entries where
  numbers := by
    have hnumbers := h.numbers
    rw [List.map_cons, List.length_cons, List.range'_succ] at hnumbers
    rw [(List.cons.inj hnumbers).2, h.head]
  reaches := by
    have hreaches := h.reaches
    rw [List.length_cons] at hreaches
    rw [h.head]
    omega

theorem push (h : Window number low high entries) (hentry : number entry = high + 1) :
    Window number low (high + 1) (entries ++ [entry]) where
  numbers := by
    have hreaches := h.reaches
    rw [List.map_append, h.numbers, List.length_append, List.length_singleton,
      List.range'_concat, List.map_singleton, hentry]
    congr 2
    omega
  reaches := by
    rw [List.length_append, List.length_singleton, ← Nat.add_assoc, h.reaches]

theorem low_le (h : Window number low high entries) : low ≤ high :=
  h.reaches ▸ Nat.le_add_right _ _

/-- A number is kept exactly if it is above the mark. -/
theorem exists_iff (h : Window number low high entries) {n : Nat} :
    (∃ entry ∈ entries, number entry = n) ↔ low < n ∧ n ≤ high := by
  have hreaches := h.reaches
  rw [← List.mem_map, h.numbers, List.mem_range'_1]
  omega

theorem mem (h : Window number low high entries) (hentry : entry ∈ entries) :
    low < number entry ∧ number entry ≤ high :=
  h.exists_iff.mp ⟨entry, hentry, rfl⟩

/-- No number is kept twice. -/
theorem unique (h : Window number low high entries) {other : α} (hentry : entry ∈ entries)
    (hother : other ∈ entries) (hsame : number entry = number other) : entry = other := by
  have hnodup : (entries.map number).Nodup := by
    rw [h.numbers]
    exact List.nodup_range'
  exact List.inj_on_of_nodup_map hnodup hentry hother hsame

/-- The entries above a later mark are what is left behind it. -/
theorem filter_eq_drop (h : Window number low high entries) {mark : Nat} (hmark : low ≤ mark) :
    (entries.filter fun entry => decide (mark < number entry ∧ number entry ≤ high)) =
      entries.drop (mark - low) := by
  induction entries generalizing low with
  | nil => simp
  | cons first entries ih =>
      by_cases hlow : mark = low
      · rw [hlow, Nat.sub_self, List.drop_zero, List.filter_eq_self]
        intro entry hentry
        exact decide_eq_true (h.mem hentry)
      · have hhead := h.head
        have hfirst : ¬(mark < number first ∧ number first ≤ high) := by omega
        rw [List.filter_cons_of_neg (by simpa using hfirst), ih h.pop (by omega)]
        have hcount : mark - low = (mark - number first) + 1 := by omega
        rw [hcount, List.drop_succ_cons]

end Window

/-! ## Forgetting -/

/-- Forgets from the front while the entry there is stale or there are too many entries, and
moves the mark along. -/
def forget (number : α → Nat) (stale : α → Bool) (limit : Nat) : Nat → List α → Nat × List α
  | low, [] => (low, [])
  | low, entry :: entries =>
      if stale entry = true ∨ limit < (entry :: entries).length then
        forget number stale limit (number entry) entries
      else
        (low, entry :: entries)

section Forget

variable {number : α → Nat} {stale : α → Bool} {limit low high : Nat} {entries : List α}

theorem forget_window (h : Window number low high entries) :
    Window number (forget number stale limit low entries).1 high
      (forget number stale limit low entries).2 := by
  induction entries generalizing low with
  | nil => exact h
  | cons entry entries ih =>
      unfold forget
      split
      · exact ih h.pop
      · exact h

theorem forget_low_le (h : Window number low high entries) :
    low ≤ (forget number stale limit low entries).1 := by
  induction entries generalizing low with
  | nil => exact le_rfl
  | cons entry entries ih =>
      unfold forget
      split
      · have hhead := h.head
        have hle := ih h.pop
        omega
      · exact le_rfl

theorem forget_suffix (low : Nat) (entries : List α) :
    (forget number stale limit low entries).2 <:+ entries := by
  induction entries generalizing low with
  | nil => exact List.suffix_refl _
  | cons entry entries ih =>
      unfold forget
      split
      · exact (ih _).trans (List.suffix_cons entry entries)
      · exact List.suffix_refl _

theorem length_forget_le (low : Nat) (entries : List α) :
    (forget number stale limit low entries).2.length ≤ limit := by
  induction entries generalizing low with
  | nil => exact Nat.zero_le _
  | cons entry entries ih =>
      unfold forget
      split
      · exact ih _
      · rename_i hkeep
        exact not_lt.mp (not_or.mp hkeep).2

/-- Where an entry is stale only behind stale ones, no stale entry is kept. -/
theorem forget_fresh (low : Nat)
    (h : entries.Pairwise fun earlier later => stale later = true → stale earlier = true) :
    ∀ entry ∈ (forget number stale limit low entries).2, stale entry = false := by
  induction entries generalizing low with
  | nil => exact fun _ hentry => absurd hentry List.not_mem_nil
  | cons first entries ih =>
      obtain ⟨hfirst, hrest⟩ := List.pairwise_cons.mp h
      unfold forget
      split
      · exact ih _ hrest
      · rename_i hkeep
        have hfresh : stale first = false := Bool.eq_false_iff.mpr (not_or.mp hkeep).1
        intro entry hentry
        rcases List.mem_cons.mp hentry with rfl | hlater
        · exact hfresh
        · rw [Bool.eq_false_iff]
          intro hstale
          exact Bool.eq_false_iff.mp hfresh (hfirst entry hlater hstale)

/-- What is kept, and the mark, as what is dropped from the front. -/
theorem forget_eq_drop (h : Window number low high entries) :
    (forget number stale limit low entries).2 =
      entries.drop ((forget number stale limit low entries).1 - low) := by
  obtain ⟨dropped, hdropped⟩ : (forget number stale limit low entries).2 <:+ entries :=
    forget_suffix low entries
  have hlow : low ≤ (forget number stale limit low entries).1 := forget_low_le h
  have hkept : (forget number stale limit low entries).1 +
      (forget number stale limit low entries).2.length = high := (forget_window h).reaches
  have hall := h.reaches
  have hlength := congrArg List.length hdropped
  rw [List.length_append] at hlength
  have hcount : (forget number stale limit low entries).1 - low = dropped.length := by
    omega
  rw [hcount]
  conv_rhs => rw [← hdropped]
  rw [List.drop_left]

end Forget

end AgentsAssemble.Foundation
