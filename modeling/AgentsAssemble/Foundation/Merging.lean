import AgentsAssemble.Foundation.Result
import AgentsAssemble.Foundation.Table

/-!
# Loops that merge pieces

A loop over pieces that arrive one by one: pieces of a text that are appended
and checked, values that must all agree, and items that each belong to one row
of a table.  Each loop is described by its input as a whole, so that what does
not depend on where the input was cut can be read off the description.
-/

namespace AgentsAssemble.Foundation.Merging

open Result (bind_eq_ok pure_eq_ok)
open String (join_nil join_cons)

variable {α β σ κ ρ ε : Type}

/-! ## Loops -/

theorem foldlM_nil_eq_ok {f : σ → α → Except ε σ} {s s' : σ} :
    [].foldlM f s = .ok s' ↔ s' = s := by
  rw [List.foldlM_nil, pure_eq_ok]
  exact eq_comm

theorem foldlM_cons_eq_ok {f : σ → α → Except ε σ} {a : α} {as : List α} {s s' : σ} :
    (a :: as).foldlM f s = .ok s' ↔ ∃ mid, f s a = .ok mid ∧ as.foldlM f mid = .ok s' := by
  rw [List.foldlM_cons, bind_eq_ok]

/-- A check of the item alone can be made for all items before the loop. -/
theorem foldlM_guarded {f g : σ → α → Except ε σ} {q : α → Prop}
    (h : ∀ s a s', f s a = .ok s' ↔ q a ∧ g s a = .ok s') {as : List α} {s s' : σ} :
    as.foldlM f s = .ok s' ↔ (∀ a ∈ as, q a) ∧ as.foldlM g s = .ok s' := by
  induction as generalizing s with
  | nil => simp
  | cons a as ih =>
      simp only [foldlM_cons_eq_ok, List.forall_mem_cons, h]
      constructor
      · rintro ⟨mid, ⟨hq, hg⟩, hrest⟩
        obtain ⟨hqs, hgs⟩ := ih.mp hrest
        exact ⟨⟨hq, hqs⟩, mid, hg, hgs⟩
      · rintro ⟨⟨hq, hqs⟩, mid, hg, hgs⟩
        exact ⟨mid, ⟨hq, hg⟩, ih.mpr ⟨hqs, hgs⟩⟩

/-! ## Texts -/

/-- Append a piece and check the text so far. -/
def appendChecked (p : String → Bool) (e : ε) (text piece : String) : Except ε String :=
  if p (text ++ piece) then .ok (text ++ piece) else .error e

theorem appendChecked_eq_ok {p : String → Bool} {e : ε} {text piece text' : String} :
    appendChecked p e text piece = .ok text' ↔
      p (text ++ piece) = true ∧ text' = text ++ piece := by
  unfold appendChecked
  by_cases hp : p (text ++ piece) = true
  · rw [if_pos hp]
    simp [hp, eq_comm]
  · rw [if_neg hp]
    simp [hp]

/-- Appending succeeds if every text that stood after a piece passed the check. -/
theorem foldlM_appendChecked {p : String → Bool} {e : ε} {pieces : List String}
    {text text' : String} :
    pieces.foldlM (appendChecked p e) text = .ok text' ↔
      (∀ arrived, arrived <+: pieces → arrived ≠ [] → p (text ++ String.join arrived) = true) ∧
        text' = text ++ String.join pieces := by
  induction pieces generalizing text with
  | nil =>
      rw [foldlM_nil_eq_ok, join_nil, String.append_empty, iff_and_self]
      rintro - arrived hpre hne
      exact absurd (List.prefix_nil.mp hpre) hne
  | cons piece pieces ih =>
      simp only [foldlM_cons_eq_ok, appendChecked_eq_ok]
      constructor
      · rintro ⟨_, ⟨hp, rfl⟩, hrest⟩
        obtain ⟨hall, rfl⟩ := ih.mp hrest
        refine ⟨?_, by rw [join_cons, String.append_assoc]⟩
        rintro arrived hpre hne
        obtain rfl | ⟨later, rfl, hlater⟩ := List.prefix_cons_iff.mp hpre
        · exact absurd rfl hne
        rw [join_cons, ← String.append_assoc]
        by_cases hnil : later = []
        · rw [hnil, join_nil, String.append_empty]
          exact hp
        · exact hall later hlater hnil
      · rintro ⟨hall, rfl⟩
        refine ⟨text ++ piece, ⟨?_, rfl⟩, ih.mpr ⟨fun arrived hpre hne => ?_, ?_⟩⟩
        · simpa [join_cons, join_nil] using
            hall [piece] (List.prefix_cons_iff.mpr (Or.inr ⟨[], rfl, List.nil_prefix⟩))
              (List.cons_ne_nil _ _)
        · have := hall (piece :: arrived) (List.cons_prefix_cons.mpr ⟨rfl, hpre⟩)
            (List.cons_ne_nil _ _)
          rwa [join_cons, ← String.append_assoc] at this
        · rw [join_cons, String.append_assoc]

/-! ## Values that agree -/

/-- The values all pass `p` and are one value, which was kept; without values nothing was. -/
def Agreed (p : α → Prop) (values : List α) (kept : Option α) : Prop :=
  (∀ v ∈ values, p v ∧ kept = some v) ∧ (values = [] → kept = none)

/-- What was agreed on does not depend on how often or in which order it was said. -/
theorem agreed_congr {p : α → Prop} {values values' : List α} {kept : Option α}
    (h : ∀ v, v ∈ values ↔ v ∈ values') : Agreed p values kept ↔ Agreed p values' kept := by
  have hnil : values = [] ↔ values' = [] := by
    simp only [List.eq_nil_iff_forall_not_mem, h]
  simp only [Agreed, h, hnil]

/-- `step` keeps the one value its inputs agree on: `enc` reads the value a state
holds and `dec` the value an input carries. -/
def Keeps (enc : σ → Option α) (dec : β → Option α) (p : α → Prop)
    (step : σ → β → Except ε σ) : Prop :=
  ∀ s b s', step s b = .ok s' ↔
    (∀ v, dec b = some v → p v ∧ (enc s = none ∨ enc s = some v) ∧ enc s' = some v) ∧
      (dec b = none → s' = s)

theorem Keeps.foldlM {enc : σ → Option α} {dec : β → Option α} {p : α → Prop}
    {step : σ → β → Except ε σ} (hstep : Keeps enc dec p step) {bs : List β} {s s' : σ} :
    bs.foldlM step s = .ok s' ↔
      (∀ v ∈ bs.filterMap dec, p v ∧ enc s' = some v) ∧
        (∀ v, enc s = some v → enc s' = some v) ∧ (bs.filterMap dec = [] → s' = s) := by
  induction bs generalizing s with
  | nil =>
      rw [foldlM_nil_eq_ok, List.filterMap_nil]
      constructor
      · rintro rfl
        exact ⟨nofun, fun _ h => h, fun _ => rfl⟩
      · rintro ⟨-, -, hsame⟩
        exact hsame rfl
  | cons b bs ih =>
      simp only [foldlM_cons_eq_ok, hstep s b]
      cases hdec : dec b with
      | none =>
          rw [List.filterMap_cons_none hdec]
          constructor
          · rintro ⟨mid, ⟨-, hmid⟩, hrest⟩
            rw [hmid rfl] at hrest
            exact ih.mp hrest
          · intro h
            exact ⟨s, ⟨nofun, fun _ => rfl⟩, ih.mpr h⟩
      | some v =>
          rw [List.filterMap_cons_some hdec, List.forall_mem_cons]
          constructor
          · rintro ⟨mid, ⟨hv, -⟩, hrest⟩
            obtain ⟨hp, hold, hnew⟩ := hv v rfl
            obtain ⟨hall, hkept, -⟩ := ih.mp hrest
            refine ⟨⟨⟨hp, hkept v hnew⟩, hall⟩, fun w hw => ?_, nofun⟩
            rcases hold with hold | hold
            · exact absurd (hold.symm.trans hw) nofun
            · obtain rfl := Option.some.inj (hold.symm.trans hw)
              exact hkept _ hnew
          · rintro ⟨⟨⟨hp, hlast⟩, hall⟩, hkept, -⟩
            -- the state after the first value already holds the value of the last state
            refine ⟨s', ⟨?_, nofun⟩, ih.mpr ⟨hall, fun _ h => h, fun _ => rfl⟩⟩
            intro w hw
            obtain rfl := Option.some.inj hw
            refine ⟨hp, ?_, hlast⟩
            cases hs : enc s with
            | none => exact Or.inl rfl
            | some w => exact Or.inr ((hkept w hs).symm.trans hlast)

/-- From a state that holds nothing, the loop ends with what the inputs agreed on. -/
theorem Keeps.foldlM_fresh {enc : σ → Option α} {dec : β → Option α} {p : α → Prop}
    {step : σ → β → Except ε σ} (hstep : Keeps enc dec p step) (henc : Function.Injective enc)
    {bs : List β} {s s' : σ} (hs : enc s = none) :
    bs.foldlM step s = .ok s' ↔ Agreed p (bs.filterMap dec) (enc s') := by
  rw [hstep.foldlM, Agreed]
  refine and_congr_right fun _ => ?_
  constructor
  · rintro ⟨-, hsame⟩ hnil
    rw [hsame hnil, hs]
  · intro hnone
    exact ⟨fun v hv => absurd (hs.symm.trans hv) nofun,
      fun hnil => henc ((hnone hnil).trans hs.symm)⟩

/-! ## Rows -/

section Rows

variable [DecidableEq κ] {key : α → κ} {fresh : ρ} {f : ρ → α → Except ε ρ}

/-- Update the row under an item's key; a missing row starts as `fresh`. -/
def stepRow (key : α → κ) (fresh : ρ) (f : ρ → α → Except ε ρ) (t : Table κ ρ) (a : α) :
    Except ε (Table κ ρ) := do
  let row ← f ((t.lookup (key a)).getD fresh) a
  return t.insert (key a) row

theorem stepRow_eq_ok {t t' : Table κ ρ} {a : α} :
    stepRow key fresh f t a = .ok t' ↔
      ∃ row, f ((t.lookup (key a)).getD fresh) a = .ok row ∧ t' = t.insert (key a) row := by
  rw [stepRow, bind_eq_ok]
  constructor
  · rintro ⟨row, hrow, hinsert⟩
    exact ⟨row, hrow, (pure_eq_ok.mp hinsert).symm⟩
  · rintro ⟨row, hrow, rfl⟩
    exact ⟨row, hrow, rfl⟩

/-- The loop runs one loop for each row, over the items of that row. -/
theorem foldlM_stepRow {as : List α} {t t' : Table κ ρ}
    (h : as.foldlM (stepRow key fresh f) t = .ok t') (k : κ) :
    (as.filter (key · = k)).foldlM f ((t.lookup k).getD fresh) =
      .ok ((t'.lookup k).getD fresh) := by
  induction as generalizing t with
  | nil =>
      rw [foldlM_nil_eq_ok.mp h]
      rfl
  | cons a as ih =>
      obtain ⟨mid, hstep, hrest⟩ := foldlM_cons_eq_ok.mp h
      obtain ⟨row, hrow, rfl⟩ := stepRow_eq_ok.mp hstep
      have hmid := ih hrest
      rw [Table.lookup_insert_ite] at hmid
      by_cases hk : key a = k
      · rw [List.filter_cons_of_pos (by simpa using hk), foldlM_cons_eq_ok]
        rw [if_pos hk.symm] at hmid
        exact ⟨row, hk ▸ hrow, hmid⟩
      · rw [List.filter_cons_of_neg (by simpa using hk)]
        rwa [if_neg (Ne.symm hk)] at hmid

/-- The loop makes a row for each key that an item has. -/
theorem mem_foldlM_stepRow {as : List α} {t t' : Table κ ρ}
    (h : as.foldlM (stepRow key fresh f) t = .ok t') (k : κ) :
    (t'.lookup k).isSome ↔ (t.lookup k).isSome ∨ k ∈ as.map key := by
  induction as generalizing t with
  | nil => simp [foldlM_nil_eq_ok.mp h]
  | cons a as ih =>
      obtain ⟨mid, hstep, hrest⟩ := foldlM_cons_eq_ok.mp h
      obtain ⟨row, -, rfl⟩ := stepRow_eq_ok.mp hstep
      rw [ih hrest, Table.lookup_insert_ite, List.map_cons, List.mem_cons]
      by_cases hk : k = key a
      · simp [hk]
      · simp [hk]

/-- If the loop of every row succeeds, so does the whole loop. -/
theorem exists_foldlM_stepRow {as : List α} {t : Table κ ρ}
    (h : ∀ k, ∃ row, (as.filter (key · = k)).foldlM f ((t.lookup k).getD fresh) = .ok row) :
    ∃ t', as.foldlM (stepRow key fresh f) t = .ok t' := by
  induction as generalizing t with
  | nil => exact ⟨t, foldlM_nil_eq_ok.mpr rfl⟩
  | cons a as ih =>
      obtain ⟨last, hlast⟩ := h (key a)
      rw [List.filter_cons_of_pos (by simp), foldlM_cons_eq_ok] at hlast
      obtain ⟨row, hrow, hrest⟩ := hlast
      have hloops : ∀ k, ∃ final, (as.filter (key · = k)).foldlM f
          (((t.insert (key a) row).lookup k).getD fresh) = .ok final := by
        intro k
        rw [Table.lookup_insert_ite]
        by_cases hk : k = key a
        · rw [if_pos hk, hk]
          exact ⟨last, hrest⟩
        · obtain ⟨final, hfinal⟩ := h k
          rw [List.filter_cons_of_neg (by simpa using Ne.symm hk)] at hfinal
          rw [if_neg hk]
          exact ⟨final, hfinal⟩
      obtain ⟨t', ht'⟩ := ih hloops
      exact ⟨t', foldlM_cons_eq_ok.mpr ⟨_, stepRow_eq_ok.mpr ⟨row, hrow, rfl⟩, ht'⟩⟩

end Rows

end AgentsAssemble.Foundation.Merging
