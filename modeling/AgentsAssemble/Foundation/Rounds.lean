import AgentsAssemble.Foundation.Transition
import Mathlib.Data.Finset.Basic
import Mathlib.Data.List.Forall2

/-!
# One-shot rounds

A round is opened under a generation that was never used, is read, and is settled with at
most one outcome.  Operations of the round that are pending keep it from being settled and
from being taken, and a round that is being closed goes away with the last of them.
-/

namespace AgentsAssemble.Foundation

variable {γ ι ο : Type}

/-- The round in progress. -/
structure Round (γ ι ο : Type) where
  generation : γ
  read : Bool
  pending : Finset ι
  outcome : Option ο
  closing : Bool

/-- The round in progress, and the generations that were used. -/
structure Rounds (γ ι ο : Type) where
  current : Option (Round γ ι ο)
  used : Finset γ

inductive RoundMove (γ ι ο : Type)
  | opens (generation : γ)
  | reads
  | acquires (id : ι)
  | releases (id : ι)
  | settles (outcome : ο)
  | takes (outcome : ο)
  | closes
  | idles

/-- A move, under the generation of the round that it found. -/
structure RoundLabel (γ ι ο : Type) where
  generation : Option γ
  move : RoundMove γ ι ο

namespace Round

def opened (generation : γ) : Round γ ι ο :=
  { generation, read := false, pending := ∅, outcome := none, closing := false }

/-- What is left of a round: one that is being closed needs a pending operation. -/
def remaining [DecidableEq ι] (round : Round γ ι ο) : Option (Round γ ι ο) :=
  if round.closing = true ∧ round.pending = ∅ then none else some round

/-- Nothing keeps the round from being settled but its outcome. -/
structure Ready (round : Round γ ι ο) : Prop where
  read : round.read = true
  quiet : round.pending = ∅
  kept : round.closing = false

/-- An outcome was staged by a round that was ready, and a closing round waits for an operation. -/
structure Sound (round : Round γ ι ο) : Prop where
  settled : round.outcome.isSome = true → round.Ready
  waiting : round.closing = true → round.pending.Nonempty

end Round

section Moves

variable [DecidableEq ι]

/-- What a move does to the round in progress. -/
def RoundMove.Moves (s t : Option (Round γ ι ο)) : RoundMove γ ι ο → Prop
  | .opens generation => s = none ∧ t = some (Round.opened generation)
  | .reads => ∃ round, s = some round ∧ t = some { round with read := true }
  | .acquires id => ∃ round, s = some round ∧ round.closing = false ∧ round.outcome = none ∧
      t = some { round with pending := insert id round.pending }
  | .releases id => ∃ round, s = some round ∧
      t = Round.remaining { round with pending := round.pending.erase id }
  | .settles outcome => ∃ round, s = some round ∧ round.Ready ∧ round.outcome = none ∧
      t = some { round with outcome := some outcome }
  | .takes outcome => ∃ round, s = some round ∧ round.Ready ∧ round.outcome = some outcome ∧
      t = none
  | .closes => ∃ round, s = some round ∧ ∃ kept ⊆ round.pending,
      t = Round.remaining { round with closing := true, pending := kept }
  | .idles => t = s

namespace Rounds

def Step (label : RoundLabel γ ι ο) (s t : Rounds γ ι ο) : Prop :=
  label.generation = s.current.map Round.generation ∧ s.used ⊆ t.used ∧
    (∀ generation, label.move = .opens generation →
      generation ∉ s.used ∧ generation ∈ t.used) ∧
    label.move.Moves s.current t.current

/-- The round in progress is sound, and its generation is used. -/
structure Sound (s : Rounds γ ι ο) : Prop where
  round : ∀ round, s.current = some round → round.Sound
  used : ∀ round, s.current = some round → round.generation ∈ s.used

end Rounds

end Moves

/-! ## One move -/

namespace Round

variable [DecidableEq ι] {round left : Round γ ι ο}

theorem remaining_eq_some :
    round.remaining = some left ↔
      left = round ∧ ¬ (round.closing = true ∧ round.pending = ∅) := by
  unfold remaining
  split
  · rename_i hgone
    simp [hgone]
  · rename_i hleft
    rw [Option.some_inj]
    constructor
    · rintro rfl
      exact ⟨rfl, hleft⟩
    · rintro ⟨rfl, -⟩
      rfl

theorem remaining_eq_none :
    round.remaining = none ↔ round.closing = true ∧ round.pending = ∅ := by
  unfold remaining
  split
  · rename_i hgone
    exact ⟨fun _ => hgone, fun _ => rfl⟩
  · rename_i hleft
    constructor
    · intro h
      cases h
    · exact fun h => absurd h hleft

end Round

section Steps

variable [DecidableEq ι] {s t : Option (Round γ ι ο)} {move : RoundMove γ ι ο}
  {before after : Round γ ι ο}

/-- What a move left in a round: its generation, and what it knew unless the move told it. -/
structure Carries (move : RoundMove γ ι ο) (before after : Round γ ι ο) : Prop where
  generation : after.generation = before.generation
  read : after.read = true → before.read = true ∨ move = .reads
  outcome : after.outcome = before.outcome ∨
    before.outcome = none ∧ ∃ outcome, after.outcome = some outcome ∧ move = .settles outcome

/-- The round after a move is a new one, or what the move left of the round before it. -/
theorem RoundMove.Moves.cases (h : move.Moves s t) (hafter : t = some after) :
    (s = none ∧ after = Round.opened after.generation ∧ move = .opens after.generation) ∨
      ∃ before, s = some before ∧ Carries move before after := by
  cases move with
  | opens generation =>
      obtain ⟨hnone, hnext⟩ := h
      obtain rfl := Option.some.inj (hafter.symm.trans hnext)
      exact Or.inl ⟨hnone, rfl, rfl⟩
  | reads =>
      obtain ⟨round, hround, hnext⟩ := h
      obtain rfl := Option.some.inj (hafter.symm.trans hnext)
      exact Or.inr ⟨round, hround, rfl, fun _ => Or.inr rfl, Or.inl rfl⟩
  | acquires id =>
      obtain ⟨round, hround, -, -, hnext⟩ := h
      obtain rfl := Option.some.inj (hafter.symm.trans hnext)
      exact Or.inr ⟨round, hround, rfl, Or.inl, Or.inl rfl⟩
  | releases id =>
      obtain ⟨round, hround, hnext⟩ := h
      obtain ⟨rfl, -⟩ := Round.remaining_eq_some.mp (hnext.symm.trans hafter)
      exact Or.inr ⟨round, hround, rfl, Or.inl, Or.inl rfl⟩
  | settles outcome =>
      obtain ⟨round, hround, -, hnone, hnext⟩ := h
      obtain rfl := Option.some.inj (hafter.symm.trans hnext)
      exact Or.inr ⟨round, hround, rfl, Or.inl, Or.inr ⟨hnone, outcome, rfl, rfl⟩⟩
  | takes outcome =>
      obtain ⟨-, -, -, -, hnext⟩ := h
      cases hafter.symm.trans hnext
  | closes =>
      obtain ⟨round, hround, kept, -, hnext⟩ := h
      obtain ⟨rfl, -⟩ := Round.remaining_eq_some.mp (hnext.symm.trans hafter)
      exact Or.inr ⟨round, hround, rfl, Or.inl, Or.inl rfl⟩
  | idles =>
      exact Or.inr ⟨after, h.symm.trans hafter, rfl, Or.inl, Or.inl rfl⟩

/-- A move keeps a round sound: what it changes of the pending operations and of the outcome
excludes the other. -/
theorem RoundMove.Moves.sound (h : move.Moves s t)
    (hs : ∀ round, s = some round → round.Sound) :
    ∀ round, t = some round → round.Sound := by
  intro after hafter
  cases move with
  | opens generation =>
      obtain ⟨-, rfl⟩ := h
      obtain rfl := Option.some.inj hafter
      exact ⟨fun hsettled => absurd hsettled Bool.false_ne_true,
        fun hclosing => absurd hclosing Bool.false_ne_true⟩
  | reads =>
      obtain ⟨round, hround, rfl⟩ := h
      obtain rfl := Option.some.inj hafter
      refine ⟨fun hsettled => ?_, (hs _ hround).waiting⟩
      obtain ⟨-, hquiet, hkept⟩ := (hs _ hround).settled hsettled
      exact ⟨rfl, hquiet, hkept⟩
  | acquires id =>
      obtain ⟨round, hround, hkept, hnone, rfl⟩ := h
      obtain rfl := Option.some.inj hafter
      refine ⟨fun hsettled => ?_, fun hclosing => ?_⟩
      · dsimp only at hsettled
        rw [hnone] at hsettled
        cases hsettled
      · exact ⟨id, Finset.mem_insert_self _ _⟩
  | releases id =>
      obtain ⟨round, hround, rfl⟩ := h
      obtain ⟨rfl, hleft⟩ := Round.remaining_eq_some.mp hafter
      refine ⟨fun hsettled => ?_, fun hclosing => ?_⟩
      · obtain ⟨hread, hquiet, hkept⟩ := (hs _ hround).settled hsettled
        refine ⟨hread, ?_, hkept⟩
        dsimp only
        rw [hquiet, Finset.erase_empty]
      · exact Finset.nonempty_iff_ne_empty.mpr fun hempty => hleft ⟨hclosing, hempty⟩
  | settles outcome =>
      obtain ⟨round, hround, hready, -, rfl⟩ := h
      obtain rfl := Option.some.inj hafter
      exact ⟨fun _ => ⟨hready.read, hready.quiet, hready.kept⟩, (hs _ hround).waiting⟩
  | takes outcome =>
      obtain ⟨-, -, -, -, rfl⟩ := h
      cases hafter
  | closes =>
      obtain ⟨round, hround, kept, hkept, rfl⟩ := h
      obtain ⟨rfl, hleft⟩ := Round.remaining_eq_some.mp hafter
      have hnonempty : kept.Nonempty :=
        Finset.nonempty_iff_ne_empty.mpr fun hempty => hleft ⟨rfl, hempty⟩
      refine ⟨fun hsettled => ?_, fun _ => hnonempty⟩
      obtain ⟨-, hquiet, -⟩ := (hs _ hround).settled hsettled
      rw [hquiet] at hkept
      obtain ⟨id, hid⟩ := hnonempty
      exact absurd (hkept hid) (Finset.notMem_empty id)
  | idles => exact hs after (h.symm.trans hafter)

/-- A closing round stays until a move leaves it without a pending operation. -/
theorem RoundMove.Moves.closing {round : Round γ ι ο} (h : move.Moves s t)
    (hround : s = some round) (hclosing : round.closing = true) :
    (∃ after, t = some after ∧ after.generation = round.generation ∧ after.closing = true) ∨
      t = none ∧ ((∃ id, move = .releases id ∧ round.pending.erase id = ∅) ∨ move = .closes) := by
  subst hround
  cases move with
  | opens generation => exact absurd h.1 (by simp)
  | reads =>
      obtain ⟨round', hround', rfl⟩ := h
      obtain rfl := Option.some.inj hround'
      exact Or.inl ⟨_, rfl, rfl, hclosing⟩
  | acquires id =>
      obtain ⟨round', hround', hkept, -, -⟩ := h
      obtain rfl := Option.some.inj hround'
      rw [hclosing] at hkept
      cases hkept
  | releases id =>
      obtain ⟨round', hround', rfl⟩ := h
      obtain rfl := Option.some.inj hround'
      cases hleft : Round.remaining { round with pending := round.pending.erase id } with
      | none => exact Or.inr ⟨rfl, Or.inl ⟨id, rfl, (Round.remaining_eq_none.mp hleft).2⟩⟩
      | some after =>
          obtain ⟨rfl, -⟩ := Round.remaining_eq_some.mp hleft
          exact Or.inl ⟨_, rfl, rfl, hclosing⟩
  | settles outcome =>
      obtain ⟨round', hround', hready, -, -⟩ := h
      obtain rfl := Option.some.inj hround'
      have hkept := hready.kept
      rw [hclosing] at hkept
      cases hkept
  | takes outcome =>
      obtain ⟨round', hround', hready, -, -⟩ := h
      obtain rfl := Option.some.inj hround'
      have hkept := hready.kept
      rw [hclosing] at hkept
      cases hkept
  | closes =>
      obtain ⟨round', hround', kept, -, rfl⟩ := h
      obtain rfl := Option.some.inj hround'
      cases hleft : Round.remaining { round with closing := true, pending := kept } with
      | none => exact Or.inr ⟨rfl, Or.inr rfl⟩
      | some after =>
          obtain ⟨rfl, -⟩ := Round.remaining_eq_some.mp hleft
          exact Or.inl ⟨_, rfl, rfl, rfl⟩
  | idles => exact Or.inl ⟨round, h, rfl, hclosing⟩

end Steps

/-! ## Runs -/

section Runs

variable [DecidableEq ι] {s t : Rounds γ ι ο} {label : RoundLabel γ ι ο}
  {labels : List (RoundLabel γ ι ο)} {generation : γ}

theorem Rounds.Sound.step (hs : s.Sound) (h : Rounds.Step label s t) : t.Sound := by
  obtain ⟨-, hused, hopens, hmoves⟩ := h
  refine ⟨hmoves.sound hs.round, fun round hround => ?_⟩
  rcases hmoves.cases hround with ⟨-, -, hopened⟩ | ⟨before, hbefore, hcarries⟩
  · exact (hopens _ hopened).2
  · rw [hcarries.generation]
    exact hused (hs.used _ hbefore)

theorem Rounds.Sound.run (hs : s.Sound) (h : Run Rounds.Step s labels t) : t.Sound :=
  h.invariant (fun _ _ _ hs hstep => hs.step hstep) hs

/-- The label settles the round of a generation. -/
def RoundLabel.settlesIn [DecidableEq γ] (generation : γ) (label : RoundLabel γ ι ο) : Bool :=
  label.generation == some generation &&
    match label.move with
    | .settles _ => true
    | _ => false

omit [DecidableEq ι] in
theorem settlesIn_eq_true [DecidableEq γ] :
    label.settlesIn generation = true ↔
      label.generation = some generation ∧ ∃ outcome, label.move = .settles outcome := by
  unfold RoundLabel.settlesIn
  rw [Bool.and_eq_true, beq_iff_eq]
  cases label.move <;> simp

/-- The round of the generation can still be settled. -/
def Rounds.Unsettled (generation : γ) (s : Rounds γ ι ο) : Prop :=
  generation ∉ s.used ∨
    ∃ round, s.current = some round ∧ round.generation = generation ∧ round.outcome = none

theorem Rounds.settles_step [DecidableEq γ] (hs : s.Sound) (h : Rounds.Step label s t)
    (hsettles : label.settlesIn generation = true) :
    s.Unsettled generation ∧ ¬ t.Unsettled generation := by
  obtain ⟨hgeneration, hused, -, hmoves⟩ := h
  obtain ⟨hat, outcome, hmove⟩ := settlesIn_eq_true.mp hsettles
  rw [hmove] at hmoves
  obtain ⟨round, hround, -, hopen, hnext⟩ := hmoves
  rw [hgeneration, hround, Option.map_some] at hat
  obtain rfl := Option.some.inj hat
  refine ⟨Or.inr ⟨round, hround, rfl, hopen⟩, ?_⟩
  rintro (hunused | ⟨after, hafter, -, hnone⟩)
  · exact hunused (hused (hs.used _ hround))
  · rw [hnext] at hafter
    obtain rfl := Option.some.inj hafter
    cases hnone

/-- A settled round is never unsettled again. -/
theorem Rounds.settled_step [DecidableEq γ] (h : Rounds.Step label s t)
    (hsettled : ¬ s.Unsettled generation) :
    ¬ t.Unsettled generation ∧ label.settlesIn generation = false := by
  obtain ⟨hgeneration, hused, hopens, hmoves⟩ := h
  rw [Rounds.Unsettled, not_or, not_not] at hsettled
  obtain ⟨hwas, hnone⟩ := hsettled
  constructor
  · rintro (hunused | ⟨after, hafter, rfl, hopen⟩)
    · exact hunused (hused hwas)
    · rcases hmoves.cases hafter with ⟨-, -, hopened⟩ | ⟨before, hbefore, hcarries⟩
      · exact (hopens _ hopened).1 hwas
      · rcases hcarries.outcome with hsame | ⟨-, outcome, hout, -⟩
        · exact hnone ⟨before, hbefore, hcarries.generation.symm, hsame.symm.trans hopen⟩
        · cases hopen.symm.trans hout
  · rw [Bool.eq_false_iff]
    intro hsettles
    obtain ⟨hat, outcome, hmove⟩ := settlesIn_eq_true.mp hsettles
    rw [hmove] at hmoves
    obtain ⟨round, hround, -, hopen, -⟩ := hmoves
    rw [hgeneration, hround, Option.map_some] at hat
    exact hnone ⟨round, hround, Option.some.inj hat, hopen⟩

/-- A round is settled at most once. -/
theorem Rounds.settled_once [DecidableEq γ] (hs : s.Sound) (h : Run Rounds.Step s labels t)
    (generation : γ) : labels.countP (RoundLabel.settlesIn generation) ≤ 1 := by
  have hkeeps : ∀ (l : RoundLabel γ ι ο) s t, Rounds.Sound s → Rounds.Step l s t →
      Rounds.Sound t := fun _ _ _ hs hstep => hs.step hstep
  have hneeds : ∀ (l : RoundLabel γ ι ο) s t, Rounds.Sound s → Rounds.Step l s t →
      RoundLabel.settlesIn generation l = true →
      Rounds.Unsettled generation s ∧ ¬ Rounds.Unsettled generation t :=
    fun _ _ _ hs hstep hhit => Rounds.settles_step hs hstep hhit
  exact (Run.count_le_one hkeeps hneeds
    (fun _ _ _ _ hstep hspent => Rounds.settled_step hstep hspent) hs h).1

/-! ## What the round in progress remembers -/

/-- What is known of the round in progress was done to it by a label of the run. -/
structure Remembers (labels : List (RoundLabel γ ι ο)) (s : Rounds γ ι ο) : Prop where
  read : ∀ round, s.current = some round → round.read = true →
    ⟨some round.generation, .reads⟩ ∈ labels
  settled : ∀ round outcome, s.current = some round → round.outcome = some outcome →
    ⟨some round.generation, .settles outcome⟩ ∈ labels

omit [DecidableEq ι] in
theorem Rounds.remembers_nil (h : s.current = none) : Remembers [] s where
  read round hround := by
    rw [h] at hround
    cases hround
  settled round outcome hround := by
    rw [h] at hround
    cases hround

theorem Remembers.step (hs : Remembers labels s) (h : Rounds.Step label s t) :
    Remembers (labels ++ [label]) t := by
  obtain ⟨found, move⟩ := label
  obtain ⟨hfound, -, -, hmoves⟩ := h
  dsimp only at hfound hmoves
  have hlast : (⟨found, move⟩ : RoundLabel γ ι ο) ∈ labels ++ [⟨found, move⟩] :=
    List.mem_append_right _ List.mem_cons_self
  constructor
  case read =>
    intro after hafter hread
    rcases hmoves.cases hafter with ⟨-, hopened, -⟩ | ⟨before, hbefore, hcarries⟩
    · rw [hopened] at hread
      cases hread
    · rw [hcarries.generation]
      rcases hcarries.read hread with hwas | rfl
      · exact List.mem_append_left _ (hs.read before hbefore hwas)
      · rwa [hfound, hbefore] at hlast ⊢
  case settled =>
    intro after outcome hafter hout
    rcases hmoves.cases hafter with ⟨-, hopened, -⟩ | ⟨before, hbefore, hcarries⟩
    · rw [hopened] at hout
      cases hout
    · rw [hcarries.generation]
      rcases hcarries.outcome with hsame | ⟨-, outcome', hnew, rfl⟩
      · exact List.mem_append_left _ (hs.settled before outcome hbefore (hsame.symm.trans hout))
      · obtain rfl := Option.some.inj (hnew.symm.trans hout)
        rwa [hfound, hbefore] at hlast ⊢

theorem Rounds.remembers (hs : s.current = none) (h : Run Rounds.Step s labels t) :
    Remembers labels t :=
  h.invariant_labels (fun _ _ _ _ hs hstep => Remembers.step hs hstep) (Rounds.remembers_nil hs)

end Runs

/-! ## Matching a run -/

/-- A run whose steps are matched by steps of another system is matched by a run of it. -/
theorem Run.matched {σ τ κ μ : Type} {step : κ → σ → σ → Prop} {step' : μ → τ → τ → Prop}
    {I : σ → Prop} {f : σ → τ} {L : κ → μ → Prop} (hI : ∀ l s t, I s → step l s t → I t)
    (hstep : ∀ l s t, I s → step l s t → ∃ m, L l m ∧ step' m (f s) (f t)) {s t : σ}
    {ls : List κ} (hs : I s) (h : Run step s ls t) :
    ∃ ms, List.Forall₂ L ls ms ∧ Run step' (f s) ms (f t) := by
  induction h with
  | nil => exact ⟨[], List.Forall₂.nil, Run.nil _⟩
  | @snoc t u ls l hrun hlast ih =>
      obtain ⟨ms, hmatched, hrun'⟩ := ih
      obtain ⟨m, hlabel, hlast'⟩ := hstep l t u (hrun.invariant hI hs) hlast
      refine ⟨ms ++ [m], ?_, hrun'.snoc hlast'⟩
      exact List.rel_append hmatched (List.Forall₂.cons hlabel List.Forall₂.nil)

end AgentsAssemble.Foundation
