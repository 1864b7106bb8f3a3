import AgentsAssemble.Provider.OpenCodeStream

/-!
# Runs of the event stream

The owner of a turn waits for one event after the other until the turn is completed
or the stream fails.  What it gets does not depend on how the stream was cut, except
that some cuts are refused at a limit before the others are through.
-/

namespace AgentsAssemble.Provider.OpenCode

open Domain Foundation
open Foundation.Framing (ShortStretches)

/-- What the owner gets: the events in their order, and the failure that ended them. -/
structure Yielded where
  events : List TurnEvent
  failure : Option OpenCodeEventError

section Runs

variable (fromSlice : List UInt8 → Option Json)

/-- The owner of the turn, waiting until the turn is over. -/
def TurnEventStream.run (s : TurnEventStream) : Yielded :=
  match _hnext : s.next fromSlice with
  | .error e => ⟨[], some e⟩
  | .ok (.completed events, _) => ⟨[.completed events], none⟩
  | .ok (.request event, s) =>
      let rest := s.run
      ⟨.request event :: rest.events, rest.failure⟩
termination_by s.remaining
decreasing_by exact next_remaining _hnext

/-- One run was refused at a limit, short of what the other one gives. -/
structure Yielded.CutShort (y whole : Yielded) : Prop where
  refused : y.failure = some .tooLarge
  events : y.events <+: whole.events

/-- Two runs that are each the whole or cut short of it. -/
theorem Yielded.cutShort_cases {y y' whole : Yielded} (h : y = whole ∨ y.CutShort whole)
    (h' : y' = whole ∨ y'.CutShort whole) : y = y' ∨ y.CutShort y' ∨ y'.CutShort y := by
  rcases h with rfl | hcut
  · exact h'.imp Eq.symm Or.inr
  · rcases h' with rfl | hcut'
    · exact Or.inr (Or.inl hcut)
    · -- Both are refused, and the events of one are a prefix of those of the other.
      have hcompare := List.prefix_or_prefix_of_prefix hcut.events hcut'.events
      refine Or.inr (hcompare.imp ?_ ?_)
      · exact fun hevents => ⟨hcut.refused, hevents⟩
      · exact fun hevents => ⟨hcut'.refused, hevents⟩

variable {fromSlice}

namespace TurnEventStream

theorem run_eq (s : TurnEventStream) :
    s.run fromSlice =
      match s.next fromSlice with
      | .error e => ⟨[], some e⟩
      | .ok (.completed events, _) => ⟨[.completed events], none⟩
      | .ok (.request event, s') =>
          ⟨.request event :: (s'.run fromSlice).events, (s'.run fromSlice).failure⟩ := by
  rw [run]
  split
  · next hnext => rw [hnext]
  · next hnext => rw [hnext]
  · next hnext => rw [hnext]

theorem Bounded.next {s s' : TurnEventStream} {event : TurnEvent} (hbounded : s.Bounded)
    (h : s.next fromSlice = .ok (event, s')) : s'.Bounded := by
  have hnexts := nexts fromSlice s
  rw [h] at hnexts
  clear h
  generalize hresult : Except.ok (event, s') = result at hnexts
  induction hnexts with
  | failed haccept => cases hresult
  | @done s accepted haccept hdone =>
      obtain ⟨taken, htaken⟩ := (acceptCompleteLines_ok fromSlice haccept).1
      have hs' : s'.total = s.total ∧ s'.response = s.response ∧ s'.pending = accepted.pending := by
        have hstream := congrArg Prod.snd (Except.ok.inj hresult)
        dsimp only at hstream
        rw [hstream, take]
        split <;> exact ⟨rfl, rfl, rfl⟩
      obtain ⟨htotal, hresponse, hpending⟩ := hs'
      constructor
      · rw [htotal, hresponse]
        exact hbounded.stream
      · rw [hresponse, hpending]
        exact hbounded.lines.infix ⟨taken, [], by rw [← htaken]; simp⟩
  | ended haccept hdone hchunks => cases hresult
  | refused haccept hchunks hlimit => cases hresult
  | received haccept hdone hchunks hfits hnext ih =>
      exact ih (hbounded.received haccept hchunks) hresult

/-- A run gives what the whole stream gives, or is cut short at a limit the stream passes. -/
theorem run_whole (s : TurnEventStream) :
    s.run fromSlice = s.whole.run fromSlice ∨
      ((s.run fromSlice).CutShort (s.whole.run fromSlice) ∧ ¬ s.Bounded) := by
  induction hlength : s.remaining using Nat.strong_induction_on generalizing s with
  | _ n ih =>
      subst hlength
      rcases @next_whole fromSlice s with hwhole | ⟨hrefused, hunbounded⟩
      · rw [run_eq s, run_eq s.whole, hwhole]
        cases hnext : s.next fromSlice with
        | error e => exact Or.inl rfl
        | ok result =>
            obtain ⟨event, s'⟩ := result
            cases event with
            | completed events => exact Or.inl rfl
            | request event =>
                show (⟨_ :: (s'.run fromSlice).events, (s'.run fromSlice).failure⟩ : Yielded) =
                    ⟨_ :: (s'.whole.run fromSlice).events, (s'.whole.run fromSlice).failure⟩ ∨ _
                rcases ih _ (next_remaining hnext) s' rfl with hsame | ⟨hcut, hunbounded⟩
                · exact Or.inl (by rw [hsame])
                · refine Or.inr ⟨⟨hcut.refused, ?_⟩, fun h => hunbounded (h.next hnext)⟩
                  exact List.cons_prefix_cons.mpr ⟨rfl, hcut.events⟩
      · rw [run_eq s, hrefused]
        exact Or.inr ⟨⟨rfl, List.nil_prefix⟩, hunbounded⟩

end TurnEventStream

/-- Two cuts of one stream give the same, or one of them is refused at a limit before the other;
within the limits no cut is. -/
theorem event_stream_cut_independent (sessionId : String) (mode : WaitMode) (breaks : Bool)
    (chunks chunks' : List (List UInt8)) (h : chunks.flatten = chunks'.flatten) :
    let y := (TurnEventStream.new ⟨chunks, breaks⟩ sessionId mode).run fromSlice
    let y' := (TurnEventStream.new ⟨chunks', breaks⟩ sessionId mode).run fromSlice
    (y = y' ∨ y.CutShort y' ∨ y'.CutShort y) ∧
      (chunks.flatten.length ≤ maxEventStreamBytes →
        ShortStretches lineFeed maxEventLineBytes chunks.flatten → y = y') := by
  intro y y'
  have hwhole : (TurnEventStream.new ⟨chunks, breaks⟩ sessionId mode).whole =
      (TurnEventStream.new ⟨chunks', breaks⟩ sessionId mode).whole := by
    simp only [TurnEventStream.whole, TurnEventStream.new, h]
  have hrun := @TurnEventStream.run_whole fromSlice (.new ⟨chunks, breaks⟩ sessionId mode)
  have hrun' := @TurnEventStream.run_whole fromSlice (.new ⟨chunks', breaks⟩ sessionId mode)
  rw [← hwhole] at hrun'
  constructor
  · exact Yielded.cutShort_cases (hrun.imp_right And.left) (hrun'.imp_right And.left)
  · intro hlength hlines
    have hbounded : ∀ chunks'', chunks''.flatten = chunks.flatten →
        (TurnEventStream.new ⟨chunks'', breaks⟩ sessionId mode).Bounded := by
      rintro chunks'' hflatten
      constructor
      · show 0 + chunks''.flatten.length ≤ maxEventStreamBytes
        rw [hflatten, Nat.zero_add]
        exact hlength
      · show ShortStretches lineFeed maxEventLineBytes ([] ++ chunks''.flatten)
        rw [hflatten]
        exact hlines
    rcases hrun with hsame | ⟨-, hunbounded⟩
    · rcases hrun' with hsame' | ⟨-, hunbounded'⟩
      · exact hsame.trans hsame'.symm
      · exact absurd (hbounded chunks' h.symm) hunbounded'
    · exact absurd (hbounded chunks rfl) hunbounded

/-! ## A cut past the limits -/

namespace TurnEventStream

theorem next_of_open {s : TurnEventStream} {chunk : List UInt8} {chunks : List (List UInt8)}
    (hopen : lineFeed ∉ s.pending) (hchunks : s.response.chunks = chunk :: chunks)
    (hfits : s.total + chunk.length ≤ maxEventStreamBytes) :
    s.next fromSlice =
      if maxEventLineBytes < (s.pending ++ chunk).length ∧ lineFeed ∉ s.pending ++ chunk then
        .error .tooLarge
      else
        (s.received ⟨false, s.pending, s.state, s.events⟩ chunk chunks).next fromSlice := by
  have haccept : acceptCompleteLines fromSlice s.pending s.state s.events =
      .ok ⟨false, s.pending, s.state, s.events⟩ := acceptCompleteLines_of_open fromSlice hopen
  rw [next_of_received fromSlice haccept rfl hchunks, if_neg]
  · rfl
  · exact Nat.not_lt.mpr ((Nat.min_le_left _ _).trans hfits)

/-- An empty line in the buffer is passed over. -/
theorem accept_empty_line {rest : List UInt8} (hopen : lineFeed ∉ rest) (state : EventState)
    (events : Nat) :
    acceptCompleteLines fromSlice (lineFeed :: rest) state events =
      .ok ⟨false, rest, state, events⟩ := by
  have hcut : Framing.cut lineFeed (lineFeed :: rest) = some ([], rest) :=
    Framing.cut_line List.not_mem_nil
  have hline : stripLineEnd [] = [] := by decide
  have hskip : acceptLine fromSlice [] state events = .ok (false, state, events) :=
    if_neg (Nat.not_lt_zero _)
  rw [acceptCompleteLines_of_cut fromSlice hcut, hline, hskip]
  exact acceptCompleteLines_of_open fromSlice hopen

variable {long : List UInt8}

/-- A long open line is overlooked behind an empty line in one chunk. -/
theorem run_one_chunk (hopen : lineFeed ∉ long) (hfits : long.length + 1 ≤ maxEventStreamBytes) :
    (new ⟨[lineFeed :: long], false⟩ "" .turn).run fromSlice = ⟨[], some .transport⟩ := by
  let s := new ⟨[lineFeed :: long], false⟩ "" .turn
  let s' := s.received ⟨false, [], s.state, 0⟩ (lineFeed :: long) []
  have hnext : s.next fromSlice = s'.next fromSlice := by
    have hwithin : s.total + (lineFeed :: long).length ≤ maxEventStreamBytes :=
      (Nat.zero_add _).trans_le hfits
    rw [next_of_open List.not_mem_nil rfl hwithin, if_neg]
    · rfl
    · exact fun hrefused => hrefused.2 (List.mem_cons_self ..)
  have haccept : acceptCompleteLines fromSlice s'.pending s'.state s'.events =
      .ok ⟨false, long, s'.state, s'.events⟩ := accept_empty_line hopen _ _
  rw [run_eq, hnext, next_of_ended fromSlice haccept rfl rfl]
  rfl

/-- Received by itself it is refused. -/
theorem run_two_chunks (hopen : lineFeed ∉ long) (hlong : maxEventLineBytes < long.length)
    (hfits : 1 + long.length ≤ maxEventStreamBytes) :
    (new ⟨[[lineFeed], long], false⟩ "" .turn).run fromSlice = ⟨[], some .tooLarge⟩ := by
  let s := new ⟨[[lineFeed], long], false⟩ "" .turn
  let s' := s.received ⟨false, [], s.state, 0⟩ [lineFeed] [long]
  have hnext : s.next fromSlice = s'.next fromSlice := by
    have hwithin : s.total + [lineFeed].length ≤ maxEventStreamBytes :=
      (Nat.zero_add _).trans_le ((Nat.le_add_right _ _).trans hfits)
    rw [next_of_open List.not_mem_nil rfl hwithin, if_neg]
    · rfl
    · exact fun hrefused => hrefused.2 (List.mem_cons_self ..)
  have haccept : acceptCompleteLines fromSlice s'.pending s'.state s'.events =
      .ok ⟨false, [], s'.state, s'.events⟩ := accept_empty_line List.not_mem_nil _ _
  have hrefused : s'.next fromSlice = .error .tooLarge := by
    rw [next_of_received fromSlice haccept rfl rfl, if_neg, if_pos]
    · exact ⟨hlong, hopen⟩
    · exact Nat.not_lt.mpr ((Nat.min_le_left _ _).trans hfits)
  rw [run_eq, hnext, hrefused]

end TurnEventStream

end Runs

open TurnEventStream in
/-- An event is received the same when a chunk ends inside its line end. -/
theorem event_cut_in_line_end :
    let fromSlice := fun bytes : List UInt8 => if bytes = [123, 125] then some (.object []) else none
    (new ⟨[dataField ++ [123, 125, 13, 10]], false⟩ "s" .turn).run fromSlice =
      (new ⟨[dataField ++ [123, 125, 13], [10]], false⟩ "s" .turn).run fromSlice := by
  intro fromSlice
  obtain ⟨-, hwithin⟩ := @event_stream_cut_independent fromSlice "s" .turn false
    [dataField ++ [123, 125, 13, 10]] [dataField ++ [123, 125, 13], [10]] rfl
  refine hwithin (by decide) fun stretch hstretch _ => ?_
  exact hstretch.length_le.trans (by decide)

theorem long_line_cut_refused :
    ¬ ∀ (fromSlice : List UInt8 → Option Json) (sessionId : String) (mode : WaitMode)
        (breaks : Bool) (chunks chunks' : List (List UInt8)),
      chunks.flatten = chunks'.flatten →
      (TurnEventStream.new ⟨chunks, breaks⟩ sessionId mode).run fromSlice =
        (TurnEventStream.new ⟨chunks', breaks⟩ sessionId mode).run fromSlice := by
  intro hclaim
  let long : List UInt8 := List.replicate (maxEventLineBytes + 1) 97
  have hopen : lineFeed ∉ long := fun hmem =>
    absurd (List.eq_of_mem_replicate hmem) (by decide)
  have hlength : long.length = maxEventLineBytes + 1 := List.length_replicate
  have hfits : maxEventLineBytes + 1 + 1 ≤ maxEventStreamBytes := by decide
  have hsame := hclaim (fun _ => none) "" .turn false [lineFeed :: long] [[lineFeed], long] rfl
  rw [TurnEventStream.run_one_chunk hopen (by rw [hlength]; exact hfits),
    TurnEventStream.run_two_chunks hopen (by rw [hlength]; exact Nat.lt_succ_self _)
      (by rw [hlength, Nat.add_comm]; exact hfits)] at hsame
  cases hsame

end AgentsAssemble.Provider.OpenCode
