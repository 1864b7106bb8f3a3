import AgentsAssemble.Foundation.Counters
import AgentsAssemble.Foundation.Framing
import AgentsAssemble.Provider.OpenCodeEvents

/-!
# The event stream of a turn

The provider sends one event a line.  Bytes are buffered as they are received, the
complete lines of the buffer are taken in, and the next chunk is received when they
are used up.  The limits are checked as chunks come in, so what a stream within them
yields does not depend on how it was cut, and a stream past them is refused no later
than its whole would be.
-/

namespace AgentsAssemble.Provider.OpenCode

open Domain Foundation
open Foundation.Framing (cut ShortStretches)

def maxEventStreamBytes : Nat := 8 * 1024 * 1024
def maxEventLineBytes : Nat := 512 * 1024
def maxEvents : Nat := 8192

def lineFeed : UInt8 := 10

/-- `data:`. -/
def dataField : List UInt8 := [100, 97, 116, 97, 58]

/-- `u8::is_ascii_whitespace`. -/
def isAsciiWhitespace (byte : UInt8) : Bool :=
  byte == 32 || byte == 9 || byte == 10 || byte == 12 || byte == 13

def trimAscii (value : List UInt8) : List UInt8 :=
  (value.dropWhile isAsciiWhitespace).rdropWhile isAsciiWhitespace

/-- A drained line without the line ends it stops with. -/
def stripLineEnd (drained : List UInt8) : List UInt8 :=
  (drained ++ [lineFeed]).rdropWhile fun byte => byte == 10 || byte == 13

/-- What the connection will still deliver, and whether it breaks off after that. -/
structure LoopbackStream where
  chunks : List (List UInt8)
  breaks : Bool
  deriving DecidableEq, Repr

structure TurnEventStream where
  response : LoopbackStream
  state : EventState
  pending : List UInt8
  total : Nat
  events : Nat

inductive TurnEvent
  | request (event : Json)
  | completed (events : OpenCodeTurnEvents)

/-- What taking in the complete lines leaves, and whether one of them ended the wait. -/
structure Accepted where
  done : Bool
  pending : List UInt8
  state : EventState
  events : Nat

section Stream

-- `serde_json::from_slice`: the value some bytes are the text of.
variable (fromSlice : List UInt8 → Option Json)

/-- One line of the loop of `accept_complete_lines`. -/
def acceptLine (line : List UInt8) (state : EventState) (events : Nat) :
    Except OpenCodeEventError (Bool × EventState × Nat) :=
  if maxEventLineBytes < line.length then
    .error .tooLarge
  else
    match dataField.isPrefixOf? line with
    | none => .ok (false, state, events)
    | some encoded =>
        match fromSlice (trimAscii encoded) with
        | none => .error .protocol
        | some event =>
            if maxEvents < events + 1 then .error .tooLarge
            else do
              let (ended, state) ← state.accept event
              pure (ended || state.request.isSome, state, events + 1)

def acceptCompleteLines (pending : List UInt8) (state : EventState) (events : Nat) :
    Except OpenCodeEventError Accepted :=
  match _hcut : cut lineFeed pending with
  | none => .ok ⟨false, pending, state, events⟩
  | some (drained, rest) =>
      match acceptLine fromSlice (stripLineEnd drained) state events with
      | .error e => .error e
      | .ok (true, state, events) => .ok ⟨true, rest, state, events⟩
      | .ok (false, state, events) => acceptCompleteLines rest state events
termination_by pending.length
decreasing_by exact Framing.length_rest_lt _hcut

namespace TurnEventStream

def new (response : LoopbackStream) (sessionId : String) (mode : WaitMode) : TurnEventStream :=
  ⟨response, .new sessionId mode, [], 0, 0⟩

/-- The event that ended the wait, taken out of the state. -/
def take (s : TurnEventStream) (accepted : Accepted) : TurnEvent × TurnEventStream :=
  match accepted.state.request with
  | some event =>
      (.request event,
        { s with
          pending := accepted.pending
          state := { accepted.state with request := none }
          events := accepted.events })
  | none =>
      (.completed accepted.state.turn,
        { s with
          pending := accepted.pending
          state := { accepted.state with turn := ⟨"", "", ""⟩ }
          events := accepted.events })

/-- The error of a connection that delivers nothing more. -/
def ended (s : TurnEventStream) (state : EventState) : OpenCodeEventError :=
  if s.response.breaks = false ∧ state.providerError = true then .provider else .transport

/-- The stream with its next chunk in the buffer. -/
def received (s : TurnEventStream) (accepted : Accepted) (chunk : List UInt8)
    (chunks : List (List UInt8)) : TurnEventStream :=
  { response := { s.response with chunks }
    state := accepted.state
    pending := accepted.pending ++ chunk
    total := saturatingAdd s.total chunk.length
    events := accepted.events }

def next (s : TurnEventStream) : Except OpenCodeEventError (TurnEvent × TurnEventStream) :=
  match acceptCompleteLines fromSlice s.pending s.state s.events with
  | .error e => .error e
  | .ok accepted =>
      if accepted.done then .ok (s.take accepted)
      else
        match _hchunks : s.response.chunks with
        | [] => .error (s.ended accepted.state)
        | chunk :: chunks =>
            let s := s.received accepted chunk chunks
            if maxEventStreamBytes < s.total then .error .tooLarge
            else if maxEventLineBytes < s.pending.length ∧ lineFeed ∉ s.pending then
              .error .tooLarge
            else next s
termination_by s.response.chunks.length
decreasing_by
  rw [_hchunks]
  exact Nat.lt_succ_self _

/-- How many bytes have not been taken in. -/
def remaining (s : TurnEventStream) : Nat :=
  s.pending.length + s.response.chunks.flatten.length

end TurnEventStream

/-! ## Taking in lines -/

theorem acceptCompleteLines_of_cut {pending drained rest : List UInt8} {state : EventState}
    {events : Nat} (h : cut lineFeed pending = some (drained, rest)) :
    acceptCompleteLines fromSlice pending state events =
      match acceptLine fromSlice (stripLineEnd drained) state events with
      | .error e => .error e
      | .ok (true, state, events) => .ok ⟨true, rest, state, events⟩
      | .ok (false, state, events) => acceptCompleteLines fromSlice rest state events := by
  rw [acceptCompleteLines]
  split
  · next hnone =>
      rw [h] at hnone
      cases hnone
  · next drained' rest' hsome =>
      rw [h] at hsome
      cases hsome
      rfl

theorem acceptCompleteLines_of_open {pending : List UInt8} {state : EventState} {events : Nat}
    (h : lineFeed ∉ pending) :
    acceptCompleteLines fromSlice pending state events = .ok ⟨false, pending, state, events⟩ := by
  rw [acceptCompleteLines]
  split
  · rfl
  · next drained rest hsome =>
      rw [Framing.cut_eq_none.mpr h] at hsome
      cases hsome

/-- What is left is the end of the buffer: an open line, unless a line ended the wait. -/
theorem acceptCompleteLines_ok {pending : List UInt8} {state : EventState} {events : Nat}
    {accepted : Accepted} (h : acceptCompleteLines fromSlice pending state events = .ok accepted) :
    accepted.pending <:+ pending ∧
      (accepted.done = true → accepted.pending.length < pending.length) ∧
      (accepted.done = false → lineFeed ∉ accepted.pending) := by
  induction hlength : pending.length using Nat.strong_induction_on
    generalizing pending state events with
  | _ n ih =>
      subst hlength
      cases hcut : cut lineFeed pending with
      | none =>
          have hopen := Framing.cut_eq_none.mp hcut
          rw [acceptCompleteLines_of_open fromSlice hopen] at h
          cases h
          exact ⟨List.suffix_refl _, by rintro ⟨⟩, fun _ => hopen⟩
      | some record =>
          obtain ⟨drained, rest⟩ := record
          have hrest : rest.length < pending.length := Framing.length_rest_lt hcut
          have hsuffix : rest <:+ pending := by
            obtain ⟨-, rfl⟩ := Framing.cut_eq_some.mp hcut
            exact ⟨drained ++ [lineFeed], by simp⟩
          rw [acceptCompleteLines_of_cut fromSlice hcut] at h
          split at h
          · cases h
          · cases h
            exact ⟨hsuffix, fun _ => hrest, by rintro ⟨⟩⟩
          · obtain ⟨hleft, hdone, hopen⟩ := ih _ hrest h rfl
            exact ⟨hleft.trans hsuffix, fun hended => (hdone hended).trans hrest, hopen⟩

/-- Lines are taken in the same way whether or not more was received behind them. -/
theorem acceptCompleteLines_append (pending more : List UInt8) (state : EventState)
    (events : Nat) :
    acceptCompleteLines fromSlice (pending ++ more) state events =
      match acceptCompleteLines fromSlice pending state events with
      | .error e => .error e
      | .ok accepted =>
          if accepted.done then .ok { accepted with pending := accepted.pending ++ more }
          else acceptCompleteLines fromSlice (accepted.pending ++ more) accepted.state
            accepted.events := by
  induction hlength : pending.length using Nat.strong_induction_on
    generalizing pending state events with
  | _ n ih =>
      subst hlength
      cases hcut : cut lineFeed pending with
      | none =>
          rw [acceptCompleteLines_of_open fromSlice (Framing.cut_eq_none.mp hcut)]
          rfl
      | some record =>
          obtain ⟨drained, rest⟩ := record
          rw [acceptCompleteLines_of_cut fromSlice hcut,
            acceptCompleteLines_of_cut fromSlice (Framing.cut_append hcut more)]
          cases hline : acceptLine fromSlice (stripLineEnd drained) state events with
          | error e => rfl
          | ok result =>
              obtain ⟨ended, state', events'⟩ := result
              cases ended with
              | true => rfl
              | false => exact ih _ (Framing.length_rest_lt hcut) rest state' events' rfl

/-! ## Cuts -/

namespace TurnEventStream

theorem next_of_error {s : TurnEventStream} {e : OpenCodeEventError}
    (h : acceptCompleteLines fromSlice s.pending s.state s.events = .error e) :
    s.next fromSlice = .error e := by
  rw [next, h]

theorem next_of_done {s : TurnEventStream} {accepted : Accepted}
    (h : acceptCompleteLines fromSlice s.pending s.state s.events = .ok accepted)
    (hdone : accepted.done = true) : s.next fromSlice = .ok (s.take accepted) := by
  rw [next, h]
  exact if_pos hdone

theorem next_of_ended {s : TurnEventStream} {accepted : Accepted}
    (h : acceptCompleteLines fromSlice s.pending s.state s.events = .ok accepted)
    (hdone : accepted.done = false) (hchunks : s.response.chunks = []) :
    s.next fromSlice = .error (s.ended accepted.state) := by
  rw [next, h]
  simp only [hdone, Bool.false_eq_true, if_false]
  split
  · rfl
  · next hcons =>
      rw [hchunks] at hcons
      cases hcons

theorem next_of_received {s : TurnEventStream} {accepted : Accepted} {chunk : List UInt8}
    {chunks : List (List UInt8)}
    (h : acceptCompleteLines fromSlice s.pending s.state s.events = .ok accepted)
    (hdone : accepted.done = false) (hchunks : s.response.chunks = chunk :: chunks) :
    s.next fromSlice =
      if maxEventStreamBytes < (s.received accepted chunk chunks).total then .error .tooLarge
      else if maxEventLineBytes < (s.received accepted chunk chunks).pending.length ∧
          lineFeed ∉ (s.received accepted chunk chunks).pending then .error .tooLarge
      else (s.received accepted chunk chunks).next fromSlice := by
  rw [next, h]
  simp only [hdone, Bool.false_eq_true, if_false]
  split
  · next hnil =>
      rw [hchunks] at hnil
      cases hnil
  · next hcons =>
      rw [hchunks] at hcons
      cases hcons
      rfl

/-- The ways in which waiting for the next event ends. -/
inductive Nexts :
    TurnEventStream → Except OpenCodeEventError (TurnEvent × TurnEventStream) → Prop
  | failed {s : TurnEventStream} {e : OpenCodeEventError}
      (h : acceptCompleteLines fromSlice s.pending s.state s.events = .error e) :
      Nexts s (.error e)
  | done {s : TurnEventStream} {accepted : Accepted}
      (h : acceptCompleteLines fromSlice s.pending s.state s.events = .ok accepted)
      (hdone : accepted.done = true) : Nexts s (.ok (s.take accepted))
  | ended {s : TurnEventStream} {accepted : Accepted}
      (h : acceptCompleteLines fromSlice s.pending s.state s.events = .ok accepted)
      (hdone : accepted.done = false) (hchunks : s.response.chunks = []) :
      Nexts s (.error (s.ended accepted.state))
  | refused {s : TurnEventStream} {accepted : Accepted} {chunk : List UInt8}
      {chunks : List (List UInt8)}
      (h : acceptCompleteLines fromSlice s.pending s.state s.events = .ok accepted)
      (hchunks : s.response.chunks = chunk :: chunks)
      (hlimit : maxEventStreamBytes < (s.received accepted chunk chunks).total ∨
        maxEventLineBytes < (s.received accepted chunk chunks).pending.length ∧
          lineFeed ∉ (s.received accepted chunk chunks).pending) :
      Nexts s (.error .tooLarge)
  | received {s : TurnEventStream} {accepted : Accepted} {chunk : List UInt8}
      {chunks : List (List UInt8)}
      {result : Except OpenCodeEventError (TurnEvent × TurnEventStream)}
      (h : acceptCompleteLines fromSlice s.pending s.state s.events = .ok accepted)
      (hdone : accepted.done = false) (hchunks : s.response.chunks = chunk :: chunks)
      (hfits : (s.received accepted chunk chunks).total ≤ maxEventStreamBytes)
      (hnext : Nexts (s.received accepted chunk chunks) result) : Nexts s result

theorem nexts (s : TurnEventStream) : Nexts fromSlice s (s.next fromSlice) := by
  induction hchunks : s.response.chunks generalizing s with
  | nil =>
      cases haccept : acceptCompleteLines fromSlice s.pending s.state s.events with
      | error e =>
          rw [next_of_error fromSlice haccept]
          exact .failed haccept
      | ok accepted =>
          cases hdone : accepted.done with
          | true =>
              rw [next_of_done fromSlice haccept hdone]
              exact .done haccept hdone
          | false =>
              rw [next_of_ended fromSlice haccept hdone hchunks]
              exact .ended haccept hdone hchunks
  | cons chunk chunks ih =>
      cases haccept : acceptCompleteLines fromSlice s.pending s.state s.events with
      | error e =>
          rw [next_of_error fromSlice haccept]
          exact .failed haccept
      | ok accepted =>
          cases hdone : accepted.done with
          | true =>
              rw [next_of_done fromSlice haccept hdone]
              exact .done haccept hdone
          | false =>
              rw [next_of_received fromSlice haccept hdone hchunks]
              split
              · next hstream => exact .refused haccept hchunks (Or.inl hstream)
              · next hstream =>
                  split
                  · next hline => exact .refused haccept hchunks (Or.inr hline)
                  · exact .received haccept hdone hchunks (Nat.not_lt.mp hstream) (ih _ rfl)

/-- The stream with all it is going to receive in the buffer. -/
def whole (s : TurnEventStream) : TurnEventStream :=
  { s with
    response := { s.response with chunks := [] }
    pending := s.pending ++ s.response.chunks.flatten
    total := 0 }

/-- What is still to come, and what is in the buffer, is within the limits. -/
structure Bounded (s : TurnEventStream) : Prop where
  stream : s.total + s.response.chunks.flatten.length ≤ maxEventStreamBytes
  lines : ShortStretches lineFeed maxEventLineBytes (s.pending ++ s.response.chunks.flatten)

variable {fromSlice}

theorem take_remaining {s : TurnEventStream} {accepted : Accepted}
    (h : acceptCompleteLines fromSlice s.pending s.state s.events = .ok accepted)
    (hdone : accepted.done = true) : (s.take accepted).2.remaining < s.remaining := by
  have hless := (acceptCompleteLines_ok fromSlice h).2.1 hdone
  have htaken : (s.take accepted).2.remaining =
      accepted.pending.length + s.response.chunks.flatten.length := by
    rw [take]
    split <;> rfl
  rw [htaken, remaining]
  omega

theorem received_remaining (s : TurnEventStream) (accepted : Accepted) (chunk : List UInt8)
    {chunks : List (List UInt8)} (hchunks : s.response.chunks = chunk :: chunks) :
    (s.received accepted chunk chunks).remaining =
      accepted.pending.length + s.response.chunks.flatten.length := by
  rw [remaining, received, hchunks, List.flatten_cons, List.length_append, List.length_append]
  exact Nat.add_assoc _ _ _

/-- Each event takes some bytes of the stream. -/
theorem next_remaining {s s' : TurnEventStream} {event : TurnEvent}
    (h : s.next fromSlice = .ok (event, s')) : s'.remaining < s.remaining := by
  have hnexts := nexts fromSlice s
  rw [h] at hnexts
  clear h
  generalize hresult : Except.ok (event, s') = result at hnexts
  induction hnexts with
  | failed haccept => cases hresult
  | @done s accepted haccept hdone =>
      have htaken := take_remaining haccept hdone
      rw [← Except.ok.inj hresult] at htaken
      exact htaken
  | ended haccept hdone hchunks => cases hresult
  | refused haccept hchunks hlimit => cases hresult
  | @received s accepted chunk chunks result haccept hdone hchunks hfits hnext ih =>
      have hless := ih hresult
      have hleft := (acceptCompleteLines_ok fromSlice haccept).1.length_le
      rw [received_remaining s accepted chunk hchunks] at hless
      exact hless.trans_le (Nat.add_le_add_right hleft _)

/-! ## One cut and the whole -/

theorem whole_received {s : TurnEventStream} {accepted : Accepted} {chunk : List UInt8}
    {chunks : List (List UInt8)}
    (h : acceptCompleteLines fromSlice s.pending s.state s.events = .ok accepted)
    (hdone : accepted.done = false) (hchunks : s.response.chunks = chunk :: chunks) :
    s.whole.next fromSlice = (s.received accepted chunk chunks).whole.next fromSlice := by
  have haccept : acceptCompleteLines fromSlice s.whole.pending s.whole.state s.whole.events =
      acceptCompleteLines fromSlice (s.received accepted chunk chunks).whole.pending
        (s.received accepted chunk chunks).whole.state
        (s.received accepted chunk chunks).whole.events := by
    show acceptCompleteLines fromSlice (s.pending ++ s.response.chunks.flatten) s.state s.events =
      acceptCompleteLines fromSlice ((accepted.pending ++ chunk) ++ chunks.flatten) accepted.state
        accepted.events
    rw [acceptCompleteLines_append, h, hchunks, List.flatten_cons, List.append_assoc]
    exact if_neg (by rw [hdone]; exact Bool.false_ne_true)
  cases hresult : acceptCompleteLines fromSlice s.whole.pending s.whole.state s.whole.events with
  | error e =>
      rw [next_of_error fromSlice hresult, next_of_error fromSlice (haccept.symm.trans hresult)]
  | ok left =>
      cases hleft : left.done with
      | true =>
          rw [next_of_done fromSlice hresult hleft,
            next_of_done fromSlice (haccept.symm.trans hresult) hleft]
          rfl
      | false =>
          rw [next_of_ended fromSlice hresult hleft rfl,
            next_of_ended fromSlice (haccept.symm.trans hresult) hleft rfl]
          rfl

theorem Bounded.received {s : TurnEventStream} {accepted : Accepted} {chunk : List UInt8}
    {chunks : List (List UInt8)} (hbounded : s.Bounded)
    (h : acceptCompleteLines fromSlice s.pending s.state s.events = .ok accepted)
    (hchunks : s.response.chunks = chunk :: chunks) :
    (s.received accepted chunk chunks).Bounded := by
  obtain ⟨hstream, hlines⟩ := hbounded
  rw [hchunks, List.flatten_cons] at hstream hlines
  constructor
  · show saturatingAdd s.total chunk.length + chunks.flatten.length ≤ maxEventStreamBytes
    have hsum : saturatingAdd s.total chunk.length ≤ s.total + chunk.length := Nat.min_le_left _ _
    rw [List.length_append] at hstream
    omega
  · show ShortStretches lineFeed maxEventLineBytes (accepted.pending ++ chunk ++ chunks.flatten)
    rw [List.append_assoc]
    obtain ⟨taken, htaken⟩ := (acceptCompleteLines_ok fromSlice h).1
    exact hlines.infix ⟨taken, [], by rw [← htaken]; simp⟩

/-- A chunk is refused only if the stream is past a limit. -/
theorem Bounded.not_refused {s : TurnEventStream} (h : s.Bounded) :
    ¬ (maxEventStreamBytes < s.total ∨
      maxEventLineBytes < s.pending.length ∧ lineFeed ∉ s.pending) := by
  rintro (hstream | ⟨hline, hopen⟩)
  · exact absurd ((Nat.le_add_right _ _).trans h.stream) (Nat.not_le.mpr hstream)
  · refine absurd (h.lines s.pending ?_ hopen) (Nat.not_le.mpr hline)
    exact (List.prefix_append _ _).isInfix

/-- The next event is the one the whole stream has next, unless a limit is met first. -/
theorem next_whole (s : TurnEventStream) :
    s.whole.next fromSlice = (s.next fromSlice).map (Prod.map id whole) ∨
      (s.next fromSlice = .error .tooLarge ∧ ¬ s.Bounded) := by
  have hnexts := nexts fromSlice s
  generalize s.next fromSlice = result at hnexts
  induction hnexts with
  | @failed s e haccept =>
      left
      have hwhole : acceptCompleteLines fromSlice s.whole.pending s.whole.state s.whole.events =
          .error e := by
        show acceptCompleteLines fromSlice (s.pending ++ _) s.state s.events = _
        rw [acceptCompleteLines_append, haccept]
      rw [next_of_error fromSlice hwhole]
      rfl
  | @done s accepted haccept hdone =>
      left
      have hwhole : acceptCompleteLines fromSlice s.whole.pending s.whole.state s.whole.events =
          .ok { accepted with pending := accepted.pending ++ s.response.chunks.flatten } := by
        show acceptCompleteLines fromSlice (s.pending ++ _) s.state s.events = _
        rw [acceptCompleteLines_append, haccept]
        exact if_pos hdone
      rw [next_of_done fromSlice hwhole hdone]
      simp only [Except.map, take]
      split <;> rfl
  | @ended s accepted haccept hdone hchunks =>
      left
      have hwhole : acceptCompleteLines fromSlice s.whole.pending s.whole.state s.whole.events =
          .ok accepted := by
        show acceptCompleteLines fromSlice (s.pending ++ s.response.chunks.flatten) s.state
          s.events = _
        rw [hchunks, List.flatten_nil, List.append_nil]
        exact haccept
      rw [next_of_ended fromSlice hwhole hdone rfl]
      rfl
  | refused haccept hchunks hlimit =>
      right
      exact ⟨rfl, fun hbounded => (hbounded.received haccept hchunks).not_refused hlimit⟩
  | received haccept hdone hchunks hfits hnext ih =>
      rw [whole_received haccept hdone hchunks]
      refine ih.imp_right fun hrefused => ⟨hrefused.1, fun hbounded => hrefused.2 ?_⟩
      exact hbounded.received haccept hchunks

end TurnEventStream

end Stream

end AgentsAssemble.Provider.OpenCode
