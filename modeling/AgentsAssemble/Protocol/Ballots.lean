import AgentsAssemble.Protocol.Turns

/-!
# Ballots over moves

The tallies of a poll are the counts of its stored ballots, and a poll that is
no longer open keeps both.
-/

namespace AgentsAssemble.Protocol

open Foundation Domain Persistence

/-- The ballots of this poll whose choice satisfies `p`. -/
def ballotCount (ballots : Table (String × String) Nat) (voteId : String) (p : Nat → Bool) :
    Nat :=
  Table.count (fun key index => key.1 == voteId && p index) ballots

/-- The ballots of this poll for one option. -/
def ballotsFor (ballots : Table (String × String) Nat) (voteId : String) (index : Nat) : Nat :=
  ballotCount ballots voteId (· == index)

/-- All ballots of this poll. -/
def ballotTotal (ballots : Table (String × String) Nat) (voteId : String) : Nat :=
  ballotCount ballots voteId fun _ => true

/-- One if the ballot satisfies `p`. -/
def choiceCount (p : Nat → Bool) (ballot : Option Nat) : Nat :=
  if ballot.any p then 1 else 0

/-- The ballot table after one participant's ballot became `new`. -/
def withBallot (ballots : Table (String × String) Nat) (key : String × String) :
    Option Nat → Table (String × String) Nat
  | some index => ballots.insert key index
  | none => ballots.erase key

section Counting

variable (ballots : Table (String × String) Nat) (voteId participantId : String)

theorem lookup_withBallot (key key' : String × String) (new : Option Nat) :
    (withBallot ballots key new).lookup key' = if key' = key then new else ballots.lookup key' := by
  cases new with
  | some index => exact Table.lookup_insert_ite ballots key key' index
  | none => exact Table.lookup_erase_ite ballots key key'

/-- One changed ballot changes the counts of its own poll by exactly that ballot. -/
theorem ballotCount_withBallot (p : Nat → Bool) (new : Option Nat) :
    ballotCount (withBallot ballots (voteId, participantId) new) voteId p +
        choiceCount p (ballots.lookup (voteId, participantId)) =
      ballotCount ballots voteId p + choiceCount p new := by
  have herase : ballotCount (ballots.erase (voteId, participantId)) voteId p +
      choiceCount p (ballots.lookup (voteId, participantId)) =
        ballotCount ballots voteId p := by
    cases h : ballots.lookup (voteId, participantId) with
    | none =>
        have hcount := Table.count_erase_of_none
          (fun (key : String × String) index => key.1 == voteId && p index) h
        simpa [ballotCount, choiceCount] using hcount
    | some index =>
        have hcount := Table.count_erase_of_some
          (fun (key : String × String) index => key.1 == voteId && p index) h
        simpa [ballotCount, choiceCount] using hcount
  cases new with
  | none => simpa [withBallot, choiceCount] using herase
  | some index =>
      have hinsert := Table.count_insert
        (fun (key : String × String) index => key.1 == voteId && p index) ballots
        (voteId, participantId) index
      have hinsert' : ballotCount (ballots.insert (voteId, participantId) index) voteId p =
          ballotCount (ballots.erase (voteId, participantId)) voteId p +
            choiceCount p (some index) := by
        simpa [ballotCount, choiceCount] using hinsert
      rw [withBallot, hinsert']
      omega

theorem ballotCount_withBallot_other {other : String} (hne : other ≠ voteId)
    (p : Nat → Bool) (new : Option Nat) :
    ballotCount (withBallot ballots (voteId, participantId) new) other p =
      ballotCount ballots other p := by
  have hfalse : (voteId == other) = false := by simpa using fun h => hne h.symm
  have herase : ballotCount (ballots.erase (voteId, participantId)) other p =
      ballotCount ballots other p := by
    cases h : ballots.lookup (voteId, participantId) with
    | none => exact Table.count_erase_of_none _ h
    | some index =>
        have hcount := Table.count_erase_of_some
          (fun (key : String × String) index => key.1 == other && p index) h
        simpa [ballotCount, hfalse] using hcount
  cases new with
  | none => exact herase
  | some index =>
      have hinsert := Table.count_insert
        (fun (key : String × String) index => key.1 == other && p index) ballots
        (voteId, participantId) index
      rw [withBallot, ← herase]
      simpa [ballotCount, hfalse] using hinsert

theorem ballotCount_eraseWhere {other : String} (hne : other ≠ voteId) (p : Nat → Bool) :
    ballotCount (ballots.eraseWhere fun key => key.1 == voteId) other p =
      ballotCount ballots other p := by
  refine Table.count_eraseWhere _ fun key index hboth => ?_
  have hkey : key.1 = other := by simpa using (Bool.and_eq_true_iff.mp hboth).1
  simpa [hkey] using hne

theorem ballotCount_eq_zero (p : Nat → Bool)
    (h : ∀ participantId, ballots.lookup (voteId, participantId) = none) :
    ballotCount ballots voteId p = 0 := by
  rw [ballotCount, Table.count, List.countP_eq_zero]
  rintro ⟨⟨poll, participantId⟩, index⟩ hmem hboth
  have hpoll : poll = voteId := by simpa using (Bool.and_eq_true_iff.mp hboth).1
  have hlookup := Table.mem_rows.mp hmem
  rw [hpoll, h participantId] at hlookup
  cases hlookup

end Counting

/-! ## Well-formed polls -/

section Polls

variable [CaseFold]

/-- The poll event and its options behind a state row. -/
structure PollOf (events : List RoomEvent) (voteId : String) (row : VoteStateRow)
    (poll : RoomEvent) (definition : VoteDefinition) : Prop where
  stored : poll ∈ events
  id : poll.id = voteId
  seq : poll.seq = row.pollSeq
  defined : pollDefinition poll = .ok definition
  options : row.tallies.length = definition.options.length

/-- The close event a manually closed poll refers to. -/
structure ClosedBy (events : List RoomEvent) (voteId : String) (row : VoteStateRow)
    (seq : Nat) : Prop where
  later : row.pollSeq < seq
  event : ∃ e ∈ events, e.seq = seq ∧ e.eventType = "message_final" ∧
    e.messageKind = some "vote_close" ∧ e.extra.voteId = some voteId

structure PollWF (c : RoomCore) (voteId : String) (row : VoteStateRow) : Prop where
  poll : ∃ poll definition, PollOf c.events voteId row poll definition
  tallies : ∀ index, row.tallies.getD index 0 = ballotsFor c.voteBallots voteId index
  total : row.totalVotes = ballotTotal c.voteBallots voteId
  sum : row.tallies.sum = row.totalVotes
  bounded : row.totalVotes ≤ maxVoteBallotsPerPoll
  choices : ∀ participantId index, c.voteBallots.lookup (voteId, participantId) = some index →
    index < row.tallies.length
  closed : ∀ seq, row.manualCloseSeq = some seq → ClosedBy c.events voteId row seq

structure BallotsWF (c : RoomCore) : Prop where
  polls : ∀ voteId row, c.voteStates.lookup voteId = some row → PollWF c voteId row
  orphan : ∀ voteId participantId, c.voteStates.lookup voteId = none →
    c.voteBallots.lookup (voteId, participantId) = none

/-- The poll and close events of a log survive in another log. -/
def KeepsPolls (states : Table String VoteStateRow) (events events' : List RoomEvent) : Prop :=
  ∀ e ∈ events, (states.lookup e.id ≠ none ∧ e.messageKind = some "vote") ∨
    e.messageKind = some "vote_close" → e ∈ events'

theorem pollDefinition_kind {event : RoomEvent} {definition : VoteDefinition}
    (h : pollDefinition event = .ok definition) : event.messageKind = some "vote" := by
  unfold pollDefinition at h
  split at h
  · cases h
  · rename_i hkind
    simpa using (not_or.mp hkind).2

theorem BallotsWF.carry {c c' : RoomCore} (h : BallotsWF c)
    (hstates : c'.voteStates = c.voteStates) (hballots : c'.voteBallots = c.voteBallots)
    (hevents : KeepsPolls c.voteStates c.events c'.events) : BallotsWF c' := by
  refine ⟨fun voteId row hrow => ?_, hstates ▸ hballots ▸ h.orphan⟩
  rw [hstates] at hrow
  have hpoll := h.polls voteId row hrow
  obtain ⟨poll, definition, hof⟩ := hpoll.poll
  refine ⟨⟨poll, definition, hevents poll hof.stored (Or.inl ⟨?_, pollDefinition_kind hof.defined⟩),
    hof.id, hof.seq, hof.defined, hof.options⟩, hballots ▸ hpoll.tallies,
    hballots ▸ hpoll.total, hpoll.sum, hpoll.bounded, hballots ▸ hpoll.choices,
    fun seq hseq => ?_⟩
  · rw [hof.id, hrow]
    simp
  · obtain ⟨hlater, e, he, heseq, htype, hkind, hvote⟩ := hpoll.closed seq hseq
    exact ⟨hlater, e, hevents e he (Or.inr hkind), heseq, htype, hkind, hvote⟩

omit [CaseFold] in
theorem requireMutableMessage_kind {event : RoomEvent} {kind : MutableMessageKind}
    (h : requireMutableMessage event = .ok kind) :
    (kind = .message ∧ event.messageKind = some "message") ∨
      (kind = .vote ∧ event.messageKind = some "vote") := by
  by_cases hmessage : event.messageKind = some "message"
  · refine Or.inl ⟨?_, hmessage⟩
    simp only [requireMutableMessage, if_pos hmessage, bind, Except.bind, throw, throwThe,
      MonadExceptOf.throw, pure, Except.pure] at h
    split_ifs at h
    exact (Except.ok.inj h).symm
  by_cases hvote : event.messageKind = some "vote"
  · refine Or.inr ⟨?_, hvote⟩
    simp only [requireMutableMessage, if_neg hmessage, if_pos hvote, bind, Except.bind, throw,
      throwThe, MonadExceptOf.throw, pure, Except.pure] at h
    split_ifs at h
    exact (Except.ok.inj h).symm
  · simp only [requireMutableMessage, if_neg hmessage, if_neg hvote, bind, Except.bind, throw,
      throwThe, MonadExceptOf.throw, pure, Except.pure] at h
    split_ifs at h

section Machine

variable {P : Permit} {c c' : RoomCore}

omit [CaseFold] in
theorem keepsPolls_rewrite {event event' : RoomEvent} [UuidSource]
    (hl : LogWF c.events c.uuids) (hmem : event ∈ c.events) (hseq : event'.seq = event.seq)
    (hkind : event.messageKind = some "message" ∨
      (event.messageKind = some "vote" ∧ c.voteStates.lookup event.id = none)) :
    KeepsPolls c.voteStates c.events (rewriteIn c.events event') := by
  intro e he hpoll
  by_cases heq : e.seq = event'.seq
  · exfalso
    obtain rfl := hl.eq_of_seq he hmem (heq.trans hseq)
    rcases hpoll with ⟨hstate, hvote⟩ | hclose <;>
      rcases hkind with hmessage | ⟨hvote', hnone⟩
    · rw [hmessage] at hvote
      exact absurd (Option.some.inj hvote) (by decide)
    · exact hstate hnone
    · rw [hmessage] at hclose
      exact absurd (Option.some.inj hclose) (by decide)
    · rw [hvote'] at hclose
      exact absurd (Option.some.inj hclose) (by decide)
  · exact List.mem_map.mpr ⟨e, he, by simp [heq]⟩

/-- A recount keeps the tallies equal to the counts. -/
theorem Recounted.pollWF {voteId participantId : String} {row row' : VoteStateRow}
    {old new : Option Nat} {states : Table String VoteStateRow} (h : PollWF c voteId row)
    (hold : c.voteBallots.lookup (voteId, participantId) = old)
    (hr : Recounted row row' old new) :
    PollWF { c with voteStates := states
                    voteBallots := withBallot c.voteBallots (voteId, participantId) new }
      voteId row' := by
  obtain ⟨poll, definition, hof⟩ := h.poll
  refine ⟨⟨poll, definition, hof.stored, hof.id, ?_, hof.defined, ?_⟩, fun index => ?_, ?_, ?_,
    hr.bounded, fun p index hp => ?_, fun seq hseq => ?_⟩
  · rw [hr.pollSeq]
    exact hof.seq
  · rw [hr.length]
    exact hof.options
  · have hcount := ballotCount_withBallot c.voteBallots voteId participantId (· == index) new
    have htallies := hr.tallies index
    rw [hold] at hcount
    rw [h.tallies index, ballotsFor] at htallies
    have hchoice : ∀ ballot : Option Nat,
        choiceCount (· == index) ballot = countsFor ballot index := by
      intro ballot
      cases ballot <;> simp [choiceCount, countsFor]
    rw [hchoice, hchoice] at hcount
    show row'.tallies.getD index 0 =
      ballotCount (withBallot c.voteBallots (voteId, participantId) new) voteId (· == index)
    omega
  · have hcount := ballotCount_withBallot c.voteBallots voteId participantId (fun _ => true) new
    have htotal := hr.total
    rw [hold] at hcount
    rw [h.total, ballotTotal] at htotal
    have hchoice : ∀ ballot : Option Nat,
        choiceCount (fun _ => true) ballot = if ballot.isSome then 1 else 0 := by
      intro ballot
      cases ballot <;> simp [choiceCount]
    rw [hchoice, hchoice] at hcount
    show row'.totalVotes =
      ballotCount (withBallot c.voteBallots (voteId, participantId) new) voteId fun _ => true
    omega
  · have hsum := hr.sum
    have htotal := hr.total
    have hbefore := h.sum
    omega
  · have hlookup := lookup_withBallot c.voteBallots (voteId, participantId) (voteId, p) new
    have hp' : (withBallot c.voteBallots (voteId, participantId) new).lookup (voteId, p) =
        some index := hp
    rw [hlookup] at hp'
    rw [hr.length]
    split at hp'
    · exact hr.choice index hp'
    · exact h.choices p index hp'
  · rw [hr.manual] at hseq
    obtain ⟨hlater, hevent⟩ := h.closed seq hseq
    exact ⟨hr.pollSeq ▸ hlater, hevent⟩

theorem VoteChange.ballots_wf {states : Table String VoteStateRow}
    {ballots : Table (String × String) Nat} (h : BallotsWF c)
    (hc : VoteChange P c states ballots) :
    BallotsWF { c with voteStates := states, voteBallots := ballots } := by
  -- A poll whose row and ballots were left alone stays as it was.
  have frame : ∀ {voteId : String} {row : VoteStateRow}, PollWF c voteId row →
      (∀ p, ballotCount ballots voteId p = ballotCount c.voteBallots voteId p) →
      (∀ participantId, ballots.lookup (voteId, participantId) =
        c.voteBallots.lookup (voteId, participantId)) →
      PollWF { c with voteStates := states, voteBallots := ballots } voteId row := by
    intro voteId row hpoll hcount hlookup
    refine ⟨hpoll.poll, fun index => ?_, ?_, hpoll.sum, hpoll.bounded,
      fun p index hp => hpoll.choices p index ((hlookup p).symm.trans hp), hpoll.closed⟩
    · exact (hpoll.tallies index).trans (hcount _).symm
    · exact hpoll.total.trans (hcount _).symm
  cases hc with
  | create poll definition hmem hdefined habsent sets hballots =>
      have hnone := h.orphan poll.id
      refine ⟨fun voteId row hrow => ?_, fun voteId p hstate => ?_⟩
      · rcases sets.cases hrow with ⟨rfl, hnew⟩ | ⟨-, hold⟩
        · obtain rfl := Option.some.inj hnew
          have hzero : ∀ p, ballotCount ballots poll.id p = 0 := by
            intro p
            rw [hballots]
            exact ballotCount_eq_zero _ _ p fun participantId => hnone participantId habsent
          refine ⟨⟨poll, definition, hmem, rfl, rfl, hdefined, by simp⟩, fun index => ?_, ?_,
            by simp, Nat.zero_le _, fun p index hp => ?_, fun seq hseq => by cases hseq⟩
          · show (List.replicate _ 0).getD index 0 = ballotCount ballots poll.id _
            rw [hzero]
            by_cases hindex : index < definition.options.length
            · simp [List.getD, hindex]
            · simp [List.getD, hindex]
          · exact (hzero _).symm
          · have hp' : ballots.lookup (poll.id, p) = some index := hp
            rw [hballots, hnone p habsent] at hp'
            cases hp'
        · exact frame (h.polls voteId row hold) (fun p => by rw [hballots])
            fun p => by rw [hballots]
      · show ballots.lookup (voteId, p) = none
        rw [hballots]
        by_cases hid : voteId = poll.id
        · rw [hid]
          exact hnone p habsent
        · exact h.orphan voteId p ((sets.off_key hid).symm.trans hstate)
  | recount voteId participantId row row' old new now _ hrow _ hold recounted sets hballots =>
      have hwith : ballots = withBallot c.voteBallots (voteId, participantId) new := by
        rw [hballots]
        cases new <;> rfl
      refine ⟨fun other r hr => ?_, fun other p hstate => ?_⟩
      · rcases sets.cases hr with ⟨rfl, hnew⟩ | ⟨hne, hother⟩
        · obtain rfl := Option.some.inj hnew
          rw [hwith]
          exact recounted.pollWF (h.polls other row hrow) hold
        · refine frame (h.polls other r hother) (fun p => ?_) fun p => ?_
          · rw [hwith]
            exact ballotCount_withBallot_other _ _ _ hne p new
          · rw [hwith, lookup_withBallot, if_neg]
            intro heq
            exact hne (Prod.mk.inj heq).1
      · show ballots.lookup (other, p) = none
        have hne : other ≠ voteId := by
          rintro rfl
          have hstate' : states.lookup other = none := hstate
          rw [sets.at_key] at hstate'
          cases hstate'
        rw [hwith, lookup_withBallot, if_neg fun heq => hne (Prod.mk.inj heq).1]
        exact h.orphan other p ((sets.off_key hne).symm.trans hstate)
  | close voteId row event hrow hopen hmem hlater htype hkind hvote sets hballots =>
      refine ⟨fun other r hr => ?_, fun other p hstate => ?_⟩
      · rcases sets.cases hr with ⟨rfl, hnew⟩ | ⟨-, hother⟩
        · obtain rfl := Option.some.inj hnew
          have hpoll := h.polls other row hrow
          have hframe : PollWF { c with voteStates := states, voteBallots := ballots } other
              row := frame hpoll (fun p => by rw [hballots]) fun p => by rw [hballots]
          obtain ⟨poll, definition, hof⟩ := hframe.poll
          refine ⟨⟨poll, definition, hof.stored, hof.id, hof.seq, hof.defined, hof.options⟩,
            hframe.tallies, hframe.total, hframe.sum, hframe.bounded, hframe.choices,
            fun seq hseq => ?_⟩
          obtain rfl := Option.some.inj hseq
          exact ⟨hlater, event, hmem, rfl, htype, hkind, hvote⟩
        · exact frame (h.polls other r hother) (fun p => by rw [hballots])
            fun p => by rw [hballots]
      · show ballots.lookup (other, p) = none
        rw [hballots]
        have hne : other ≠ voteId := by
          rintro rfl
          have hstate' : states.lookup other = none := hstate
          rw [sets.at_key] at hstate'
          cases hstate'
        exact h.orphan other p ((sets.off_key hne).symm.trans hstate)
  | keep voteId row hrow sets hballots =>
      have hstates : ∀ other, states.lookup other = c.voteStates.lookup other := by
        intro other
        by_cases hid : other = voteId
        · rw [hid, sets.at_key, hrow]
        · exact sets.off_key hid
      refine ⟨fun other r hr => ?_, fun other p hstate => ?_⟩
      · exact frame (h.polls other r ((hstates other).symm.trans hr)) (fun p => by rw [hballots])
          fun p => by rw [hballots]
      · show ballots.lookup (other, p) = none
        rw [hballots]
        exact h.orphan other p ((hstates other).symm.trans hstate)
  | erase voteId _ sets hballots =>
      refine ⟨fun other r hr => ?_, fun other p hstate => ?_⟩
      · rcases sets.cases hr with ⟨-, hnone⟩ | ⟨hne, hother⟩
        · cases hnone
        · refine frame (h.polls other r hother) (fun p => ?_) fun p => ?_
          · rw [hballots]
            exact ballotCount_eraseWhere _ _ hne p
          · rw [hballots, Table.lookup_eraseWhere, if_neg]
            simpa using hne
      · show ballots.lookup (other, p) = none
        rw [hballots, Table.lookup_eraseWhere]
        by_cases hid : other = voteId
        · rw [if_pos (by simpa using hid)]
        · rw [if_neg (by simpa using hid)]
          exact h.orphan other p ((sets.off_key hid).symm.trans hstate)

variable [UuidSource]

/-- No move takes a poll event away while its ballots are projected. -/
theorem Move.keepsPolls (hl : LogWF c.events c.uuids) (hm : Move P c c') :
    KeepsPolls c.voteStates c.events c'.events := by
  cases hm with
  | log => exact fun e he _ => List.mem_append_left _ he
  | settle => exact fun e he _ => List.mem_append_left _ he
  | edit event content now guard =>
      exact keepsPolls_rewrite hl guard.stored rfl (Or.inl guard.kind)
  | tombstone event kind now guard =>
      refine keepsPolls_rewrite hl guard.stored rfl ?_
      rcases requireMutableMessage_kind guard.mutable with ⟨-, hkind⟩ | ⟨hvote, hkind⟩
      · exact Or.inl hkind
      · exact Or.inr ⟨hkind, guard.projection hvote⟩
  | session => exact fun e he _ => he
  | create => exact fun e he _ => he
  | assign => exact fun e he _ => he
  | shift => exact fun e he _ => he
  | vote => exact fun e he _ => he

theorem Move.ballots_wf (hl : LogWF c.events c.uuids) (h : BallotsWF c)
    (hm : Move P c c') : BallotsWF c' := by
  have hkept := hm.keepsPolls hl
  cases hm with
  | vote states ballots change => exact change.ballots_wf h
  | log => exact h.carry rfl rfl hkept
  | settle => exact h.carry rfl rfl hkept
  | edit => exact h.carry rfl rfl hkept
  | tombstone => exact h.carry rfl rfl hkept
  | session => exact h.carry rfl rfl hkept
  | create => exact h.carry rfl rfl hkept
  | assign => exact h.carry rfl rfl hkept
  | shift => exact h.carry rfl rfl hkept

theorem Path.ballots_wf (hsound : Sound c) (h : BallotsWF c) (hp : Path P c c') :
    BallotsWF c' := by
  have hboth : Sound c' ∧ BallotsWF c' :=
    Path.invariant (I := fun d => Sound d ∧ BallotsWF d)
      (fun _ _ hd hm => ⟨hm.sound hd.1, hm.ballots_wf hd.1.log hd.2⟩) ⟨hsound, h⟩ hp
  exact hboth.2

/-! ## Polls that ended -/

/-- The poll was closed by hand, or its deadline is not after `instant`. -/
def OverAt (events : List RoomEvent) (voteId : String) (row : VoteStateRow) (instant : Nat) :
    Prop :=
  row.manualCloseSeq ≠ none ∨ ∃ poll definition deadline,
    PollOf events voteId row poll definition ∧ definition.deadlineAt = some deadline ∧
      deadline ≤ instant

omit [UuidSource] in
theorem OverAt.not_open {events : List RoomEvent} {uuids : Nat} {voteId : String}
    {row : VoteStateRow} {instant now : Nat} [UuidSource] (hl : LogWF events uuids)
    (h : OverAt events voteId row instant) (hnow : instant ≤ now) :
    ¬ OpenAt events voteId row now := by
  rintro ⟨hmanual, poll, definition, hpoll, -, hseq, hdefined, hopen⟩
  rcases h with hclosed | ⟨poll', definition', deadline, hof, hdeadline, hpassed⟩
  · exact hclosed hmanual
  · obtain rfl := hl.eq_of_seq hof.stored hpoll (hof.seq.trans hseq.symm)
    obtain rfl := Except.ok.inj (hof.defined.symm.trans hdefined)
    have hlater := hopen deadline hdeadline
    omega

/-- Between `c` and `c'` the poll kept its tallies and its ballots. -/
structure PollFrozen (c c' : RoomCore) (voteId : String) (row row' : VoteStateRow) : Prop where
  state : c'.voteStates.lookup voteId = some row'
  pollSeq : row'.pollSeq = row.pollSeq
  tallies : row'.tallies = row.tallies
  total : row'.totalVotes = row.totalVotes
  manual : row.manualCloseSeq ≠ none → row'.manualCloseSeq ≠ none
  ballots : ∀ participantId, c'.voteBallots.lookup (voteId, participantId) =
    c.voteBallots.lookup (voteId, participantId)

omit [UuidSource] [CaseFold] in
theorem PollFrozen.same {voteId : String} {row : VoteStateRow}
    (hrow : c'.voteStates.lookup voteId = some row)
    (hballots : c'.voteBallots = c.voteBallots) : PollFrozen c c' voteId row row :=
  ⟨hrow, rfl, rfl, rfl, id, fun _ => by rw [hballots]⟩

omit [UuidSource] [CaseFold] in
theorem PollFrozen.trans {c'' : RoomCore} {voteId : String} {row row' row'' : VoteStateRow}
    (h : PollFrozen c c' voteId row row') (h' : PollFrozen c' c'' voteId row' row'') :
    PollFrozen c c'' voteId row row'' :=
  ⟨h'.state, h'.pollSeq.trans h.pollSeq, h'.tallies.trans h.tallies, h'.total.trans h.total,
    h'.manual ∘ h.manual, fun p => (h'.ballots p).trans (h.ballots p)⟩

omit [UuidSource] in
/-- A ballot is only counted while its poll is open. -/
theorem VoteChange.frozen {states : Table String VoteStateRow}
    {ballots : Table (String × String) Nat} {voteId : String} {row : VoteStateRow}
    (hrow : c.voteStates.lookup voteId = some row) (hdeletes : ¬ P.deletes voteId)
    (hover : ∀ now, P.clock now → ¬ OpenAt c.events voteId row now)
    (h : VoteChange P c states ballots) :
    ∃ row', PollFrozen c { c with voteStates := states, voteBallots := ballots } voteId row
      row' := by
  cases h with
  | create poll definition _ _ habsent sets hballots =>
      refine ⟨row, PollFrozen.same ?_ hballots⟩
      have hne : voteId ≠ poll.id := by
        rintro rfl
        rw [hrow] at habsent
        cases habsent
      exact (sets.off_key hne).trans hrow
  | recount other participantId old new before after now hclock hstored hopen _ _ sets hballots =>
      have hne : voteId ≠ other := by
        rintro rfl
        obtain rfl := Option.some.inj (hrow.symm.trans hstored)
        exact hover now hclock hopen
      refine ⟨row, (sets.off_key hne).trans hrow, rfl, rfl, rfl, id, fun p => ?_⟩
      have hwith : ballots = withBallot c.voteBallots (other, participantId) after := by
        rw [hballots]
        cases after <;> rfl
      show ballots.lookup (voteId, p) = _
      rw [hwith, lookup_withBallot, if_neg fun heq => hne (Prod.mk.inj heq).1]
  | close other old event hstored _ _ _ _ _ _ sets hballots =>
      by_cases hid : voteId = other
      · subst hid
        obtain rfl := Option.some.inj (hrow.symm.trans hstored)
        exact ⟨_, sets.at_key, rfl, rfl, rfl, fun _ => nofun, fun _ => by rw [hballots]⟩
      · exact ⟨row, PollFrozen.same ((sets.off_key hid).trans hrow) hballots⟩
  | keep other old hstored sets hballots =>
      refine ⟨row, PollFrozen.same ?_ hballots⟩
      by_cases hid : voteId = other
      · subst hid
        exact sets.at_key.trans (hstored.symm.trans hrow)
      · exact (sets.off_key hid).trans hrow
  | erase other hdelete sets hballots =>
      have hne : voteId ≠ other := by
        rintro rfl
        exact hdeletes hdelete
      refine ⟨row, (sets.off_key hne).trans hrow, rfl, rfl, rfl, id, fun p => ?_⟩
      show ballots.lookup (voteId, p) = _
      rw [hballots, Table.lookup_eraseWhere, if_neg]
      simpa using hne

theorem Move.frozen (hl : LogWF c.events c.uuids) (hm : Move P c c') {voteId : String}
    {row : VoteStateRow} {instant : Nat} (hrow : c.voteStates.lookup voteId = some row)
    (hdeletes : ¬ P.deletes voteId) (hclock : ∀ now, P.clock now → instant ≤ now)
    (hover : OverAt c.events voteId row instant) :
    ∃ row', PollFrozen c c' voteId row row' ∧ OverAt c'.events voteId row' instant := by
  have hkept := hm.keepsPolls hl
  have hfrozen : ∃ row', PollFrozen c c' voteId row row' := by
    cases hm with
    | vote states ballots change =>
        exact change.frozen hrow hdeletes fun now hnow => hover.not_open hl (hclock now hnow)
    | log => exact ⟨row, PollFrozen.same hrow rfl⟩
    | settle => exact ⟨row, PollFrozen.same hrow rfl⟩
    | edit => exact ⟨row, PollFrozen.same hrow rfl⟩
    | tombstone => exact ⟨row, PollFrozen.same hrow rfl⟩
    | session => exact ⟨row, PollFrozen.same hrow rfl⟩
    | create => exact ⟨row, PollFrozen.same hrow rfl⟩
    | assign => exact ⟨row, PollFrozen.same hrow rfl⟩
    | shift => exact ⟨row, PollFrozen.same hrow rfl⟩
  obtain ⟨row', hrow'⟩ := hfrozen
  refine ⟨row', hrow', ?_⟩
  rcases hover with hclosed | ⟨poll, definition, deadline, hof, hdeadline, hpassed⟩
  · exact Or.inl (hrow'.manual hclosed)
  · refine Or.inr ⟨poll, definition, deadline, ⟨?_, hof.id, hof.seq.trans hrow'.pollSeq.symm,
      hof.defined, ?_⟩, hdeadline, hpassed⟩
    · refine hkept poll hof.stored (Or.inl ⟨?_, pollDefinition_kind hof.defined⟩)
      rw [hof.id, hrow]
      exact Option.some_ne_none row
    · rw [hrow'.tallies]
      exact hof.options

theorem Path.frozen (hsound : Sound c) (hp : Path P c c') {voteId : String}
    {row : VoteStateRow} {instant : Nat} (hrow : c.voteStates.lookup voteId = some row)
    (hdeletes : ¬ P.deletes voteId) (hclock : ∀ now, P.clock now → instant ≤ now)
    (hover : OverAt c.events voteId row instant) :
    ∃ row', PollFrozen c c' voteId row row' ∧ OverAt c'.events voteId row' instant := by
  induction hp with
  | refl => exact ⟨row, PollFrozen.same hrow rfl, hover⟩
  | tail hpath hlast ih =>
      obtain ⟨mid, hmid, hover'⟩ := ih
      obtain ⟨row', hrow', hover''⟩ :=
        hlast.frozen (Path.sound hsound hpath).log hmid.state hdeletes hclock hover'
      exact ⟨row', hmid.trans hrow', hover''⟩

end Machine

end Polls

end AgentsAssemble.Protocol
