import AgentsAssemble.System.Batches
import AgentsAssemble.Protocol.Ballots

/-!
# Ballots over runs

Whoever votes, in whatever order, every poll of the room counts the ballots it
stores, reads back, and keeps them once it has ended.
-/

namespace AgentsAssemble.System

open Foundation Domain Persistence Protocol Tx

section Reading

variable [UuidSource] [CaseFold]

omit [CaseFold] in
/-- A well-formed log is searched by its sequences. -/
theorem find_seq {events : List RoomEvent} {uuids : Nat} (hl : LogWF events uuids)
    {event : RoomEvent} (hevent : event ∈ events) :
    (events.find? fun e => e.seq == event.seq) = some event := by
  cases hfind : events.find? fun e => e.seq == event.seq with
  | none =>
      have hnone := List.find?_eq_none.mp hfind event hevent
      exact absurd (beq_self_eq_true event.seq) hnone
  | some found =>
      have hseq : found.seq = event.seq := by
        simpa using List.find?_some hfind
      rw [hl.eq_of_seq (List.mem_of_find?_eq_some hfind) hevent hseq]

omit [CaseFold] in
theorem validateCloseEvent_ok {events : List RoomEvent} {uuids : Nat} (hl : LogWF events uuids)
    {voteId : String} {row : VoteStateRow} {pollSeq closeSeq : Nat} (hseq : pollSeq = row.pollSeq)
    (h : ClosedBy events voteId row closeSeq) :
    ∃ closedAt, validateCloseEvent events voteId pollSeq closeSeq = .ok closedAt := by
  obtain ⟨hlater, event, hevent, rfl, htype, hkind, hvote⟩ := h
  refine ⟨event.createdAt, ?_⟩
  unfold validateCloseEvent
  rw [if_neg (by omega), find_seq hl hevent]
  simp [htype, hkind, hvote]

/-- A well-formed poll reads back. -/
theorem storedVoteOf_of_wf {s : Store} (hl : LogWF s.events s.uuids) {voteId : String}
    {row : VoteStateRow} (hrow : s.voteStates.lookup voteId = some row)
    (hpoll : PollWF (coreOf s) voteId row) : ∃ stored, storedVoteOf s voteId = .ok stored := by
  obtain ⟨poll, definition, hof⟩ := hpoll.poll
  have hstored : poll ∈ s.events := hof.stored
  have hcounts : ¬ (row.totalVotes > maxVoteBallotsPerPoll ∨
      row.tallies.length ≠ definition.options.length ∨ row.tallies.sum ≠ row.totalVotes) := by
    rintro (hover | hlength | hsum)
    · exact absurd hpoll.bounded (Nat.not_le.mpr hover)
    · exact hlength hof.options
    · exact hsum hpoll.sum
  unfold storedVoteOf
  rw [hrow]
  dsimp only
  rw [← hof.seq, find_seq hl hstored]
  dsimp only
  cases hmanual : row.manualCloseSeq with
  | none =>
      refine ⟨⟨poll, definition, row.tallies, row.totalVotes, none⟩, ?_⟩
      refine Result.check_eq_ok.mpr ⟨not_not.mpr hof.id, ?_⟩
      refine Result.bind_eq_ok.mpr ⟨definition, hof.defined, ?_⟩
      exact Result.check_eq_ok.mpr ⟨hcounts, rfl⟩
  | some closeSeq =>
      obtain ⟨closedAt, hclosed⟩ :=
        validateCloseEvent_ok hl hof.seq (hpoll.closed closeSeq hmanual)
      refine ⟨⟨poll, definition, row.tallies, row.totalVotes, some (closeSeq, closedAt)⟩, ?_⟩
      refine Result.check_eq_ok.mpr ⟨not_not.mpr hof.id, ?_⟩
      refine Result.bind_eq_ok.mpr ⟨definition, hof.defined, ?_⟩
      refine Result.check_eq_ok.mpr ⟨hcounts, ?_⟩
      dsimp only
      rw [hclosed]
      rfl

omit [UuidSource] in
/-- A poll that takes no ballot at `instant` is over then. -/
theorem overAt_of_ended {s : Store} {voteId : String} {stored : StoredVote}
    {row : VoteStateRow} {instant : Nat} (hread : VoteRead s voteId stored row)
    (h : requireOpen stored instant ≠ .ok ()) : OverAt s.events voteId row instant := by
  by_cases hmanual : stored.manualClose.isSome
  · left
    rw [← hread.manual]
    intro hnone
    rw [Option.map_eq_none_iff.mp hnone] at hmanual
    cases hmanual
  · right
    unfold requireOpen at h
    by_cases hpassed : (stored.definition.deadlineAt.any fun deadline =>
        decide (deadline ≤ instant)) = true
    · obtain ⟨deadline, hdeadline, hle⟩ := (Option.any_eq_true _ _).mp hpassed
      exact ⟨stored.poll, stored.definition, deadline, ⟨hread.poll, hread.id, hread.seq,
        hread.defined, hread.options⟩, hdeadline, by simpa using hle⟩
    · rw [if_neg hpassed, if_neg hmanual] at h
      exact absurd rfl h

end Reading

section Runs

variable [UuidSource] [CaseFold] [TextServices] [OperationHash]

omit [UuidSource] [TextServices] [OperationHash] in
theorem IsInitial.ballots {s : Store} (h : IsInitial s) : BallotsWF (coreOf s) := by
  have hstates : (coreOf s).voteStates = ∅ := h.voteStates
  have hballots : (coreOf s).voteBallots = ∅ := h.voteBallots
  constructor
  · intro voteId row hrow
    rw [hstates, AList.lookup_empty] at hrow
    cases hrow
  · intro voteId participantId _
    rw [hballots, AList.lookup_empty]

theorem IsReachable.ballots {s : Store} (h : IsReachable s) : BallotsWF (coreOf s) := by
  have hboth : Sound (coreOf s) ∧ BallotsWF (coreOf s) := by
    refine Reachable.invariant (I := fun s => Sound (coreOf s) ∧ BallotsWF (coreOf s))
      ?_ ?_ h
    · intro s hs
      exact ⟨hs.sound, hs.ballots⟩
    · intro l s s' hs hstep
      exact ⟨hstep.sound hs.1, Path.ballots_wf hs.1 hs.2 (hstep.path hs.1)⟩
  exact hboth.2

/-- The operation leaves the poll in the room, and runs no earlier than `instant`. -/
def Op.LeavesPoll (voteId : String) (instant : Nat) (_ : Store) (op : Op) : Prop :=
  op.deleted ≠ some voteId ∧ ∀ now, op.clock = some now → instant ≤ now

/-- A poll that is over keeps its tallies and its ballots over every later run. -/
theorem run_frozen {s t : Store} {labels : List Label} {voteId : String} {instant : Nat}
    {row : VoteStateRow} (hs : Sound (coreOf s))
    (hrow : s.voteStates.lookup voteId = some row)
    (hover : OverAt s.events voteId row instant)
    (h : Run (StepMeeting (Op.LeavesPoll voteId instant)) s labels t) :
    ∃ row', PollFrozen (coreOf s) (coreOf t) voteId row row' ∧
      OverAt t.events voteId row' instant := by
  induction h with
  | nil => exact ⟨row, PollFrozen.same hrow rfl, hover⟩
  | @snoc t u labels l hrun hlast ih =>
      obtain ⟨mid, hmid, hover'⟩ := ih
      obtain ⟨hstep, hmeets⟩ := hlast
      have hsound : Sound (coreOf t) :=
        hrun.invariant (I := fun s => Sound (coreOf s))
          (fun _ _ _ hsound hstep => hstep.1.sound hsound) hs
      have hfrozen : ∃ row', PollFrozen (coreOf t) (coreOf u) voteId mid row' ∧
          OverAt u.events voteId row' instant := by
        cases hstep with
        | inside op response hcommits =>
            exact Path.frozen hsound (op.path hsound hcommits) hmid.state hmeets.1 hmeets.2 hover'
        | outside hout =>
            exact Path.frozen hsound hout.path hmid.state (fun h => h) (fun _ h => h.elim) hover'
      obtain ⟨row', hrow', hover''⟩ := hfrozen
      exact ⟨row', hmid.trans hrow', hover''⟩

/-- Every stored poll counts its ballots, can be read, and keeps both once it ended. -/
theorem ballots_are_counted {s : Store} (hs : IsReachable s) :
    (∀ voteId row, s.voteStates.lookup voteId = some row →
      (∀ index, row.tallies.getD index 0 = ballotsFor s.voteBallots voteId index) ∧
      row.totalVotes = ballotTotal s.voteBallots voteId ∧
      row.totalVotes ≤ maxVoteBallotsPerPoll) ∧
    (∀ voteId stored instant labels t, storedVoteOf s voteId = .ok stored →
      requireOpen stored instant ≠ .ok () →
      Run (StepMeeting (Op.LeavesPoll voteId instant)) s labels t →
      ∃ row row', s.voteStates.lookup voteId = some row ∧
        t.voteStates.lookup voteId = some row' ∧ row'.tallies = row.tallies ∧
        row'.totalVotes = row.totalVotes ∧
        ∀ participantId, t.voteBallots.lookup (voteId, participantId) =
          s.voteBallots.lookup (voteId, participantId)) ∧
    (∀ voteId e, storedVoteOf s voteId = .error e → e = voteMissing) ∧
    ∀ voteId stored participantId, storedVoteOf s voteId = .ok stored →
      ∃ ballot, ballotOf s participantId stored = .ok ballot := by
  have hsound := hs.sound
  have hballots := hs.ballots
  refine ⟨fun voteId row hrow => ?_, fun voteId stored instant labels t hstored hended hrun => ?_,
    fun voteId e he => ?_, fun voteId stored participantId hstored => ?_⟩
  · have hpoll := hballots.polls voteId row hrow
    exact ⟨hpoll.tallies, hpoll.total, hpoll.bounded⟩
  · obtain ⟨row, hread⟩ := storedVoteOf_ok hstored
    obtain ⟨row', hfrozen, -⟩ :=
      run_frozen hsound hread.state (overAt_of_ended hread hended) hrun
    exact ⟨row, row', hread.state, hfrozen.state, hfrozen.tallies, hfrozen.total,
      hfrozen.ballots⟩
  · cases hrow : s.voteStates.lookup voteId with
    | none =>
        rw [storedVoteOf, hrow] at he
        exact (Except.error.inj he).symm
    | some row =>
        obtain ⟨stored, hstored⟩ :=
          storedVoteOf_of_wf hsound.log hrow (hballots.polls voteId row hrow)
        rw [hstored] at he
        cases he
  · obtain ⟨row, hread⟩ := storedVoteOf_ok hstored
    unfold ballotOf
    cases hballot : s.voteBallots.lookup (stored.poll.id, participantId) with
    | none => exact ⟨none, rfl⟩
    | some index =>
        have hchoice : index < row.tallies.length := by
          refine (hballots.polls voteId row hread.state).choices participantId index ?_
          rw [← hread.id]
          exact hballot
        rw [hread.options] at hchoice
        exact ⟨some index, if_pos hchoice⟩

end Runs

namespace Sample

/-- The operator opens a poll, votes and closes it. -/
def closedPoll : List Op :=
  [ .sendMessage owner (.vote (.vote "Lunch?" ["Soup", "Salad"] none none)) 0 0
  , .sendMessage owner (.vote (.voteCast "0" "Salad")) 0 0
  , .sendMessage owner (.vote (.voteClose "0")) 0 0 ]

end Sample

open Sample in
/-- The closed poll of the sample room counts its one ballot. -/
theorem closed_poll_counted :
    ((roomAfter emptyRoom closedPoll).voteStates.lookup "0").any
        (fun row => row.manualCloseSeq.isSome && row.tallies == [0, 1]) = true ∧
      ∀ row, (roomAfter emptyRoom closedPoll).voteStates.lookup "0" = some row →
        row.totalVotes = ballotTotal (roomAfter emptyRoom closedPoll).voteBallots "0" := by
  refine ⟨by decide +kernel, fun row hrow => ?_⟩
  have hreachable := reachable_roomAfter emptyRoom_reachable closedPoll
  exact ((ballots_are_counted hreachable).1 "0" row hrow).2.1

end AgentsAssemble.System
