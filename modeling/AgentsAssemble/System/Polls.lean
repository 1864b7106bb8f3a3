import AgentsAssemble.Foundation.Result
import AgentsAssemble.System.Paths
import AgentsAssemble.Protocol.Ballots

/-!
# Votes as moves

A vote command publishes one event and changes the ballot projection of one
poll: it creates it, recounts it or closes it.
-/

namespace AgentsAssemble.System

open Foundation Domain Persistence Protocol Tx

section Polls

/-! ## Counting -/

theorem sum_set {counts : List Nat} {index old : Nat} (h : counts[index]? = some old)
    (new : Nat) : (counts.set index new).sum + old = counts.sum + new := by
  induction counts generalizing index with
  | nil => cases h
  | cons count counts ih =>
      cases index with
      | zero =>
          obtain rfl := Option.some.inj h
          simp only [List.set_cons_zero, List.sum_cons]
          omega
      | succ index =>
          have htail := @ih index h
          simp only [List.set_cons_succ, List.sum_cons]
          omega

theorem getD_set {counts : List Nat} {index old : Nat} (h : counts[index]? = some old)
    (new i : Nat) :
    (counts.set index new).getD i 0 = if i = index then new else counts.getD i 0 := by
  have hlt : index < counts.length := (List.getElem?_eq_some_iff.mp h).1
  rw [List.getD_eq_getElem?_getD, List.getElem?_set, List.getD_eq_getElem?_getD]
  by_cases hi : index = i
  · rw [if_pos hi, if_pos hi.symm, if_pos hlt]
    rfl
  · rw [if_neg hi, if_neg (Ne.symm hi)]

/-- One vote less for one option. -/
theorem uncountVote_ok {tallies tallies' : List Nat} {index : Nat}
    (h : uncountVote tallies index = .ok tallies') :
    tallies'.length = tallies.length ∧ tallies'.sum + 1 = tallies.sum ∧
      ∀ i, tallies'.getD i 0 + countsFor (some index) i = tallies.getD i 0 := by
  rw [uncountVote] at h
  split at h
  swap
  · cases h
  rename_i count hcount
  obtain rfl := Except.ok.inj h
  refine ⟨List.length_set, ?_, fun i => ?_⟩
  · have hsum := sum_set hcount count
    omega
  · rw [getD_set hcount, countsFor]
    by_cases hi : i = index
    · subst hi
      rw [if_pos rfl, if_pos rfl, List.getD_eq_getElem?_getD, hcount]
      rfl
    · rw [if_neg hi, if_neg fun heq => hi (Option.some.inj heq).symm]
      rfl

/-- One vote more for one option. -/
theorem countVote_ok {tallies tallies' : List Nat} {index : Nat}
    (h : countVote tallies index = .ok tallies') :
    tallies'.length = tallies.length ∧ tallies'.sum = tallies.sum + 1 ∧
      index < tallies.length ∧
      ∀ i, tallies'.getD i 0 = tallies.getD i 0 + countsFor (some index) i := by
  rw [countVote] at h
  split at h
  swap
  · cases h
  rename_i count hcount
  split at h
  swap
  · cases h
  obtain rfl := Except.ok.inj h
  refine ⟨List.length_set, ?_, (List.getElem?_eq_some_iff.mp hcount).1, fun i => ?_⟩
  · have hsum := sum_set hcount (count + 1)
    omega
  · rw [getD_set hcount, countsFor]
    by_cases hi : i = index
    · subst hi
      rw [if_pos rfl, if_pos rfl, List.getD_eq_getElem?_getD, hcount]
      rfl
    · rw [if_neg hi, if_neg fun heq => hi (Option.some.inj heq).symm]
      rfl

/-! ## Stored polls -/

variable [CaseFold]

/-- A poll as a vote command reads it. -/
structure VoteRead (s : Store) (voteId : String) (stored : StoredVote) (row : VoteStateRow) :
    Prop where
  state : s.voteStates.lookup voteId = some row
  poll : stored.poll ∈ s.events
  id : stored.poll.id = voteId
  seq : stored.poll.seq = row.pollSeq
  defined : pollDefinition stored.poll = .ok stored.definition
  tallies : stored.tallies = row.tallies
  total : stored.totalVotes = row.totalVotes
  bounded : row.totalVotes ≤ maxVoteBallotsPerPoll
  options : row.tallies.length = stored.definition.options.length
  manual : stored.manualClose.map Prod.fst = row.manualCloseSeq

theorem storedVoteOf_ok {s : Store} {voteId : String} {stored : StoredVote}
    (h : storedVoteOf s voteId = .ok stored) : ∃ row, VoteRead s voteId stored row := by
  rw [storedVoteOf] at h
  split at h
  · cases h
  rename_i row hrow
  split at h
  · cases h
  rename_i poll hpoll
  obtain ⟨hid, h⟩ := Result.check_eq_ok.mp h
  obtain ⟨definition, hdefined, h⟩ := Result.bind_eq_ok.mp h
  obtain ⟨hcounts, h⟩ := Result.check_eq_ok.mp h
  simp only [not_or, Nat.not_lt, Decidable.not_not] at hcounts hid
  have hseq : poll.seq = row.pollSeq := by
    simpa using List.find?_some hpoll
  have hmem := List.mem_of_find?_eq_some hpoll
  split at h
  · rename_i hopen
    obtain ⟨manual, hmanual, h⟩ := Result.bind_eq_ok.mp h
    obtain rfl := Result.pure_eq_ok.mp hmanual
    obtain rfl := Result.pure_eq_ok.mp h
    exact ⟨row, hrow, hmem, hid, hseq, hdefined, rfl, rfl, hcounts.1, hcounts.2.1, hopen.symm⟩
  · rename_i closeSeq hclosed
    obtain ⟨closedAt, -, h⟩ := Result.bind_eq_ok.mp h
    obtain ⟨manual, hmanual, h⟩ := Result.bind_eq_ok.mp h
    obtain rfl := Result.pure_eq_ok.mp hmanual
    obtain rfl := Result.pure_eq_ok.mp h
    exact ⟨row, hrow, hmem, hid, hseq, hdefined, rfl, rfl, hcounts.1, hcounts.2.1, hclosed.symm⟩

/-- An open poll takes ballots at `now`. -/
theorem openAt_of_requireOpen {s : Store} {voteId : String} {stored : StoredVote}
    {row : VoteStateRow} {now : Nat} (hread : VoteRead s voteId stored row)
    (h : requireOpen stored now = .ok ()) : OpenAt s.events voteId row now := by
  rw [requireOpen] at h
  split at h
  · cases h
  rename_i hdeadline
  split at h
  · cases h
  rename_i hmanual
  refine ⟨?_, stored.poll, stored.definition, hread.poll, hread.id, hread.seq, hread.defined,
    fun deadline hd => ?_⟩
  · rw [← hread.manual, Option.not_isSome_iff_eq_none.mp hmanual]
    rfl
  · rw [hd] at hdeadline
    simpa using hdeadline

/-! ## Vote events -/

variable [UuidSource]

/-- The event of a vote command, as it enters the log. -/
structure VoteEvent (s : Store) (command : VoteCommand) (sequence now : Nat)
    (event : RoomEvent) : Prop where
  id : event.id = UuidSource.newV4 s.uuids
  seq : event.seq = sequence
  eventType : event.eventType = "message_final"
  kind : event.messageKind = some command.messageKind
  createdAt : event.createdAt = now
  extra : event.extra = command.eventExtra now

omit [CaseFold] in
theorem commits_prepareVoteRoomEvent {principal : AuthenticatedPrincipal}
    {participant : Participant} {command : VoteCommand} {sequence now : Nat} {s s' : Store}
    {event : RoomEvent}
    (h : Commits (prepareVoteRoomEvent principal participant command sequence now) s event s') :
    VoteEvent s command sequence now event ∧ s' = { s with uuids := s.uuids + 1 } := by
  simp only [prepareVoteRoomEvent, commits_bind, commits_drawUuid, commits_ofResult] at h
  obtain ⟨id, _, ⟨rfl, rfl⟩, hprepared, rfl⟩ := h
  refine ⟨?_, rfl⟩
  cases hevent : prepareVoteEvent (UuidSource.newV4 s.uuids) principal participant command
      sequence now with
  | error e =>
      rw [hevent] at hprepared
      cases hprepared
  | ok prepared =>
      rw [hevent] at hprepared
      obtain rfl := Except.ok.inj hprepared
      obtain ⟨_, -, hmessage⟩ := Result.bind_eq_ok.mp hevent
      rw [prepareAuthorizedParticipantMessageEvent] at hmessage
      split at hmessage
      · cases hmessage
      · obtain rfl := Except.ok.inj hmessage
        exact ⟨rfl, rfl, rfl, rfl, rfl, rfl⟩

omit [CaseFold] [UuidSource] in
/-- A ballot transition keeps its place in the log and the poll it names. -/
theorem minimized_eq (event : RoomEvent) :
    (privacyMinimizedVoteTransition event).id = event.id ∧
      (privacyMinimizedVoteTransition event).seq = event.seq ∧
      (privacyMinimizedVoteTransition event).eventType = event.eventType ∧
      (privacyMinimizedVoteTransition event).messageKind = event.messageKind ∧
      (privacyMinimizedVoteTransition event).extra.voteId = event.extra.voteId ∧
      (event.isDeleted = false → (privacyMinimizedVoteTransition event).isDeleted = false) := by
  rw [privacyMinimizedVoteTransition]
  split
  · exact ⟨rfl, rfl, rfl, rfl, rfl, fun _ => rfl⟩
  · exact ⟨rfl, rfl, rfl, rfl, rfl, id⟩

/-- A vote appended one event and wrote the vote tables, and nothing else of the core. -/
structure VotePublished (s s' : Store) (event : RoomEvent) : Prop where
  core : coreOf s' = { coreOf s with
    events := s.events ++ [event]
    voteStates := s'.voteStates
    voteBallots := s'.voteBallots
    uuids := s.uuids + 1 }
  id : event.id = UuidSource.newV4 s.uuids
  seq : event.seq = nextSeq s.events
  quiet : Quiet event

omit [CaseFold] in
theorem VotePublished.log {s s' : Store} {event : RoomEvent} (h : VotePublished s s' event) :
    Publishes s [event] { s with events := s.events ++ [event], uuids := s.uuids + 1 } := by
  refine ⟨rfl, Fresh.single (Nat.le_refl _) (Nat.lt_succ_self _) h.id (Nat.le_of_eq h.seq.symm),
    fun e he => ?_⟩
  rw [List.mem_singleton.mp he]
  exact h.quiet

variable {P : Permit}

theorem VotePublished.path {s s' : Store} {event : RoomEvent} (h : VotePublished s s' event)
    (hchange : VoteChange P
      { coreOf s with events := s.events ++ [event], uuids := s.uuids + 1 }
      s'.voteStates s'.voteBallots) : Path P (coreOf s) (coreOf s') := by
  have hlog : Path P (coreOf s)
      (coreOf { s with events := s.events ++ [event], uuids := s.uuids + 1 }) := h.log.path
  refine hlog.tail ?_
  rw [h.core]
  exact Move.vote _ _ hchange

omit [CaseFold] in
theorem quiet_of_vote {s : Store} {command : VoteCommand} {sequence now : Nat}
    {event : RoomEvent} (h : VoteEvent s command sequence now event) : Quiet event := by
  refine ⟨?_, ?_⟩
  · rw [h.eventType]
    decide
  · rw [RoomEvent.isDeleted, h.extra]
    cases command <;> rfl

omit [CaseFold] [UuidSource] in
theorem quiet_minimized {event : RoomEvent} (h : Quiet event) :
    Quiet (privacyMinimizedVoteTransition event) := by
  obtain ⟨-, -, htype, -, -, hkept⟩ := minimized_eq event
  refine ⟨?_, hkept h.kept⟩
  rw [htype]
  exact h.unfinished

/-! ## Attachments -/

/-- Only the attachment rows changed. -/
def BindsOnly (s s' : Store) : Prop :=
  s' = { s with attachments := s'.attachments }

omit [CaseFold] [UuidSource] in
theorem commits_bindAttachments {principal : AuthenticatedPrincipal} {eventSeq now : Nat}
    {ids : List String} {s s' : Store} {units : List Unit}
    (h : Commits (each (bindMessageAttachment principal eventSeq now) ids) s units s') :
    BindsOnly s s' := by
  refine within_each (R := BindsOnly) (fun _ => rfl) ?_ (fun id => ?_) ids h
  · intro a b c hab hbc
    rw [BindsOnly] at hab hbc ⊢
    rw [hbc, hab]
  · intro a _ b hrun
    simp only [bindMessageAttachment, commits_bind, commits_read, commits_orReject,
      commits_write] at hrun
    obtain ⟨_, _, ⟨rfl, rfl⟩, row, _, ⟨-, rfl⟩, rfl⟩ := hrun
    rfl

omit [CaseFold] [UuidSource] in
theorem commits_prepareAttachments {principal : AuthenticatedPrincipal} {now : Nat}
    {ids : List String} {s s' : Store} {attachments : List MessageAttachmentMetadata}
    (h : Commits (each (prepareMessageAttachmentBinding principal now) ids) s attachments s') :
    s' = s := by
  refine within_each (R := fun a b => b = a) (fun _ => rfl) (fun a b c hab hbc => hbc.trans hab)
    (fun id => ?_) ids h
  intro a _ b hrun
  simp only [prepareMessageAttachmentBinding, commits_bind, commits_read, commits_orReject,
    commits_pure] at hrun
  obtain ⟨_, _, ⟨rfl, rfl⟩, row, _, ⟨-, rfl⟩, -, rfl⟩ := hrun
  rfl

omit [CaseFold] [UuidSource] in
theorem withAttachments_eq (event : RoomEvent) (attachments : List MessageAttachmentMetadata) :
    (withAttachments event attachments).id = event.id ∧
      (withAttachments event attachments).seq = event.seq ∧
      (withAttachments event attachments).eventType = event.eventType ∧
      (withAttachments event attachments).isDeleted = event.isDeleted := by
  rw [withAttachments]
  split
  · exact ⟨rfl, rfl, rfl, rfl⟩
  · exact ⟨rfl, rfl, rfl, rfl⟩

/-! ## Commands -/

theorem path_createVote {principal : AuthenticatedPrincipal} {participant : Participant}
    {poll : VoteCreate} {now : Nat} {s s' : Store} {event : RoomEvent}
    (h : Commits (createVote principal participant poll (nextSeq s.events) now) s event s') :
    VotePublished s s' event ∧ Path P (coreOf s) (coreOf s') := by
  simp only [createVote, insertVoteState, commits_bind, commits_insertEvent, commits_ofResult,
    commits_read, commits_require, commits_write, commits_pure] at h
  obtain ⟨attachments, t, hattachments, prepared, t₁, hprepared, _, _, ⟨-, rfl⟩, _, t₂,
    ⟨definition, _, ⟨hdefined, rfl⟩, _, _, ⟨rfl, rfl⟩, _, _, ⟨habsent, rfl⟩, rfl⟩, _, s', hbound,
    rfl, rfl⟩ := h
  obtain rfl := commits_prepareAttachments hattachments
  obtain ⟨hvote, rfl⟩ := commits_prepareVoteRoomEvent hprepared
  obtain ⟨hid, hseq, htype, hkept⟩ := withAttachments_eq prepared attachments
  have hquiet := quiet_of_vote hvote
  have hpublished : VotePublished t s' (withAttachments prepared attachments) := by
    refine ⟨?_, hid.trans hvote.id, hseq.trans hvote.seq, htype ▸ hquiet.unfinished,
      hkept.trans hquiet.kept⟩
    rw [commits_bindAttachments hbound]
    rfl
  refine ⟨hpublished, hpublished.path ?_⟩
  rw [commits_bindAttachments hbound]
  exact .create _ definition (List.mem_append_right _ (List.mem_singleton.mpr rfl)) hdefined
    habsent (Table.sets_insert _ _ _) rfl

omit [CaseFold] [UuidSource] in
theorem ballotOf_ok {s : Store} {participantId : String} {stored : StoredVote}
    {ballot : Option Nat} (h : ballotOf s participantId stored = .ok ballot) :
    s.voteBallots.lookup (stored.poll.id, participantId) = ballot := by
  rw [ballotOf] at h
  split at h
  · rename_i hnone
    exact hnone.trans (Except.ok.inj h)
  · rename_i index hindex
    split at h
    · exact hindex.trans (Except.ok.inj h)
    · cases h

/-- The row of a poll after its tallies were counted anew. -/
def recountedRow (row : VoteStateRow) (stored : StoredVote) : VoteStateRow :=
  { row with tallies := stored.tallies, totalVotes := stored.totalVotes }

omit [UuidSource] in
/-- What replacing a ballot did: nothing, or one recount. -/
theorem commits_replaceBallot {participant : Participant} {stored stored' : StoredVote}
    {index : Nat} {s s' : Store} {voteId : String} {row : VoteStateRow}
    (hread : VoteRead s voteId stored row)
    (h : Commits (replaceBallot participant stored index) s stored' s') :
    (stored' = stored ∧ s' = s) ∨
      ((stored'.poll = stored.poll ∧ stored'.manualClose = stored.manualClose) ∧
        s' = { s with voteBallots :=
          s.voteBallots.insert (voteId, participant.participantId) index } ∧
        Recounted row (recountedRow row stored')
          (s.voteBallots.lookup (voteId, participant.participantId)) (some index)) := by
  simp only [replaceBallot, loadBallot, commits_bind, commits_read, commits_ofResult] at h
  obtain ⟨previous, _, ⟨_, s, ⟨rfl, rfl⟩, hprevious, rfl⟩, h⟩ := h
  have hlookup := ballotOf_ok hprevious
  rw [hread.id] at hlookup
  split at h
  · obtain ⟨rfl, rfl⟩ := commits_pure.mp h
    exact Or.inl ⟨rfl, rfl⟩
  refine Or.inr ?_
  have hbounded := hread.bounded
  have htotal := hread.total
  split at h
  · rename_i old _
    simp only [commits_bind, commits_ofResult, commits_pure, commits_write] at h
    obtain ⟨uncounted, _, ⟨huncount, rfl⟩, _, _, ⟨rfl, rfl⟩, counted, _, ⟨hcount, rfl⟩, _, _,
      rfl, rfl, rfl⟩ := h
    obtain ⟨hlength, hsum, hget⟩ := uncountVote_ok huncount
    obtain ⟨hlength', hsum', hindex, hget'⟩ := countVote_ok hcount
    dsimp only at hlength' hsum' hindex hget'
    rw [hread.tallies] at hlength hsum hget
    rw [hread.id, hlookup]
    refine ⟨⟨rfl, rfl⟩, rfl, rfl, rfl, hlength'.trans hlength, fun i => ?_, ?_,
      congrArg (· + 1) htotal, htotal.trans_le hbounded, fun i hi => ?_⟩
    · have h₁ := hget i
      have h₂ := hget' i
      show counted.getD i 0 + countsFor (some old) i = row.tallies.getD i 0 + countsFor (some index) i
      omega
    · show counted.sum + 1 = row.tallies.sum + 1
      omega
    · obtain rfl := Option.some.inj hi
      exact hlength ▸ hindex
  · simp only [commits_bind, commits_require, commits_pure, commits_ofResult,
      commits_write] at h
    obtain ⟨_, _, ⟨hcapacity, rfl⟩, _, _, ⟨rfl, rfl⟩, counted, _, ⟨hcount, rfl⟩, _, _, rfl, rfl,
      rfl⟩ := h
    obtain ⟨hlength, hsum, hindex, hget⟩ := countVote_ok hcount
    dsimp only at hlength hsum hindex hget
    rw [hread.tallies] at hlength hsum hindex hget
    rw [hread.id, hlookup]
    refine ⟨⟨rfl, rfl⟩, rfl, rfl, rfl, hlength, fun i => hget i, hsum, congrArg (· + 1) htotal,
      hcapacity, fun i hi => ?_⟩
    obtain rfl := Option.some.inj hi
    exact hindex

omit [UuidSource] in
/-- What removing a ballot did: nothing, or one recount. -/
theorem commits_removeBallot {participant : Participant} {stored stored' : StoredVote}
    {s s' : Store} {voteId : String} {row : VoteStateRow} (hread : VoteRead s voteId stored row)
    (h : Commits (removeBallot participant stored) s stored' s') :
    (stored' = stored ∧ s' = s) ∨
      ((stored'.poll = stored.poll ∧ stored'.manualClose = stored.manualClose) ∧
        s' = { s with voteBallots :=
          s.voteBallots.erase (voteId, participant.participantId) } ∧
        Recounted row (recountedRow row stored')
          (s.voteBallots.lookup (voteId, participant.participantId)) none) := by
  simp only [removeBallot, loadBallot, commits_bind, commits_read, commits_ofResult] at h
  obtain ⟨previous, _, ⟨_, s, ⟨rfl, rfl⟩, hprevious, rfl⟩, h⟩ := h
  have hlookup := ballotOf_ok hprevious
  rw [hread.id] at hlookup
  split at h
  · obtain ⟨rfl, rfl⟩ := commits_pure.mp h
    exact Or.inl ⟨rfl, rfl⟩
  rename_i old
  simp only [commits_bind, commits_ofResult, commits_require, commits_write,
    commits_pure] at h
  obtain ⟨uncounted, _, ⟨huncount, rfl⟩, _, _, ⟨hpositive, rfl⟩, _, _, rfl, rfl, rfl⟩ := h
  have hbounded := hread.bounded
  have htotal := hread.total
  obtain ⟨hlength, hsum, hget⟩ := uncountVote_ok huncount
  rw [hread.tallies] at hlength hsum hget
  rw [hread.id, hlookup]
  refine Or.inr ⟨⟨rfl, rfl⟩, rfl, rfl, rfl, hlength, fun i => hget i, hsum, ?_, ?_, (by rintro _ ⟨⟩)⟩
  · show stored.totalVotes - 1 + 1 = row.totalVotes
    omega
  · show stored.totalVotes - 1 ≤ _
    omega

/-- The state row a vote writes back. -/
def savedRow (row : VoteStateRow) (stored : StoredVote) : VoteStateRow :=
  { row with
    tallies := stored.tallies
    totalVotes := stored.totalVotes
    manualCloseSeq := stored.manualClose.map Prod.fst }

omit [CaseFold] [UuidSource] in
theorem commits_saveVoteState {stored : StoredVote} {s s' : Store} {u : Unit}
    (h : Commits (saveVoteState stored) s u s') :
    ∃ row, s.voteStates.lookup stored.poll.id = some row ∧
      s' = { s with
        voteStates := s.voteStates.insert stored.poll.id (savedRow row stored) } := by
  simp only [saveVoteState, commits_bind, commits_read, commits_orReject, commits_write,
    Option.filter_eq_some_iff] at h
  obtain ⟨_, s, ⟨rfl, rfl⟩, row, _, ⟨⟨hrow, -⟩, rfl⟩, rfl⟩ := h
  exact ⟨row, hrow, rfl⟩

variable {P : Permit}

/-- A ballot transition that was published with the recount it stands for. -/
theorem path_recount (participant : Participant) (new : Option Nat)
    {stored stored' : StoredVote} {voteId : String} {row : VoteStateRow} {now : Nat}
    {s s' : Store} {event : RoomEvent} (hclock : P.clock now) (hread : VoteRead s voteId stored row)
    (hopen : OpenAt s.events voteId row now) (hpublished : VotePublished s s' event)
    (hkept : stored'.manualClose = stored.manualClose)
    (hstates : s'.voteStates = s.voteStates.insert voteId (savedRow row stored'))
    (hballots : (stored' = stored ∧ s'.voteBallots = s.voteBallots) ∨
      s'.voteBallots = (match new with
        | some index => s.voteBallots.insert (voteId, participant.participantId) index
        | none => s.voteBallots.erase (voteId, participant.participantId)) ∧
      Recounted row (recountedRow row stored')
        (s.voteBallots.lookup (voteId, participant.participantId)) new) :
    Path P (coreOf s) (coreOf s') := by
  have hmanual : stored'.manualClose.map Prod.fst = row.manualCloseSeq := by
    rw [hkept]
    exact hread.manual
  rw [savedRow, hmanual] at hstates
  refine hpublished.path ?_
  rcases hballots with ⟨rfl, hsame⟩ | ⟨hballots, hrecounted⟩
  · refine .keep voteId row hread.state ?_ hsame
    rw [hstates, hread.tallies, hread.total]
    exact Table.sets_insert _ _ _
  · refine .recount voteId participant.participantId row (recountedRow row stored') _ new now
      hclock hread.state ?_ rfl hrecounted ?_ hballots
    · obtain ⟨hmanual, poll, definition, hpoll, hdefined⟩ := hopen
      exact ⟨hmanual, poll, definition, List.mem_append_left _ hpoll, hdefined⟩
    · rw [hstates]
      exact Table.sets_insert _ _ _

theorem path_castVote {principal : AuthenticatedPrincipal} {participant : Participant}
    {ballot : VoteCast} {now : Nat} {s s' : Store} {event : RoomEvent} (hclock : P.clock now)
    (h : Commits (castVote principal participant ballot (nextSeq s.events) now) s event s') :
    VotePublished s s' event ∧ Path P (coreOf s) (coreOf s') := by
  simp only [castVote, loadVote, commits_bind, commits_read, commits_ofResult,
    commits_orReject, commits_insertEvent, commits_pure] at h
  obtain ⟨stored, _, ⟨_, _, ⟨rfl, rfl⟩, hstored, rfl⟩, _, _, ⟨hopen, rfl⟩, choice, _, ⟨-, rfl⟩,
    index, s, ⟨-, rfl⟩, prepared, t, hprepared, stored', t₁, hreplaced, _, t₂, ⟨-, ht₂⟩, _, s',
    hsaved, rfl, rfl⟩ := h
  obtain ⟨row, hread⟩ := storedVoteOf_ok hstored
  obtain ⟨hvote, rfl⟩ := commits_prepareVoteRoomEvent hprepared
  obtain ⟨hid, hseq, -⟩ := minimized_eq prepared
  obtain ⟨row', hrow', hs'⟩ := commits_saveVoteState hsaved
  have hquiet := quiet_minimized (quiet_of_vote hvote)
  have hread' : VoteRead { s with uuids := s.uuids + 1 } ballot.voteId stored row :=
    ⟨hread.state, hread.poll, hread.id, hread.seq, hread.defined, hread.tallies, hread.total,
      hread.bounded, hread.options, hread.manual⟩
  rcases commits_replaceBallot hread' hreplaced with ⟨rfl, rfl⟩ | ⟨hkept, rfl, hrecounted⟩
  · rw [hread.id] at hrow' hs'
    subst ht₂
    obtain rfl := Option.some.inj (hread.state.symm.trans hrow')
    have hpublished : VotePublished s s' (privacyMinimizedVoteTransition prepared) :=
      ⟨by rw [hs']; rfl, hid.trans hvote.id, hseq.trans hvote.seq, hquiet⟩
    exact ⟨hpublished, path_recount participant (some index) hclock hread
      (openAt_of_requireOpen hread hopen) hpublished rfl (by rw [hs']) (Or.inl ⟨rfl, by rw [hs']⟩)⟩
  · have hpoll : stored'.poll.id = ballot.voteId := by
      rw [hkept.1]
      exact hread.id
    rw [hpoll] at hrow' hs'
    subst ht₂
    obtain rfl := Option.some.inj (hread.state.symm.trans hrow')
    have hpublished : VotePublished s s' (privacyMinimizedVoteTransition prepared) :=
      ⟨by rw [hs']; rfl, hid.trans hvote.id, hseq.trans hvote.seq, hquiet⟩
    exact ⟨hpublished, path_recount participant (some index) hclock hread
      (openAt_of_requireOpen hread hopen) hpublished hkept.2 (by rw [hs'])
      (Or.inr ⟨by rw [hs'], hrecounted⟩)⟩

theorem path_withdrawVote {principal : AuthenticatedPrincipal} {participant : Participant}
    {reference : VoteReference} {now : Nat} {s s' : Store} {event : RoomEvent}
    (hclock : P.clock now)
    (h : Commits (withdrawVote principal participant reference (nextSeq s.events) now)
      s event s') :
    VotePublished s s' event ∧ Path P (coreOf s) (coreOf s') := by
  simp only [withdrawVote, loadVote, commits_bind, commits_read, commits_ofResult,
    commits_insertEvent, commits_pure] at h
  obtain ⟨stored, _, ⟨_, _, ⟨rfl, rfl⟩, hstored, rfl⟩, _, s, ⟨hopen, rfl⟩, prepared, t,
    hprepared, _, t₂, ⟨-, ht₂⟩, stored', t₁, hremoved, _, s', hsaved, rfl, rfl⟩ := h
  obtain ⟨row, hread⟩ := storedVoteOf_ok hstored
  obtain ⟨hvote, rfl⟩ := commits_prepareVoteRoomEvent hprepared
  obtain ⟨hid, hseq, -⟩ := minimized_eq prepared
  obtain ⟨row', hrow', hs'⟩ := commits_saveVoteState hsaved
  have hquiet := quiet_minimized (quiet_of_vote hvote)
  subst ht₂
  have hread' : VoteRead { s with
      events := s.events ++ [privacyMinimizedVoteTransition prepared], uuids := s.uuids + 1 }
      reference.voteId stored row :=
    ⟨hread.state, List.mem_append_left _ hread.poll, hread.id, hread.seq, hread.defined,
      hread.tallies, hread.total, hread.bounded, hread.options, hread.manual⟩
  rcases commits_removeBallot hread' hremoved with ⟨rfl, rfl⟩ | ⟨hkept, rfl, hrecounted⟩
  · rw [hread.id] at hrow' hs'
    obtain rfl := Option.some.inj (hread.state.symm.trans hrow')
    have hpublished : VotePublished s s' (privacyMinimizedVoteTransition prepared) :=
      ⟨by rw [hs']; rfl, hid.trans hvote.id, hseq.trans hvote.seq, hquiet⟩
    exact ⟨hpublished, path_recount participant none hclock hread
      (openAt_of_requireOpen hread hopen) hpublished rfl (by rw [hs']) (Or.inl ⟨rfl, by rw [hs']⟩)⟩
  · have hpoll : stored'.poll.id = reference.voteId := by
      rw [hkept.1]
      exact hread.id
    rw [hpoll] at hrow' hs'
    obtain rfl := Option.some.inj (hread.state.symm.trans hrow')
    have hpublished : VotePublished s s' (privacyMinimizedVoteTransition prepared) :=
      ⟨by rw [hs']; rfl, hid.trans hvote.id, hseq.trans hvote.seq, hquiet⟩
    exact ⟨hpublished, path_recount participant none hclock hread
      (openAt_of_requireOpen hread hopen) hpublished hkept.2 (by rw [hs'])
      (Or.inr ⟨by rw [hs'], hrecounted⟩)⟩

theorem path_closeVote {principal : AuthenticatedPrincipal} {participant : Participant}
    {reference : VoteReference} {now : Nat} {s s' : Store} {event : RoomEvent}
    (h : Commits (closeVote principal participant reference (nextSeq s.events) now)
      s event s') :
    VotePublished s s' event ∧ Path P (coreOf s) (coreOf s') := by
  simp only [closeVote, loadVote, commits_bind, commits_read, commits_ofResult,
    commits_require, commits_insertEvent, commits_pure] at h
  obtain ⟨stored, _, ⟨_, _, ⟨rfl, rfl⟩, hstored, rfl⟩, _, _, ⟨hopen, rfl⟩, _, s, ⟨-, rfl⟩,
    prepared, t, hprepared, _, t₂, ⟨-, ht₂⟩, _, s', hsaved, rfl, rfl⟩ := h
  obtain ⟨row, hread⟩ := storedVoteOf_ok hstored
  obtain ⟨hvote, rfl⟩ := commits_prepareVoteRoomEvent hprepared
  obtain ⟨hid, hseq, htype, hkind, hvoteId, -⟩ := minimized_eq prepared
  obtain ⟨row', hrow', hs'⟩ := commits_saveVoteState hsaved
  have hquiet := quiet_minimized (quiet_of_vote hvote)
  subst ht₂
  dsimp only at hrow' hs'
  rw [hread.id] at hrow' hs'
  obtain rfl := Option.some.inj (hread.state.symm.trans hrow')
  have hpublished : VotePublished s s' (privacyMinimizedVoteTransition prepared) :=
    ⟨by rw [hs']; rfl, hid.trans hvote.id, hseq.trans hvote.seq, hquiet⟩
  have hopenAt := openAt_of_requireOpen hread hopen
  refine ⟨hpublished, hpublished.path ?_⟩
  refine .close reference.voteId row (privacyMinimizedVoteTransition prepared) hread.state
    hopenAt.manual (List.mem_append_right _ (List.mem_singleton.mpr rfl)) ?_
    (htype.trans hvote.eventType) (hkind.trans hvote.kind) ?_ ?_ (by rw [hs']; rfl)
  · rw [← hread.seq, hseq, hvote.seq]
    exact seq_lt_nextSeq hread.poll
  · rw [hvoteId, hvote.extra]
    rfl
  · rw [hs', savedRow, hread.tallies, hread.total, hseq, hvote.seq]
    exact Table.sets_insert _ _ _

/-- Every vote command publishes one event and changes at most one poll. -/
theorem path_applyVote {principal : AuthenticatedPrincipal} {participant : Participant}
    {command : VoteCommand} {now : Nat} {s s' : Store} {event : RoomEvent}
    (hclock : P.clock now)
    (h : Commits (applyVoteCommand principal participant command (nextSeq s.events) now)
      s event s') :
    VotePublished s s' event ∧ Path P (coreOf s) (coreOf s') := by
  cases command with
  | create poll => exact path_createVote h
  | cast ballot => exact path_castVote hclock h
  | withdraw reference => exact path_withdrawVote hclock h
  | close reference => exact path_closeVote h

end Polls

end AgentsAssemble.System
