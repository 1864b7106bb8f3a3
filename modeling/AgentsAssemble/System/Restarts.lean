import AgentsAssemble.System.Replays
import AgentsAssemble.System.Recoveries
import AgentsAssemble.System.Custody

/-!
# Turns handed out again after a restart

A restart loads the one blocking turn of each session.  A turn that is still
assigned is rehydrated from its envelope, and what its provider receives is
what the lost assignment said, as long as nothing that the turn shows lost its
attachments meanwhile.
-/

namespace AgentsAssemble.System

open Foundation Domain Persistence Protocol Tx

/-! ## The blocking scan -/

/-- The scan finds the one blocking generation of a session. -/
theorem blockingGenerations_eq {s : Store} (hrows : RowsWF (coreOf s)) {sid : String} {gen : Nat}
    {row : ExecutionRow} (hrow : s.executions.lookup (sid, gen) = some row)
    (hblocking : row.phase.isBlocking = true) : blockingGenerations s sid = [gen] := by
  have hperm := List.perm_insertionSort (· ≥ ·)
    ((s.executions.rows.filter fun entry =>
      entry.1.1 == sid && entry.2.phase.isBlocking).map fun entry => entry.1.2)
  have hall : ∀ g ∈ blockingGenerations s sid, g = gen := by
    intro g hg
    obtain ⟨⟨⟨sid', g'⟩, row'⟩, hentry, rfl⟩ := List.mem_map.mp (hperm.mem_iff.mp hg)
    obtain ⟨hmem, hkept⟩ := List.mem_filter.mp hentry
    rw [Bool.and_eq_true, beq_iff_eq] at hkept
    obtain ⟨rfl, hblocking'⟩ := hkept
    exact hrows.single sid' g' gen row' row (Table.mem_rows.mp hmem) hrow hblocking' hblocking
  have hmem : gen ∈ blockingGenerations s sid := by
    refine hperm.mem_iff.mpr (List.mem_map.mpr ⟨((sid, gen), row), ?_, rfl⟩)
    refine List.mem_filter.mpr ⟨Table.mem_rows.mpr hrow, ?_⟩
    rw [Bool.and_eq_true, beq_iff_eq]
    exact ⟨rfl, hblocking⟩
  have hnodup : (blockingGenerations s sid).Nodup := by
    refine hperm.nodup_iff.mpr ?_
    refine List.Nodup.map_on ?_ ((List.Nodup.of_map _ (Table.nodup_rows _)).filter _)
    rintro ⟨⟨sid₁, g₁⟩, row₁⟩ h₁ ⟨⟨sid₂, g₂⟩, row₂⟩ h₂ hgen
    obtain ⟨hmem₁, hkept₁⟩ := List.mem_filter.mp h₁
    obtain ⟨hmem₂, hkept₂⟩ := List.mem_filter.mp h₂
    rw [Bool.and_eq_true, beq_iff_eq] at hkept₁ hkept₂
    obtain ⟨rfl, -⟩ := hkept₁
    obtain ⟨rfl, -⟩ := hkept₂
    obtain rfl : g₁ = g₂ := hgen
    have hsame := (Table.mem_rows.mp hmem₁).symm.trans (Table.mem_rows.mp hmem₂)
    rw [Option.some.inj hsame]
  have hreplicate := List.eq_replicate_of_mem hall
  rw [hreplicate] at hmem hnodup ⊢
  have hlength : (blockingGenerations s sid).length = 1 := by
    have hle := List.nodup_replicate.mp hnodup
    have hpos := List.length_pos_of_mem hmem
    rw [List.length_replicate] at hpos
    omega
  rw [hlength]
  rfl

section Restarts

variable [UuidSource]

/-! ## Stored envelopes -/

/-- The stored events behind the inflight inputs are found by their ids. -/
theorem inflight_events_found {events : List RoomEvent} {uuids : Nat} (hlog : LogWF events uuids)
    {inputs : List QueuedRoomInput} {sources : List RoomEvent}
    (hids : sources.map RoomEvent.id = inputs.map QueuedRoomInput.eventId)
    (hstored : ∀ e ∈ sources, e ∈ events) :
    (inputs.mapM fun input => do
      let found ← findEvent events input.eventId
      match found with
      | some event => pure event
      | none => throw invalidReconciliation) = .ok sources := by
  rw [Result.mapM_eq_ok]
  induction inputs generalizing sources with
  | nil =>
      obtain rfl := List.map_eq_nil_iff.mp hids
      exact List.Forall₂.nil
  | cons input inputs ih =>
      cases sources with
      | nil => cases hids
      | cons e sources =>
          rw [List.map_cons, List.map_cons, List.cons.injEq] at hids
          refine List.Forall₂.cons ?_ (ih hids.2 fun d hd => hstored d (List.mem_cons_of_mem _ hd))
          rw [← hids.1, hlog.findEvent (hstored e List.mem_cons_self)]
          rfl

/-- An envelope that describes the turn of its session passes the check of recovery. -/
theorem envelope_validates {s : Store} (hsound : Sound (coreOf s)) {a : DurableAgentSession}
    {envelope : ProviderTurnAssignmentEnvelope} (hturn : ActiveTurn a)
    (hfor : EnvelopeFor (coreOf s) a envelope) :
    validateAssignmentEnvelope s.events a envelope = .ok () := by
  obtain ⟨sources, hids, hstored, hattachments⟩ := hfor.attachments
  have hfound := inflight_events_found hsound.log hids hstored
  have hkinds : a.inflightInputs.any (fun input =>
      input.deliveryKind != envelope.deliveryKind) = false := by
    rw [List.any_eq_false]
    intro input hinput
    rw [hfor.kinds input hinput]
    simp
  have hknown : envelope.roomAgentIds.any (fun id => !isRoomObservationAgentId id) = false := by
    rw [List.any_eq_false]
    intro id hid
    obtain ⟨b, hb⟩ := Option.ne_none_iff_exists'.mp (hfor.known id hid)
    rw [(hsound.sessions.keyed id b hb).2.2]
    simp
  have hsource : a.activeSourceEventId ≠ "" := by
    obtain ⟨input, hlast, hid⟩ := Option.map_eq_some_iff.mp hturn.source
    have hmem : input.eventId ∈ sources.map RoomEvent.id := by
      rw [hids]
      exact List.mem_map_of_mem (List.mem_of_getLast? hlast)
    obtain ⟨e, he, heq⟩ := List.mem_map.mp hmem
    rw [← hid, ← heq]
    exact hsound.log.id_ne_empty (hstored e he)
  unfold validateAssignmentEnvelope
  rw [Result.bind_eq_ok]
  refine ⟨sources, hfound, ?_⟩
  rw [hattachments]
  refine Result.bind_eq_ok.mpr ⟨envelope.attachmentIds, rfl, ?_⟩
  dsimp only
  rw [if_neg]
  · rfl
  · rintro (h | h | h | h | h | h | h | h | h | h | h)
    · exact Nat.lt_irrefl _ (h ▸ hturn.cursor)
    · exact hsource h
    · exact h hturn.upTo.symm
    · exact hturn.inflight_ne_nil h
    · rw [hkinds] at h
      cases h
    · rw [hfor.input] at h
      cases h
    · rw [hfor.view] at h
      cases h
    · exact h rfl
    · exact absurd hfor.capacity (Nat.not_le_of_lt h)
    · exact h hfor.distinct
    · rw [hknown] at h
      cases h

/-! ## Recovery of an assigned turn -/

section Recovery

variable {s : Store} {sid : String} {gen : Nat} {row : ExecutionRow}

/-- A turn that is assigned and not interrupted can be loaded and handed out again. -/
theorem assigned_turn_recovers (hsound : Sound (coreOf s)) (hlinked : Linked (coreOf s))
    (hevident : Evident (coreOf s)) (hrow : s.executions.lookup (sid, gen) = some row)
    (hphase : row.phase = .assigned) (heffect : s.effects.lookup (sid, gen) = none)
    {participant : Participant}
    (hparticipant : s.participants.lookup row.participantId = some participant)
    (hjoined : participant.status = .joined) (hheard : participant.muted = false) :
    ∃ candidate recovered envelope,
      Commits (loadActiveCandidateIn sid) s (some candidate) s ∧
      Commits (recoverAssignedProviderTurn candidate) s recovered s ∧
      s.assignments.lookup (sid, gen) = some envelope ∧
      recovered.turnId = row.turnId ∧ recovered.turnGeneration = gen ∧
      recovered.executionId = row.executionId ∧
      recovered.session.sessionId = sid ∧ assignmentEnvelope recovered = envelope := by
  have hblocking : row.phase.isBlocking = true := by
    rw [hphase]
    rfl
  obtain ⟨a, ha, hid, hactive, rfl, hturn, howner, hruntime⟩ :=
    blocking_row_matches hsound hlinked hrow hblocking
  obtain ⟨envelope, henvelope, hfor⟩ := hevident sid a row ha hrow hphase
  obtain ⟨-, hparticipantId, -⟩ := hsound.sessions.keyed sid a ha
  have hbounded := hsound.rows.bounded sid a.turnGeneration row hrow
  obtain ⟨hnonce, hprovider⟩ := hsound.rows.assigned _ row hrow hphase
  have hrequeue := hsound.rows.requeue _ row hrow hblocking
  have hturnActive := (activeTurnAuthority_eq_true.mp hactive).2
  let execution : ProviderTurnExecution :=
    { toExecutionRow := row, sessionId := sid, turnGeneration := a.turnGeneration }
  have hvalid : validateCandidate a execution = .ok () := by
    unfold validateCandidate
    rw [if_pos ⟨hblocking, hactive, hid, howner, hturn, rfl, hruntime⟩]
  have hsession : Commits (loadSession sid) s a s :=
    commits_loadSession.mpr ⟨ha, hid, hparticipantId, rfl⟩
  have hexecution : Commits (loadExecutionIn sid a.turnGeneration) s execution s :=
    commits_loadExecutionIn.mpr ⟨hbounded, hrow, rfl, rfl, rfl⟩
  have hnone : Commits (loadOptionalEffectIn sid a.turnGeneration) s none s := by
    simp only [loadOptionalEffectIn, commits_bind, commits_generationI64, commits_read]
    refine ⟨(), s, ⟨hbounded, rfl⟩, s.effects, s, ⟨rfl, rfl⟩, ?_⟩
    rw [heffect]
    exact commits_pure.mpr ⟨rfl, rfl⟩
  have hassignment : Commits (loadAssignmentIn a execution) s envelope s := by
    simp only [loadAssignmentIn, commits_bind, commits_read, commits_orReject, commits_ofResult]
    refine ⟨some envelope, s, ⟨?_, rfl⟩, envelope, s, ⟨rfl, rfl⟩, .ok (), s,
      ⟨(envelope_validates hsound hturnActive hfor).symm, rfl⟩, (), s, ⟨rfl, rfl⟩,
      commits_pure.mpr ⟨rfl, rfl⟩⟩
    show some envelope = (s.executions.lookup (sid, a.turnGeneration)).bind _
    rw [hrow, Option.bind_some, if_pos ⟨rfl, rfl⟩]
    exact henvelope.symm
  let recovered : AgentTurnAssignment :=
    { session := a
      turnId := row.turnId
      turnGeneration := a.turnGeneration
      executionId := row.executionId
      deliveryKind := envelope.deliveryKind
      providerInput := envelope.providerInput
      roomView := envelope.roomView
      attachmentIds := envelope.attachmentIds
      roomAgentIds := envelope.roomAgentIds
      tabletopTools := envelope.tabletopTools }
  refine ⟨⟨a, execution, none⟩, recovered, envelope, ?_, ?_, henvelope, rfl, rfl, rfl, hid, rfl⟩
  · rw [loadActiveCandidateIn]
    refine commits_bind.mpr ⟨[a.turnGeneration], s, ?_, ?_⟩
    · rw [commits_read, blockingGenerations_eq hsound.rows hrow hblocking]
      exact ⟨rfl, rfl⟩
    · refine commits_bind.mpr ⟨(), s, commits_require.mpr ⟨rfl, rfl⟩, ?_⟩
      refine commits_map.mpr ⟨⟨a, execution, none⟩, ?_, rfl⟩
      simp only [loadReconciliationCandidate, commits_bind]
      exact ⟨execution, s, hexecution, a, s, hsession, (), s,
        commits_ofResult.mpr ⟨hvalid, rfl⟩, none, s, hnone, commits_pure.mpr ⟨rfl, rfl⟩⟩
  · simp only [recoverAssignedProviderTurn, commits_bind]
    exact ⟨(), s, commits_require.mpr ⟨⟨hphase, rfl, hnonce, hprovider, hrequeue⟩, rfl⟩,
      a, s, hsession, execution, s, hexecution, (), s, commits_ofResult.mpr ⟨hvalid, rfl⟩,
      (), s, commits_require.mpr ⟨⟨rfl, rfl⟩, rfl⟩, none, s, hnone,
      (), s, commits_require.mpr ⟨rfl, rfl⟩, participant, s,
      commits_loadParticipant.mpr ⟨hparticipant, rfl⟩,
      (), s, commits_require.mpr ⟨⟨hjoined, hheard⟩, rfl⟩, envelope, s, hassignment,
      commits_pure.mpr ⟨rfl, rfl⟩⟩

end Recovery

/-! ## Recovery over runs -/

section Runs

variable [CaseFold] [TextServices] [OperationHash]

/-- The step overwrites no session with a turn, and takes no attachment away that an assigned
turn shows. -/
def Op.Replayable (s : Store) (op : Op) : Prop :=
  op.Careful s ∧ op.Evident s

omit [UuidSource] [CaseFold] [TextServices] [OperationHash] in
theorem IsInitial.evident {s : Store} (h : IsInitial s) : Evident (coreOf s) := by
  intro sid a row ha hrow hphase
  have hsessions : (coreOf s).sessions = ∅ := h.sessions
  rw [hsessions, AList.lookup_empty] at ha
  cases ha

/-- What recovery relies on, in every room such steps lead to. -/
theorem replayable_invariant {s : Store} (h : ReachableMeeting Op.Replayable s) :
    Sound (coreOf s) ∧ Linked (coreOf s) ∧ Evident (coreOf s) := by
  refine ReachableMeeting.invariant (I := fun c => Linked c ∧ Evident c) ?_ ?_ ?_ h
  · intro s hs
    exact ⟨hs.linked, hs.evident⟩
  · rintro s s' op response hsound ⟨hlinked, hevident⟩ ⟨hcareful, hkeeps⟩ hrun
    have hpath := op.path hsound hrun
    exact ⟨Path.linked hcareful hsound hlinked hpath,
      Path.evident hcareful hkeeps hsound hlinked hevident hpath⟩
  · rintro s s' hsound ⟨hlinked, hevident⟩ hout
    exact ⟨Path.linked trivial hsound hlinked hout.path,
      Path.evident trivial trivial hsound hlinked hevident hout.path⟩

/-- Every assignment handed out along a run is recorded at its end. -/
theorem handed_out_recorded {s₀ s : Store} {ls : List Label} (hinit : IsInitial s₀)
    (hrun : Run Step s₀ ls s) :
    ∀ op response, Label.inside op response ∈ ls → AllRecorded response.assignments s := by
  have hall : Sound (coreOf s) ∧ ∀ op response, Label.inside op response ∈ ls →
      AllRecorded response.assignments s := by
    refine hrun.invariant_labels (I := fun ls s => Sound (coreOf s) ∧ ∀ op response,
      Label.inside op response ∈ ls → AllRecorded response.assignments s) ?_
      ⟨hinit.sound, fun op response hmem => absurd hmem List.not_mem_nil⟩
    rintro ls l s s' ⟨hsound, hrecorded⟩ hstep
    refine ⟨hstep.sound hsound, fun op response hmem => ?_⟩
    rcases List.mem_append.mp hmem with hearlier | hlast
    · intro assignment hassignment
      exact (hrecorded op response hearlier assignment hassignment).path (hstep.path hsound)
    · obtain rfl := List.mem_singleton.mp hlast
      cases hstep with
      | inside _ _ hcommits => exact op.records hcommits
  exact hall.2

/-- As long as no launch result overwrites a turn and no attachment an assigned turn shows is
deleted, every turn that is still assigned is recovered as it was handed out. -/
theorem recovery_replays_assignment {s₀ s : Store} {ls : List Label} (hinit : IsInitial s₀)
    (hrun : Run (StepMeeting Op.Replayable) s₀ ls s) {sid : String} {gen : Nat}
    {row : ExecutionRow} (hrow : s.executions.lookup (sid, gen) = some row)
    (hphase : row.phase = .assigned) (heffect : s.effects.lookup (sid, gen) = none)
    {participant : Participant}
    (hparticipant : s.participants.lookup row.participantId = some participant)
    (hjoined : participant.status = .joined) (hheard : participant.muted = false) :
    ∃ candidate recovered,
      Commits (loadActiveCandidateIn sid) s (some candidate) s ∧
      Commits (recoverAssignedProviderTurn candidate) s recovered s ∧
      recovered.session.sessionId = sid ∧ recovered.turnGeneration = gen ∧
      recovered.turnId = row.turnId ∧ recovered.executionId = row.executionId ∧
      ∀ op response assignment, Label.inside op response ∈ ls →
        assignment ∈ response.assignments → assignmentKey assignment = (sid, gen) →
        recovered.turnId = assignment.turnId ∧
        recovered.executionId = assignment.executionId ∧
        recovered.deliveryKind = assignment.deliveryKind ∧
        recovered.providerInput = assignment.providerInput ∧
        recovered.roomView = assignment.roomView ∧
        recovered.attachmentIds = assignment.attachmentIds ∧
        recovered.roomAgentIds = assignment.roomAgentIds := by
  obtain ⟨hsound, hlinked, hevident⟩ := replayable_invariant ⟨s₀, ls, hinit, hrun⟩
  obtain ⟨candidate, recovered, envelope, hload, hrecover, henvelope, hturn, hgeneration,
    hexecution, hsession, hgiven⟩ := assigned_turn_recovers hsound hlinked hevident hrow hphase
      heffect hparticipant hjoined hheard
  refine ⟨candidate, recovered, hload, hrecover, hsession, hgeneration, hturn, hexecution, ?_⟩
  intro op response assignment hlabel hmem hkey
  -- the assignment was recorded when it was handed out, and the record is still there
  have hsteps : Run Step s₀ ls s := hrun.imp fun _ _ _ hstep => hstep.1
  have hrecorded := handed_out_recorded hinit hsteps op response hlabel assignment hmem
  obtain ⟨stored, hstored, hturn', hexecution'⟩ := hrecorded.row
  rw [hkey] at hstored
  obtain rfl := Option.some.inj (hrow.symm.trans hstored)
  have hsame : assignmentEnvelope recovered = assignmentEnvelope assignment := by
    rw [hgiven]
    refine Option.some.inj (henvelope.symm.trans ?_)
    rw [← hkey]
    exact hrecorded.envelope
  simp only [assignmentEnvelope, ProviderTurnAssignmentEnvelope.mk.injEq] at hsame
  obtain ⟨hkind, hinput, hview, hattachments, hagents, -⟩ := hsame
  exact ⟨hturn.trans hturn', hexecution.trans hexecution', hkind, hinput, hview, hattachments,
    hagents⟩

/-- A check for replayability: careful steps that delete nothing. -/
def isReplayable (s : Store) (op : Op) : Bool :=
  isCareful s op && op.deleted.isNone

omit [UuidSource] [CaseFold] [TextServices] [OperationHash] in
theorem isReplayable_sound (s : Store) (op : Op) (h : isReplayable s op = true) :
    op.Replayable s := by
  rw [isReplayable, Bool.and_eq_true, Option.isNone_iff_eq_none] at h
  obtain ⟨hcareful, hnothing⟩ := h
  refine ⟨isCareful_sound s op hcareful, fun eventId hdeleted => ?_⟩
  rw [hnothing] at hdeleted
  cases hdeleted

/-- The turn waits, assigned and not interrupted, for a member that may speak. -/
def awaitsRecovery (s : Store) (key : TurnKey) : Bool :=
  (s.executions.lookup key).any fun row =>
    row.phase == .assigned && (s.effects.lookup key).isNone &&
      (s.participants.lookup row.participantId).any fun participant =>
        participant.status == .joined && !participant.muted

omit [UuidSource] [CaseFold] [TextServices] [OperationHash] in
theorem awaitsRecovery_sound {s : Store} {key : TurnKey} (h : awaitsRecovery s key = true) :
    ∃ row participant, s.executions.lookup key = some row ∧ row.phase = .assigned ∧
      s.effects.lookup key = none ∧ s.participants.lookup row.participantId = some participant ∧
      participant.status = .joined ∧ participant.muted = false := by
  rw [awaitsRecovery, Option.any_eq_true] at h
  obtain ⟨row, hrow, h⟩ := h
  simp only [Bool.and_eq_true, beq_iff_eq, Option.isNone_iff_eq_none, Option.any_eq_true,
    Bool.not_eq_eq_eq_not, Bool.not_true] at h
  obtain ⟨⟨hphase, heffect⟩, participant, hparticipant, hjoined, hheard⟩ := h
  exact ⟨row, participant, hrow, hphase, heffect, hparticipant, hjoined, hheard⟩

/-- What a restart does for one session: load its candidate and recover the assignment. -/
def recoverSession (sessionId : String) : RoomTx AgentTurnAssignment := do
  let found ← loadActiveCandidateIn sessionId
  let candidate ← orReject found staleReconciliation
  recoverAssignedProviderTurn candidate

end Runs

end Restarts

/-! ## Deleting the attachment of an assigned turn -/

namespace Sample

def noteId : String := "ma_00000000000000000000000000000000"

theorem note_canonical (attachmentId : String) (h : isMessageAttachmentId attachmentId = true) :
    canonicalMetadata
      (messageAttachmentMetadata attachmentId "note.txt" "text/plain" 1 false) = true := by
  have hcolumns : (canonicalMessageAttachmentFilename "note.txt" == "note.txt" &&
      decide ("text/plain".utf8ByteSize ≤ maxMessageAttachmentContentTypeBytes) &&
      validContentType "text/plain" && decide (1 ≤ 1 ∧ 1 ≤ maxAttachmentBytes) &&
      false == isSafeRasterContentType "text/plain") = true := by decide +kernel
  unfold canonicalMetadata messageAttachmentMetadata
  rw [h]
  simp only [beq_self_eq_true, Bool.true_and, Bool.and_true]
  exact hcolumns

/-- A text file the operator uploaded and has not sent yet. -/
def note : AttachmentRow :=
  { filename := "note.txt"
    contentType := "text/plain"
    size := 1
    isSafeImage := false
    canonical := note_canonical
    pendingOwnerUserId := some "owner"
    eventSeq := none
    expiresAt := some 60 }

def roomWithNote : Store :=
  { emptyRoom with attachments := AList.insert noteId note ∅ }

theorem roomWithNote_initial : IsInitial roomWithNote :=
  ⟨rfl, rfl, rfl, rfl, rfl, rfl, rfl⟩

/-- A message with the note becomes a turn, and is deleted before the turn starts. -/
def deletedNote : List Op :=
  launchBot ++
  [ .sendMessage owner (.message ⟨"hello", some [noteId]⟩) 0 0
  , .mutateMessage owner (.delete "4") 0 ]

end Sample

open Sample in
/-- The first turn of the sample room is recovered as long as it has not started. -/
theorem first_turn_replayed :
    ∃ candidate recovered,
      Commits (loadActiveCandidateIn "bot") (checkedRoom isReplayable emptyRoom firstTurn)
        (some candidate) (checkedRoom isReplayable emptyRoom firstTurn) ∧
      Commits (recoverAssignedProviderTurn candidate)
        (checkedRoom isReplayable emptyRoom firstTurn) recovered
        (checkedRoom isReplayable emptyRoom firstTurn) ∧
      recovered.turnGeneration = 1 := by
  obtain ⟨s₀, ls, hinit, hrun⟩ : ReachableMeeting Op.Replayable
      (checkedRoom isReplayable emptyRoom firstTurn) :=
    reachable_checkedRoom isReplayable_sound emptyRoom_initial firstTurn
  obtain ⟨row, participant, hrow, hphase, heffect, hparticipant, hjoined, hheard⟩ :=
    have hwaits :
        awaitsRecovery (checkedRoom isReplayable emptyRoom firstTurn) ("bot", 1) = true := by
      rw [checkedRoom_eq_roomAfter (by decide +kernel), roomAfter_firstTurn]
      decide
    awaitsRecovery_sound hwaits
  obtain ⟨candidate, recovered, hload, hrecover, -, hgeneration, -⟩ :=
    recovery_replays_assignment hinit hrun hrow hphase heffect hparticipant hjoined hheard
  exact ⟨candidate, recovered, hload, hrecover, hgeneration⟩

open Sample in
/-- Deleting the message of a turn that has not started keeps a restart from recovering it. -/
theorem deleted_attachment_breaks_recovery :
    ¬ ∀ s, IsReachable s → ∀ sid gen row participant,
      s.executions.lookup (sid, gen) = some row → row.phase = .assigned →
      s.effects.lookup (sid, gen) = none →
      s.participants.lookup row.participantId = some participant →
      participant.status = .joined → participant.muted = false →
      ∃ candidate recovered, Commits (loadActiveCandidateIn sid) s (some candidate) s ∧
        Commits (recoverAssignedProviderTurn candidate) s recovered s := by
  intro hclaim
  obtain ⟨responses, hlaunch⟩ : ∃ responses,
      Commits (each Op.run launchBot) roomWithNote responses (roomAfter roomWithNote launchBot) :=
    commits_roomAfter (by decide +kernel)
  have hdeleted : ((fun result : List Response × Store =>
      awaitsRecovery result.2 ("bot", 1) && ((recoverSession "bot").run result.2).toBool == false)
        <$> (each Op.run
          [ .sendMessage owner (.message ⟨"hello", some [noteId]⟩) 0 0
          , .mutateMessage owner (.delete "4") 0 ]).run (roomAfter roomWithNote launchBot)) =
      .ok true := by
    unfold each Op.run executeMessageIn assignPendingIn assignAvailablePending prepareAssignment
      prepareRoomInput boundedPendingPrefix selectPrefix loadContext extendContext recoverSession
      recoverAssignedProviderTurn loadAssignmentIn validateAssignmentEnvelope
      isRoomObservationView isProviderInput hasVisibleText containsNul
    simp only [toList_renderObservationInput]
    simp only [toList_eq_charsOf]
    decide +kernel
  obtain ⟨⟨rest, stuck⟩, hback, hstuck⟩ := Result.map_eq_ok.mp hdeleted
  have hafter : roomAfter roomWithNote deletedNote = stuck := by
    rw [roomAfter, deletedNote, run_each_append hlaunch, hback]
    rfl
  have hreach : IsReachable stuck :=
    hafter ▸ reachable_roomAfter ⟨roomWithNote, [], roomWithNote_initial, Run.nil _⟩ deletedNote
  rw [Bool.and_eq_true, beq_iff_eq] at hstuck
  obtain ⟨hwaits, hfails⟩ := hstuck
  obtain ⟨row, participant, hrow, hphase, heffect, hparticipant, hjoined, hheard⟩ :=
    awaitsRecovery_sound hwaits
  obtain ⟨candidate, recovered, hload, hrecover⟩ :=
    hclaim _ hreach "bot" 1 row participant hrow hphase heffect hparticipant hjoined hheard
  have hcommits : Commits (recoverSession "bot") stuck recovered stuck := by
    simp only [recoverSession, commits_bind, commits_orReject]
    exact ⟨some candidate, _, hload, candidate, _, ⟨rfl, rfl⟩, hrecover⟩
  rw [hcommits] at hfails
  cases hfails

end AgentsAssemble.System
