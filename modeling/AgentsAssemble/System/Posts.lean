import AgentsAssemble.System.Polls
import AgentsAssemble.System.Routes
import AgentsAssemble.System.Scheduling

/-!
# Room messages as moves

A human message is appended and routed; an edit rewrites it in place; a
deletion drops it from every pending queue before it becomes a tombstone.
-/

namespace AgentsAssemble.System

open Foundation Domain Persistence Protocol Tx

section Posts

variable [UuidSource] [CaseFold] {P : Permit}

/-! ## Sending -/

omit [CaseFold] in
theorem publishes_executeMessageSend {principal : AuthenticatedPrincipal}
    {participant : Participant} {command : MessageSend} {now : Nat} {e : RoomEvent}
    {s s' : Store}
    (h : Commits (executeMessageSend principal participant command (nextSeq s.events) now)
      s e s') :
    ∃ t, Publishes s [e] t ∧ BindsOnly t s' ∧ e.seq = nextSeq s.events := by
  simp only [executeMessageSend, commits_bind, commits_ofResult, commits_insertEvent,
    commits_drawUuid] at h
  obtain ⟨attachments, t, hattachments, id, _, ⟨rfl, rfl⟩, prepared, _, ⟨hprepared, rfl⟩, _, t',
    ⟨-, rfl⟩, _, u, hbound, hpure⟩ := h
  obtain rfl := commits_prepareAttachments hattachments
  obtain ⟨rfl, rfl⟩ := commits_pure.mp hpure
  obtain ⟨hid, hseq, htype, hkept⟩ := withAttachments_eq prepared attachments
  rw [prepareMessageEvent, prepareAuthorizedParticipantMessageEvent] at hprepared
  rw [Result.mapError_eq_ok, Result.bind_eq_ok] at hprepared
  obtain ⟨_, -, hprepared⟩ := hprepared
  split at hprepared
  · cases hprepared
  obtain rfl := Except.ok.inj hprepared
  refine ⟨_, ⟨rfl, ?_, ?_⟩, commits_bindAttachments hbound, hseq⟩
  · exact Fresh.single (Nat.le_refl _) (Nat.lt_succ_self _) hid (Nat.le_of_eq hseq.symm)
  · intro e he
    rw [List.mem_singleton.mp he]
    refine ⟨?_, hkept⟩
    rw [htype]
    show ("message_final" : String) ≠ "turn_finished"
    decide

/-- The events and the queues a message is routed over after only its own event came. -/
theorem unrouted_of_log {s s' : Store} (hsound : Sound (coreOf s))
    (hsessions : s'.sessions = s.sessions) (hpath : Path P (coreOf s) (coreOf s')) :
    Unrouted (coreOf s') (nextSeq s.events) := by
  refine Unrouted.of_step hsound (Path.logStep hsound hpath) (Nat.le_refl _) fun sid b hb => ?_
  have hb' : s.sessions.lookup sid = some b := hsessions ▸ hb
  exact ⟨b, hb', fun _ hinput => hinput, Or.inl rfl⟩

/-- What a human post leaves before it is routed. -/
structure Posted (P : Permit) (s s' : Store) (event : RoomEvent) : Prop where
  path : Path P (coreOf s) (coreOf s')
  sessions : s'.sessions = s.sessions
  stored : event ∈ s'.events
  seq : event.seq = nextSeq s.events
  kept : event.isDeleted = false

theorem posted_prepareHuman {principal : AuthenticatedPrincipal} {participant : Participant}
    {payload : RoomMessagePayload} {now : Nat} {s s' : Store} {event : RoomEvent}
    {routed : Bool} (hclock : P.clock now)
    (h : Commits (prepareHumanMessageEvent principal participant payload (nextSeq s.events) now)
      s (event, routed) s') : Posted P s s' event := by
  cases payload with
  | vote payload =>
      simp only [prepareHumanMessageEvent, commits_bind, commits_ofResult] at h
      obtain ⟨command, _, ⟨-, rfl⟩, vote, t, hvote, hpure⟩ := h
      obtain ⟨hpair, rfl⟩ := commits_pure.mp hpure
      obtain ⟨rfl, -⟩ := Prod.mk.inj hpair
      obtain ⟨hpublished, hpath⟩ := path_applyVote hclock hvote
      have hsessions := congrArg RoomCore.sessions hpublished.core
      have hevents := congrArg RoomCore.events hpublished.core
      refine ⟨hpath, hsessions, ?_, hpublished.seq, hpublished.quiet.kept⟩
      rw [show s'.events = _ from hevents]
      exact List.mem_append_right _ (List.mem_singleton.mpr rfl)
  | message payload =>
      simp only [prepareHumanMessageEvent, commits_bind, commits_ofResult] at h
      obtain ⟨command, _, ⟨-, rfl⟩, sent, t, hsent, hpure⟩ := h
      obtain ⟨hpair, rfl⟩ := commits_pure.mp hpure
      obtain ⟨rfl, -⟩ := Prod.mk.inj hpair
      obtain ⟨t, hpublishes, hbinds, hseq⟩ := publishes_executeMessageSend hsent
      have hstore := hpublishes.store
      rw [BindsOnly] at hbinds
      refine ⟨?_, ?_, ?_, hseq, (hpublishes.quiet _ (List.mem_singleton.mpr rfl)).kept⟩
      · rw [hbinds]
        exact hpublishes.path
      · rw [hbinds, hstore]
      · rw [hbinds, hstore]
        exact List.mem_append_right _ (List.mem_singleton.mpr rfl)

theorem path_sendMessage [TextServices] {principal : AuthenticatedPrincipal}
    {payload : RoomMessagePayload} {seed now : Nat} {s s' : Store} {commit : AgentTurnCommit}
    (hsound : Sound (coreOf s)) (hclock : P.clock now) (hroutes : P.routes)
    (h : Commits (executeMessageIn principal payload seed now) s commit s') :
    Path P (coreOf s) (coreOf s') := by
  simp only [executeMessageIn, nextSequence, commits_bind, commits_loadActiveRoom,
    commits_loadParticipant, commits_read] at h
  obtain ⟨_, _, ⟨-, rfl, rfl⟩, participant, _, ⟨-, rfl⟩, _, s, ⟨rfl, rfl⟩, posted, t, hposted,
    hrest⟩ := h
  obtain ⟨event, routed⟩ := posted
  have hpost : Posted P s t event := posted_prepareHuman hclock hposted
  have hsound' : Sound (coreOf t) := Path.sound hsound hpost.path
  split at hrest
  · obtain ⟨_, t₁, hrouted, hassign⟩ := commits_bind.mp hrest
    obtain ⟨commit, t₂, hassigned, hpure⟩ := commits_bind.mp hassign
    obtain ⟨-, rfl⟩ := commits_pure.mp hpure
    have habove : Unrouted (coreOf t) event.seq := by
      rw [hpost.seq]
      exact unrouted_of_log hsound hpost.sessions hpost.path
    have hroute : Path P (coreOf t) (coreOf t₁) :=
      path_routeMessage hroutes hsound' hpost.stored hpost.kept habove hrouted
    exact (hpost.path.trans hroute).trans
      (path_assignPendingIn (Path.sound hsound' hroute) hassigned)
  · obtain ⟨-, rfl⟩ := commits_pure.mp hrest
    exact hpost.path

/-! ## Editing -/

omit [UuidSource] [CaseFold] in
theorem nextSeq_rewriteIn {events : List RoomEvent} (event : RoomEvent) :
    nextSeq (rewriteIn events event) = nextSeq events := by
  have hseqs : (rewriteIn events event).map RoomEvent.seq = events.map RoomEvent.seq := by
    rw [rewriteIn, List.map_map]
    refine List.map_congr_left fun stored _ => ?_
    simp only [Function.comp_apply]
    split
    · rename_i hseq
      exact hseq.symm
    · rfl
  rw [nextSeq, nextSeq, hseqs]

omit [CaseFold] in
/-- A mutation is announced under the sequence drawn before it rewrote the message. -/
theorem publishes_mutation {s : Store} {published : RoomEvent} {events : List RoomEvent}
    (hid : published.id = UuidSource.newV4 s.uuids) (hseq : published.seq = nextSeq events)
    (hevents : nextSeq s.events = nextSeq events) (hquiet : Quiet published) :
    Publishes s [published] (s.publish published) :=
  publishes_publish s hid (hseq.trans hevents.symm) hquiet

omit [UuidSource] [CaseFold] in
theorem quiet_mutationEvent {id : String} {principal : AuthenticatedPrincipal}
    {target : RoomEvent} {eventType : String} {sequence now : Nat} {content : Option String}
    {extra : EventExtra} (htype : eventType ≠ "turn_finished")
    (hkept : extra.messageDeleted = none) :
    Quiet (mutationEvent id principal target eventType sequence now content extra) := by
  refine ⟨htype, ?_⟩
  show (extra.messageDeleted == some true) = false
  rw [hkept]
  rfl

omit [UuidSource] [CaseFold] in
theorem messageVisibleText_of_message {event : RoomEvent}
    (hkind : event.messageKind ≠ some "vote") :
    event.messageVisibleText =
      .ok (if hasVisibleText (cleanMessage (event.content.getD "") maxMessageCharacters) then
        cleanMessage (event.content.getD "") maxMessageCharacters else "") := by
  simp only [RoomEvent.messageVisibleText]
  by_cases htext :
      hasVisibleText (cleanMessage (event.content.getD "") maxMessageCharacters) = true
  · rw [if_pos htext, if_pos htext]
  · rw [if_neg htext, if_neg htext, if_pos hkind]

omit [UuidSource] [CaseFold] in
theorem visible_of_edit {target : RoomEvent} {content : String} {now : Nat}
    {attachments : List MessageAttachmentMetadata} (hkind : target.messageKind = some "message")
    (hlength : content.toList.length ≤ maxMessageCharacters)
    (hattachments : target.messageAttachments = .ok attachments)
    (hvisible : hasVisibleText content = false → attachments ≠ []) :
    (prepareUpdatedMessage target content now).messageHasVisiblePayload = .ok true := by
  have hnotVote : (prepareUpdatedMessage target content now).messageKind ≠ some "vote" := by
    show target.messageKind ≠ some "vote"
    rw [hkind]
    decide
  rw [RoomEvent.messageHasVisiblePayload, Result.bind_eq_ok]
  refine ⟨attachments, hattachments, ?_⟩
  rw [Result.bind_eq_ok]
  refine ⟨_, messageVisibleText_of_message hnotVote, ?_⟩
  have hclean := hasVisibleText_cleanMessage hlength
  have hcontent : (prepareUpdatedMessage target content now).content.getD "" = content := rfl
  rw [Result.pure_eq_ok, hcontent, hclean]
  by_cases htext : hasVisibleText content = true
  · rw [if_pos htext, hclean, htext, Bool.true_or]
  · have hnonempty : attachments ≠ [] := hvisible (by simpa using htext)
    rw [if_neg htext, Bool.or_eq_true]
    exact Or.inr (by simpa using hnonempty)

omit [UuidSource] [CaseFold] in
theorem requireMutableMessage_kind {event : RoomEvent} {kind : MutableMessageKind}
    (h : requireMutableMessage event = .ok kind) :
    event.isDeleted = false ∧
      event.messageKind = some (match kind with | .message => "message" | .vote => "vote") := by
  rw [requireMutableMessage, Result.check_eq_ok, Result.check_eq_ok] at h
  obtain ⟨-, hkept, h⟩ := h
  refine ⟨by simpa using hkept, ?_⟩
  by_cases hmessage : event.messageKind = some "message"
  · simp only [if_pos hmessage, Result.bind_eq_ok, Result.pure_eq_ok] at h
    obtain ⟨found, rfl, h⟩ := h
    rw [Result.check_eq_ok] at h
    obtain rfl := Result.pure_eq_ok.mp h.2
    exact hmessage
  by_cases hvote : event.messageKind = some "vote"
  · simp only [if_neg hmessage, if_pos hvote, Result.bind_eq_ok, Result.pure_eq_ok] at h
    obtain ⟨found, rfl, h⟩ := h
    rw [Result.check_eq_ok] at h
    obtain rfl := Result.pure_eq_ok.mp h.2
    exact hvote
  · simp only [if_neg hmessage, if_neg hvote, Result.bind_eq_ok, Result.throw_eq_ok,
      false_and, exists_false] at h

omit [UuidSource] [CaseFold] in
theorem authorizeMessageEdit_ok {principal : AuthenticatedPrincipal} {target : RoomEvent}
    (h : authorizeMessageEdit principal target = .ok ()) :
    target.messageKind = some "message" := by
  rw [authorizeMessageEdit] at h
  obtain ⟨_, -, h⟩ := Result.bind_eq_ok.mp h
  obtain ⟨kind, hmutable, h⟩ := Result.bind_eq_ok.mp h
  have hmessage : kind = .message := by
    by_contra hkind
    rw [if_pos (Or.inl hkind)] at h
    cases h
  rw [hmessage] at hmutable
  exact (requireMutableMessage_kind hmutable).2

/-- The rewritten log after a mutation, and the event that announces it. -/
theorem path_announced {c : RoomCore} {s s' : Store} {published : RoomEvent}
    {events : List RoomEvent} {u : Unit} (hpath : Path P c (coreOf s))
    (hid : published.id = UuidSource.newV4 s.uuids) (hseq : published.seq = nextSeq events)
    (hevents : nextSeq s.events = nextSeq events) (hquiet : Quiet published)
    (hinserted : Commits (insertEvent published) { s with uuids := s.uuids + 1 } u s') :
    Path P c (coreOf s') := by
  obtain ⟨-, rfl⟩ := commits_insertEvent.mp hinserted
  exact hpath.trans (publishes_publish s hid (hseq.trans hevents.symm) hquiet).path

theorem path_edit {target : RoomEvent} {content : String} {now : Nat} {s t s' : Store}
    {principal : AuthenticatedPrincipal} {published : RoomEvent} {u : Unit}
    (hedits : Edits (coreOf s) target content now)
    (h : Commits (do
      replaceEvent (prepareUpdatedMessage target content now)
      let id ← drawUuid
      pure (prepareMessageUpdatedEvent id principal target content (nextSeq s.events) now))
      s published t)
    (hinserted : Commits (insertEvent published) t u s') : Path P (coreOf s) (coreOf s') := by
  simp only [commits_bind, commits_replaceEvent, commits_drawUuid, commits_pure] at h
  obtain ⟨_, s₁, ⟨-, hs₁⟩, id, _, ⟨rfl, rfl⟩, rfl, rfl⟩ := h
  have hevents : s₁.events = rewriteIn s.events (prepareUpdatedMessage target content now) := by
    rw [hs₁]
    rfl
  have hedit : Path P (coreOf s) (coreOf s₁) := by
    rw [hs₁]
    exact Relation.ReflTransGen.single (Move.edit target content now hedits)
  refine path_announced hedit rfl rfl ?_ (quiet_mutationEvent (by decide) rfl) hinserted
  rw [hevents, nextSeq_rewriteIn]

theorem path_editMessage {principal : AuthenticatedPrincipal} {target : RoomEvent}
    {edit : MessageEdit} {now : Nat} {s t s' : Store} {published : RoomEvent} {u : Unit}
    (hstored : target ∈ s.events)
    (hlength : edit.content.toList.length ≤ maxMessageCharacters)
    (h : Commits (editMessage principal target edit (nextSeq s.events) now) s published t)
    (hinserted : Commits (insertEvent published) t u s') : Path P (coreOf s) (coreOf s') := by
  rw [editMessage] at h
  obtain ⟨_, _, hauthorize, hedited⟩ := commits_bind.mp h
  obtain ⟨hauthorized, rfl⟩ := commits_ofResult.mp hauthorize
  rw [Result.mapError_eq_ok] at hauthorized
  have hkind := authorizeMessageEdit_ok hauthorized
  dsimp only at hedited
  by_cases htext : hasVisibleText edit.content = false
  · rw [if_pos htext] at hedited
    obtain ⟨attachments, _, hload, hchecked⟩ := commits_bind.mp hedited
    obtain ⟨hattachments, rfl⟩ := commits_ofResult.mp hload
    obtain ⟨_, _, hcheck, htail⟩ := commits_bind.mp hchecked
    obtain ⟨hnonempty, rfl⟩ := commits_require.mp hcheck
    have hread : target.messageAttachments = .ok attachments :=
      readable_eq_ok.mp hattachments
    refine path_edit ⟨hstored, hkind, fun found hfound => ?_⟩ htail hinserted
    obtain rfl := Except.ok.inj (hread.symm.trans hfound)
    exact visible_of_edit hkind hlength hread fun _ => hnonempty
  · rw [if_neg htext] at hedited
    refine path_edit ⟨hstored, hkind, fun found hfound => ?_⟩ hedited hinserted
    exact visible_of_edit hkind hlength hfound fun hhidden => absurd hhidden htext

/-! ## Deleting -/

/-- The session without the pending inputs that name the event. -/
def droppedSession (eventId : String) (a : DurableAgentSession) : DurableAgentSession :=
  { a with pendingInputs := a.pendingInputs.filter fun input => input.eventId ≠ eventId }

omit [UuidSource] [CaseFold] in
theorem droppedSession_of_absent {eventId : String} {a : DurableAgentSession}
    (h : (a.pendingInputs.filter fun input => input.eventId ≠ eventId).length =
      a.pendingInputs.length) : droppedSession eventId a = a := by
  have hfilter : (a.pendingInputs.filter fun input => input.eventId ≠ eventId) =
      a.pendingInputs := List.filter_eq_self.mpr (List.length_filter_eq_length_iff.mp h)
  rw [droppedSession, hfilter]

/-- What the drop of one event left of the sessions. -/
structure Drops (P : Permit) (eventId : String) (sessions : List DurableAgentSession)
    (s s' : Store) : Prop where
  store : s' = { s with sessions := s'.sessions }
  path : Path P (coreOf s) (coreOf s')
  dropped : ∀ a ∈ sessions, s'.sessions.lookup a.sessionId = some (droppedSession eventId a)
  kept : ∀ sid, (∀ a ∈ sessions, a.sessionId ≠ sid) →
    s'.sessions.lookup sid = s.sessions.lookup sid

theorem drops_removePendingInput {eventId : String} {a : DurableAgentSession} {s s' : Store}
    {u : Unit} (hdeletes : P.deletes eventId) (hstored : s.sessions.lookup a.sessionId = some a)
    (h : Commits (removePendingInput eventId a) s u s') : Drops P eventId [a] s s' := by
  rw [removePendingInput] at h
  split at h
  · rename_i hsame
    obtain ⟨-, rfl⟩ := commits_pure.mp h
    refine ⟨rfl, Relation.ReflTransGen.refl, fun b hb => ?_, fun _ _ => rfl⟩
    obtain rfl := List.mem_singleton.mp hb
    rw [droppedSession_of_absent hsame]
    exact hstored
  · obtain ⟨-, hs'⟩ := commits_saveSession.mp h
    have hpath := path_saveSession (a := a) h hstored (.drop eventId hdeletes)
    refine ⟨by rw [hs'], hpath, fun b hb => ?_, fun sid hsid => ?_⟩
    · obtain rfl := List.mem_singleton.mp hb
      rw [hs']
      exact AList.lookup_insert _
    · rw [hs']
      exact AList.lookup_insert_ne (hsid a (List.mem_singleton.mpr rfl)).symm

theorem drops_each {eventId : String} {sessions : List DurableAgentSession} {s s' : Store}
    {us : List Unit} (hdeletes : P.deletes eventId)
    (hapart : sessions.Pairwise fun a b => a.sessionId ≠ b.sessionId)
    (hstored : ∀ a ∈ sessions, s.sessions.lookup a.sessionId = some a)
    (h : Commits (each (removePendingInput eventId) sessions) s us s') :
    Drops P eventId sessions s s' := by
  induction sessions generalizing s us with
  | nil =>
      obtain ⟨-, rfl⟩ := commits_each_nil.mp h
      exact ⟨rfl, Relation.ReflTransGen.refl, fun _ ha => absurd ha List.not_mem_nil,
        fun _ _ => rfl⟩
  | cons a sessions ih =>
      obtain ⟨u, t, us', hremoved, hrest, -⟩ := commits_each_cons.mp h
      obtain ⟨hne, hpairwise⟩ := List.pairwise_cons.mp hapart
      have hfirst := drops_removePendingInput hdeletes (hstored a List.mem_cons_self) hremoved
      have hothers : ∀ b ∈ sessions, t.sessions.lookup b.sessionId = some b := by
        intro b hb
        rw [hfirst.kept b.sessionId fun c hc => List.mem_singleton.mp hc ▸ hne b hb]
        exact hstored b (List.mem_cons_of_mem _ hb)
      have htail := ih hpairwise hothers hrest
      refine ⟨?_, hfirst.path.trans htail.path, ?_, ?_⟩
      · have hstore := htail.store
        rw [hfirst.store] at hstore
        exact hstore
      · intro b hb
        rcases List.mem_cons.mp hb with rfl | hb
        · rw [htail.kept b.sessionId fun c hc => (hne c hc).symm]
          exact hfirst.dropped b (List.mem_singleton.mpr rfl)
        · exact htail.dropped b hb
      · intro sid hsid
        rw [htail.kept sid fun c hc => hsid c (List.mem_cons_of_mem _ hc)]
        exact hfirst.kept sid fun c hc => List.mem_singleton.mp hc ▸ hsid a List.mem_cons_self

/-- After the drop no pending queue names the event, and every turn is as it was. -/
theorem commits_removePendingReference {eventId : String} {s s' : Store} {u : Unit}
    (hdeletes : P.deletes eventId) (hsound : Sound (coreOf s))
    (h : Commits (removePendingInputReference eventId) s u s') :
    s' = { s with sessions := s'.sessions } ∧ Path P (coreOf s) (coreOf s') ∧
      ∀ sid b, s'.sessions.lookup sid = some b →
        ∃ a, s.sessions.lookup sid = some a ∧ b = droppedSession eventId a := by
  rw [removePendingInputReference] at h
  obtain ⟨sessions, t, hload, hloop⟩ := commits_bind.mp h
  obtain ⟨hsessions, -, ht⟩ := commits_loadRoomSessions.mp hload
  subst ht
  obtain ⟨us, t', heach, hpure⟩ := commits_bind.mp hloop
  obtain ⟨-, rfl⟩ := commits_pure.mp hpure
  obtain ⟨hstored, hapart⟩ := roomSessions_stored hsound.sessions
  rw [← hsessions] at hstored hapart
  have hdrops := drops_each hdeletes hapart hstored heach
  refine ⟨hdrops.store, hdrops.path, fun sid b hb => ?_⟩
  cases ha : t.sessions.lookup sid with
  | none =>
      have hunlisted : ∀ a ∈ sessions, a.sessionId ≠ sid := by
        rintro a hmem rfl
        rw [hstored a hmem] at ha
        cases ha
      rw [hdrops.kept sid hunlisted, ha] at hb
      cases hb
  | some a =>
      have hkeyed : a.sessionId = sid := (hsound.sessions.keyed sid a ha).1
      have hmem : a ∈ sessions := by
        rw [hsessions]
        exact List.mem_map.mpr ⟨(sid, a), (Table.mem_sorted _).mpr ha, rfl⟩
      have hdropped := hdrops.dropped a hmem
      rw [hkeyed, hb] at hdropped
      exact ⟨a, rfl, Option.some.inj hdropped⟩

/-- The event may go: no assigned turn of an inflight input shows attachments of it. -/
def DeletesEvidently (s : Store) (eventId : String) : Prop :=
  ∀ event ∈ s.events, event.id = eventId → ∀ sid a row, s.sessions.lookup sid = some a →
    s.executions.lookup (sid, a.turnGeneration) = some row → row.phase = .assigned →
    (∃ input ∈ a.inflightInputs, input.eventId = event.id) → event.messageAttachments = .ok []

omit [UuidSource] [CaseFold] in
theorem deleteBound_core {event : RoomEvent} {s s' : Store} {u : Unit}
    (h : Commits (deleteBoundMessageAttachments event) s u s') :
    coreOf s' = coreOf s ∧ s'.participants = s.participants := by
  simp only [deleteBoundMessageAttachments, commits_bind, commits_ofResult, commits_read,
    commits_require, commits_write] at h
  obtain ⟨attachments, _, ⟨-, rfl⟩, stored, _, ⟨-, rfl⟩, _, _, ⟨-, rfl⟩, rfl⟩ := h
  exact ⟨rfl, rfl⟩

theorem path_deleteProjection {voteId : String} {pollSeq : Nat} {s s' : Store} {u : Unit}
    (hdeletes : P.deletes voteId) (h : Commits (deleteVoteProjection voteId pollSeq) s u s') :
    Path P (coreOf s) (coreOf s') ∧ s'.voteStates.lookup voteId = none ∧
      s' = { s with voteStates := s'.voteStates, voteBallots := s'.voteBallots } := by
  simp only [deleteVoteProjection, commits_bind, commits_read, commits_orReject,
    commits_write] at h
  obtain ⟨_, _, ⟨rfl, rfl⟩, row, _, ⟨-, rfl⟩, rfl⟩ := h
  refine ⟨Relation.ReflTransGen.single (Move.vote _ _ (.erase voteId hdeletes ?_ rfl)),
    AList.lookup_erase _ _, rfl⟩
  exact fun k => Table.lookup_erase_ite _ _ k

omit [UuidSource] [CaseFold] in
theorem authorizeMessageDelete_ok {principal : AuthenticatedPrincipal} {target : RoomEvent}
    {author : Participant} {kind : MutableMessageKind}
    (h : authorizeMessageDelete principal target author = .ok kind) :
    requireMutableMessage target = .ok kind := by
  rw [authorizeMessageDelete] at h
  obtain ⟨_, -, h⟩ := Result.bind_eq_ok.mp h
  obtain ⟨found, hmutable, h⟩ := Result.bind_eq_ok.mp h
  dsimp only at h
  rw [Result.check_eq_ok, Result.check_eq_ok] at h
  obtain rfl := Result.pure_eq_ok.mp h.2.2
  exact hmutable

theorem path_tombstone {principal : AuthenticatedPrincipal} {target : RoomEvent}
    {kind : MutableMessageKind} {now : Nat} {s t s' : Store} {published : RoomEvent} {u : Unit}
    (hsound : Sound (coreOf s)) (hstored : target ∈ s.events) (hdeletes : P.deletes target.id)
    (hevident : P.evident → DeletesEvidently s target.id)
    (hmutable : requireMutableMessage target = .ok kind)
    (hprojection : kind = .vote → s.voteStates.lookup target.id = none)
    (h : Commits (do
      removePendingInputReference target.id
      replaceEvent (prepareDeletedMessage target kind now)
      let id ← drawUuid
      pure (prepareMessageDeletedEvent id principal target (nextSeq s.events) now)) s published t)
    (hinserted : Commits (insertEvent published) t u s') : Path P (coreOf s) (coreOf s') := by
  simp only [commits_bind, commits_replaceEvent, commits_drawUuid, commits_pure] at h
  obtain ⟨_, s₁, hremoved, _, s₂, ⟨-, hs₂⟩, id, _, ⟨rfl, rfl⟩, rfl, rfl⟩ := h
  obtain ⟨hstore, hdrops, hdropped⟩ := commits_removePendingReference hdeletes hsound hremoved
  have hguard : Deletes P (coreOf s₁) target kind := by
    refine ⟨?_, hdeletes, hmutable, ?_, ?_, ?_⟩
    · rw [hstore]
      exact hstored
    · rw [hstore]
      exact hprojection
    · intro sid b hb input hinput
      obtain ⟨a, -, rfl⟩ := hdropped sid b hb
      simpa using (List.mem_filter.mp hinput).2
    · intro hpermitted sid b row hb hrow hassigned hinput
      obtain ⟨a, ha, rfl⟩ := hdropped sid b hb
      have hrow' : s.executions.lookup (sid, a.turnGeneration) = some row := by
        rw [hstore] at hrow
        exact hrow
      exact hevident hpermitted target hstored rfl sid a row ha hrow' hassigned hinput
  have hevents : s₂.events = rewriteIn s.events (prepareDeletedMessage target kind now) := by
    rw [hs₂, hstore]
    rfl
  have hdeleted : Path P (coreOf s) (coreOf s₂) := by
    rw [hs₂]
    exact hdrops.tail (Move.tombstone target kind now hguard)
  refine path_announced hdeleted rfl rfl ?_ (quiet_mutationEvent (by decide) rfl) hinserted
  rw [hevents, nextSeq_rewriteIn]

theorem path_deleteMessage {principal : AuthenticatedPrincipal} {target : RoomEvent}
    {now : Nat} {s t s' : Store} {published : RoomEvent} {u : Unit} (hsound : Sound (coreOf s))
    (hstored : target ∈ s.events) (hdeletes : P.deletes target.id)
    (hevident : P.evident → DeletesEvidently s target.id)
    (h : Commits (deleteMessage principal target (nextSeq s.events) now) s published t)
    (hinserted : Commits (insertEvent published) t u s') : Path P (coreOf s) (coreOf s') := by
  rw [deleteMessage] at h
  obtain ⟨author, _, hauthor, h₁⟩ := commits_bind.mp h
  obtain ⟨-, rfl⟩ := commits_loadParticipant.mp hauthor
  obtain ⟨kind, s, hauthorize, h₂⟩ := commits_bind.mp h₁
  obtain ⟨hauthorized, rfl⟩ := commits_ofResult.mp hauthorize
  rw [Result.mapError_eq_ok] at hauthorized
  have hmutable := authorizeMessageDelete_ok hauthorized
  obtain ⟨_, s₁, hbound, h₃⟩ := commits_bind.mp h₂
  obtain ⟨hcore, -⟩ := deleteBound_core hbound
  rw [← hcore] at hsound ⊢
  have hevents : s₁.events = s.events := congrArg RoomCore.events hcore
  have hevident' : P.evident → DeletesEvidently s₁ target.id := by
    intro hpermitted
    have hsessions : s₁.sessions = s.sessions := congrArg RoomCore.sessions hcore
    have hexecutions : s₁.executions = s.executions := congrArg RoomCore.executions hcore
    rw [DeletesEvidently, hevents, hsessions, hexecutions]
    exact hevident hpermitted
  rw [← hevents] at hstored h₃
  dsimp only at h₃
  by_cases hvote : kind = .vote
  · rw [if_pos hvote] at h₃
    obtain ⟨_, s₂, hproject, h₄⟩ := commits_bind.mp h₃
    obtain ⟨hpath, habsent, hs₂⟩ := path_deleteProjection hdeletes hproject
    have hlog : s₁.events = s₂.events := by rw [hs₂]
    rw [hlog] at hstored h₄
    refine hpath.trans (path_tombstone (Path.sound hsound hpath) hstored hdeletes ?_ hmutable
      (fun _ => habsent) h₄ hinserted)
    rw [hs₂]
    exact hevident'
  · rw [if_neg hvote] at h₃
    exact path_tombstone hsound hstored hdeletes hevident' hmutable
      (fun hpoll => absurd hpoll hvote) h₃ hinserted

/-- The event a mutation deletes, if it deletes one. -/
def MessageMutationPayload.deletedId : MessageMutationPayload → Option String
  | .edit _ _ => none
  | .delete eventId => some eventId

omit [UuidSource] [CaseFold] in
theorem mutation_ok {payload : MessageMutationPayload} {mutation : MessageMutation}
    (h : MessageMutation.fromPayload payload = .ok mutation) :
    (∀ edit, mutation = .edit edit → edit.content.toList.length ≤ maxMessageCharacters) ∧
      ∀ delete, mutation = .delete delete →
        MessageMutationPayload.deletedId payload = some delete.eventId := by
  cases payload with
  | edit eventId content =>
      simp only [MessageMutation.fromPayload, MessageEdit.fromPayload, exactEventId] at h
      split at h
      · obtain rfl := Except.ok.inj h
        refine ⟨fun edit hedit => ?_, nofun⟩
        obtain rfl := MessageMutation.edit.inj hedit
        exact length_cleanMessage_le content maxMessageCharacters
      · cases h
  | delete eventId =>
      simp only [MessageMutation.fromPayload, MessageDelete.fromPayload, exactEventId] at h
      split at h
      · obtain rfl := Except.ok.inj h
        refine ⟨nofun, fun delete hdelete => ?_⟩
        obtain rfl := MessageMutation.delete.inj hdelete
        rfl
      · cases h

theorem path_mutateMessage {principal : AuthenticatedPrincipal}
    {payload : MessageMutationPayload} {now : Nat} {s s' : Store} {commit : AgentTurnCommit}
    (hsound : Sound (coreOf s))
    (hdeletes : ∀ eventId, MessageMutationPayload.deletedId payload = some eventId →
      P.deletes eventId)
    (hevident : P.evident → ∀ eventId,
      MessageMutationPayload.deletedId payload = some eventId → DeletesEvidently s eventId)
    (h : Commits (executeMessageMutationIn principal payload now) s commit s') :
    Path P (coreOf s) (coreOf s') := by
  simp only [executeMessageMutationIn, nextSequence, commits_bind, commits_loadActiveParticipant,
    commits_ofResult, commits_loadEvent, commits_orReject, commits_read] at h
  obtain ⟨_, _, ⟨-, -, -, rfl⟩, mutation, _, ⟨hmutation, rfl⟩, found, _, ⟨hfound, rfl⟩, target, _,
    ⟨rfl, rfl⟩, _, s, ⟨rfl, rfl⟩, hrest⟩ := h
  rw [Result.mapError_eq_ok] at hmutation
  obtain ⟨hedits, hdeleted⟩ := mutation_ok hmutation
  obtain ⟨hstored, hid⟩ := findEvent_some hfound
  cases mutation with
  | edit edit =>
      obtain ⟨published, t, hedited, hpublish⟩ := commits_bind.mp hrest
      obtain ⟨_, t', hinserted, hpure⟩ := commits_bind.mp hpublish
      obtain ⟨-, rfl⟩ := commits_pure.mp hpure
      exact path_editMessage hstored (hedits edit rfl) hedited hinserted
  | delete delete =>
      obtain ⟨published, t, hdelete, hpublish⟩ := commits_bind.mp hrest
      obtain ⟨_, t', hinserted, hpure⟩ := commits_bind.mp hpublish
      obtain ⟨-, rfl⟩ := commits_pure.mp hpure
      have hnamed : MessageMutationPayload.deletedId payload = some target.id := by
        rw [hid]
        exact hdeleted delete rfl
      exact path_deleteMessage hsound hstored (hdeletes _ hnamed)
        (fun hpermitted => hevident hpermitted _ hnamed) hdelete hinserted

end Posts

end AgentsAssemble.System
