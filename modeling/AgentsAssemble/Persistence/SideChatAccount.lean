import AgentsAssemble.Persistence.SideChatLedger

/-!
# Side chat: no message is appended twice

The account of a run: its lifetimes are numbered without a gap, an exact retry is answered with
its message or refused, and under a clock that never steps back no snapshot is stale.
-/

namespace AgentsAssemble.Persistence

open Foundation
open Domain (SideChatMessage SideChatSend SideChatSnapshot SideChatUpdate UuidText)
open Domain.CanonicalJson (DoubleText Sha256 canonicalPayloadHash)
open Pairing (Host LocalRoomManagerAuthority RoomPrincipal)

section Account

variable [UuidText] [DoubleText] [Sha256] [UuidSource] {s : SideChatStore} {now : Int}
  {labels : List SideChatLabel} {label : SideChatLabel} {principalId requestId : String}
  {payload : Json} {commit : SideChatCommit}

/-! ## Any two labels -/

omit [UuidText] [DoubleText] [Sha256] [UuidSource] in
/-- Two members of a list that is pairwise related are the same or related one way. -/
theorem pairwise_cases {α : Type} {R : α → α → Prop} {as : List α} (h : as.Pairwise R) {a b : α}
    (ha : a ∈ as) (hb : b ∈ as) : a = b ∨ R a b ∨ R b a := by
  refine List.Pairwise.forall_of_forall_of_flip (R := fun a b => a = b ∨ R a b ∨ R b a)
    (fun _ _ => Or.inl rfl) ?_ ?_ ha hb
  · exact h.imp fun hab => Or.inr (Or.inl hab)
  · exact h.imp fun hab => Or.inr (Or.inr hab)

omit [UuidText] [DoubleText] [Sha256] [UuidSource] in
theorem commit_unique {principalId' requestId' : String} {payload' : Json}
    {commit' : SideChatCommit} (h : label.Appended principalId requestId payload commit)
    (h' : label.Appended principalId' requestId' payload' commit') :
    payload = payload' ∧ commit = commit' := by
  obtain ⟨principal, completes, hop, -, hcommit, -⟩ := h
  obtain ⟨principal', completes', hop', -, hcommit', -⟩ := h'
  have hsame := hop.symm.trans hop'
  simp only [SideChatOp.send.injEq] at hsame
  exact ⟨hsame.2.2.1, Option.some.inj (hcommit.symm.trans hcommit')⟩

/-! ## Retries -/

/-- The room that a request finds retains the message. -/
def Retains (s : SideChatStore) (uid : String) (now : Int) (commit : SideChatCommit) : Prop :=
  (s.found uid now).generation = commit.update.generation ∧
    commit.update.message ∈ (s.found uid now).messages.map RetainedMessage.message

omit [UuidText] [DoubleText] [Sha256] in
theorem sound_found (hs : SideChatStore.Sound s) (uid : String) (now : Int) :
    (s.found uid now).Sound := by
  rcases started_enter s uid with hstored | ⟨-, hnew⟩
  · exact (hs.rooms hstored).prune now
  · unfold SideChatStore.found
    rw [hnew]
    exact (SideChatRoom.sound_new _).prune now

omit [UuidText] [DoubleText] [Sha256] [UuidSource] in
/-- One entry stands under a request. -/
theorem SideChatRoom.Sound.unique {room : SideChatRoom} (h : room.Sound)
    {entry other : RetainedMessage} (hentry : entry ∈ room.messages)
    (hother : other ∈ room.messages) (hkey : entry.isOf principalId requestId)
    (hkey' : other.isOf principalId requestId) : entry = other := by
  refine List.inj_on_of_nodup_map h.keys hentry hother ?_
  rw [hkey.1, hkey.2, hkey'.1, hkey'.2]

/-- A message is retained exactly by the entry that stands for it. -/
theorem Recorded.retained (h : Recorded s principalId requestId payload commit) {uid : String}
    (hretains : Retains s uid now commit) :
    ∃ entry ∈ (s.found uid now).messages, StandsFor entry principalId requestId payload commit := by
  obtain ⟨hgeneration, hmessage⟩ := hretains
  obtain ⟨entry, hentry, hsame⟩ := List.mem_map.mp hmessage
  obtain ⟨-, hbelow | hstands⟩ := h.found hgeneration
  · have hseq : entry.seq = commit.update.message.seq := congrArg SideChatMessage.seq hsame
    have hmem := ((s.found uid now).window.mem hentry).1
    omega
  · exact hstands

variable {uid : String} {principal : RoomPrincipal} {participant : Directory.Participant}

/-- The answer to an exact retry of a retained message is the message, and nothing is appended. -/
theorem send_retained (hs : SideChatStore.Sound s)
    (h : Recorded s principal.principalId requestId payload commit)
    (hauthorized : humanAuthority s.host (.ok principal) true = .ok (uid, principal, participant))
    (hretains : Retains s uid now commit) :
    sendSideChat (.ok principal) requestId payload now s =
      (.ok
        { update :=
            { roomId := principal.roomId
              generation := commit.update.generation
              retainedAfterSeq := (s.found uid now).retainedAfterSeq
              message := commit.update.message }
          deduplicated := true }, s.visit uid now) := by
  obtain ⟨entry, hentry, hstands⟩ := h.retained hretains
  obtain ⟨request, hparsed, hgeneration, hafter⟩ := h.request
  have hlatest := (h.found hretains.1).1
  have haddresses : Addresses request (s.found uid now) := by
    refine ⟨hgeneration.trans hretains.1.symm, ?_⟩
    omega
  have hanswers : Answers (s.found uid now) principal participant requestId payload request now
      (UuidSource.newV4 (s.enter uid).2.uuids) _ := append_answers
  rw [sendSideChat_eq hparsed hauthorized]
  generalize append (s.found uid now) principal participant requestId payload request now
    (UuidSource.newV4 (s.enter uid).2.uuids) = answer at hanswers
  cases hanswers with
  | astray hoff => exact absurd haddresses hoff
  | conflict haddresses hfound hsame hother =>
      obtain rfl := (sound_found hs uid now).unique hfound hentry hsame hstands.key
      exact absurd hstands.hash hother
  | repeats haddresses hfound hsame hhash =>
      obtain rfl := (sound_found hs uid now).unique hfound hentry hsame hstands.key
      unfold repeated
      rw [hstands.message, hretains.1]
      rfl
  | forgotten haddresses hfresh hbehind => exact absurd hstands.key (hfresh entry hentry)
  | appends haddresses hfresh hmark => exact absurd hstands.key (hfresh entry hentry)

/-- Another request of the run that the digest does not tell apart. -/
def Collides (labels : List SideChatLabel) (principalId requestId : String) (payload : Json) :
    Prop :=
  ∃ label ∈ labels, ∃ other commit, label.Appended principalId requestId other commit ∧
    SideChatSend.fromPayload other ≠ SideChatSend.fromPayload payload ∧
    canonicalPayloadHash other = canonicalPayloadHash payload

/-- An exact retry of a message that was forgotten or cleared is refused. -/
theorem send_forgotten (hledger : SideChatLedger labels s) (hlabel : label ∈ labels)
    (happended : label.Appended principal.principalId requestId payload commit)
    (hauthorized : humanAuthority s.host (.ok principal) true = .ok (uid, principal, participant))
    (hforgotten : ¬Retains s uid now commit) :
    (sendSideChat (.ok principal) requestId payload now s).2 = s.visit uid now ∧
      ((∃ e, (sendSideChat (.ok principal) requestId payload now s).1 = .error e) ∨
        Collides labels principal.principalId requestId payload) := by
  obtain ⟨hrecorded, -⟩ := hledger.recorded label hlabel happended
  obtain ⟨request, hparsed, hgeneration, hafter⟩ := hrecorded.request
  have hbelow : Addresses request (s.found uid now) →
      commit.update.message.seq ≤ (s.found uid now).retainedAfterSeq := by
    intro haddresses
    have hsame := haddresses.generation.symm.trans hgeneration
    obtain ⟨-, hbelow | ⟨entry, hentry, hstands⟩⟩ := hrecorded.found hsame
    · exact hbelow
    · refine absurd ⟨hsame, ?_⟩ hforgotten
      exact List.mem_map.mpr ⟨entry, hentry, hstands.message⟩
  have hanswers : Answers (s.found uid now) principal participant requestId payload request now
      (UuidSource.newV4 (s.enter uid).2.uuids) _ := append_answers
  rw [sendSideChat_eq hparsed hauthorized]
  generalize append (s.found uid now) principal participant requestId payload request now
    (UuidSource.newV4 (s.enter uid).2.uuids) = answer at hanswers
  cases hanswers with
  | astray hoff => exact ⟨rfl, Or.inl ⟨_, rfl⟩⟩
  | conflict haddresses hfound hsame hother => exact ⟨rfl, Or.inl ⟨_, rfl⟩⟩
  | forgotten haddresses hfresh hbehind => exact ⟨rfl, Or.inl ⟨_, rfl⟩⟩
  | appends haddresses hfresh hmark =>
      have hle := hbelow haddresses
      omega
  | @repeats previous haddresses hfound hkey hhash =>
      refine ⟨rfl, Or.inr ?_⟩
      have hle := hbelow haddresses
      have habove := ((s.found uid now).window.mem hfound).1
      -- the entry is of another label, since the message of this one is below the mark
      have hstored : ∃ room, s.rooms.lookup uid = some room ∧ previous ∈ room.messages ∧
          room.generation = (s.found uid now).generation := by
        have hentered := (SideChatRoom.suffix_prune _ now).subset hfound
        rcases started_enter s uid with hstored | ⟨-, hnew⟩
        · exact ⟨_, hstored, hentered, rfl⟩
        · rw [hnew] at hentered
          cases hentered
      obtain ⟨room, hroom, hprevious, hlifetime⟩ := hstored
      obtain ⟨source, hsource, other, commit', hother, hstands, hcommit'⟩ :=
        hledger.sources hroom hprevious
      rw [hkey.1, hkey.2] at hother
      have hseq : commit'.update.message.seq = previous.seq :=
        congrArg SideChatMessage.seq hstands.message.symm
      have hsame : commit.update.generation = commit'.update.generation :=
        hgeneration.symm.trans
          (haddresses.generation.trans (hlifetime.symm.trans hcommit'.symm))
      refine ⟨source, hsource, other, commit', hother, ?_, hstands.hash.symm.trans hhash⟩
      rcases pairwise_cases hledger.precedes hlabel hsource with rfl | hbefore | hafter'
      · obtain ⟨-, rfl⟩ := commit_unique happended hother
        omega
      · obtain ⟨-, hread⟩ := hbefore happended hother hsame
        obtain ⟨request', hparsed', hread'⟩ := hread rfl rfl
        intro heq
        obtain rfl := Except.ok.inj (hparsed'.symm.trans (heq.trans hparsed))
        omega
      · obtain ⟨hlt, -⟩ := hafter' hother happended hsame.symm
        omega

/-! ## Snapshots -/

/-- The retained messages are in the order of their labels, so of their instants. -/
theorem created_ordered (hledger : SideChatLedger labels s)
    (hclock : labels.Pairwise fun earlier later => earlier.now ≤ later.now)
    {room : SideChatRoom} (hroom : s.rooms.lookup uid = some room) :
    room.messages.Pairwise fun earlier later =>
      earlier.message.createdAt ≤ later.message.createdAt := by
  have hseqs : room.messages.Pairwise fun earlier later => earlier.seq < later.seq := by
    rw [← List.pairwise_map (f := RetainedMessage.seq), room.window.numbers]
    exact List.pairwise_lt_range'
  refine hseqs.imp_of_mem fun {earlier later} hearlier hlater hseq => ?_
  obtain ⟨source, hsource, payload, commit, happended, hstands, hgeneration⟩ :=
    hledger.sources hroom hearlier
  obtain ⟨source', hsource', payload', commit', happended', hstands', hgeneration'⟩ :=
    hledger.sources hroom hlater
  have hcreated := (hledger.recorded source hsource happended).2
  have hcreated' := (hledger.recorded source' hsource' happended').2
  have hnumber : earlier.seq = commit.update.message.seq :=
    congrArg SideChatMessage.seq hstands.message
  have hnumber' : later.seq = commit'.update.message.seq :=
    congrArg SideChatMessage.seq hstands'.message
  rw [hstands.message, hstands'.message, hcreated, hcreated']
  rcases pairwise_cases (hledger.precedes.and hclock) hsource hsource' with
    rfl | ⟨-, hle⟩ | ⟨hprecedes, -⟩
  · exact le_rfl
  · exact hle
  · obtain ⟨hlt, -⟩ := hprecedes happended' happended (hgeneration'.trans hgeneration.symm)
    omega

omit [UuidText] [DoubleText] [Sha256] [UuidSource] in
theorem finish_eq_ok {α : Type} {completes : Bool} {failure : PersistenceError}
    {outcome : Except PersistenceError α} {value : α}
    (h : finish completes failure outcome = .ok value) : outcome = .ok value := by
  unfold finish at h
  split at h
  · split at h
    · exact h
    · cases h
  · cases h

omit [UuidText] [DoubleText] [Sha256] [UuidSource] in
theorem map_eq_ok {α β : Type} {f : α → β} {outcome : Except PersistenceError α} {b : β}
    (h : outcome.map f = .ok b) : ∃ a, outcome = .ok a ∧ f a = b := by
  cases outcome with
  | error e => cases h
  | ok a => exact ⟨a, rfl, Except.ok.inj h⟩

/-- A snapshot shows what the room that it found retains. -/
theorem snapshot_of_step {t : SideChatStore} {snapshot : SideChatSnapshot}
    (hstep : SideChatStep label s t) (houtcome : label.outcome = .ok (.snapshot snapshot)) :
    ∃ uid, snapshot.messages = (s.found uid label.now).messages.map RetainedMessage.message := by
  have hanswer : (performSideChat label.op label.now s).1 = .ok (.snapshot snapshot) := by
    rw [hstep.1, houtcome]
  cases hop : label.op with
  | send authority requestId payload completes =>
      rw [hop] at hanswer
      obtain ⟨commit, -, hcommit⟩ := map_eq_ok hanswer
      cases hcommit
  | snapshot authority completes =>
      rw [hop] at hanswer
      obtain ⟨shown, hshown, heq⟩ := map_eq_ok hanswer
      obtain rfl := SideChatOutcome.snapshot.inj heq
      have hread : (sideChatSnapshot authority completes label.now s).1 = .ok shown := hshown
      unfold sideChatSnapshot at hread
      split at hread
      · cases hread
      · rename_i uid principal participant hauthorized
        obtain rfl := Except.ok.inj (finish_eq_ok hread)
        exact ⟨uid, rfl⟩
  | localSnapshot expected completes =>
      rw [hop] at hanswer
      obtain ⟨shown, hshown, heq⟩ := map_eq_ok hanswer
      obtain rfl := SideChatOutcome.snapshot.inj heq
      have hread : (localSideChatSnapshot expected completes label.now s).1 = .ok shown := hshown
      unfold localSideChatSnapshot at hread
      split at hread
      · cases hread
      · obtain rfl := Except.ok.inj (finish_eq_ok hread)
        exact ⟨expected.roomUid, rfl⟩
  | subscribe authority incarnation completes =>
      rw [hop] at hanswer
      obtain ⟨announced, -, heq⟩ := map_eq_ok hanswer
      cases heq
  | clearRoom incarnation =>
      rw [hop] at hanswer
      cases hanswer
  | restart =>
      rw [hop] at hanswer
      cases hanswer
  | changeHost host =>
      rw [hop] at hanswer
      cases hanswer

/-- Under a clock that never stepped back, a room that is found retains nothing stale. -/
theorem found_fresh (hledger : SideChatLedger labels s)
    (hclock : labels.Pairwise fun earlier later => earlier.now ≤ later.now) (uid : String)
    (now : Int) :
    ∀ entry ∈ (s.found uid now).messages, now - entry.message.createdAt < sideChatTtl := by
  have hordered : (s.enter uid).1.messages.Pairwise fun earlier later =>
      earlier.message.createdAt ≤ later.message.createdAt := by
    rcases started_enter s uid with hstored | ⟨-, hnew⟩
    · exact created_ordered hledger hclock hstored
    · rw [hnew]
      exact .nil
  intro entry hentry
  have hfresh := forget_fresh (s.enter uid).1.retainedAfterSeq
    (hordered.imp fun {earlier later} hle hstale => decide_eq_true
      (hle.trans (of_decide_eq_true hstale))) entry hentry
  have hyoung := of_decide_eq_false hfresh
  omega

/-! ## The account -/

/-- What a run leaves for whoever asks next. -/
structure SideChatAccount (labels : List SideChatLabel) (s : SideChatStore) : Prop where
  /-- The numbers of a lifetime run from one without a gap, and none is used twice. -/
  numbered : ∀ {uid room}, s.rooms.lookup uid = some room →
    room.updates.map (fun update => update.message.seq) = List.range' 1 room.latestSeq
  ordered : labels.Pairwise fun earlier later =>
    ∀ {principalId requestId payload commit principalId' requestId' payload' commit'},
      earlier.Appended principalId requestId payload commit →
      later.Appended principalId' requestId' payload' commit' →
      commit.update.generation = commit'.update.generation →
      commit.update.message.seq < commit'.update.message.seq
  /-- The messages of a lifetime that is still there are part of its history. -/
  announced : ∀ label ∈ labels, ∀ {principalId requestId payload commit},
    label.Appended principalId requestId payload commit →
    ∀ {uid room}, s.rooms.lookup uid = some room →
      room.generation = commit.update.generation → commit.update ∈ room.updates
  /-- The retained messages are those of the history above the mark, in order. -/
  retained : ∀ {uid room}, s.rooms.lookup uid = some room →
    room.messages.map RetainedMessage.message =
      (room.updates.map SideChatUpdate.message).filter fun message =>
        decide (room.retainedAfterSeq < message.seq ∧ message.seq ≤ room.latestSeq)
  /-- A lifetime never loses or changes its history, and a lifetime that ended is not resumed. -/
  grows : ∀ {later labels' uid uid' room room'}, Run SideChatStep s labels' later →
    s.rooms.lookup uid = some room → later.rooms.lookup uid' = some room' →
    room'.generation = room.generation → uid' = uid ∧ room.updates <+: room'.updates
  /-- No request is appended twice. -/
  once : labels.Pairwise fun earlier later => ∀ {principalId requestId payload commit commit'},
    earlier.Appended principalId requestId payload commit →
    ¬later.Appended principalId requestId payload commit'
  /-- An exact retry of a retained message is answered with it, and nothing is appended. -/
  retried : ∀ label ∈ labels, ∀ {principal participant requestId payload commit uid now},
    label.Appended principal.principalId requestId payload commit →
    humanAuthority s.host (.ok principal) true = .ok (uid, principal, participant) →
    Retains s uid now commit →
    sendSideChat (.ok principal) requestId payload now s =
      (.ok
        { update :=
            { roomId := principal.roomId
              generation := commit.update.generation
              retainedAfterSeq := (s.found uid now).retainedAfterSeq
              message := commit.update.message }
          deduplicated := true }, s.visit uid now)
  /-- An exact retry of a message that was pruned or cleared appends nothing and is refused. -/
  forgotten : ∀ label ∈ labels, ∀ {principal participant requestId payload commit uid now},
    label.Appended principal.principalId requestId payload commit →
    humanAuthority s.host (.ok principal) true = .ok (uid, principal, participant) →
    ¬Retains s uid now commit →
    (sendSideChat (.ok principal) requestId payload now s).2 = s.visit uid now ∧
      (¬Collides labels principal.principalId requestId payload →
        ∃ e, (sendSideChat (.ok principal) requestId payload now s).1 = .error e)
  /-- A retained request id with another payload: a conflict within the lifetime and window of
  the room, an expired retry outside of it. -/
  reused : ∀ {principal participant requestId payload request uid now entry},
    SideChatSend.fromPayload payload = .ok request →
    humanAuthority s.host (.ok principal) true = .ok (uid, principal, participant) →
    entry ∈ (s.found uid now).messages → entry.isOf principal.principalId requestId →
    entry.payloadHash ≠ canonicalPayloadHash payload →
    (Addresses request (s.found uid now) → sendSideChat (.ok principal) requestId payload now s =
      (.error .commandConflict, s.visit uid now)) ∧
    (¬Addresses request (s.found uid now) → sendSideChat (.ok principal) requestId payload now s =
      (.error expiredRetry, s.visit uid now))
  /-- While the clock never steps back, no snapshot shows a message past the retention time. -/
  fresh : labels.Pairwise (fun earlier later => earlier.now ≤ later.now) →
    ∀ label ∈ labels, ∀ snapshot, label.outcome = .ok (.snapshot snapshot) →
      ∀ message ∈ snapshot.messages, label.now - message.createdAt < sideChatTtl

omit [UuidText] [DoubleText] [Sha256] [UuidSource] in
/-- The retained messages are the numbered ones above the mark. -/
theorem retained_eq_filter {room : SideChatRoom} (h : room.Sound) :
    room.messages.map RetainedMessage.message =
      (room.updates.map SideChatUpdate.message).filter fun message =>
        decide (room.retainedAfterSeq < message.seq ∧ message.seq ≤ room.latestSeq) := by
  have hhistory : Window SideChatMessage.seq 0 room.latestSeq
      (room.updates.map SideChatUpdate.message) := by
    refine ⟨?_, ?_⟩
    · rw [List.map_map, List.length_map, SideChatRoom.latest_eq h]
      exact h.announced
    · rw [List.length_map, SideChatRoom.latest_eq h, Nat.zero_add]
  rw [h.retained, hhistory.filter_eq_drop (Nat.zero_le _), Nat.sub_zero]

theorem evolves_of_run {later : SideChatStore} {labels' : List SideChatLabel}
    (hs : SideChatStore.Sound s) (hrun : Run SideChatStep s labels' later) :
    SideChatStore.Evolves s later :=
  Run.relates (I := SideChatStore.Sound) (R := SideChatStore.Evolves)
    (fun _ => .refl _) (fun _ _ _ h h' => h.trans h')
    (fun _ _ _ hs hstep => hstep.moves.sound hs)
    (fun _ _ _ _ hstep => hstep.moves.evolves) hs hrun

theorem ledger_of_run {start : SideChatStore} (hempty : start.rooms = ∅)
    (hrun : Run SideChatStep start labels s) :
    SideChatLedger labels s ∧
      (labels.Pairwise (fun earlier later => earlier.now ≤ later.now) →
        ∀ label ∈ labels, ∀ snapshot, label.outcome = .ok (.snapshot snapshot) →
          ∀ message ∈ snapshot.messages, label.now - message.createdAt < sideChatTtl) := by
  refine hrun.invariant_labels (I := fun labels s => SideChatLedger labels s ∧
    (labels.Pairwise (fun earlier later => earlier.now ≤ later.now) →
      ∀ label ∈ labels, ∀ snapshot, label.outcome = .ok (.snapshot snapshot) →
        ∀ message ∈ snapshot.messages, label.now - message.createdAt < sideChatTtl))
    (fun labels label s t hbefore hstep => ?_) ?_
  · obtain ⟨hledger, hsnapshots⟩ := hbefore
    refine ⟨hledger.step hstep, fun hclock other hother snapshot houtcome => ?_⟩
    have hclock' := (List.pairwise_append.mp hclock).1
    rcases List.mem_append.mp hother with hmem | hlatest
    · exact hsnapshots hclock' other hmem snapshot houtcome
    · obtain rfl := List.mem_singleton.mp hlatest
      obtain ⟨uid, hshown⟩ := snapshot_of_step hstep houtcome
      intro message hmessage
      rw [hshown] at hmessage
      obtain ⟨entry, hentry, rfl⟩ := List.mem_map.mp hmessage
      exact found_fresh hledger hclock' uid other.now entry hentry
  · exact ⟨ledger_empty hempty, fun _ _ hlabel => absurd hlabel List.not_mem_nil⟩

theorem send_reused {request : SideChatSend} {entry : RetainedMessage}
    (hs : SideChatStore.Sound s) (hparsed : SideChatSend.fromPayload payload = .ok request)
    (hauthorized : humanAuthority s.host (.ok principal) true = .ok (uid, principal, participant))
    (hentry : entry ∈ (s.found uid now).messages)
    (hkey : entry.isOf principal.principalId requestId)
    (hother : entry.payloadHash ≠ canonicalPayloadHash payload) :
    (Addresses request (s.found uid now) → sendSideChat (.ok principal) requestId payload now s =
      (.error .commandConflict, s.visit uid now)) ∧
    (¬Addresses request (s.found uid now) → sendSideChat (.ok principal) requestId payload now s =
      (.error expiredRetry, s.visit uid now)) := by
  have hanswers : Answers (s.found uid now) principal participant requestId payload request now
      (UuidSource.newV4 (s.enter uid).2.uuids) _ := append_answers
  rw [sendSideChat_eq hparsed hauthorized]
  generalize append (s.found uid now) principal participant requestId payload request now
    (UuidSource.newV4 (s.enter uid).2.uuids) = answer at hanswers
  cases hanswers with
  | astray hoff => exact ⟨fun haddresses => absurd haddresses hoff, fun _ => rfl⟩
  | conflict haddresses hfound hsame hhash =>
      exact ⟨fun _ => rfl, fun hoff => absurd haddresses hoff⟩
  | repeats haddresses hfound hsame hhash =>
      obtain rfl := (sound_found hs uid now).unique hfound hentry hsame hkey
      exact absurd hhash hother
  | forgotten haddresses hfresh hbehind => exact absurd hkey (hfresh entry hentry)
  | appends haddresses hfresh hmark => exact absurd hkey (hfresh entry hentry)

theorem side_chat_appends_once {start : SideChatStore} (hempty : start.rooms = ∅)
    (hrun : Run SideChatStep start labels s) : SideChatAccount labels s := by
  obtain ⟨hledger, hsnapshots⟩ := ledger_of_run hempty hrun
  constructor
  case numbered =>
    intro uid room hroom
    exact (hledger.sound.rooms hroom).announced
  case ordered =>
    refine hledger.precedes.imp fun {earlier later} hprecedes => ?_
    intro principalId requestId payload commit principalId' requestId' payload' commit' h h' hsame
    exact (hprecedes h h' hsame).1
  case announced =>
    intro label hlabel principalId requestId payload commit happended uid room hroom hgeneration
    exact ((hledger.recorded label hlabel happended).1.kept hroom hgeneration).1
  case retained =>
    intro uid room hroom
    exact retained_eq_filter (hledger.sound.rooms hroom)
  case grows =>
    intro later labels' uid uid' room room' hmore hroom hroom' hsame
    have hevolves := evolves_of_run hledger.sound hmore
    obtain ⟨huid, hcontinues⟩ := hevolves.continues hledger.sound hroom hroom' hsame
    exact ⟨huid, hcontinues.updates⟩
  case once =>
    refine List.Pairwise.imp_of_mem (fun {earlier later} hearlier hlater hprecedes => ?_)
      hledger.precedes
    intro principalId requestId payload commit commit' h h'
    obtain ⟨request, hparsed, hgeneration, hafter⟩ :=
      (hledger.recorded earlier hearlier h).1.request
    obtain ⟨request', hparsed', hgeneration', -⟩ := (hledger.recorded later hlater h').1.request
    obtain rfl := Except.ok.inj (hparsed.symm.trans hparsed')
    obtain ⟨-, hread⟩ := hprecedes h h' (hgeneration.symm.trans hgeneration')
    obtain ⟨read, hread, hmark⟩ := hread rfl rfl
    obtain rfl := Except.ok.inj (hparsed.symm.trans hread)
    omega
  case retried =>
    intro label hlabel principal participant requestId payload commit uid now happended
      hauthorized hretains
    exact send_retained hledger.sound (hledger.recorded label hlabel happended).1 hauthorized
      hretains
  case forgotten =>
    intro label hlabel principal participant requestId payload commit uid now happended
      hauthorized hforgotten
    obtain ⟨hvisit, hrefused⟩ :=
      send_forgotten hledger hlabel happended hauthorized hforgotten
    exact ⟨hvisit, fun hcollides => hrefused.resolve_right hcollides⟩
  case reused =>
    intro principal participant requestId payload request uid now entry hparsed hauthorized hentry
      hkey hother
    exact send_reused hledger.sound hparsed hauthorized hentry hkey hother
  case fresh => exact hsnapshots

end Account

/-! ## A sample chat -/

namespace SideChatSample

scoped instance : UuidText where
  parseStr := some

scoped instance : DoubleText where
  text _ := ['0', '.', '0']
  isNumberToken_text _ _ := by decide

scoped instance : Sha256 where
  digest := id

scoped instance : UuidSource where
  newV4 := unaryUuid
  newV4_injective := unaryUuid_injective
  newV4_ne_empty := unaryUuid_ne_empty
  isUuid _ := true

/-- One active room with one joined human. -/
def host : Host :=
  { bootstrap := .complete ⟨"server", "lineage"⟩
    rooms := (∅ : Table String Directory.Room).insert "lobby"
      { roomId := "lobby"
        roomUid := "uid"
        label := "Lobby"
        status := .active
        createdAt := 0
        updatedAt := 0 }
    participants := (∅ : Table (String × String) Directory.Participant).insert ("lobby", "ann")
      { roomId := "lobby"
        participantId := "ann"
        displayName := "Ann"
        avatarImageUrl := ""
        participantType := "human"
        status := .joined
        role := .human
        ownerId := "ann"
        muted := false
        createdAt := 0
        updatedAt := 0 }
    profiles := ∅ }

def ann : RoomPrincipal :=
  { principalId := "user"
    participantId := "ann"
    displayName := "Ann"
    roomId := "lobby"
    clientKind := .browser
    inviteScope := .readWrite
    isOperator := false
    capabilities := .forPrincipal .browser .readWrite false }

/-- A message in the first lifetime, read up to a sequence number. -/
def message (afterSeq : UInt64) : Json :=
  .object [("generation", .string "u"), ("after_seq", .number (.posInt afterSeq)),
    ("content", .string "hello")]

def empty : SideChatStore :=
  { host, rooms := ∅, uuids := 0 }

def sendFirst : SideChatOp :=
  .send (.ok ann) "request" (message 0) true

def sentStore : SideChatStore :=
  (performSideChat sendFirst 0 empty).2

def firstLabel : SideChatLabel :=
  { op := sendFirst
    now := 0
    outcome := (performSideChat sendFirst 0 empty).1
    commit := committed sendFirst 0 empty }

theorem run_sendFirst : Run SideChatStep empty [firstLabel] sentStore :=
  Run.single ⟨rfl, rfl⟩

/-- The principal may write, and the one message of the room stands under its request. -/
theorem retained_sendFirst : ∃ participant, ∃ entry ∈ (sentStore.found "uid" 0).messages,
    humanAuthority sentStore.host (.ok ann) true = .ok ("uid", ann, participant) ∧
      entry.isOf ann.principalId "request" ∧
      entry.payloadHash ≠ canonicalPayloadHash (message 2) := by
  cases hauthority : humanAuthority sentStore.host (.ok ann) true with
  | error e =>
      have hwrites : (humanAuthority sentStore.host (.ok ann) true).isOk = true := by
        decide +kernel
      rw [hauthority] at hwrites
      cases hwrites
  | ok found =>
      obtain ⟨uid, principal, participant⟩ := found
      have huid : (humanAuthority sentStore.host (.ok ann) true).toOption.map Prod.fst =
          some "uid" := by decide +kernel
      rw [hauthority] at huid
      obtain rfl := Option.some.inj huid
      obtain rfl := Except.ok.inj (humanAuthority_eq_ok hauthority)
      have hretained : (sentStore.found "uid" 0).messages.any (fun entry =>
          entry.principalId == ann.principalId && entry.requestId == "request" &&
            entry.payloadHash != canonicalPayloadHash (message 2)) = true := by decide +kernel
      obtain ⟨entry, hentry, hkey⟩ := List.any_eq_true.mp hretained
      rw [Bool.and_eq_true, Bool.and_eq_true, beq_iff_eq, beq_iff_eq, bne_iff_ne] at hkey
      exact ⟨participant, entry, hentry, rfl, hkey.1, hkey.2⟩

end SideChatSample

open SideChatSample in
/-- The message of a first request is appended, and it is the only one. -/
theorem first_message_appended_once :
    (∃ commit, firstLabel.Appended "user" "request" (message 0) commit) ∧
      SideChatAccount [firstLabel] sentStore := by
  refine ⟨?_, side_chat_appends_once rfl run_sendFirst⟩
  cases hcommit : firstLabel.commit with
  | none =>
      have happended : firstLabel.commit.isSome = true := by decide +kernel
      rw [hcommit] at happended
      cases happended
  | some commit =>
      have hnew : firstLabel.commit.map SideChatCommit.deduplicated = some false := by
        decide +kernel
      rw [hcommit] at hnew
      exact ⟨commit, ann, true, rfl, rfl, hcommit, Option.some.inj hnew⟩

open SideChatSample in
/-- A retained request id that comes back with a cursor past the last message is an expired retry
and no conflict. -/
theorem reused_request_expires :
    ¬∀ {labels s principal participant requestId payload request uid now entry},
      Run SideChatStep empty labels s → SideChatSend.fromPayload payload = .ok request →
      humanAuthority s.host (.ok principal) true = .ok (uid, principal, participant) →
      entry ∈ (s.found uid now).messages → entry.isOf principal.principalId requestId →
      entry.payloadHash ≠ canonicalPayloadHash payload →
      (sendSideChat (.ok principal) requestId payload now s).1 = .error .commandConflict := by
  intro hclaim
  obtain ⟨participant, entry, hentry, hauthority, hkey, hother⟩ := retained_sendFirst
  have hparsed : SideChatSend.fromPayload (message 2) = .ok ⟨"u", 2, "hello"⟩ := by decide +kernel
  have hconflict := hclaim run_sendFirst hparsed hauthority hentry hkey hother
  have hpast : ¬Addresses ⟨"u", 2, "hello"⟩ (sentStore.found "uid" 0) := by
    intro haddresses
    have hlatest : (sentStore.found "uid" 0).latestSeq = 1 := by decide +kernel
    have hcursor := haddresses.cursor
    rw [hlatest] at hcursor
    exact absurd hcursor (by decide)
  have hsound := (ledger_of_run rfl run_sendFirst).1.sound
  rw [(send_reused hsound hparsed hauthority hentry hkey hother).2 hpast] at hconflict
  cases hconflict

end AgentsAssemble.Persistence
