import AgentsAssemble.Persistence.SideChatRuns

/-!
# Side chat: the ledger of a run

A message that was forgotten is below the mark of its lifetime, and its request reads from before
it.  So a repeated request is answered with its message or refused, never appended again.
-/

namespace AgentsAssemble.Persistence

open Foundation
open Domain (SideChatMessage SideChatSend SideChatUpdate UuidText)
open Domain.CanonicalJson (DoubleText Sha256 canonicalPayloadHash)
open Pairing (Host RoomPrincipal)
open SideChatStore (Sound Evolves)

section Ledger

variable [UuidText] [DoubleText] [Sha256] [UuidSource] {s t : SideChatStore} {now : Int}
  {principalId requestId : String} {payload : Json} {commit : SideChatCommit}

/-! ## What is known of an appended message -/

/-- An entry that stands for a commit. -/
structure StandsFor (entry : RetainedMessage) (principalId requestId : String) (payload : Json)
    (commit : SideChatCommit) : Prop where
  key : entry.isOf principalId requestId
  hash : entry.payloadHash = canonicalPayloadHash payload
  message : entry.message = commit.update.message

/-- What the store still knows of a message that was appended. -/
structure Recorded (s : SideChatStore) (principalId requestId : String) (payload : Json)
    (commit : SideChatCommit) : Prop where
  request : ∃ request, SideChatSend.fromPayload payload = .ok request ∧
    request.generation = commit.update.generation ∧
    request.afterSeq < commit.update.message.seq
  drawn : ∃ n < s.uuids, commit.update.generation = UuidSource.newV4 n
  kept : ∀ {uid room}, s.rooms.lookup uid = some room →
    room.generation = commit.update.generation → commit.update ∈ room.updates ∧
      commit.update.message.seq ≤ room.latestSeq ∧
      (commit.update.message.seq ≤ room.retainedAfterSeq ∨
        ∃ entry ∈ room.messages, StandsFor entry principalId requestId payload commit)

theorem Recorded.evolve (h : Recorded s principalId requestId payload commit)
    (hev : Evolves s t) : Recorded t principalId requestId payload commit where
  request := h.request
  drawn := by
    obtain ⟨n, hn, hdrawn⟩ := h.drawn
    exact ⟨n, hn.trans_le hev.uuids, hdrawn⟩
  kept := by
    intro uid room' hroom' hgeneration
    rcases hev.rooms hroom' with ⟨room, hroom, hcontinues⟩ | ⟨n, hn, hnew⟩
    · obtain ⟨hannounced, hlatest, hkept⟩ :=
        h.kept hroom (hcontinues.generation.symm.trans hgeneration)
      refine ⟨hcontinues.updates.subset hannounced, hlatest.trans hcontinues.latest, ?_⟩
      rcases hkept with hbelow | ⟨entry, hentry, hstands⟩
      · exact Or.inl (hbelow.trans hcontinues.mark)
      · rcases hcontinues.kept entry hentry with hbelow | hstill
        · have hseq : entry.seq = commit.update.message.seq :=
            congrArg SideChatMessage.seq hstands.message
          exact Or.inl (hseq ▸ hbelow)
        · exact Or.inr ⟨entry, hstill, hstands⟩
    · obtain ⟨m, hm, hdrawn⟩ := h.drawn
      have hnm : n = m :=
        UuidSource.newV4_injective (hnew.symm.trans (hgeneration.trans hdrawn))
      omega

omit [UuidText] [DoubleText] [Sha256] in
theorem lookup_visit (s : SideChatStore) (uid : String) (now : Int) :
    (s.visit uid now).rooms.lookup uid = some (s.found uid now) := by
  unfold SideChatStore.visit SideChatStore.put
  rw [AList.lookup_insert]

/-- What the room that a request finds knows of the message. -/
theorem Recorded.found (h : Recorded s principalId requestId payload commit) {uid : String}
    (hgeneration : (s.found uid now).generation = commit.update.generation) :
    commit.update.message.seq ≤ (s.found uid now).latestSeq ∧
      (commit.update.message.seq ≤ (s.found uid now).retainedAfterSeq ∨
        ∃ entry ∈ (s.found uid now).messages,
          StandsFor entry principalId requestId payload commit) :=
  ((h.evolve (storeMoves_visit s uid now).evolves).kept (lookup_visit s uid now) hgeneration).2

/-! ## Appending -/

omit [UuidText] [DoubleText] [Sha256] [UuidSource] in
theorem humanAuthority_eq_ok {host : Host} {authority : Except PersistenceError RoomPrincipal}
    {writing : Bool} {uid : String} {principal : RoomPrincipal}
    {participant : Directory.Participant}
    (h : humanAuthority host authority writing = .ok (uid, principal, participant)) :
    authority = .ok principal := by
  unfold humanAuthority at h
  obtain ⟨resolved, hresolved, h⟩ := Result.bind_eq_ok.mp h
  obtain ⟨⟨room, member⟩, -, h⟩ := Result.bind_eq_ok.mp h
  obtain ⟨-, h⟩ := Result.check_eq_ok.mp h
  cases writing with
  | false =>
      obtain ⟨-, hpair⟩ := Prod.mk.inj (Result.pure_eq_ok.mp h)
      rw [hresolved, (Prod.mk.inj hpair).1]
  | true =>
      obtain ⟨_, -, h⟩ := Result.bind_eq_ok.mp h
      obtain ⟨-, hpair⟩ := Prod.mk.inj (Result.pure_eq_ok.mp h)
      rw [hresolved, (Prod.mk.inj hpair).1]

/-- What a step that appended a message found, and what it left. -/
structure AppendsTo (s : SideChatStore) (principalId requestId : String) (payload : Json)
    (now : Int) (commit : SideChatCommit) (t : SideChatStore) (uid : String)
    (request : SideChatSend) : Prop where
  parsed : SideChatSend.fromPayload payload = .ok request
  addresses : Addresses request (s.found uid now)
  fresh : ∀ previous ∈ (s.found uid now).messages, ¬previous.isOf principalId requestId
  mark : ((s.found uid now).retainedAfterSeq : Int) ≤ request.afterSeq
  generation : commit.update.generation = (s.found uid now).generation
  seq : commit.update.message.seq = (s.found uid now).latestSeq + 1
  created : commit.update.message.createdAt = now
  appended : ∃ principal entry hentry, StandsFor entry principalId requestId payload commit ∧
    commit.update = newUpdate (s.found uid now) principal entry hentry now ∧
    t = appendedStore s uid principal entry now hentry

/-- A label that appended took a step that appends. -/
theorem appendsTo_of_step {label : SideChatLabel} (hstep : SideChatStep label s t)
    (h : label.Appended principalId requestId payload commit) :
    ∃ uid request, AppendsTo s principalId requestId payload label.now commit t uid request := by
  obtain ⟨principal, completes, hop, rfl, hcommit, hnew⟩ := h
  obtain ⟨hperform, hcommitted⟩ := hstep
  rw [hop] at hperform hcommitted
  have hsends : Sends s (.ok principal) requestId payload label.now _ _ := sends_send
  have hleft : (sendSideChat (.ok principal) requestId payload label.now s).2 = t :=
    congrArg Prod.snd hperform
  have hanswer : (sendSideChat (.ok principal) requestId payload label.now s).1.toOption =
      some commit := hcommitted.symm.trans hcommit
  rw [hleft] at hsends
  generalize (sendSideChat (.ok principal) requestId payload label.now s).1 = answer
    at hsends hanswer
  cases hsends with
  | invalid hrejected => cases hanswer
  | unauthorized hparsed hrefused => cases hanswer
  | refused hparsed hauthorized hanswers => cases hanswer
  | repeats hparsed hauthorized haddresses hfound hsame hhash =>
      obtain rfl := Option.some.inj hanswer
      cases hnew
  | @appends request uid resolved participant entry hparsed hauthorized haddresses hfresh hmark
      hentryEq hentry =>
      obtain rfl := Option.some.inj hanswer
      obtain rfl := Except.ok.inj (humanAuthority_eq_ok hauthorized)
      refine ⟨uid, request, hparsed, haddresses, hfresh, hmark, rfl, hentry, ?_,
        principal, entry, hentry, ⟨?_, ?_, rfl⟩, rfl, rfl⟩
      · show entry.message.createdAt = label.now
        rw [hentryEq]
        rfl
      · rw [hentryEq]
        exact ⟨rfl, rfl⟩
      · rw [hentryEq]
        rfl

namespace AppendsTo

variable {uid : String} {request : SideChatSend}

/-- The request of a message reads from before the message. -/
theorem afterSeq_lt (h : AppendsTo s principalId requestId payload now commit t uid request) :
    request.afterSeq < commit.update.message.seq := by
  have hcursor := h.addresses.cursor
  have hseq := h.seq
  omega

theorem lookup (h : AppendsTo s principalId requestId payload now commit t uid request) :
    ∃ principal entry hentry, StandsFor entry principalId requestId payload commit ∧
      commit.update = newUpdate (s.found uid now) principal entry hentry now ∧
      t.rooms.lookup uid = some (appendedRoom (s.found uid now) principal entry hentry now) := by
  obtain ⟨principal, entry, hentry, hstands, hupdate, rfl⟩ := h.appended
  refine ⟨principal, entry, hentry, hstands, hupdate, ?_⟩
  unfold appendedStore SideChatStore.put
  rw [AList.lookup_insert]

/-- The store knows the message that was appended. -/
theorem recorded (h : AppendsTo s principalId requestId payload now commit t uid request)
    (ht : Sound t) : Recorded t principalId requestId payload commit where
  request := ⟨request, h.parsed, h.addresses.generation.trans h.generation.symm, h.afterSeq_lt⟩
  drawn := by
    obtain ⟨principal, entry, hentry, -, -, hlookup⟩ := h.lookup
    obtain ⟨n, hn, hdrawn⟩ := ht.drawn hlookup
    exact ⟨n, hn, h.generation.trans hdrawn⟩
  kept := by
    intro uid' room hroom hgeneration
    obtain ⟨principal, entry, hentry, hstands, hupdate, hlookup⟩ := h.lookup
    obtain rfl : uid' = uid :=
      ht.generations hroom hlookup (hgeneration.trans h.generation)
    obtain rfl := Option.some.inj (hroom.symm.trans hlookup)
    have hpruned := SideChatRoom.continues_prune
      (((s.found uid' now).push entry hentry).announce
        (newUpdate (s.found uid' now) principal entry hentry now)) now
    refine ⟨?_, ?_, ?_⟩
    · rw [hupdate]
      exact hpruned.updates.subset (List.mem_append_right _ (List.mem_singleton.mpr rfl))
    · rw [h.seq]
      exact hpruned.latest
    · have hseq : entry.seq = commit.update.message.seq :=
        congrArg SideChatMessage.seq hstands.message
      rcases hpruned.kept entry (List.mem_append_right _ (List.mem_singleton.mpr rfl)) with
        hbelow | hstill
      · exact Or.inl (hseq ▸ hbelow)
      · exact Or.inr ⟨entry, hstill, hstands⟩

/-- A message of an earlier request in the lifetime is numbered before, and if it stood under the
same request it was forgotten before the new request read the window. -/
theorem after (h : AppendsTo s principalId requestId payload now commit t uid request)
    {principalId' requestId' : String} {payload' : Json} {earlier : SideChatCommit}
    (hearlier : Recorded s principalId' requestId' payload' earlier)
    (hsame : earlier.update.generation = commit.update.generation) :
    earlier.update.message.seq < commit.update.message.seq ∧
      (principalId' = principalId → requestId' = requestId →
        (earlier.update.message.seq : Int) ≤ request.afterSeq) := by
  obtain ⟨hlatest, hkept⟩ := hearlier.found (h.generation.symm.trans hsame.symm)
  refine ⟨?_, ?_⟩
  · have hseq := h.seq
    omega
  · rintro rfl rfl
    rcases hkept with hbelow | ⟨entry, hentry, hstands⟩
    · have hmark := h.mark
      omega
    · exact absurd hstands.key (h.fresh entry hentry)

end AppendsTo

/-! ## Where entries come from -/

/-- Every entry of a lifetime was in it before, or `new` holds of it. -/
def EntriesFrom (s t : SideChatStore) (new : String → RetainedMessage → Prop) : Prop :=
  ∀ uid room' entry, t.rooms.lookup uid = some room' → entry ∈ room'.messages →
    (∃ room, s.rooms.lookup uid = some room ∧ room'.generation = room.generation ∧
      entry ∈ room.messages) ∨ new room'.generation entry

section Entries

variable {new : String → RetainedMessage → Prop}

omit [UuidText] [DoubleText] [Sha256] [UuidSource] in
theorem entriesFrom_of_stored
    (h : ∀ {uid room'}, t.rooms.lookup uid = some room' → s.rooms.lookup uid = some room') :
    EntriesFrom s t new :=
  fun _ room' _ hroom hentry => Or.inl ⟨room', h hroom, rfl, hentry⟩

omit [UuidText] [DoubleText] [Sha256] in
theorem entriesFrom_enter (s : SideChatStore) (uid : String) :
    EntriesFrom s (s.enter uid).2 new := by
  intro other room' entry hroom hentry
  rw [lookup_enter] at hroom
  split at hroom
  · rename_i hother
    obtain rfl := Option.some.inj hroom
    rcases started_enter s uid with hstored | ⟨-, hnew⟩
    · exact Or.inl ⟨_, hother ▸ hstored, rfl, hentry⟩
    · rw [hnew] at hentry
      cases hentry
  · exact Or.inl ⟨room', hroom, rfl, hentry⟩

omit [UuidText] [DoubleText] [Sha256] in
theorem entriesFrom_put {uid : String} {room' : SideChatRoom}
    (hrooms : t.rooms = (s.enter uid).2.rooms.insert uid room')
    (hgeneration : room'.generation = (s.enter uid).1.generation)
    (hentries : ∀ entry ∈ room'.messages,
      entry ∈ (s.enter uid).1.messages ∨ new room'.generation entry) :
    EntriesFrom s t new := by
  intro other moved entry hmoved hentry
  rw [hrooms, Table.lookup_insert_ite] at hmoved
  split at hmoved
  · rename_i hother
    obtain rfl := Option.some.inj hmoved
    rcases hentries entry hentry with hold | hnew
    · have hfrom : EntriesFrom s (s.enter uid).2 new := entriesFrom_enter s uid
      have hentered : (s.enter uid).2.rooms.lookup uid = some (s.enter uid).1 := by
        rw [lookup_enter, if_pos rfl]
      rcases hfrom uid _ entry hentered hold with ⟨room, hroom, hsame, hmem⟩ | hnew
      · exact Or.inl ⟨room, hother ▸ hroom, hgeneration.trans hsame, hmem⟩
      · exact Or.inr (hgeneration ▸ hnew)
    · exact Or.inr hnew
  · exact entriesFrom_enter s uid other moved entry hmoved hentry

omit [UuidText] [DoubleText] [Sha256] in
theorem entriesFrom_visit (s : SideChatStore) (uid : String) (now : Int) :
    EntriesFrom s (s.visit uid now) new :=
  entriesFrom_put rfl rfl fun _ hentry =>
    Or.inl ((SideChatRoom.suffix_prune _ now).subset hentry)

end Entries

/-- The label appended the message that the entry stands for. -/
def Appends (label : SideChatLabel) (generation : String) (entry : RetainedMessage) : Prop :=
  ∃ payload commit, label.Appended entry.principalId entry.requestId payload commit ∧
    StandsFor entry entry.principalId entry.requestId payload commit ∧
    commit.update.generation = generation

theorem SideChatStep.entries {label : SideChatLabel} (h : SideChatStep label s t) :
    EntriesFrom s t (Appends label) := by
  obtain ⟨hperform, hcommitted⟩ := h
  have hleft : (performSideChat label.op label.now s).2 = t := by rw [hperform]
  cases hop : label.op with
  | send authority requestId payload completes =>
      rw [hop] at hleft hcommitted
      have hsends : Sends s authority requestId payload label.now _ _ := sends_send
      have hstore : (sendSideChat authority requestId payload label.now s).2 = t := hleft
      have hcommit : label.commit =
        (sendSideChat authority requestId payload label.now s).1.toOption := hcommitted
      rw [hstore] at hsends
      generalize (sendSideChat authority requestId payload label.now s).1 = answer
        at hsends hcommit
      cases hsends with
      | invalid hrejected => exact entriesFrom_of_stored id
      | unauthorized hparsed hrefused => exact entriesFrom_of_stored id
      | refused hparsed hauthorized hanswers => exact entriesFrom_visit _ _ _
      | repeats hparsed hauthorized haddresses hfound hsame hhash => exact entriesFrom_visit _ _ _
      | @appends request uid principal participant entry hparsed hauthorized haddresses hfresh
          hmark hnew hentry =>
          refine entriesFrom_put rfl rfl fun other hother => ?_
          have hpushed := (SideChatRoom.suffix_prune _ label.now).subset hother
          rcases List.mem_append.mp hpushed with hold | hlast
          · exact Or.inl ((SideChatRoom.suffix_prune _ label.now).subset hold)
          · obtain rfl := List.mem_singleton.mp hlast
            refine Or.inr ⟨payload, _, ⟨principal, completes, ?_, ?_, hcommit, rfl⟩, ⟨?_, ?_, rfl⟩,
              rfl⟩
            · rw [hop, humanAuthority_eq_ok hauthorized, hnew]
              rfl
            · rw [hnew]
              rfl
            · exact ⟨rfl, rfl⟩
            · rw [hnew]
              rfl
  | snapshot authority completes =>
      rw [hop] at hleft
      have hstore : (sideChatSnapshot authority completes label.now s).2 = t := hleft
      rw [← hstore]
      unfold sideChatSnapshot
      split
      · exact entriesFrom_of_stored id
      · exact entriesFrom_visit _ _ _
  | localSnapshot expected completes =>
      rw [hop] at hleft
      have hstore : (localSideChatSnapshot expected completes label.now s).2 = t := hleft
      rw [← hstore]
      unfold localSideChatSnapshot
      split
      · exact entriesFrom_of_stored id
      · exact entriesFrom_visit _ _ _
  | subscribe authority incarnation completes =>
      rw [hop] at hleft
      have hstore : (subscribeSideChat authority incarnation completes s).2 = t := hleft
      rw [← hstore]
      unfold subscribeSideChat
      split
      · exact entriesFrom_of_stored id
      · split
        · exact entriesFrom_of_stored id
        · exact entriesFrom_enter _ _
  | clearRoom incarnation =>
      rw [hop] at hleft
      rw [← hleft]
      refine entriesFrom_of_stored fun {uid room'} hroom => ?_
      have herased : (s.rooms.erase incarnation).lookup uid = some room' := hroom
      rw [Table.lookup_erase_ite] at herased
      split at herased
      · cases herased
      · exact herased
  | restart =>
      rw [hop] at hleft
      rw [← hleft]
      refine entriesFrom_of_stored fun {uid room'} hroom => ?_
      have hempty : (∅ : Table String SideChatRoom).lookup uid = some room' := hroom
      cases hempty
  | changeHost host =>
      rw [hop] at hleft
      rw [← hleft]
      exact entriesFrom_of_stored id

/-! ## The ledger -/

/-- What an earlier label means for a later one in the same lifetime: its message is numbered
before, and under the same request it was forgotten before the later one read the window. -/
def Precedes (earlier later : SideChatLabel) : Prop :=
  ∀ {principalId requestId payload commit principalId' requestId' payload' commit'},
    earlier.Appended principalId requestId payload commit →
    later.Appended principalId' requestId' payload' commit' →
    commit.update.generation = commit'.update.generation →
    commit.update.message.seq < commit'.update.message.seq ∧
      (principalId = principalId' → requestId = requestId' →
        ∃ request, SideChatSend.fromPayload payload' = .ok request ∧
          (commit.update.message.seq : Int) ≤ request.afterSeq)

/-- What holds after every run. -/
structure SideChatLedger (labels : List SideChatLabel) (s : SideChatStore) : Prop where
  sound : Sound s
  recorded : ∀ label ∈ labels, ∀ {principalId requestId payload commit},
    label.Appended principalId requestId payload commit →
    Recorded s principalId requestId payload commit ∧
      commit.update.message.createdAt = label.now
  precedes : labels.Pairwise Precedes
  sources : ∀ {uid room entry}, s.rooms.lookup uid = some room → entry ∈ room.messages →
    ∃ label ∈ labels, Appends label room.generation entry

theorem SideChatLedger.step {labels : List SideChatLabel} {label : SideChatLabel}
    (h : SideChatLedger labels s) (hstep : SideChatStep label s t) :
    SideChatLedger (labels ++ [label]) t where
  sound := hstep.moves.sound h.sound
  recorded := by
    intro other hother principalId requestId payload commit happended
    rcases List.mem_append.mp hother with hbefore | hlatest
    · obtain ⟨hrecorded, hcreated⟩ := h.recorded other hbefore happended
      exact ⟨hrecorded.evolve hstep.moves.evolves, hcreated⟩
    · obtain rfl := List.mem_singleton.mp hlatest
      obtain ⟨uid, request, happends⟩ := appendsTo_of_step hstep happended
      exact ⟨happends.recorded (hstep.moves.sound h.sound), happends.created⟩
  precedes := by
    rw [List.pairwise_append]
    refine ⟨h.precedes, List.pairwise_singleton _ _, fun earlier hearlier later hlater => ?_⟩
    obtain rfl := List.mem_singleton.mp hlater
    intro principalId requestId payload commit principalId' requestId' payload' commit' happended
      happended' hsame
    obtain ⟨hrecorded, -⟩ := h.recorded earlier hearlier happended
    obtain ⟨uid, request, happends⟩ := appendsTo_of_step hstep happended'
    obtain ⟨hseq, hforgotten⟩ := happends.after hrecorded hsame
    exact ⟨hseq, fun hprincipal hrequest => ⟨request, happends.parsed,
      hforgotten hprincipal hrequest⟩⟩
  sources := by
    intro uid room entry hroom hentry
    rcases hstep.entries uid room entry hroom hentry with ⟨old, hold, hsame, hmem⟩ | hnew
    · obtain ⟨source, hsource, happends⟩ := h.sources hold hmem
      exact ⟨source, List.mem_append_left _ hsource, hsame ▸ happends⟩
    · exact ⟨label, List.mem_append_right _ (List.mem_singleton.mpr rfl), hnew⟩

omit [UuidText] [DoubleText] [Sha256] in
theorem sound_empty (h : s.rooms = ∅) : Sound s where
  rooms := by
    intro uid room hroom
    rw [h] at hroom
    cases hroom
  drawn := by
    intro uid room hroom
    rw [h] at hroom
    cases hroom
  generations := by
    intro uid uid' room room' hroom
    rw [h] at hroom
    cases hroom

theorem ledger_empty (h : s.rooms = ∅) : SideChatLedger [] s where
  sound := sound_empty h
  recorded := fun _ hlabel => absurd hlabel List.not_mem_nil
  precedes := .nil
  sources := by
    intro uid room entry hroom
    rw [h] at hroom
    cases hroom

end Ledger

end AgentsAssemble.Persistence
