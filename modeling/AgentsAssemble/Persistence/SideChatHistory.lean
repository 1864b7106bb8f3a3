import AgentsAssemble.Persistence.SideChat

/-!
# Side chat: what a request does to a room

A request is refused before it reaches the memory, or it visits its room, which prunes it, and
then is refused, repeats a retained message or appends one.  The updates of a room are its whole
history: the retained messages are the end of it above the mark.
-/

namespace AgentsAssemble.Persistence

open Foundation
open Domain (CommandRejection SideChatMessage SideChatSend SideChatSnapshot SideChatUpdate UuidText)
open Domain.CanonicalJson (DoubleText Sha256 canonicalPayloadHash)
open Pairing (Host LocalRoomManagerAuthority RoomPrincipal)

/-! ## Rooms -/

namespace SideChatRoom

/-- The retained messages are the history above the mark, each under its own request. -/
structure Sound (room : SideChatRoom) : Prop where
  announced : room.updates.map (fun update => update.message.seq) = List.range' 1 room.latestSeq
  retained : room.messages.map RetainedMessage.message =
    (room.updates.map SideChatUpdate.message).drop room.retainedAfterSeq
  keys : (room.messages.map fun entry => (entry.principalId, entry.requestId)).Nodup

/-- The same lifetime later: the history goes on, and only what is below the mark is gone. -/
structure Continues (room room' : SideChatRoom) : Prop where
  generation : room'.generation = room.generation
  updates : room.updates <+: room'.updates
  latest : room.latestSeq ≤ room'.latestSeq
  mark : room.retainedAfterSeq ≤ room'.retainedAfterSeq
  kept : ∀ entry ∈ room.messages, entry.seq ≤ room'.retainedAfterSeq ∨ entry ∈ room'.messages

variable {room room' room'' : SideChatRoom} {entry : RetainedMessage} {update : SideChatUpdate}
  {now : Int}

theorem Continues.refl (room : SideChatRoom) : Continues room room :=
  ⟨rfl, List.prefix_refl _, le_rfl, le_rfl, fun _ h => Or.inr h⟩

theorem Continues.trans (h : Continues room room') (h' : Continues room' room'') :
    Continues room room'' where
  generation := h'.generation.trans h.generation
  updates := h.updates.trans h'.updates
  latest := h.latest.trans h'.latest
  mark := h.mark.trans h'.mark
  kept := by
    intro entry hentry
    rcases h.kept entry hentry with hbelow | hkept
    · exact Or.inl (hbelow.trans h'.mark)
    · exact h'.kept entry hkept

theorem sound_new (generation : String) : (SideChatRoom.new generation).Sound :=
  ⟨rfl, rfl, List.nodup_nil⟩

/-! ### Pruning -/

theorem messages_prune (room : SideChatRoom) (now : Int) :
    (room.prune now).messages =
      room.messages.drop ((room.prune now).retainedAfterSeq - room.retainedAfterSeq) :=
  forget_eq_drop room.window

theorem suffix_prune (room : SideChatRoom) (now : Int) :
    (room.prune now).messages <:+ room.messages :=
  forget_suffix _ _

theorem mark_le_prune (room : SideChatRoom) (now : Int) :
    room.retainedAfterSeq ≤ (room.prune now).retainedAfterSeq :=
  forget_low_le room.window

theorem Sound.prune (h : room.Sound) (now : Int) : (room.prune now).Sound where
  announced := h.announced
  retained := by
    have hupdates : (room.prune now).updates = room.updates := rfl
    rw [messages_prune, List.map_drop, h.retained, List.drop_drop, hupdates,
      Nat.add_sub_cancel' (mark_le_prune room now)]
  keys := h.keys.sublist ((suffix_prune room now).sublist.map _)

theorem continues_prune (room : SideChatRoom) (now : Int) : Continues room (room.prune now) where
  generation := rfl
  updates := List.prefix_refl _
  latest := le_rfl
  mark := mark_le_prune room now
  kept := by
    intro entry hentry
    by_cases hmark : entry.seq ≤ (room.prune now).retainedAfterSeq
    · exact Or.inl hmark
    · have hlatest := (room.window.mem hentry).2
      obtain ⟨kept, hkept, hseq⟩ := (room.prune now).window.exists_iff.mpr
        ⟨not_le.mp hmark, hlatest⟩
      have hsame : kept = entry :=
        room.window.unique ((suffix_prune room now).subset hkept) hentry hseq
      exact Or.inr (hsame ▸ hkept)

/-! ### Appending -/

theorem latest_eq (h : room.Sound) : room.updates.length = room.latestSeq := by
  have hlength := congrArg List.length h.announced
  rwa [List.length_map, List.length_range'] at hlength

theorem Sound.push (h : room.Sound) (hentry : entry.seq = room.latestSeq + 1)
    (hupdate : update.message = entry.message)
    (hfresh : ∀ previous ∈ room.messages,
      ¬(previous.principalId = entry.principalId ∧ previous.requestId = entry.requestId)) :
    ((room.push entry hentry).announce update).Sound where
  announced := by
    have hseq : update.message.seq = 1 + room.latestSeq := by
      rw [hupdate, Nat.add_comm]
      exact hentry
    show (room.updates ++ [update]).map _ = List.range' 1 (room.latestSeq + 1)
    rw [List.map_append, h.announced, List.range'_concat, List.map_singleton, hseq, Nat.one_mul]
  retained := by
    show (room.messages ++ [entry]).map RetainedMessage.message =
      ((room.updates ++ [update]).map SideChatUpdate.message).drop room.retainedAfterSeq
    have hmark : room.retainedAfterSeq ≤ (room.updates.map SideChatUpdate.message).length := by
      rw [List.length_map, latest_eq h]
      exact room.window.low_le
    rw [List.map_append, List.map_append, h.retained, List.drop_append_of_le_length hmark,
      List.map_singleton, List.map_singleton, hupdate]
  keys := by
    show ((room.messages ++ [entry]).map fun entry => (entry.principalId, entry.requestId)).Nodup
    rw [List.map_append, List.map_singleton, List.nodup_append]
    refine ⟨h.keys, List.nodup_singleton _, ?_⟩
    rintro key hkey other hother rfl
    obtain ⟨previous, hprevious, hsame⟩ := List.mem_map.mp hkey
    rw [List.mem_singleton] at hother
    obtain ⟨hprincipal, hrequest⟩ := Prod.mk.inj (hsame.trans hother)
    exact hfresh previous hprevious ⟨hprincipal, hrequest⟩

theorem continues_push (room : SideChatRoom) (hentry : entry.seq = room.latestSeq + 1) :
    Continues room ((room.push entry hentry).announce update) where
  generation := rfl
  updates := List.prefix_append _ _
  latest := Nat.le_succ _
  mark := le_rfl
  kept := fun _ hentry => Or.inr (List.mem_append_left _ hentry)

end SideChatRoom

/-! ## Requests -/

section Requests

variable [UuidText] [DoubleText] [Sha256] [UuidSource] {room : SideChatRoom}
  {principal : RoomPrincipal} {participant : Directory.Participant} {requestId id : String}
  {payload : Json} {request : SideChatSend} {now : Int}
  {authority : Except PersistenceError RoomPrincipal} {s : SideChatStore}

/-- The entry of a new message. -/
def newEntry (room : SideChatRoom) (principal : RoomPrincipal)
    (participant : Directory.Participant) (requestId : String) (payload : Json)
    (request : SideChatSend) (now : Int) (id : String) : RetainedMessage :=
  { principalId := principal.principalId
    requestId
    payloadHash := canonicalPayloadHash payload
    message :=
      { id
        seq := room.latestSeq + 1
        createdAt := now
        participantId := participant.participantId
        displayName := participant.displayName
        content := request.content } }

/-- What is announced of a new message. -/
def newUpdate (room : SideChatRoom) (principal : RoomPrincipal) (entry : RetainedMessage)
    (hentry : entry.seq = room.latestSeq + 1) (now : Int) : SideChatUpdate :=
  { roomId := principal.roomId
    generation := room.generation
    retainedAfterSeq := ((room.push entry hentry).prune now).retainedAfterSeq
    message := entry.message }

/-- The room after a new message. -/
def appendedRoom (room : SideChatRoom) (principal : RoomPrincipal) (entry : RetainedMessage)
    (hentry : entry.seq = room.latestSeq + 1) (now : Int) : SideChatRoom :=
  ((room.push entry hentry).announce (newUpdate room principal entry hentry now)).prune now

/-- The answer that repeats a retained message. -/
def repeated (room : SideChatRoom) (principal : RoomPrincipal) (previous : RetainedMessage) :
    SideChatCommit :=
  { update :=
      { roomId := principal.roomId
        generation := room.generation
        retainedAfterSeq := room.retainedAfterSeq
        message := previous.message }
    deduplicated := true }

/-- The request reads the lifetime and the window of the room. -/
structure Addresses (request : SideChatSend) (room : SideChatRoom) : Prop where
  generation : request.generation = room.generation
  cursor : request.afterSeq ≤ room.latestSeq

/-- A retained message stands under the request of the principal. -/
def RetainedMessage.isOf (principalId requestId : String) (entry : RetainedMessage) : Prop :=
  entry.principalId = principalId ∧ entry.requestId = requestId

/-- What `append` answers. -/
inductive Answers (room : SideChatRoom) (principal : RoomPrincipal)
    (participant : Directory.Participant) (requestId : String) (payload : Json)
    (request : SideChatSend) (now : Int) (id : String) :
    Except PersistenceError (SideChatCommit × SideChatRoom) → Prop
  | astray (off : ¬Addresses request room) : Answers room principal participant requestId payload
      request now id (.error expiredRetry)
  | conflict {previous : RetainedMessage} (addresses : Addresses request room)
      (found : previous ∈ room.messages) (same : previous.isOf principal.principalId requestId)
      (other : previous.payloadHash ≠ canonicalPayloadHash payload) :
      Answers room principal participant requestId payload request now id (.error .commandConflict)
  | repeats {previous : RetainedMessage} (addresses : Addresses request room)
      (found : previous ∈ room.messages) (same : previous.isOf principal.principalId requestId)
      (hash : previous.payloadHash = canonicalPayloadHash payload) :
      Answers room principal participant requestId payload request now id
        (.ok (repeated room principal previous, room))
  | forgotten (addresses : Addresses request room)
      (fresh : ∀ previous ∈ room.messages, ¬previous.isOf principal.principalId requestId)
      (behind : request.afterSeq < room.retainedAfterSeq ∨ 2 ^ 63 ≤ room.latestSeq + 1) :
      Answers room principal participant requestId payload request now id (.error expiredRetry)
  | appends (addresses : Addresses request room)
      (fresh : ∀ previous ∈ room.messages, ¬previous.isOf principal.principalId requestId)
      (mark : room.retainedAfterSeq ≤ request.afterSeq) :
      Answers room principal participant requestId payload request now id
        (.ok
          ({ update := newUpdate room principal
               (newEntry room principal participant requestId payload request now id) rfl now
             deduplicated := false },
            appendedRoom room principal
              (newEntry room principal participant requestId payload request now id) rfl now))

omit [UuidText] [UuidSource] in
theorem append_answers :
    Answers room principal participant requestId payload request now id
      (append room principal participant requestId payload request now id) := by
  unfold append
  split
  · rename_i hoff
    refine .astray fun haddresses => ?_
    rcases hoff with hgeneration | hcursor
    · exact hgeneration haddresses.generation
    · exact absurd haddresses.cursor (not_le.mpr hcursor)
  · rename_i hon
    rw [not_or, not_not, not_lt] at hon
    have haddresses : Addresses request room := ⟨hon.1, hon.2⟩
    dsimp only
    split
    · rename_i previous hfind
      have hfound := List.mem_of_find?_eq_some hfind
      have hkey := List.find?_some hfind
      rw [Bool.and_eq_true, beq_iff_eq, beq_iff_eq] at hkey
      split
      · rename_i hother
        exact .conflict haddresses hfound hkey hother
      · rename_i hhash
        exact .repeats haddresses hfound hkey (not_not.mp hhash)
    · rename_i hnone
      have hfresh : ∀ previous ∈ room.messages,
          ¬previous.isOf principal.principalId requestId := by
        rintro previous hprevious ⟨hprincipal, hrequest⟩
        have hmiss := List.find?_eq_none.mp hnone previous hprevious
        rw [hprincipal, hrequest, beq_self_eq_true, beq_self_eq_true] at hmiss
        exact hmiss rfl
      split
      · rename_i hbehind
        exact .forgotten haddresses hfresh (Or.inl hbehind)
      · rename_i hmark
        split
        · rename_i hlast
          exact .forgotten haddresses hfresh (Or.inr hlast)
        · exact .appends haddresses hfresh (not_lt.mp hmark)

/-! ## Visits -/

namespace SideChatStore

/-- The room that a request finds: it is made if need be, and pruned. -/
def found (s : SideChatStore) (uid : String) (now : Int) : SideChatRoom :=
  (s.enter uid).1.prune now

/-- The store after a request found its room. -/
def visit (s : SideChatStore) (uid : String) (now : Int) : SideChatStore :=
  (s.enter uid).2.put uid (s.found uid now)

end SideChatStore

/-- The store after a request appended a message to the room it found. -/
def appendedStore (s : SideChatStore) (uid : String) (principal : RoomPrincipal)
    (entry : RetainedMessage) (now : Int) (hentry : entry.seq = (s.found uid now).latestSeq + 1) :
    SideChatStore :=
  { (s.enter uid).2.put uid (appendedRoom (s.found uid now) principal entry hentry now) with
    uuids := (s.enter uid).2.uuids + 1 }

/-- What a send answers and leaves. -/
inductive Sends (s : SideChatStore) (authority : Except PersistenceError RoomPrincipal)
    (requestId : String) (payload : Json) (now : Int) :
    Except PersistenceError SideChatCommit → SideChatStore → Prop
  | invalid {e : CommandRejection} (rejected : SideChatSend.fromPayload payload = .error e) :
      Sends s authority requestId payload now (.error (rejection e)) s
  | unauthorized {request : SideChatSend} {e : PersistenceError}
      (parsed : SideChatSend.fromPayload payload = .ok request)
      (refused : humanAuthority s.host authority true = .error e) :
      Sends s authority requestId payload now (.error e) s
  | refused {request : SideChatSend} {uid : String} {principal : RoomPrincipal}
      {participant : Directory.Participant} {e : PersistenceError}
      (parsed : SideChatSend.fromPayload payload = .ok request)
      (authorized : humanAuthority s.host authority true = .ok (uid, principal, participant))
      (answers : Answers (s.found uid now) principal participant requestId payload request now
        (UuidSource.newV4 (s.enter uid).2.uuids) (.error e)) :
      Sends s authority requestId payload now (.error e) (s.visit uid now)
  | repeats {request : SideChatSend} {uid : String} {principal : RoomPrincipal}
      {participant : Directory.Participant} {previous : RetainedMessage}
      (parsed : SideChatSend.fromPayload payload = .ok request)
      (authorized : humanAuthority s.host authority true = .ok (uid, principal, participant))
      (addresses : Addresses request (s.found uid now))
      (found : previous ∈ (s.found uid now).messages)
      (same : previous.isOf principal.principalId requestId)
      (hash : previous.payloadHash = canonicalPayloadHash payload) :
      Sends s authority requestId payload now
        (.ok (repeated (s.found uid now) principal previous)) (s.visit uid now)
  | appends {request : SideChatSend} {uid : String} {principal : RoomPrincipal}
      {participant : Directory.Participant} {entry : RetainedMessage}
      (parsed : SideChatSend.fromPayload payload = .ok request)
      (authorized : humanAuthority s.host authority true = .ok (uid, principal, participant))
      (addresses : Addresses request (s.found uid now))
      (fresh : ∀ previous ∈ (s.found uid now).messages,
        ¬previous.isOf principal.principalId requestId)
      (mark : ((s.found uid now).retainedAfterSeq : Int) ≤ request.afterSeq)
      (new : entry = newEntry (s.found uid now) principal participant requestId payload request now
        (UuidSource.newV4 (s.enter uid).2.uuids))
      (hentry : entry.seq = (s.found uid now).latestSeq + 1) :
      Sends s authority requestId payload now
        (.ok
          { update := newUpdate (s.found uid now) principal entry hentry now
            deduplicated := false })
        (appendedStore s uid principal entry now hentry)

theorem sendSideChat_eq {uid : String}
    (hparsed : SideChatSend.fromPayload payload = .ok request)
    (hauthorized : humanAuthority s.host authority true = .ok (uid, principal, participant)) :
    sendSideChat authority requestId payload now s =
      match append (s.found uid now) principal participant requestId payload request now
        (UuidSource.newV4 (s.enter uid).2.uuids) with
      | .error e => (.error e, s.visit uid now)
      | .ok (commit, room) =>
          (.ok commit, { (s.enter uid).2.put uid room with
            uuids := if commit.deduplicated then (s.enter uid).2.uuids
              else (s.enter uid).2.uuids + 1 }) := by
  unfold sendSideChat
  rw [hparsed]
  dsimp only
  rw [hauthorized]
  rfl

theorem sends_send :
    Sends s authority requestId payload now (sendSideChat authority requestId payload now s).1
      (sendSideChat authority requestId payload now s).2 := by
  cases hparsed : SideChatSend.fromPayload payload with
  | error e =>
      unfold sendSideChat
      rw [hparsed]
      exact .invalid hparsed
  | ok request =>
      cases hauthorized : humanAuthority s.host authority true with
      | error e =>
          unfold sendSideChat
          rw [hparsed]
          dsimp only
          rw [hauthorized]
          exact .unauthorized hparsed hauthorized
      | ok found =>
          obtain ⟨uid, principal, participant⟩ := found
          rw [sendSideChat_eq hparsed hauthorized]
          have hanswers : Answers (s.found uid now) principal participant requestId payload request
            now (UuidSource.newV4 (s.enter uid).2.uuids) _ := append_answers
          generalize append (s.found uid now) principal participant requestId payload request now
            (UuidSource.newV4 (s.enter uid).2.uuids) = answer at hanswers
          cases hanswers with
          | astray hoff => exact .refused hparsed hauthorized (.astray hoff)
          | conflict haddresses hfound hsame hother =>
              exact .refused hparsed hauthorized (.conflict haddresses hfound hsame hother)
          | forgotten haddresses hfresh hbehind =>
              exact .refused hparsed hauthorized (.forgotten haddresses hfresh hbehind)
          | repeats haddresses hfound hsame hhash =>
              exact .repeats hparsed hauthorized haddresses hfound hsame hhash
          | appends haddresses hfresh hmark =>
              exact .appends hparsed hauthorized haddresses hfresh hmark rfl rfl

end Requests

end AgentsAssemble.Persistence
