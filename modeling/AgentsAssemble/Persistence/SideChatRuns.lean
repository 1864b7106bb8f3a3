import AgentsAssemble.Foundation.Transition
import AgentsAssemble.Persistence.SideChatHistory

/-!
# Side chat: operations

What an operation can do is said once: each room is left, pruned, or pruned and given one new
message, and at most one room is made.  So the lifetimes stay apart and their histories only
grow, whatever the instants of the operations.
-/

namespace AgentsAssemble.Persistence

open Foundation
open Domain (CommandRejection SideChatMessage SideChatSend SideChatSnapshot SideChatUpdate UuidText)
open Domain.CanonicalJson (DoubleText Sha256 canonicalPayloadHash)
open Pairing (Host LocalRoomManagerAuthority RoomPrincipal)

/-! ## Operations -/

inductive SideChatOp
  | send (authority : Except PersistenceError RoomPrincipal) (requestId : String) (payload : Json)
      (completes : Bool)
  | snapshot (authority : Except PersistenceError RoomPrincipal) (completes : Bool)
  | localSnapshot (expected : LocalRoomManagerAuthority) (completes : Bool)
  | subscribe (authority : Except PersistenceError RoomPrincipal) (incarnation : String)
      (completes : Bool)
  | clearRoom (incarnation : String)
  | restart
  | changeHost (host : Host)

inductive SideChatOutcome
  | commit (commit : SideChatCommit)
  | snapshot (snapshot : SideChatSnapshot)
  | subscribed (announced : Nat)
  | done

/-- An operation at an instant, with its outcome and with what a send committed in memory. -/
structure SideChatLabel where
  op : SideChatOp
  now : Int
  outcome : Except PersistenceError SideChatOutcome
  commit : Option SideChatCommit

section Runs

variable [UuidText] [DoubleText] [Sha256] [UuidSource]

def performSideChat (op : SideChatOp) (now : Int) (store : SideChatStore) :
    Except PersistenceError SideChatOutcome × SideChatStore :=
  match op with
  | .send authority requestId payload completes =>
      (executeSideChat authority requestId payload completes now store).map
        (Except.map .commit) id
  | .snapshot authority completes =>
      (sideChatSnapshot authority completes now store).map (Except.map .snapshot) id
  | .localSnapshot expected completes =>
      (localSideChatSnapshot expected completes now store).map (Except.map .snapshot) id
  | .subscribe authority incarnation completes =>
      (subscribeSideChat authority incarnation completes store).map (Except.map .subscribed) id
  | .clearRoom incarnation => (.ok .done, clearRoom incarnation store)
  | .restart => (.ok .done, { store with rooms := ∅ })
  | .changeHost host => (.ok .done, { store with host })

/-- What a send commits in memory, whether or not its caller learns of it. -/
def committed (op : SideChatOp) (now : Int) (store : SideChatStore) : Option SideChatCommit :=
  match op with
  | .send authority requestId payload _ =>
      (sendSideChat authority requestId payload now store).1.toOption
  | _ => none

/-- One operation, at any instant. -/
def SideChatStep (label : SideChatLabel) (s t : SideChatStore) : Prop :=
  performSideChat label.op label.now s = (label.outcome, t) ∧
    label.commit = committed label.op label.now s

/-- The label appended a message for the request of a principal. -/
def SideChatLabel.Appended (label : SideChatLabel) (principalId requestId : String)
    (payload : Json) (commit : SideChatCommit) : Prop :=
  ∃ principal completes, label.op = .send (.ok principal) requestId payload completes ∧
    principal.principalId = principalId ∧ label.commit = some commit ∧
    commit.deduplicated = false

/-! ## What an operation can do -/

/-- What an operation can do to one room. -/
inductive RoomMoves (now : Int) (room : SideChatRoom) : SideChatRoom → Prop
  | same : RoomMoves now room room
  | pruned : RoomMoves now room (room.prune now)
  | appended {principal : RoomPrincipal} {entry : RetainedMessage}
      (hentry : entry.seq = (room.prune now).latestSeq + 1)
      (fresh : ∀ previous ∈ (room.prune now).messages,
        ¬previous.isOf entry.principalId entry.requestId)
      (created : entry.message.createdAt = now) :
      RoomMoves now room (appendedRoom (room.prune now) principal entry hentry now)

/-- The room was stored, or was just made. -/
def Started (s : SideChatStore) (uid : String) (room : SideChatRoom) : Prop :=
  s.rooms.lookup uid = some room ∨
    s.rooms.lookup uid = none ∧ room = SideChatRoom.new (UuidSource.newV4 s.uuids)

/-- What an operation can do to the store: each room moved, and at most one was made. -/
structure StoreMoves (s : SideChatStore) (now : Int) (t : SideChatStore) : Prop where
  uuids : s.uuids ≤ t.uuids
  rooms : ∀ {uid room'}, t.rooms.lookup uid = some room' →
    ∃ room, Started s uid room ∧ RoomMoves now room room'
  single : ∃ uid, ∀ other room', t.rooms.lookup other = some room' →
    s.rooms.lookup other = none → other = uid ∧ s.uuids < t.uuids

variable {s t : SideChatStore} {now : Int}

omit [UuidText] [DoubleText] [Sha256] in
theorem StoreMoves.of_stored (huuids : s.uuids ≤ t.uuids)
    (h : ∀ {uid room'}, t.rooms.lookup uid = some room' → s.rooms.lookup uid = some room') :
    StoreMoves s now t where
  uuids := huuids
  rooms := fun {uid room'} hroom => ⟨room', Or.inl (h hroom), .same⟩
  single := by
    refine ⟨"", fun other room' hroom hnone => ?_⟩
    rw [h hroom] at hnone
    cases hnone

omit [UuidText] [DoubleText] [Sha256] in
theorem started_enter (s : SideChatStore) (uid : String) : Started s uid (s.enter uid).1 := by
  unfold SideChatStore.enter Started
  cases hroom : s.rooms.lookup uid with
  | some room => exact Or.inl rfl
  | none => exact Or.inr ⟨rfl, rfl⟩

omit [UuidText] [DoubleText] [Sha256] in
theorem uuids_le_enter (s : SideChatStore) (uid : String) : s.uuids ≤ (s.enter uid).2.uuids := by
  unfold SideChatStore.enter
  split
  · exact le_rfl
  · exact Nat.le_succ _

omit [UuidText] [DoubleText] [Sha256] in
theorem uuids_lt_enter {uid : String} (hnone : s.rooms.lookup uid = none) :
    s.uuids < (s.enter uid).2.uuids := by
  unfold SideChatStore.enter
  rw [hnone]
  exact Nat.lt_succ_self _

omit [UuidText] [DoubleText] [Sha256] in
theorem lookup_enter (s : SideChatStore) (uid other : String) :
    (s.enter uid).2.rooms.lookup other =
      if other = uid then some (s.enter uid).1 else s.rooms.lookup other := by
  unfold SideChatStore.enter
  cases hroom : s.rooms.lookup uid with
  | some room =>
      by_cases hother : other = uid
      · rw [if_pos hother, hother]
        exact hroom
      · rw [if_neg hother]
  | none =>
      dsimp only
      rw [Table.lookup_insert_ite]

omit [UuidText] [DoubleText] [Sha256] in
/-- A room that was entered and then put back changed. -/
theorem StoreMoves.of_put {uid : String} {room' : SideChatRoom}
    (hrooms : t.rooms = (s.enter uid).2.rooms.insert uid room')
    (huuids : (s.enter uid).2.uuids ≤ t.uuids) (hmoves : RoomMoves now (s.enter uid).1 room') :
    StoreMoves s now t where
  uuids := (uuids_le_enter s uid).trans huuids
  rooms := by
    intro other moved hmoved
    rw [hrooms, Table.lookup_insert_ite, lookup_enter] at hmoved
    by_cases hother : other = uid
    · rw [if_pos hother] at hmoved
      rw [hother, ← Option.some.inj hmoved]
      exact ⟨_, started_enter s uid, hmoves⟩
    · rw [if_neg hother, if_neg hother] at hmoved
      exact ⟨moved, Or.inl hmoved, .same⟩
  single := by
    refine ⟨uid, fun other moved hmoved hnone => ?_⟩
    rw [hrooms, Table.lookup_insert_ite, lookup_enter] at hmoved
    by_cases hother : other = uid
    · exact ⟨hother, (uuids_lt_enter (hother ▸ hnone)).trans_le huuids⟩
    · rw [if_neg hother, if_neg hother, hnone] at hmoved
      cases hmoved

omit [UuidText] [DoubleText] [Sha256] in
theorem storeMoves_enter (s : SideChatStore) (uid : String) (now : Int) :
    StoreMoves s now (s.enter uid).2 where
  uuids := uuids_le_enter s uid
  rooms := by
    intro other room' hroom
    rw [lookup_enter] at hroom
    by_cases hother : other = uid
    · rw [if_pos hother] at hroom
      rw [hother, ← Option.some.inj hroom]
      exact ⟨_, started_enter s uid, .same⟩
    · rw [if_neg hother] at hroom
      exact ⟨room', Or.inl hroom, .same⟩
  single := by
    refine ⟨uid, fun other room' hroom hnone => ?_⟩
    rw [lookup_enter] at hroom
    by_cases hother : other = uid
    · exact ⟨hother, uuids_lt_enter (hother ▸ hnone)⟩
    · rw [if_neg hother, hnone] at hroom
      cases hroom

omit [UuidText] [DoubleText] [Sha256] in
theorem storeMoves_visit (s : SideChatStore) (uid : String) (now : Int) :
    StoreMoves s now (s.visit uid now) :=
  .of_put rfl le_rfl .pruned

omit [UuidText] in
theorem Sends.moves {authority : Except PersistenceError RoomPrincipal} {requestId : String}
    {payload : Json} {answer : Except PersistenceError SideChatCommit} [UuidText]
    (h : Sends s authority requestId payload now answer t) : StoreMoves s now t := by
  cases h with
  | invalid hrejected => exact .of_stored le_rfl id
  | unauthorized hparsed hrefused => exact .of_stored le_rfl id
  | refused hparsed hauthorized hanswers => exact storeMoves_visit _ _ _
  | repeats hparsed hauthorized haddresses hfound hsame hhash => exact storeMoves_visit _ _ _
  | appends hparsed hauthorized haddresses hfresh hmark hnew hentry =>
      refine .of_put rfl (Nat.le_succ _) (.appended hentry ?_ ?_)
      · rw [hnew]
        exact hfresh
      · rw [hnew]
        rfl

theorem perform_moves (op : SideChatOp) (now : Int) (s : SideChatStore) :
    StoreMoves s now (performSideChat op now s).2 := by
  cases op with
  | send authority requestId payload completes => exact sends_send.moves
  | snapshot authority completes =>
      show StoreMoves s now (sideChatSnapshot authority completes now s).2
      unfold sideChatSnapshot
      split
      · exact .of_stored le_rfl id
      · exact storeMoves_visit _ _ _
  | localSnapshot expected completes =>
      show StoreMoves s now (localSideChatSnapshot expected completes now s).2
      unfold localSideChatSnapshot
      split
      · exact .of_stored le_rfl id
      · exact storeMoves_visit _ _ _
  | subscribe authority incarnation completes =>
      show StoreMoves s now (subscribeSideChat authority incarnation completes s).2
      unfold subscribeSideChat
      split
      · exact .of_stored le_rfl id
      · split
        · exact .of_stored le_rfl id
        · exact storeMoves_enter _ _ _
  | clearRoom incarnation =>
      refine .of_stored le_rfl fun {uid room'} hroom => ?_
      have herased : (s.rooms.erase incarnation).lookup uid = some room' := hroom
      rw [Table.lookup_erase_ite] at herased
      split at herased
      · cases herased
      · exact herased
  | restart =>
      refine .of_stored le_rfl fun {uid room'} hroom => ?_
      have hempty : (∅ : Table String SideChatRoom).lookup uid = some room' := hroom
      cases hempty
  | changeHost host => exact .of_stored le_rfl id

/-! ## Rooms that move -/

namespace RoomMoves

variable {room room' : SideChatRoom}

omit [UuidText] [DoubleText] [Sha256] [UuidSource] in
theorem sound (h : RoomMoves now room room') (hroom : room.Sound) : room'.Sound := by
  cases h with
  | same => exact hroom
  | pruned => exact hroom.prune now
  | appended hentry hfresh hcreated =>
      exact ((hroom.prune now).push hentry rfl hfresh).prune now

omit [UuidText] [DoubleText] [Sha256] [UuidSource] in
theorem continues (h : RoomMoves now room room') : SideChatRoom.Continues room room' := by
  cases h with
  | same => exact .refl room
  | pruned => exact SideChatRoom.continues_prune room now
  | appended hentry hfresh hcreated =>
      refine (SideChatRoom.continues_prune room now).trans ?_
      exact (SideChatRoom.continues_push _ hentry).trans (SideChatRoom.continues_prune _ now)

end RoomMoves

/-! ## Stores -/

/-- Each room keeps its history, in a lifetime of its own. -/
structure SideChatStore.Sound (s : SideChatStore) : Prop where
  rooms : ∀ {uid room}, s.rooms.lookup uid = some room → room.Sound
  drawn : ∀ {uid room}, s.rooms.lookup uid = some room →
    ∃ n < s.uuids, room.generation = UuidSource.newV4 n
  generations : ∀ {uid uid' room room'}, s.rooms.lookup uid = some room →
    s.rooms.lookup uid' = some room' → room.generation = room'.generation → uid = uid'

/-- Every lifetime of a later store continues one of the earlier store or began since. -/
structure SideChatStore.Evolves (s t : SideChatStore) : Prop where
  uuids : s.uuids ≤ t.uuids
  rooms : ∀ {uid room'}, t.rooms.lookup uid = some room' →
    (∃ room, s.rooms.lookup uid = some room ∧ SideChatRoom.Continues room room') ∨
      ∃ n, s.uuids ≤ n ∧ room'.generation = UuidSource.newV4 n

open SideChatStore (Sound Evolves)

omit [UuidText] [DoubleText] [Sha256] in
theorem SideChatStore.Evolves.refl (s : SideChatStore) : Evolves s s :=
  ⟨le_rfl, fun hroom => Or.inl ⟨_, hroom, .refl _⟩⟩

omit [UuidText] [DoubleText] [Sha256] in
theorem SideChatStore.Evolves.trans {u : SideChatStore} (hst : Evolves s t) (htu : Evolves t u) :
    Evolves s u where
  uuids := hst.uuids.trans htu.uuids
  rooms := by
    intro uid room'' hroom''
    rcases htu.rooms hroom'' with ⟨room', hroom', hcontinues'⟩ | ⟨n, hn, hgeneration⟩
    · rcases hst.rooms hroom' with ⟨room, hroom, hcontinues⟩ | ⟨n, hn, hgeneration⟩
      · exact Or.inl ⟨room, hroom, hcontinues.trans hcontinues'⟩
      · exact Or.inr ⟨n, hn, hcontinues'.generation.trans hgeneration⟩
    · exact Or.inr ⟨n, hst.uuids.trans hn, hgeneration⟩

omit [UuidText] [DoubleText] [Sha256] in
/-- A lifetime that is still there is the same room, continued. -/
theorem SideChatStore.Evolves.continues (hs : Sound s) (h : Evolves s t) {uid uid' : String}
    {room room' : SideChatRoom} (hroom : s.rooms.lookup uid = some room)
    (hroom' : t.rooms.lookup uid' = some room') (hsame : room'.generation = room.generation) :
    uid' = uid ∧ SideChatRoom.Continues room room' := by
  rcases h.rooms hroom' with ⟨old, hold, hcontinues⟩ | ⟨n, hn, hgeneration⟩
  · have huid := hs.generations hold hroom (hcontinues.generation.symm.trans hsame)
    subst huid
    obtain rfl := Option.some.inj (hold.symm.trans hroom)
    exact ⟨rfl, hcontinues⟩
  · obtain ⟨m, hm, hdrawn⟩ := hs.drawn hroom
    have hnm : n = m :=
      UuidSource.newV4_injective (hgeneration.symm.trans (hsame.trans hdrawn))
    omega

namespace StoreMoves

omit [UuidText] [DoubleText] [Sha256] in
/-- The lifetime of a moved room. -/
theorem generation (h : StoreMoves s now t) {uid : String} {room' : SideChatRoom}
    (hroom' : t.rooms.lookup uid = some room') :
    (∃ room, s.rooms.lookup uid = some room ∧ room'.generation = room.generation) ∨
      s.rooms.lookup uid = none ∧ room'.generation = UuidSource.newV4 s.uuids := by
  obtain ⟨room, hstarted, hmoves⟩ := h.rooms hroom'
  have hgeneration := hmoves.continues.generation
  rcases hstarted with hstored | ⟨hnone, rfl⟩
  · exact Or.inl ⟨room, hstored, hgeneration⟩
  · exact Or.inr ⟨hnone, hgeneration⟩

omit [UuidText] [DoubleText] [Sha256] in
theorem sound (h : StoreMoves s now t) (hs : Sound s) : Sound t where
  rooms := by
    intro uid room' hroom'
    obtain ⟨room, hstarted, hmoves⟩ := h.rooms hroom'
    rcases hstarted with hstored | ⟨-, rfl⟩
    · exact hmoves.sound (hs.rooms hstored)
    · exact hmoves.sound (SideChatRoom.sound_new _)
  drawn := by
    intro uid room' hroom'
    have huuids := h.uuids
    rcases h.generation hroom' with ⟨room, hstored, hsame⟩ | ⟨hnone, hnew⟩
    · obtain ⟨n, hn, hdrawn⟩ := hs.drawn hstored
      exact ⟨n, by omega, hsame.trans hdrawn⟩
    · obtain ⟨_, hsingle⟩ := h.single
      exact ⟨s.uuids, (hsingle uid room' hroom' hnone).2, hnew⟩
  generations := by
    intro uid uid' room₁ room₂ hroom₁ hroom₂ hsame
    rcases h.generation hroom₁ with ⟨old₁, hold₁, heq₁⟩ | ⟨hnone₁, hnew₁⟩
    · rcases h.generation hroom₂ with ⟨old₂, hold₂, heq₂⟩ | ⟨hnone₂, hnew₂⟩
      · exact hs.generations hold₁ hold₂ (heq₁.symm.trans (hsame.trans heq₂))
      · obtain ⟨n, hn, hdrawn⟩ := hs.drawn hold₁
        have heq : n = s.uuids := UuidSource.newV4_injective
          (hdrawn.symm.trans (heq₁.symm.trans (hsame.trans hnew₂)))
        omega
    · rcases h.generation hroom₂ with ⟨old₂, hold₂, heq₂⟩ | ⟨hnone₂, hnew₂⟩
      · obtain ⟨n, hn, hdrawn⟩ := hs.drawn hold₂
        have heq : n = s.uuids := UuidSource.newV4_injective
          (hdrawn.symm.trans (heq₂.symm.trans (hsame.symm.trans hnew₁)))
        omega
      · obtain ⟨made, hsingle⟩ := h.single
        rw [(hsingle uid room₁ hroom₁ hnone₁).1, (hsingle uid' room₂ hroom₂ hnone₂).1]

omit [UuidText] [DoubleText] [Sha256] in
theorem evolves (h : StoreMoves s now t) : Evolves s t where
  uuids := h.uuids
  rooms := by
    intro uid room' hroom'
    obtain ⟨room, hstarted, hmoves⟩ := h.rooms hroom'
    rcases hstarted with hstored | ⟨-, rfl⟩
    · exact Or.inl ⟨room, hstored, hmoves.continues⟩
    · exact Or.inr ⟨s.uuids, le_rfl, hmoves.continues.generation⟩

end StoreMoves

theorem SideChatStep.moves {label : SideChatLabel} (h : SideChatStep label s t) :
    StoreMoves s label.now t := by
  have hmoves := perform_moves label.op label.now s
  rw [h.1] at hmoves
  exact hmoves

end Runs

end AgentsAssemble.Persistence
