import AgentsAssemble.System.Batches
import AgentsAssemble.System.Scheduling

/-!
# Who takes the floor

An ordered room gives the floor to one session at a time, the one that waits
for the oldest message.  An ambient room gives every waiting session a turn.
The results hold wherever the scheduler is called: at a reachable room, or part
way through an operation on one.
-/

namespace AgentsAssemble.System

open Foundation Domain Persistence Protocol Tx

/-! ## Waiting and taking -/

/-- `b` is `a` with a non-empty prefix of its pending inputs, all of one kind, in flight, and
the cursors of its turn at the last of them. -/
structure TakesTurn (events : List RoomEvent) (a b : DurableAgentSession) : Prop where
  sessionId : b.sessionId = a.sessionId
  queue : b.inflightInputs ++ b.pendingInputs = a.pendingInputs
  nonempty : b.inflightInputs ≠ []
  kinds : ∀ x ∈ b.inflightInputs, ∀ y ∈ b.inflightInputs, x.deliveryKind = y.deliveryKind
  last : ∃ input e, b.inflightInputs.getLast? = some input ∧ e ∈ events ∧
    e.id = input.eventId ∧ b.activeSourceEventId = e.id ∧ b.inputUpToSeq = e.seq

/-! ## Candidates -/

section Floor

variable [UuidSource]

omit [UuidSource] in
theorem TakesTurn.mono {events events' : List RoomEvent} {a b : DurableAgentSession}
    (h : TakesTurn events a b) (hsub : events ⊆ events') : TakesTurn events' a b := by
  obtain ⟨input, e, hlast, he, hid, hsource, hseq⟩ := h.last
  exact ⟨h.sessionId, h.queue, h.nonempty, h.kinds, input, e, hlast, hsub he, hid, hsource, hseq⟩

variable [TextServices]

variable [CaseFold]

end Floor

/-! ## A restart quiesces the floor -/

namespace Sample

def ambientRoom : Store :=
  { emptyRoom with settings := ⟨"ambient", "none", false⟩ }

theorem ambientRoom_initial : IsInitial ambientRoom :=
  ⟨rfl, rfl, rfl, rfl, rfl, rfl, rfl⟩

/-- The rest of the server starts or ends a restart. -/
def quiesce (s : Store) (quiescing : Bool) : Store :=
  { s with restartQuiescing := quiescing }

/-- The launched agent got a message while a restart was quiescing the room. -/
def waitingRoom : Store :=
  roomAfter (quiesce (roomAfter ambientRoom launchBot) true)
    [.sendMessage owner (.message ⟨"hello", none⟩) 0 0]

theorem quiesce_reachable {s : Store} (h : IsReachable s) (quiescing : Bool) :
    IsReachable (quiesce s quiescing) := by
  refine Reachable.step h (Step.outside ⟨rfl, rfl, rfl, rfl, rfl, rfl, ?_⟩)
  refine ⟨[], ?_, Fresh.none (Nat.le_refl _), fun e he => absurd he List.not_mem_nil⟩
  rw [List.append_nil]
  rfl

theorem waitingRoom_reachable : IsReachable waitingRoom := by
  unfold waitingRoom
  refine reachable_roomAfter (quiesce_reachable (reachable_roomAfter ?_ _) _) _
  exact ⟨ambientRoom, [], ambientRoom_initial, Run.nil _⟩

/-- The agent could take a turn, and has something pending. -/
def botWaits (s : Store) : Bool :=
  (s.sessions.lookup "bot").any fun a =>
    sessionIsAssignable a && isAvailable s a && a.pendingInputs != [] &&
      (s.participants.lookup a.participantId).any fun participant =>
        participant.status == .joined && !participant.muted

theorem botWaits_sound {s : Store} (h : botWaits s = true) :
    ∃ a participant, s.sessions.lookup "bot" = some a ∧ sessionIsAssignable a = true ∧
      isAvailable s a = true ∧ s.participants.lookup a.participantId = some participant ∧
      participant.status = .joined ∧ participant.muted = false ∧ a.pendingInputs ≠ [] := by
  rw [botWaits, Option.any_eq_true] at h
  obtain ⟨a, ha, h⟩ := h
  simp only [Bool.and_eq_true, beq_iff_eq, bne_iff_ne, Option.any_eq_true,
    Bool.not_eq_eq_eq_not, Bool.not_true] at h
  obtain ⟨⟨⟨hassignable, havailable⟩, hpending⟩, participant, hparticipant, hjoined, hheard⟩ := h
  exact ⟨a, participant, ha, hassignable, havailable, hparticipant, hjoined, hheard, hpending⟩

end Sample

end AgentsAssemble.System
