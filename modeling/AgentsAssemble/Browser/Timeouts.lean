import AgentsAssemble.Browser.Transmissions

/-!
# The room socket client: timeouts, closes and disposal

What ends an attempt without an answer: a timeout of the command, the close of
the connection that carried it, another room under the same name, or the
disposal of the handle.
-/

namespace AgentsAssemble.Browser

open Foundation

variable {Payload Result : Type}

namespace RoomSocket

variable {s t : RoomSocket Payload Result} {requestId : String}
  {command : PendingRoomCommand Payload} {live : Prop} {todo : List String} {now : Nat}
  {sends : String → Bool}

/-! ## Uncertain attempts -/

/-- A command whose attempt is counted as uncertain in a generation. -/
def counted (command : PendingRoomCommand Payload) (generation notBefore : Nat) :
    PendingRoomCommand Payload :=
  { command with
    retryAttempt := command.retryAttempt + 1
    retryCountedGeneration := generation
    retryNotBefore := notBefore }

theorem schedule_cases (command : PendingRoomCommand Payload) (generation now : Nat) :
    command.retryCountedGeneration = generation ∧
        scheduleUncertainCommandRetry command generation now = (command, .alreadyCounted) ∨
      ∃ notBefore, command.retryAttempt + 1 < uncertainAttemptLimit ∧
        scheduleUncertainCommandRetry command generation now =
          (counted command generation notBefore, .retry) ∨
      scheduleUncertainCommandRetry command generation now =
          (counted command generation notBefore, .exhausted) := by
  unfold scheduleUncertainCommandRetry
  by_cases hcounted : command.retryCountedGeneration = generation
  · exact Or.inl ⟨hcounted, if_pos hcounted⟩
  · right
    rw [if_neg hcounted]
    unfold uncertainCommandRetryDelay
    dsimp only
    by_cases hlimit : uncertainAttemptLimit ≤ command.retryAttempt + 1
    · rw [if_pos hlimit]
      exact ⟨command.retryNotBefore, Or.inr rfl⟩
    · rw [if_neg hlimit]
      exact ⟨_, Or.inl ⟨Nat.lt_of_not_le hlimit, rfl⟩⟩

theorem rejectUnknown_counted (generation notBefore : Nat) :
    s.rejectUnknown requestId (counted command generation notBefore) =
      s.rejectUnknown requestId command :=
  rfl

/-- An attempt that counts as uncertain gives the command up, or leaves it to the close. -/
theorem Held.count (h : Held live todo s requestId command) (now : Nat)
    (hentry : Entry s requestId command) (hlink : Link s) (hsocket : s.socket ≠ none)
    (hgoes : live →
      (scheduleUncertainCommandRetry command s.connectionGeneration now).2 ≠ .exhausted →
        command.transmissionPhase = .sent ∨ s.Stays) :
    let result := s.countUncertain requestId command s.connectionGeneration now
    (result.2.2 ≠ .retry ∧ Queue live todo result.1) ∨
      (result.2.2 = .retry ∧ ∀ f : Connection → Connection, Gentle f →
        (∀ connection, (f connection).readyState = .closing) →
          Queue live todo (result.1.updateConnection f)) := by
  have hcloses : ∀ {u : RoomSocket Payload Result} {other : PendingRoomCommand Payload},
      u.Closing → (u.Stays ∨ other.transmissionPhase = .sent) →
        u.Awaits todo requestId other := by
    intro u other hclosing hgo
    left
    right
    rcases hgo with hstays | hsent
    · right
      obtain ⟨connection, hsome, hclosing⟩ := hclosing
      unfold Reaches
      rw [hsome]
      exact ⟨hstays connection hsome, Or.inl hclosing⟩
    · exact Or.inl ⟨hsent, hclosing⟩
  unfold countUncertain
  rcases schedule_cases command s.connectionGeneration now with
    ⟨hcounted, heq⟩ | ⟨notBefore, ⟨hlimit, heq⟩ | heq⟩
  · rw [heq]
    refine Or.inl ⟨nofun, h.put hentry fun hlive => ?_⟩
    obtain ⟨connection, hsome⟩ := Option.ne_none_iff_exists'.mp hsocket
    exact hcloses ⟨connection, hsome, (hentry.spent hcounted).closing connection hsome⟩
      (hgoes hlive (by rw [heq]; exact nofun)).symm
  · rw [heq]
    refine Or.inr ⟨rfl, fun f hf hclose => ?_⟩
    have hclosing : (s.updateConnection f).Closing := by
      obtain ⟨connection, hsome⟩ := Option.ne_none_iff_exists'.mp hsocket
      exact ⟨f connection, updateConnection_some hsome, hclose connection⟩
    have hspent : (s.updateConnection f).Spent := by
      refine ⟨fun updated hsome => ?_, hlink.unissued hsocket⟩
      obtain ⟨connection, -, rfl⟩ := updateConnection_inv hsome
      exact hclose connection
    have hedited := (h.edit (counted command s.connectionGeneration notBefore)
      rfl rfl).update hf
    refine hedited.put ((hentry.frame (update_context hf)).count hspent notBefore hlimit)
      fun hlive => hcloses hclosing ?_
    exact (hgoes hlive (by rw [heq]; exact nofun)).symm.imp_left (update_context hf).stays
  · rw [heq]
    refine Or.inl ⟨nofun, ?_⟩
    exact ((h.edit (counted command s.connectionGeneration notBefore) rfl rfl).overwrite
      _).settle (hentry.unknown_sound.congr rfl rfl)

/-! ## Timeouts of a command -/

theorem Held.mono (h : Held live [] s requestId command) : Held live todo s requestId command where
  ledger := h.ledger
  entries := h.entries
  awaits hlive id other hne hother := by
    rcases h.awaits hlive id other hne hother with harmed | ⟨hmem, -⟩
    · exact Or.inl harmed
    · exact nomatch hmem

/-- The rows that a step leaves: those it visited have no attempt in flight. -/
def Idles (visited : List String) (s t : RoomSocket Payload Result) : Prop :=
  ∀ id command, t.pending.lookup id = some command →
    command.transmissionPhase = .idle ∨ id ∉ visited ∧ s.pending.lookup id = some command

theorem Idles.of_row (hoff : ∀ id, id ≠ requestId → t.pending.lookup id = s.pending.lookup id)
    (hidle : ∀ command, t.pending.lookup requestId = some command →
      command.transmissionPhase = .idle) : Idles [requestId] s t := by
  intro id command hcommand
  by_cases hid : id = requestId
  · subst hid
    exact Or.inl (hidle command hcommand)
  · exact Or.inr ⟨fun hmem => hid (List.mem_singleton.mp hmem), hoff id hid ▸ hcommand⟩

theorem arm_off {id : String} (hne : id ≠ requestId) :
    (s.armCommandDeadline requestId command).pending.lookup id = s.pending.lookup id := by
  refine (AList.lookup_insert_ne hne).trans ?_
  exact congrArg (AList.lookup id) (clearTimeout_pending command.timerId)

theorem arm_row : (s.armCommandDeadline requestId command).pending.lookup requestId =
    some { command with timerId := some (s.clearTimeout command.timerId).nextTimer } :=
  AList.lookup_insert _

theorem put_off {id : String} (hne : id ≠ requestId) :
    (s.put requestId command).pending.lookup id = s.pending.lookup id :=
  AList.lookup_insert_ne hne

theorem settle_lookup (outcome : CommandOutcome Payload Result) (id : String) :
    (s.settle requestId command outcome).pending.lookup id =
      if id = requestId then none else s.pending.lookup id := by
  rw [settle_pending, Table.lookup_erase_ite]

/-- The attempt of a closed connection is counted, and its command waits or is given up. -/
theorem Held.close (h : Held live [] s requestId command) (hentry : Entry s requestId command)
    (hspent : s.Spent) (hgeneration : command.transmissionGeneration = s.connectionGeneration)
    (now : Nat)
    {result : RoomSocket Payload Result × PendingRoomCommand Payload × UncertainRetryDecision}
    (hresult : (s.put requestId command).countUncertain requestId command s.connectionGeneration
      now = result) :
    ∃ u, (if result.2.2 = .exhausted then result.1
        else result.1.armCommandDeadline requestId
          { result.2.1 with transmissionPhase := .idle }) = u ∧
      Queue live [] u ∧ Idles [requestId] s u := by
  subst hresult
  have harm : ∀ {command' : PendingRoomCommand Payload}, Entry s requestId command' →
      command'.serial = command.serial → command'.handle = command.handle →
      command'.retryCountedGeneration = command'.transmissionGeneration →
        Queue live [] (((s.put requestId command).put requestId command').armCommandDeadline
            requestId { command' with transmissionPhase := .idle }) ∧
          Idles [requestId] s (((s.put requestId command).put requestId
            command').armCommandDeadline requestId
              { command' with transmissionPhase := .idle }) := by
    intro command' hentry' hserial hhandles hcounted
    constructor
    · refine ((h.edit { command' with transmissionPhase := .idle } hserial
        hhandles).overwrite command |>.overwrite command').arm ?_
      exact ((hentry'.idle hspent hcounted).frame (put_context _ _)).frame (put_context _ _)
    · refine Idles.of_row (fun id hne => ?_) fun other hother => ?_
      · rw [arm_off hne, put_off hne, put_off hne]
      · rw [arm_row] at hother
        obtain rfl := Option.some.inj hother
        rfl
  unfold countUncertain
  rcases schedule_cases command s.connectionGeneration now with
    ⟨hcounted, heq⟩ | ⟨notBefore, ⟨hlimit, heq⟩ | heq⟩
  · rw [heq]
    exact ⟨_, rfl, harm hentry rfl rfl (hcounted.trans hgeneration.symm)⟩
  · rw [heq]
    exact ⟨_, rfl, harm (hentry.count hspent notBefore hlimit) rfl rfl hgeneration.symm⟩
  · rw [heq]
    refine ⟨_, rfl, ?_, ?_⟩
    · exact (((h.edit (counted command s.connectionGeneration notBefore) rfl
        rfl).overwrite _).overwrite _).settle (hentry.unknown_sound.congr rfl rfl)
    · refine Idles.of_row (fun id hne => ?_) fun other hother => ?_
      · show (RoomSocket.settle _ _ _ _).pending.lookup id = _
        rw [settle_lookup, if_neg hne, put_off hne, put_off hne]
      · have hgone : (RoomSocket.settle requestId
            (counted command s.connectionGeneration notBefore)
            (unknownOutcome requestId (counted command s.connectionGeneration notBefore))
            ((s.put requestId command).put requestId
              (counted command s.connectionGeneration notBefore))).pending.lookup requestId =
            some other := hother
        rw [settle_lookup, if_pos rfl] at hgone
        exact nomatch hgone

/-- The client without its connection. -/
def detach (s : RoomSocket Payload Result) : RoomSocket Payload Result :=
  { s with socket := none, transportReady := false }

end RoomSocket

end AgentsAssemble.Browser
