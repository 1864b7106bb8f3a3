import AgentsAssemble.Browser.RoomSocketEvents

/-!
# The room socket client: the queue

What the client knows of the commands it was given: which are pending, which
settled and how, what was transmitted, and which timeouts are armed.  A command
that is being worked on is held: the client is sound but for its row.
-/

namespace AgentsAssemble.Browser

open Foundation

variable {Payload Result : Type}

namespace PendingRoomCommand

variable {command : PendingRoomCommand Payload} {kind : TimerKind} {timer : Option Nat}

/-- The handle of an armed timeout of a command. -/
def handle (command : PendingRoomCommand Payload) : TimerKind → Option Nat
  | .deadline => command.timerId
  | .retry => command.retryTimerId

def withHandle (command : PendingRoomCommand Payload) (kind : TimerKind) (timer : Option Nat) :
    PendingRoomCommand Payload :=
  match kind with
  | .deadline => { command with timerId := timer }
  | .retry => { command with retryTimerId := timer }

@[simp] theorem withHandle_serial : (command.withHandle kind timer).serial = command.serial := by
  cases kind <;> rfl

theorem handle_withHandle (kind' : TimerKind) :
    (command.withHandle kind timer).handle kind' =
      if kind' = kind then timer else command.handle kind' := by
  cases kind <;> cases kind' <;> rfl

end PendingRoomCommand

namespace RoomSocket

variable {s t : RoomSocket Payload Result} {requestId : String}
  {command command' : PendingRoomCommand Payload}

/-! ## The archive -/

/-- How often the bytes of a command were transmitted. -/
def sentCount (s : RoomSocket Payload Result) (serial : Nat) : Nat :=
  s.sent.countP fun transmission => transmission.serial == serial

/-- An outcome says what happened to its command. -/
def OutcomeSound (s : RoomSocket Payload Result) (settlement : Settlement Payload Result) : Prop :=
  match settlement.outcome with
  | .resolved ack => ack.accepted = true ∧ ack.resolution = .committed ∧
      ∃ issue, s.issued[settlement.serial]? = some issue ∧ ack.requestId = issue.requestId ∧
        ack.action = issue.action
  | .neverSent _ => ∀ transmission ∈ s.sent, transmission.serial ≠ settlement.serial
  | .refused _ => True
  | .unknown _ replay => ∃ issue, s.issued[settlement.serial]? = some issue ∧
      replay.requestId = issue.requestId ∧ replay.action = issue.action ∧
        replay.encoded = issue.encoded

/-- What was transmitted and what settled agree with what was issued. -/
structure Archive (s : RoomSocket Payload Result) : Prop where
  settledOnce : (s.settled.map Settlement.serial).Nodup
  settledIssued : ∀ settlement ∈ s.settled, settlement.serial < s.issued.length
  outcomes : ∀ settlement ∈ s.settled, OutcomeSound s settlement
  sentOnce : (s.sent.map fun transmission => (transmission.serial, transmission.generation)).Nodup
  sentSound : ∀ transmission ∈ s.sent, ∃ issue, s.issued[transmission.serial]? = some issue ∧
    transmission.bytes = issue.encoded ∧ transmission.roomUid ≠ none ∧
      ∀ roomUid, issue.roomUid = some roomUid → transmission.roomUid = some roomUid
  sentRoom : ∀ first ∈ s.sent, ∀ second ∈ s.sent, first.serial = second.serial →
    first.roomUid = second.roomUid
  sentFew : ∀ serial, s.sentCount serial ≤ uncertainAttemptLimit

theorem OutcomeSound.congr {settlement : Settlement Payload Result}
    (h : OutcomeSound s settlement) (hissued : t.issued = s.issued) (hsent : t.sent = s.sent) :
    OutcomeSound t settlement := by
  unfold OutcomeSound at h ⊢
  rw [hissued, hsent]
  exact h

theorem Archive.congr (h : Archive s) (hsettled : t.settled = s.settled)
    (hissued : t.issued = s.issued) (hsent : t.sent = s.sent) : Archive t where
  settledOnce := hsettled ▸ h.settledOnce
  settledIssued := hsettled ▸ hissued ▸ h.settledIssued
  outcomes settlement hmem :=
    (h.outcomes settlement (hsettled ▸ hmem)).congr hissued hsent
  sentOnce := hsent ▸ h.sentOnce
  sentSound := hsent ▸ hissued ▸ h.sentSound
  sentRoom := hsent ▸ h.sentRoom
  sentFew := by
    unfold sentCount
    rw [hsent]
    exact h.sentFew

/-! ## The ledger -/

/-- The commands that are pending, under their request ids. -/
abbrev Rows (Payload : Type) := String → Option (PendingRoomCommand Payload)

/-- Every issued command is pending or settled, and every armed timeout belongs to a pending one. -/
structure Ledger (s : RoomSocket Payload Result) (rows : Rows Payload) : Prop where
  archive : Archive s
  distinct : ∀ id id' command command', rows id = some command → rows id' = some command' →
    command.serial = command'.serial → id = id'
  handles : ∀ id command kind timer, rows id = some command → command.handle kind = some timer →
    s.timers.lookup timer = some ⟨kind, id, command.serial⟩
  owned : ∀ timer task, s.timers.lookup timer = some task →
    ∃ command, rows task.requestId = some command ∧ command.serial = task.serial ∧
      command.handle task.kind = some timer
  fresh : ∀ timer task, s.timers.lookup timer = some task → timer < s.nextTimer
  issued : ∀ id command, rows id = some command → command.serial < s.issued.length
  apart : ∀ settlement ∈ s.settled, ∀ id command, rows id = some command →
    command.serial ≠ settlement.serial
  covered : ∀ serial < s.issued.length,
    (∃ id command, rows id = some command ∧ command.serial = serial) ∨
      ∃ settlement ∈ s.settled, settlement.serial = serial

variable {rows : Rows Payload}

theorem Ledger.later (h : Ledger s rows) (htimers : t.timers = s.timers)
    (hnext : s.nextTimer ≤ t.nextTimer) (hsettled : t.settled = s.settled)
    (hissued : t.issued = s.issued) (hsent : t.sent = s.sent) : Ledger t rows where
  archive := h.archive.congr hsettled hissued hsent
  distinct := h.distinct
  handles := htimers ▸ h.handles
  owned := htimers ▸ h.owned
  fresh timer task htask := Nat.lt_of_lt_of_le (h.fresh timer task (htimers ▸ htask)) hnext
  issued := hissued ▸ h.issued
  apart := hsettled ▸ h.apart
  covered := hsettled ▸ hissued ▸ h.covered

theorem Ledger.congr (h : Ledger s rows) (htimers : t.timers = s.timers)
    (hnext : t.nextTimer = s.nextTimer) (hsettled : t.settled = s.settled)
    (hissued : t.issued = s.issued) (hsent : t.sent = s.sent) : Ledger t rows :=
  h.later htimers hnext.ge hsettled hissued hsent

theorem update_cases {id : String} {row : Option (PendingRoomCommand Payload)}
    (h : Function.update rows requestId row id = some command) :
    (id = requestId ∧ row = some command) ∨ (id ≠ requestId ∧ rows id = some command) := by
  by_cases hid : id = requestId
  · subst hid
    rw [Function.update_self] at h
    exact Or.inl ⟨rfl, h⟩
  · rw [Function.update_of_ne hid] at h
    exact Or.inr ⟨hid, h⟩

/-- One command is rewritten: its new timeouts are its new handles, the others' stay. -/
theorem Ledger.rewrite (h : Ledger s rows) (hrow : rows requestId = some command)
    (hserial : command'.serial = command.serial) (hsettled : t.settled = s.settled)
    (hissued : t.issued = s.issued) (hsent : t.sent = s.sent)
    (hothers : ∀ timer task, task.serial ≠ command.serial →
      (t.timers.lookup timer = some task ↔ s.timers.lookup timer = some task))
    (hown : ∀ timer task, task.serial = command.serial →
      (t.timers.lookup timer = some task ↔
        task.requestId = requestId ∧ command'.handle task.kind = some timer))
    (hfresh : ∀ timer task, t.timers.lookup timer = some task → timer < t.nextTimer) :
    Ledger t (Function.update rows requestId (some command')) := by
  have hcases : ∀ {id other}, Function.update rows requestId (some command') id = some other →
      (id = requestId ∧ other = command') ∨
        (id ≠ requestId ∧ rows id = some other ∧ other.serial ≠ command.serial) := by
    intro id other hother
    rcases update_cases hother with ⟨rfl, hnew⟩ | ⟨hne, hold⟩
    · exact Or.inl ⟨rfl, (Option.some.inj hnew).symm⟩
    · exact Or.inr ⟨hne, hold, fun hsame => hne (h.distinct _ _ _ _ hold hrow hsame)⟩
  constructor
  case archive => exact h.archive.congr hsettled hissued hsent
  case distinct =>
    intro id id' other other' hother hother' hsame
    rcases hcases hother with ⟨rfl, rfl⟩ | ⟨-, hold, hne⟩
    · rcases hcases hother' with ⟨rfl, -⟩ | ⟨-, -, hne'⟩
      · rfl
      · exact absurd (hsame.symm.trans hserial) hne'
    · rcases hcases hother' with ⟨rfl, rfl⟩ | ⟨-, hold', -⟩
      · exact absurd (hsame.trans hserial) hne
      · exact h.distinct _ _ _ _ hold hold' hsame
  case handles =>
    intro id other kind timer hother hhandle
    rcases hcases hother with ⟨rfl, rfl⟩ | ⟨-, hold, hne⟩
    · exact (hown timer _ hserial).mpr ⟨rfl, hhandle⟩
    · exact (hothers timer _ hne).mpr (h.handles id other kind timer hold hhandle)
  case owned =>
    intro timer task htask
    by_cases hserial' : task.serial = command.serial
    · obtain ⟨hid, hhandle⟩ := (hown timer task hserial').mp htask
      refine ⟨command', ?_, hserial.trans hserial'.symm, hhandle⟩
      rw [hid, Function.update_self]
    · obtain ⟨other, hother, hother', hhandle⟩ :=
        h.owned timer task ((hothers timer task hserial').mp htask)
      refine ⟨other, ?_, hother', hhandle⟩
      rw [Function.update_of_ne, hother]
      intro hid
      rw [hid, hrow] at hother
      exact hserial' (hother'.symm.trans (congrArg _ (Option.some.inj hother)).symm)
  case fresh => exact hfresh
  case issued =>
    intro id other hother
    rw [hissued]
    rcases hcases hother with ⟨rfl, rfl⟩ | ⟨-, hold, -⟩
    · rw [hserial]
      exact h.issued _ _ hrow
    · exact h.issued _ _ hold
  case apart =>
    rw [hsettled]
    intro settlement hmem id other hother
    rcases hcases hother with ⟨rfl, rfl⟩ | ⟨-, hold, -⟩
    · rw [hserial]
      exact h.apart settlement hmem _ _ hrow
    · exact h.apart settlement hmem id other hold
  case covered =>
    rw [hsettled, hissued]
    intro serial hlt
    rcases h.covered serial hlt with ⟨id, other, hother, hother'⟩ | hdone
    · left
      by_cases hid : id = requestId
      · subst hid
        obtain rfl := Option.some.inj (hrow.symm.trans hother)
        exact ⟨id, command', Function.update_self .., hserial.trans hother'⟩
      · exact ⟨id, other, (Function.update_of_ne hid ..).trans hother, hother'⟩
    · exact Or.inr hdone

/-- The timeouts of a command are those its handles name. -/
theorem Ledger.own (h : Ledger s rows) (hrow : rows requestId = some command) {timer : Nat}
    {task : TimerTask} (hserial : task.serial = command.serial) :
    s.timers.lookup timer = some task ↔
      task.requestId = requestId ∧ command.handle task.kind = some timer := by
  constructor
  · intro htask
    obtain ⟨other, hother, hother', hhandle⟩ := h.owned timer task htask
    have hid := h.distinct _ _ _ _ hother hrow (hother'.trans hserial)
    rw [hid] at hother
    obtain rfl := Option.some.inj (hother.symm.trans hrow)
    exact ⟨hid, hhandle⟩
  · rintro ⟨hid, hhandle⟩
    rw [h.handles _ _ _ _ hrow hhandle, ← hid, ← hserial]

/-- A change of the command that leaves its identity and its timeouts alone. -/
theorem Ledger.edit (h : Ledger s rows) (hrow : rows requestId = some command)
    (hserial : command'.serial = command.serial) (hhandles : command'.handle = command.handle) :
    Ledger s (Function.update rows requestId (some command')) := by
  refine h.rewrite hrow hserial rfl rfl rfl (fun _ _ _ => Iff.rfl) ?_ h.fresh
  intro timer task htask
  rw [hhandles]
  exact h.own hrow htask

theorem Ledger.clear (h : Ledger s rows) (hrow : rows requestId = some command)
    (kind : TimerKind) :
    Ledger (s.clearTimeout (command.handle kind))
      (Function.update rows requestId (some (command.withHandle kind none))) := by
  cases hhandle : command.handle kind with
  | none =>
      refine h.edit hrow PendingRoomCommand.withHandle_serial (funext fun kind' => ?_)
      rw [PendingRoomCommand.handle_withHandle]
      split
      · next hkind => rw [hkind, hhandle]
      · rfl
  | some timer =>
      have harmed := h.handles _ _ _ _ hrow hhandle
      have hlookup : ∀ timer', (s.clearTimeout (some timer)).timers.lookup timer' =
          if timer' = timer then none else s.timers.lookup timer' :=
        Table.lookup_erase_ite s.timers timer
      refine h.rewrite hrow PendingRoomCommand.withHandle_serial rfl rfl rfl ?_ ?_ ?_
      · intro timer' task hserial
        rw [hlookup]
        by_cases heq : timer' = timer
        · subst heq
          rw [if_pos rfl, harmed]
          refine ⟨nofun, fun htask => ?_⟩
          obtain rfl := Option.some.inj htask
          exact absurd rfl hserial
        · rw [if_neg heq]
      · intro timer' task hserial
        rw [hlookup, PendingRoomCommand.handle_withHandle]
        by_cases heq : timer' = timer
        · subst heq
          rw [if_pos rfl]
          refine ⟨nofun, ?_⟩
          rintro ⟨hid, hnew⟩
          split at hnew
          · exact nomatch hnew
          · next hkind =>
              have hother := h.handles _ _ _ _ hrow hnew
              rw [harmed] at hother
              exact absurd (congrArg TimerTask.kind (Option.some.inj hother)).symm hkind
        · rw [if_neg heq, h.own hrow hserial]
          refine and_congr_right fun _ => ?_
          split
          · next hkind =>
              rw [hkind, hhandle]
              exact ⟨fun hsame => absurd (Option.some.inj hsame).symm heq, nofun⟩
          · rfl
      · intro timer' task htask
        rw [hlookup] at htask
        split at htask
        · exact nomatch htask
        · exact h.fresh timer' task htask

theorem Ledger.set (h : Ledger s rows) (hrow : rows requestId = some command) {kind : TimerKind}
    (hclear : command.handle kind = none) :
    Ledger (s.setTimeout ⟨kind, requestId, command.serial⟩).2
      (Function.update rows requestId (some (command.withHandle kind (some s.nextTimer)))) := by
  have hlookup : ∀ timer, (s.setTimeout ⟨kind, requestId, command.serial⟩).2.timers.lookup timer =
      if timer = s.nextTimer then some ⟨kind, requestId, command.serial⟩
      else s.timers.lookup timer :=
    fun timer => Table.lookup_insert_ite s.timers s.nextTimer timer _
  have hunused : ∀ task, s.timers.lookup s.nextTimer ≠ some task :=
    fun task htask => absurd (h.fresh _ _ htask) (lt_irrefl _)
  refine h.rewrite hrow PendingRoomCommand.withHandle_serial rfl rfl rfl ?_ ?_ ?_
  · intro timer task hserial
    rw [hlookup]
    by_cases heq : timer = s.nextTimer
    · subst heq
      rw [if_pos rfl]
      refine ⟨fun htask => ?_, fun htask => absurd htask (hunused task)⟩
      obtain rfl := Option.some.inj htask
      exact absurd rfl hserial
    · rw [if_neg heq]
  · intro timer task hserial
    rw [hlookup, PendingRoomCommand.handle_withHandle]
    by_cases heq : timer = s.nextTimer
    · subst heq
      rw [if_pos rfl]
      constructor
      · intro htask
        obtain rfl := Option.some.inj htask
        exact ⟨rfl, if_pos rfl⟩
      · rintro ⟨hid, hnew⟩
        split at hnew
        · next hkind => rw [← hkind, ← hid, ← hserial]
        · exact absurd (h.handles _ _ _ _ hrow hnew) (hunused _)
    · rw [if_neg heq, h.own hrow hserial]
      refine and_congr_right fun _ => ?_
      split
      · next hkind =>
          rw [hkind, hclear]
          exact ⟨nofun, fun hsame => absurd (Option.some.inj hsame).symm heq⟩
      · rfl
  · intro timer task htask
    rw [hlookup] at htask
    show timer < s.nextTimer + 1
    split at htask
    · next heq => omega
    · exact Nat.lt_succ_of_lt (h.fresh timer task htask)

/-- A held command without timeouts settles. -/
theorem Ledger.settle (h : Ledger s rows) (hrow : rows requestId = some command)
    (hclear : ∀ kind, command.handle kind = none) {outcome : CommandOutcome Payload Result}
    (hsound : OutcomeSound s ⟨command.serial, outcome⟩) :
    Ledger { s with settled := s.settled ++ [⟨command.serial, outcome⟩] }
      (Function.update rows requestId none) := by
  have hcases : ∀ {id other}, Function.update rows requestId none id = some other →
      rows id = some other ∧ other.serial ≠ command.serial := by
    intro id other hother
    rcases update_cases hother with ⟨-, hnone⟩ | ⟨hne, hold⟩
    · exact nomatch hnone
    · exact ⟨hold, fun hsame => hne (h.distinct _ _ _ _ hold hrow hsame)⟩
  have hunsettled : ∀ settlement ∈ s.settled, settlement.serial ≠ command.serial :=
    fun settlement hmem hsame => h.apart settlement hmem _ _ hrow hsame.symm
  constructor
  case archive =>
    constructor
    case settledOnce =>
      show ((s.settled ++ [_]).map Settlement.serial).Nodup
      rw [List.map_append, List.nodup_append]
      refine ⟨h.archive.settledOnce, List.nodup_singleton _, ?_⟩
      intro serial hmem serial' hmem'
      obtain ⟨settlement, hsettlement, rfl⟩ := List.mem_map.mp hmem
      rw [List.mem_singleton.mp hmem']
      exact hunsettled settlement hsettlement
    case settledIssued =>
      intro settlement hmem
      rcases List.mem_append.mp hmem with hold | hnew
      · exact h.archive.settledIssued settlement hold
      · rw [List.mem_singleton.mp hnew]
        exact h.issued _ _ hrow
    case outcomes =>
      intro settlement hmem
      rcases List.mem_append.mp hmem with hold | hnew
      · exact (h.archive.outcomes settlement hold).congr rfl rfl
      · rw [List.mem_singleton.mp hnew]
        exact hsound.congr rfl rfl
    case sentOnce => exact h.archive.sentOnce
    case sentSound => exact h.archive.sentSound
    case sentRoom => exact h.archive.sentRoom
    case sentFew => exact h.archive.sentFew
  case distinct =>
    intro id id' other other' hother hother'
    exact h.distinct _ _ _ _ (hcases hother).1 (hcases hother').1
  case handles =>
    intro id other kind timer hother
    exact h.handles id other kind timer (hcases hother).1
  case owned =>
    intro timer task htask
    obtain ⟨other, hother, hserial, hhandle⟩ := h.owned timer task htask
    refine ⟨other, ?_, hserial, hhandle⟩
    rw [Function.update_of_ne, hother]
    intro hid
    rw [hid, hrow] at hother
    obtain rfl := Option.some.inj hother
    exact nomatch (hclear task.kind).symm.trans hhandle
  case fresh => exact h.fresh
  case issued =>
    intro id other hother
    exact h.issued id other (hcases hother).1
  case apart =>
    intro settlement hmem id other hother
    rcases List.mem_append.mp hmem with hold | hnew
    · exact h.apart settlement hold id other (hcases hother).1
    · rw [List.mem_singleton.mp hnew]
      exact (hcases hother).2
  case covered =>
    intro serial hlt
    rcases h.covered serial hlt with ⟨id, other, hother, hother'⟩ | ⟨settlement, hmem, hdone⟩
    · by_cases hid : id = requestId
      · subst hid
        obtain rfl := Option.some.inj (hrow.symm.trans hother)
        exact Or.inr ⟨⟨command.serial, outcome⟩,
          List.mem_append_right _ (List.mem_singleton_self _), hother'⟩
      · exact Or.inl ⟨id, other, (Function.update_of_ne hid ..).trans hother, hother'⟩
    · exact Or.inr ⟨settlement, List.mem_append_left _ hmem, hdone⟩

/-- The bytes of a pending command go out on a connection that has not carried them. -/
theorem Ledger.send (h : Ledger s rows) (hrow : rows requestId = some command)
    {transmission : Transmission} (hserial : transmission.serial = command.serial)
    (hissue : ∃ issue, s.issued[command.serial]? = some issue ∧
      transmission.bytes = issue.encoded ∧
        ∀ roomUid, issue.roomUid = some roomUid → transmission.roomUid = some roomUid)
    (hroom : transmission.roomUid ≠ none)
    (hbefore : ∀ earlier ∈ s.sent, earlier.serial = command.serial →
      earlier.generation ≠ transmission.generation ∧ earlier.roomUid = transmission.roomUid)
    (hfew : s.sentCount command.serial < uncertainAttemptLimit) :
    Ledger { s with sent := s.sent ++ [transmission] } rows := by
  constructor
  case archive =>
    constructor
    case settledOnce => exact h.archive.settledOnce
    case settledIssued => exact h.archive.settledIssued
    case outcomes =>
      intro settlement hmem
      have hsound := h.archive.outcomes settlement hmem
      unfold OutcomeSound at hsound ⊢
      cases houtcome : settlement.outcome with
      | resolved | refused | unknown =>
          rw [houtcome] at hsound
          exact hsound
      | neverSent error =>
          rw [houtcome] at hsound
          intro sent hsent
          rcases List.mem_append.mp hsent with hold | hnew
          · exact hsound sent hold
          · rw [List.mem_singleton.mp hnew, hserial]
            exact h.apart settlement hmem _ _ hrow
    case sentOnce =>
      show ((s.sent ++ [transmission]).map _).Nodup
      rw [List.map_append, List.nodup_append]
      refine ⟨h.archive.sentOnce, List.nodup_singleton _, ?_⟩
      intro pair hmem pair' hmem' hsame
      obtain ⟨earlier, hearlier, rfl⟩ := List.mem_map.mp hmem
      obtain ⟨hserial', hgeneration⟩ :=
        Prod.mk.inj (hsame.trans (List.mem_singleton.mp hmem'))
      exact (hbefore earlier hearlier (hserial'.trans hserial)).1 hgeneration
    case sentSound =>
      intro sent hmem
      rcases List.mem_append.mp hmem with hold | hnew
      · exact h.archive.sentSound sent hold
      · obtain ⟨issue, hget, hbytes, hbound⟩ := hissue
        rw [List.mem_singleton.mp hnew, hserial]
        exact ⟨issue, hget, hbytes, hroom, hbound⟩
    case sentRoom =>
      intro first hfirst second hsecond hsame
      rcases List.mem_append.mp hfirst with hfirst | hfirst
      · rcases List.mem_append.mp hsecond with hsecond | hsecond
        · exact h.archive.sentRoom first hfirst second hsecond hsame
        · rw [List.mem_singleton.mp hsecond] at hsame ⊢
          exact (hbefore first hfirst (hsame.trans hserial)).2
      · rw [List.mem_singleton.mp hfirst] at hsame ⊢
        rcases List.mem_append.mp hsecond with hsecond | hsecond
        · exact (hbefore second hsecond (hsame.symm.trans hserial)).2.symm
        · rw [List.mem_singleton.mp hsecond]
    case sentFew =>
      intro serial
      have hfew' := h.archive.sentFew serial
      unfold sentCount at hfew hfew' ⊢
      show (s.sent ++ [transmission]).countP _ ≤ _
      rw [List.countP_append, List.countP_singleton]
      by_cases hsame : transmission.serial = serial
      · rw [← hsame, hserial]
        split <;> omega
      · rw [if_neg (by simpa using hsame)]
        exact hfew'
  case distinct => exact h.distinct
  case handles => exact h.handles
  case owned => exact h.owned
  case fresh => exact h.fresh
  case issued => exact h.issued
  case apart => exact h.apart
  case covered => exact h.covered

/-- A new command is issued. -/
theorem Ledger.issue (h : Ledger s rows) (hrow : rows requestId = none) (issue : IssuedCommand)
    (hserial : command.serial = s.issued.length) (hclear : ∀ kind, command.handle kind = none) :
    Ledger { s with issued := s.issued ++ [issue] }
      (Function.update rows requestId (some command)) := by
  have hget : ∀ {serial : Nat} {old : IssuedCommand}, s.issued[serial]? = some old →
      (s.issued ++ [issue])[serial]? = some old := fun hold =>
    (List.getElem?_append_left (List.getElem?_eq_some_iff.mp hold).1).trans hold
  have hlength : (s.issued ++ [issue]).length = s.issued.length + 1 := List.length_append
  have hcases : ∀ {id other}, Function.update rows requestId (some command) id = some other →
      (id = requestId ∧ other = command) ∨ (id ≠ requestId ∧ rows id = some other) := by
    intro id other hother
    rcases update_cases hother with ⟨rfl, hnew⟩ | hold
    · exact Or.inl ⟨rfl, (Option.some.inj hnew).symm⟩
    · exact Or.inr hold
  constructor
  case archive =>
    constructor
    case settledOnce => exact h.archive.settledOnce
    case settledIssued =>
      intro settlement hmem
      exact Nat.lt_of_lt_of_le (h.archive.settledIssued settlement hmem) (by simp)
    case outcomes =>
      intro settlement hmem
      have hsound := h.archive.outcomes settlement hmem
      unfold OutcomeSound at hsound ⊢
      cases houtcome : settlement.outcome with
      | resolved ack =>
          rw [houtcome] at hsound
          obtain ⟨haccepted, hresolution, old, hold, hrest⟩ := hsound
          exact ⟨haccepted, hresolution, old, hget hold, hrest⟩
      | refused | neverSent =>
          rw [houtcome] at hsound
          exact hsound
      | unknown error replay =>
          rw [houtcome] at hsound
          obtain ⟨old, hold, hrest⟩ := hsound
          exact ⟨old, hget hold, hrest⟩
    case sentOnce => exact h.archive.sentOnce
    case sentSound =>
      intro transmission hmem
      obtain ⟨old, hold, hrest⟩ := h.archive.sentSound transmission hmem
      exact ⟨old, hget hold, hrest⟩
    case sentRoom => exact h.archive.sentRoom
    case sentFew => exact h.archive.sentFew
  case distinct =>
    intro id id' other other' hother hother' hsame
    rcases hcases hother with ⟨rfl, rfl⟩ | ⟨-, hold⟩
    · rcases hcases hother' with ⟨rfl, -⟩ | ⟨-, hold'⟩
      · rfl
      · exact absurd (h.issued _ _ hold') (by omega)
    · rcases hcases hother' with ⟨rfl, rfl⟩ | ⟨-, hold'⟩
      · exact absurd (h.issued _ _ hold) (by omega)
      · exact h.distinct _ _ _ _ hold hold' hsame
  case handles =>
    intro id other kind timer hother hhandle
    rcases hcases hother with ⟨rfl, rfl⟩ | ⟨-, hold⟩
    · exact nomatch (hclear kind).symm.trans hhandle
    · exact h.handles id other kind timer hold hhandle
  case owned =>
    intro timer task htask
    obtain ⟨other, hother, hrest⟩ := h.owned timer task htask
    refine ⟨other, ?_, hrest⟩
    rw [Function.update_of_ne, hother]
    intro hid
    exact nomatch (hid ▸ hother).symm.trans hrow
  case fresh => exact h.fresh
  case issued =>
    intro id other hother
    rcases hcases hother with ⟨rfl, rfl⟩ | ⟨-, hold⟩
    · show other.serial < (s.issued ++ [issue]).length
      omega
    · exact Nat.lt_of_lt_of_le (h.issued id other hold) (by simp)
  case apart =>
    intro settlement hmem id other hother
    rcases hcases hother with ⟨rfl, rfl⟩ | ⟨-, hold⟩
    · rw [hserial]
      exact (Nat.ne_of_lt (h.archive.settledIssued settlement hmem)).symm
    · exact h.apart settlement hmem id other hold
  case covered =>
    intro serial hlt
    rcases Nat.lt_or_ge serial s.issued.length with hlt' | hge
    · rcases h.covered serial hlt' with ⟨id, other, hother, hother'⟩ | hdone
      · refine Or.inl ⟨id, other, ?_, hother'⟩
        rw [Function.update_of_ne, hother]
        intro hid
        exact nomatch (hid ▸ hother).symm.trans hrow
      · exact Or.inr hdone
    · refine Or.inl ⟨requestId, command, Function.update_self .., ?_⟩
      have : serial < (s.issued ++ [issue]).length := hlt
      omega

end RoomSocket

end AgentsAssemble.Browser
