import AgentsAssemble.Paging.Fitting
import Mathlib.Logic.Function.Iterate

/-!
# Which events a client can reach

A snapshot that is too long loses its older events, and the client asks for them.  It gets all of
them exactly when the snapshot keeps an event and each of the others fits an answer of its own.
-/

namespace AgentsAssemble.Paging

open Foundation Domain

/-! ## Halving -/

section Halving

variable {snapshot sent : RoomSnapshot}

/-- The snapshot that is sent is the first of the halvings that fits. -/
theorem fitSnapshotFrame_eq_some (h : fitSnapshotFrame snapshot = some sent) :
    ∃ k, sent = RoomSnapshot.shrink^[k] snapshot ∧ encodes sent.frame = true ∧
      ∀ j < k, encodes (RoomSnapshot.shrink^[j] snapshot).frame = false := by
  fun_induction fitSnapshotFrame snapshot with
  | case1 snapshot hfits =>
      obtain rfl := Option.some.inj h
      exact ⟨0, rfl, hfits, fun j hj => absurd hj (Nat.not_lt_zero j)⟩
  | case2 => cases h
  | case3 snapshot hlong hevents ih =>
      obtain ⟨k, hsent, hfits, hfirst⟩ := ih h
      refine ⟨k + 1, hsent, hfits, fun j hj => ?_⟩
      cases j with
      | zero => exact Bool.eq_false_iff.mpr hlong
      | succ j => exact hfirst j (Nat.lt_of_succ_lt_succ hj)

theorem events_shrink_suffix (snapshot : RoomSnapshot) :
    snapshot.shrink.events <:+ snapshot.events :=
  List.drop_suffix _ _

theorem events_iterate_suffix {j k : Nat} (h : j ≤ k) :
    (RoomSnapshot.shrink^[k] snapshot).events <:+ (RoomSnapshot.shrink^[j] snapshot).events := by
  induction k, h using Nat.le_induction with
  | base => exact List.suffix_refl _
  | succ k _ ih =>
      rw [Function.iterate_succ_apply']
      exact (events_shrink_suffix _).trans ih

theorem lastSeq_iterate (k : Nat) :
    (RoomSnapshot.shrink^[k] snapshot).lastSeq = snapshot.lastSeq := by
  induction k with
  | zero => rfl
  | succ k ih =>
      rw [Function.iterate_succ_apply']
      exact ih

/-- The event is in a halving of the snapshot that fits. -/
def Kept (snapshot : RoomSnapshot) (event : RoomEvent) : Prop :=
  ∃ k, encodes (RoomSnapshot.shrink^[k] snapshot).frame = true ∧
    event ∈ (RoomSnapshot.shrink^[k] snapshot).events

theorem kept_iff (h : fitSnapshotFrame snapshot = some sent) {event : RoomEvent} :
    Kept snapshot event ↔ event ∈ sent.events := by
  obtain ⟨k, rfl, hfits, hfirst⟩ := fitSnapshotFrame_eq_some h
  constructor
  · rintro ⟨j, hj, hevent⟩
    have hle : k ≤ j := by
      by_contra hlt
      rw [hfirst j (Nat.lt_of_not_le hlt)] at hj
      cases hj
    exact (events_iterate_suffix hle).subset hevent
  · intro hevent
    exact ⟨k, hfits, hevent⟩

/-- A snapshot that lost events says so, and what is the oldest that it has. -/
theorem sent_of_shrunk (h : fitSnapshotFrame snapshot = some sent)
    (hshrunk : sent.events.length < snapshot.events.length) :
    sent.events <:+ snapshot.events ∧ sent.hasMoreBefore = true ∧
      sent.oldestSeq = (sent.events.head?.map RoomEvent.seq).getD snapshot.lastSeq := by
  obtain ⟨k, rfl, -, -⟩ := fitSnapshotFrame_eq_some h
  cases k with
  | zero => exact absurd hshrunk (Nat.lt_irrefl _)
  | succ k =>
      refine ⟨events_iterate_suffix (Nat.zero_le _), ?_⟩
      rw [Function.iterate_succ_apply', ← lastSeq_iterate k]
      exact ⟨rfl, rfl⟩

end Halving

/-! ## Snapshots of the log -/

section Snapshots

variable {log : RoomLog} {resumeFromSeq limit : Int} {data : RoomSnapshotData}

/-- A snapshot reads an end of the log. -/
theorem snapshotInner_spec (h : snapshotInner log resumeFromSeq limit = .ok data) :
    (∃ low, data.events = log.events.drop low) ∧
      (data.events ≠ [] → data.lastSeq = log.events.length) := by
  unfold snapshotInner at h
  dsimp only at h
  split at h
  · cases h
  · rename_i hcursor
    split at h
    · cases h
    · have hread : ∃ low, (if resumeFromSeq = 0 ∨ decide (0 < resumeFromSeq ∧
          max limit 1 < log.lastSeq - resumeFromSeq) = true then
            (log.rows.reverse.take (max limit 1).toNat).reverse
          else log.rows.filter fun row => resumeFromSeq < (row.seq : Int)) =
            log.rows.drop low := by
        split
        · exact ⟨_, by rw [List.take_reverse, List.reverse_reverse]⟩
        · obtain ⟨cursor, rfl⟩ := Int.eq_ofNat_of_zero_le (Int.not_lt.mp hcursor)
          exact ⟨_, filter_after log.numbered cursor⟩
      obtain ⟨low, hlow⟩ := hread
      rw [hlow] at h
      obtain rfl := Except.ok.inj h
      have hevents : (log.rows.drop low).map StoredEvent.event = log.events.drop low :=
        List.map_drop
      refine ⟨⟨low, hevents⟩, fun hsome => ?_⟩
      dsimp only at hsome ⊢
      rw [hevents] at hsome ⊢
      have hlt : low < log.events.length := by
        by_contra hge
        exact hsome (List.drop_eq_nil_of_le (Nat.le_of_not_lt hge))
      have hlast : log.events.length - 1 < log.events.length := by omega
      rw [List.getLast?_drop, if_neg (by omega), List.getLast?_eq_getElem?,
        List.getElem?_eq_getElem hlast, Option.map_some, Option.getD_some, RoomLog.seq_event hlast]
      omega

end Snapshots

/-! ## Reaching every event -/

/-- The event fits an answer of its own, whoever asks. -/
def Answerable (log : RoomLog) (event : RoomEvent) : Prop :=
  ∀ ask : HistoryAsk, encodes (historyAck ask.requestId (alone log event)) = true

/-- Something of the snapshot is kept, and what is not kept can be answered. -/
structure Deliverable (log : RoomLog) (snapshot : RoomSnapshot) : Prop where
  keeps : ∃ event, Kept snapshot event
  answers : ∀ event ∈ log.events, Kept snapshot event ∨ Answerable log event

/-- The snapshot that was sent ends as the snapshot that was read, and a client that asks for the
events before it gathers the others, however it asks. -/
structure ReachesAll (log : RoomLog) (data : RoomSnapshotData) (sent : RoomSnapshot) : Prop where
  suffix : sent.events <:+ data.events
  more : sent.hasMoreBefore = true
  gathers : ∀ asks : Nat → HistoryAsk, ∃ fuel older,
    gather log asks fuel 0 sent.oldestSeq = some older ∧ older ++ sent.events = log.events

section Reaching

variable {log : RoomLog} {resumeFromSeq limit : Int} {data : RoomSnapshotData}
  {metadata : SnapshotMetadata} {sent : RoomSnapshot}

theorem mem_drop_iff {low i : Nat} (hi : i < log.events.length) :
    log.events[i] ∈ log.events.drop low ↔ low ≤ i := by
  rw [List.mem_drop_iff_getElem]
  constructor
  · rintro ⟨j, hj, heq⟩
    have hseq := congrArg RoomEvent.seq heq
    rw [RoomLog.seq_event, RoomLog.seq_event] at hseq
    omega
  · intro hle
    refine ⟨i - low, by omega, ?_⟩
    congr 1
    omega

/-- Every event can be reached from a snapshot that lost some, exactly when the snapshot keeps an
event and each event that it does not keep fits an answer. -/
theorem reaches_all_iff (hdata : snapshotInner log resumeFromSeq limit = .ok data)
    (hsent : fitSnapshotFrame (prepareSnapshot metadata data) = some sent)
    (hshrunk : sent.events.length < data.events.length) :
    ReachesAll log data sent ↔ Deliverable log (prepareSnapshot metadata data) := by
  obtain ⟨⟨start, hstart⟩, hlast⟩ := snapshotInner_spec hdata
  obtain ⟨hsuffix, hmore, holdest⟩ := sent_of_shrunk hsent hshrunk
  have hlog : 0 < log.events.length := by
    have hle := congrArg List.length hstart
    rw [List.length_drop] at hle
    omega
  have hseq : data.lastSeq = log.events.length :=
    hlast (List.ne_nil_of_length_pos (by omega))
  change sent.events <:+ data.events at hsuffix
  change sent.oldestSeq = (sent.events.head?.map RoomEvent.seq).getD data.lastSeq at holdest
  obtain ⟨low, hlow⟩ : ∃ low, sent.events = log.events.drop low := by
    obtain ⟨lost, heq⟩ := hsuffix
    refine ⟨start + lost.length, ?_⟩
    rw [← List.drop_drop, ← hstart, ← heq, List.drop_left]
  have hkept : ∀ i (hi : i < log.events.length),
      Kept (prepareSnapshot metadata data) log.events[i] ↔ low ≤ i := by
    intro i hi
    rw [kept_iff hsent, hlow, mem_drop_iff hi]
  have hsome : (∃ event, Kept (prepareSnapshot metadata data) event) → low < log.events.length := by
    rintro ⟨event, hevent⟩
    have hmem := (kept_iff hsent).mp hevent
    rw [hlow] at hmem
    have hpos := List.length_pos_of_mem hmem
    rw [List.length_drop] at hpos
    omega
  have hfirst : low < log.events.length → sent.oldestSeq = low + 1 := by
    intro hlt
    rw [holdest, hlow, List.head?_drop, List.getElem?_eq_getElem hlt, Option.map_some,
      Option.getD_some, RoomLog.seq_event hlt]
  constructor
  · intro hall
    have hkeeps : low < log.events.length := by
      by_contra hnone
      have hempty : sent.events = [] := by
        rw [hlow, List.drop_eq_nil_of_le (Nat.le_of_not_lt hnone)]
      -- Nothing was kept: the client asks for what is before the newest event, and misses it.
      have hcursor : sent.oldestSeq = log.events.length - 1 + 1 := by
        rw [holdest, hempty, hseq]
        exact (Nat.sub_add_cancel hlog).symm
      obtain ⟨fuel, older, hgather, heq⟩ := hall.gathers fun _ => ⟨"r", none, rfl, by simp⟩
      rw [hcursor] at hgather
      obtain ⟨rfl, -⟩ := gather_spec (by omega) hgather
      rw [hempty, List.append_nil] at heq
      have hlength := congrArg List.length heq
      rw [List.length_take] at hlength
      omega
    refine ⟨⟨log.events[low], (hkept low hkeeps).mpr (Nat.le_refl low)⟩, fun event hevent => ?_⟩
    obtain ⟨i, hi, rfl⟩ := List.getElem_of_mem hevent
    rw [hkept i hi]
    by_cases hle : low ≤ i
    · exact Or.inl hle
    · refine Or.inr fun ask => ?_
      obtain ⟨fuel, older, hgather, -⟩ := hall.gathers fun _ => ask
      rw [hfirst hkeeps] at hgather
      obtain ⟨-, hfits⟩ := gather_spec (by omega) hgather
      obtain ⟨turn, hturn⟩ := hfits i (by omega)
      rw [alone_eq hi]
      exact hturn
  · rintro ⟨hkeeps, hanswers⟩
    have hlt := hsome hkeeps
    have hpos : 0 < low := by
      have hdropped := congrArg List.length hlow
      have hread := congrArg List.length hstart
      rw [List.length_drop] at hdropped hread
      omega
    refine ⟨hsuffix, hmore, fun asks => ?_⟩
    have hfits : ∀ i < low, ∀ turn,
        encodes (historyAck (asks turn).requestId (pageOf log i (i + 1))) = true := by
      intro i hi turn
      have hin : i < log.events.length := by omega
      rcases hanswers log.events[i] (List.getElem_mem hin) with hkeep | hanswer
      · exact absurd ((hkept i hin).mp hkeep) (by omega)
      · rw [← alone_eq hin]
        exact hanswer (asks turn)
    obtain ⟨fuel, hgather⟩ := gather_complete hpos (by omega) hfits 0
    refine ⟨fuel, log.events.take low, ?_, ?_⟩
    · rw [hfirst hlt]
      exact hgather
    · rw [hlow]
      exact List.take_append_drop low log.events

end Reaching

/-! ## A sample room -/

namespace PagingSample

def instant : JsonText :=
  text "2026-01-01T00:00:00Z"

def event (seq : Nat) : RoomEvent :=
  { roomId := "lobby"
    seq
    members :=
      [member "v" (.natural 1),
        member "id" (text "event"),
        member "seq" (.natural seq),
        member "created_at" instant,
        member "room_id" (text "lobby"),
        member "type" (text "message_final"),
        member "actor" (.object
          [member "participant_id" (text "ann"), member "participant_type" (text "human")]),
        member "content" (text "hello")] }

def row (seq : Nat) : StoredEvent :=
  { seq, event := event seq }

def one : RoomLog where
  roomId := "lobby"
  rows := [row 1]
  numbered := rfl
  bounded := by decide
  stored := by simp [row, event]

def two : RoomLog where
  roomId := "lobby"
  rows := [row 1, row 2]
  numbered := rfl
  bounded := by decide
  stored := by simp [row, event]

/-- An agent session whose last error has a length. -/
def session (length : Nat) : JsonText :=
  .object
    [member "room_id" (text "lobby"),
      member "session_id" (text "agent"),
      member "participant_id" (text "agent"),
      member "display_name" (text "Agent"),
      member "status" (text "attached"),
      member "last_error" (.string (List.replicate length 'x')),
      member "created_at" instant,
      member "updated_at" instant]

/-- As many agent sessions as a room may have. -/
def metadata (length : Nat) : SnapshotMetadata :=
  { room := .object
      [member "room_id" (text "lobby"),
        member "room_uid" (text "uid"),
        member "label" (text "Lobby"),
        member "status" (text "active"),
        member "created_at" instant,
        member "updated_at" instant]
    roomSettings := .object [member "label" (text "Lobby"), member "topic" (text "")]
    participants := .array []
    agentSessions := .array (List.replicate 64 (session length))
    capabilities := .object [member "room.history" (.bool true)] }

def data (log : RoomLog) : RoomSnapshotData :=
  { events := log.events
    oldestSeq := 1
    lastSeq := log.events.length
    hasMoreBefore := false
    resumeGap := false
    snapshotMode := .initial }

/-- The initial snapshot of a log. -/
def initial (log : RoomLog) (length : Nat) : RoomSnapshot :=
  prepareSnapshot (metadata length) (data log)

/-- The snapshot of a room without agent sessions. -/
def bare (snapshot : RoomSnapshot) : RoomSnapshot :=
  { snapshot with metadata := { metadata 0 with agentSessions := .array [] } }

theorem escapedSize_replicate (length : Nat) :
    JsonText.escapedSize (List.replicate length 'x') = length := by
  induction length with
  | zero => rfl
  | succ length ih =>
      have hone : utf8Length (JsonText.escape 'x') = 1 := by decide
      rw [List.replicate_succ, JsonText.escapedSize_cons, ih, hone]
      omega

theorem size_session (length : Nat) : (session length).size = (session 0).size + length := by
  simp only [session, member, JsonText.size_object, JsonText.membersSize, JsonText.size_string,
    escapedSize_replicate]
  omega

/-- What the sessions add to the frame. -/
def sessionsSize (length : Nat) : Nat :=
  64 * ((session 0).size + length) + 63

theorem size_frame {snapshot : RoomSnapshot} {length : Nat}
    (h : snapshot.metadata = metadata length) :
    snapshot.frame.size = (bare snapshot).frame.size + sessionsSize length := by
  have hsessions : (metadata length).agentSessions.size =
      (JsonText.array []).size + sessionsSize length := by
    simp only [metadata, sessionsSize, JsonText.size_array, List.map_replicate, List.map_nil,
      List.sum_replicate_nat, List.sum_nil, List.length_replicate, List.length_nil,
      size_session length]
    omega
  have hroom : (metadata length).room = (metadata 0).room := rfl
  have hsettings : (metadata length).roomSettings = (metadata 0).roomSettings := rfl
  have hparticipants : (metadata length).participants = (metadata 0).participants := rfl
  have hcapabilities : (metadata length).capabilities = (metadata 0).capabilities := rfl
  simp only [RoomSnapshot.frame, bare, h, member, JsonText.size_object, JsonText.membersSize,
    hsessions, hroom, hsettings, hparticipants, hcapabilities]
  omega

/-- The halved snapshot is sent when its frame fits and the whole one does not. -/
theorem fit_shrink {log : RoomLog} {length : Nat} (hsome : log.events ≠ [])
    (hlong : maxRoomSocketMessageBytes <
      (bare (initial log length)).frame.size + sessionsSize length)
    (hfits : (bare (initial log length).shrink).frame.size + sessionsSize length ≤
      maxRoomSocketMessageBytes) :
    fitSnapshotFrame (initial log length) = some (initial log length).shrink := by
  have hfirst : ¬ encodes (initial log length).frame = true := by
    rw [encodes, decide_eq_true_eq, size_frame rfl]
    exact Nat.not_le_of_lt hlong
  have hsecond : encodes (initial log length).shrink.frame = true := by
    rw [encodes, decide_eq_true_eq, size_frame rfl]
    exact hfits
  have hevents : ¬ (initial log length).events = [] := hsome
  rw [fitSnapshotFrame, if_neg hfirst, if_neg hevents, fitSnapshotFrame, if_pos hsecond]

/-- A request id takes at most six bytes for each character. -/
theorem answerable_event {log : RoomLog} {event : RoomEvent}
    (h : (historyAck "" (alone log event)).size + 768 ≤ maxRoomSocketMessageBytes) :
    Answerable log event := by
  intro ask
  have hvalid := ask.valid
  unfold validCommandEnvelope at hvalid
  rw [Bool.and_eq_true, decide_eq_true_eq] at hvalid
  have hle := JsonText.escapedSize_le ask.requestId.toList
  have hsize : (historyAck ask.requestId (alone log event)).size =
      (historyAck "" (alone log event)).size + JsonText.escapedSize ask.requestId.toList := by
    have hempty : JsonText.escapedSize "".toList = 0 := rfl
    simp only [historyAck, member, text, JsonText.size_object, JsonText.membersSize,
      JsonText.size_string, hempty]
    omega
  rw [encodes, decide_eq_true_eq, hsize]
  omega

end PagingSample

open PagingSample in
/-- A snapshot that keeps the newer of two events leaves the older one to be asked for. -/
theorem older_event_is_gathered : ReachesAll two (data two) (initial two 3889).shrink := by
  have hsent : fitSnapshotFrame (initial two 3889) = some (initial two 3889).shrink :=
    fit_shrink (List.cons_ne_nil _ _) (by decide +kernel) (by decide +kernel)
  have hdata : snapshotInner two 0 200 = .ok (data two) := rfl
  refine (reaches_all_iff hdata hsent (by decide)).mpr ⟨?_, ?_⟩
  · exact ⟨event 2, (kept_iff hsent).mpr (List.mem_singleton_self _)⟩
  · intro sent hsent
    refine Or.inr (answerable_event ?_)
    rcases List.mem_pair.mp hsent with rfl | rfl
    · decide +kernel
    · decide +kernel

open PagingSample in
/-- A snapshot that keeps nothing names the newest event as the oldest, and a client that asks for
what is before it never gets that event. -/
theorem newest_event_is_lost :
    ¬ ∀ {log resumeFromSeq limit data metadata sent},
      snapshotInner log resumeFromSeq limit = .ok data →
      fitSnapshotFrame (prepareSnapshot metadata data) = some sent →
      sent.events.length < data.events.length → ReachesAll log data sent := by
  intro hclaim
  have hsent : fitSnapshotFrame (initial one 3892) = some (initial one 3892).shrink :=
    fit_shrink (List.cons_ne_nil _ _) (by decide +kernel) (by decide +kernel)
  have hdata : snapshotInner one 0 200 = .ok (data one) := rfl
  obtain ⟨fuel, older, hgather, heq⟩ :=
    (hclaim hdata hsent (by decide)).gathers fun _ => ⟨"r", none, rfl, by simp⟩
  obtain ⟨rfl, -⟩ := gather_spec (Nat.le_refl 1) hgather
  cases heq

end AgentsAssemble.Paging
