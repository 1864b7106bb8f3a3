import AgentsAssemble.Streaming.Sessions

/-!
# The frames of one connection

After its snapshot a connection carries the events behind the snapshot, one after the other, until
it ends or the browser is told to subscribe again.
-/

namespace AgentsAssemble.Streaming

open Foundation Paging

/-- Where the frames of a connection are in the stream. -/
inductive Progress
  | before
  | at (seq : Nat)
  | stopped

/-- After the snapshot each event is the one after the last, until the stream is stopped. -/
inductive Streams (resumeFromSeq : Nat) : List ServerFrame → Progress → Prop
  | nil : Streams resumeFromSeq [] .before
  | receipt {frames : List ServerFrame} (h : Streams resumeFromSeq frames .before)
      (snapshotCursor catchupHighWater : Nat) :
      Streams resumeFromSeq (frames ++ [.subscribed snapshotCursor catchupHighWater]) .before
  | catalog {frames : List ServerFrame} {progress : Progress}
      (h : Streams resumeFromSeq frames progress) (hopen : progress ≠ .stopped) :
      Streams resumeFromSeq (frames ++ [.providerCatalogUpdated]) progress
  | request {frames : List ServerFrame} (h : Streams resumeFromSeq frames .before) (last : Bool) :
      Streams resumeFromSeq (frames ++ [.providerRequestSnapshot last]) .before
  | snapshot {frames : List ServerFrame} (h : Streams resumeFromSeq frames .before)
      {snapshot : RoomSnapshot} (hsnapshot : Continues resumeFromSeq snapshot) :
      Streams resumeFromSeq (frames ++ [.snapshot snapshot]) (.at snapshot.lastSeq)
  | event {frames : List ServerFrame} {seq : Nat} (h : Streams resumeFromSeq frames (.at seq))
      {event : RoomEvent} (hevent : event.seq = seq + 1) :
      Streams resumeFromSeq (frames ++ [.event [event] (seq + 1)]) (.at (seq + 1))
  | other {frames : List ServerFrame} {seq : Nat} (h : Streams resumeFromSeq frames (.at seq)) :
      Streams resumeFromSeq (frames ++ [.other]) (.at seq)
  | refused {frames : List ServerFrame} (h : Streams resumeFromSeq frames .before) :
      Streams resumeFromSeq (frames ++ [.subscriptionNack]) .stopped
  | resync {frames : List ServerFrame} {seq : Nat} (h : Streams resumeFromSeq frames (.at seq))
      (latestSeq : Nat) :
      Streams resumeFromSeq (frames ++ [.resyncRequired latestSeq]) .stopped

/-- The numbers of the events in frames. -/
def eventSeqs (frames : List ServerFrame) : List Nat :=
  frames.flatMap fun frame =>
    match frame with
    | .event events _ => events.map RoomEvent.seq
    | _ => []

section Streams

variable {resumeFromSeq : Nat} {frames more : List ServerFrame} {progress : Progress}

/-- What was sent before is a stream too. -/
theorem Streams.of_append (h : Streams resumeFromSeq (frames ++ more) progress) :
    ∃ progress, Streams resumeFromSeq frames progress := by
  induction more using List.reverseRecOn generalizing progress with
  | nil => exact ⟨progress, by rwa [List.append_nil] at h⟩
  | append_singleton more frame ih =>
      rw [← List.append_assoc] at h
      have hinit : ∃ progress, Streams resumeFromSeq (frames ++ more) progress := by
        generalize hall : frames ++ more ++ [frame] = all at h
        cases h with
        | nil => simp at hall
        | receipt h => exact ⟨_, (List.append_inj' hall rfl).1 ▸ h⟩
        | catalog h => exact ⟨_, (List.append_inj' hall rfl).1 ▸ h⟩
        | request h => exact ⟨_, (List.append_inj' hall rfl).1 ▸ h⟩
        | snapshot h => exact ⟨_, (List.append_inj' hall rfl).1 ▸ h⟩
        | event h => exact ⟨_, (List.append_inj' hall rfl).1 ▸ h⟩
        | other h => exact ⟨_, (List.append_inj' hall rfl).1 ▸ h⟩
        | refused h => exact ⟨_, (List.append_inj' hall rfl).1 ▸ h⟩
        | resync h => exact ⟨_, (List.append_inj' hall rfl).1 ▸ h⟩
      obtain ⟨progress, hinit⟩ := hinit
      exact ih hinit

@[simp] theorem eventSeqs_append :
    eventSeqs (frames ++ more) = eventSeqs frames ++ eventSeqs more :=
  List.flatMap_append

end Streams

/-! ## Reading a stream -/

/-- The events of a connection: none before its snapshot, which is a run of events up to its
cursor, and behind it those after the cursor, each once and in order. -/
structure Gapless (resumeFromSeq : Nat) (frames : List ServerFrame) : Prop where
  run : eventSeqs frames = [] ∧ (∀ snapshot, .snapshot snapshot ∉ frames) ∨
    ∃ before snapshot after, frames = before ++ .snapshot snapshot :: after ∧
      eventSeqs before = [] ∧ Continues resumeFromSeq snapshot ∧
      eventSeqs after = List.range' (snapshot.lastSeq + 1) (eventSeqs after).length
  /-- A browser that is told to subscribe again is told nothing more. -/
  last : ∀ latestSeq, .resyncRequired latestSeq ∈ frames →
    frames.getLast? = some (.resyncRequired latestSeq)

/-- What a stream that has come to a point has sent. -/
def Reads (resumeFromSeq : Nat) (frames : List ServerFrame) (progress : Progress) : Prop :=
  match progress with
  | .before => eventSeqs frames = [] ∧ (∀ snapshot, .snapshot snapshot ∉ frames) ∧
      ∀ latestSeq, .resyncRequired latestSeq ∉ frames
  | .at seq => (∀ latestSeq, .resyncRequired latestSeq ∉ frames) ∧
      ∃ before snapshot after, frames = before ++ .snapshot snapshot :: after ∧
        eventSeqs before = [] ∧ Continues resumeFromSeq snapshot ∧
        eventSeqs after = List.range' (snapshot.lastSeq + 1) (eventSeqs after).length ∧
        seq = snapshot.lastSeq + (eventSeqs after).length
  | .stopped => Gapless resumeFromSeq frames

section Reading

variable {resumeFromSeq seq : Nat} {frames : List ServerFrame} {frame : ServerFrame}
  {progress : Progress}

/-- A frame that is no part of the stream. -/
theorem Reads.aside (h : Reads resumeFromSeq frames progress) (hopen : progress ≠ .stopped)
    (hevents : eventSeqs [frame] = []) (hsnapshot : ∀ snapshot, frame ≠ .snapshot snapshot)
    (hresync : ∀ latestSeq, frame ≠ .resyncRequired latestSeq) :
    Reads resumeFromSeq (frames ++ [frame]) progress := by
  cases progress with
  | before =>
      obtain ⟨hnone, hsnapshots, hresyncs⟩ := h
      refine ⟨by rw [eventSeqs_append, hnone, hevents]; rfl, fun snapshot hmem => ?_,
        fun latestSeq hmem => ?_⟩
      · rcases List.mem_append.mp hmem with hmem | hmem
        · exact hsnapshots snapshot hmem
        · exact hsnapshot snapshot (List.mem_singleton.mp hmem).symm
      · rcases List.mem_append.mp hmem with hmem | hmem
        · exact hresyncs latestSeq hmem
        · exact hresync latestSeq (List.mem_singleton.mp hmem).symm
  | «at» seq =>
      obtain ⟨hresyncs, before, snapshot, after, hframes, hbefore, hcontinues, hafter, hseq⟩ := h
      refine ⟨fun latestSeq hmem => ?_, before, snapshot, after ++ [frame], ?_, hbefore,
        hcontinues, ?_⟩
      · rcases List.mem_append.mp hmem with hmem | hmem
        · exact hresyncs latestSeq hmem
        · exact hresync latestSeq (List.mem_singleton.mp hmem).symm
      · rw [hframes, List.append_assoc, List.cons_append]
      · rw [eventSeqs_append, hevents, List.append_nil]
        exact ⟨hafter, hseq⟩
  | stopped => exact absurd rfl hopen

/-- Whatever was sent so far is without a gap. -/
theorem Reads.gapless (h : Reads resumeFromSeq frames progress) : Gapless resumeFromSeq frames := by
  cases progress with
  | before =>
      obtain ⟨hnone, hsnapshots, hresyncs⟩ := h
      exact ⟨Or.inl ⟨hnone, hsnapshots⟩, fun latestSeq hmem => absurd hmem (hresyncs latestSeq)⟩
  | «at» seq =>
      obtain ⟨hresyncs, before, snapshot, after, hframes, hbefore, hcontinues, hafter, -⟩ := h
      exact ⟨Or.inr ⟨before, snapshot, after, hframes, hbefore, hcontinues, hafter⟩,
        fun latestSeq hmem => absurd hmem (hresyncs latestSeq)⟩
  | stopped => exact h

/-- The last frame of a stream. -/
theorem Reads.stop (h : Reads resumeFromSeq frames progress) (hopen : progress ≠ .stopped)
    (hevents : eventSeqs [frame] = []) (hsnapshot : ∀ snapshot, frame ≠ .snapshot snapshot) :
    Gapless resumeFromSeq (frames ++ [frame]) := by
  have hresyncs : ∀ latestSeq, .resyncRequired latestSeq ∉ frames := by
    cases progress with
    | before => exact h.2.2
    | «at» seq => exact h.1
    | stopped => exact absurd rfl hopen
  refine ⟨?_, fun latestSeq hmem => ?_⟩
  · rcases h.gapless.run with ⟨hnone, hsnapshots⟩ |
      ⟨before, snapshot, after, hframes, hbefore, hcontinues, hafter⟩
    · left
      refine ⟨by rw [eventSeqs_append, hnone, hevents]; rfl, fun snapshot hmem => ?_⟩
      rcases List.mem_append.mp hmem with hmem | hmem
      · exact hsnapshots snapshot hmem
      · exact hsnapshot snapshot (List.mem_singleton.mp hmem).symm
    · right
      refine ⟨before, snapshot, after ++ [frame], ?_, hbefore, hcontinues, ?_⟩
      · rw [hframes, List.append_assoc, List.cons_append]
      · rw [eventSeqs_append, hevents, List.append_nil]
        exact hafter
  · rcases List.mem_append.mp hmem with hmem | hmem
    · exact absurd hmem (hresyncs latestSeq)
    · rw [List.getLast?_concat, List.mem_singleton.mp hmem]

theorem Streams.reads (h : Streams resumeFromSeq frames progress) :
    Reads resumeFromSeq frames progress := by
  induction h with
  | nil =>
      exact ⟨rfl, fun snapshot hmem => absurd hmem List.not_mem_nil,
        fun latestSeq hmem => absurd hmem List.not_mem_nil⟩
  | receipt _ snapshotCursor catchupHighWater ih =>
      exact ih.aside Progress.noConfusion rfl (fun _ => ServerFrame.noConfusion)
        fun _ => ServerFrame.noConfusion
  | catalog _ hopen ih =>
      exact ih.aside hopen rfl (fun _ => ServerFrame.noConfusion) fun _ => ServerFrame.noConfusion
  | request _ last ih =>
      exact ih.aside Progress.noConfusion rfl (fun _ => ServerFrame.noConfusion)
        fun _ => ServerFrame.noConfusion
  | other _ ih =>
      exact ih.aside Progress.noConfusion rfl (fun _ => ServerFrame.noConfusion)
        fun _ => ServerFrame.noConfusion
  | @snapshot frames _ snapshot hcontinues ih =>
      obtain ⟨hnone, -, hresyncs⟩ := ih
      refine ⟨fun latestSeq hmem => ?_, frames, snapshot, [], rfl, hnone, hcontinues, rfl, rfl⟩
      rcases List.mem_append.mp hmem with hmem | hmem
      · exact hresyncs latestSeq hmem
      · cases List.mem_singleton.mp hmem
  | @event frames seq _ event hevent ih =>
      obtain ⟨hresyncs, before, snapshot, after, hframes, hbefore, hcontinues, hafter, hseq⟩ := ih
      refine ⟨fun latestSeq hmem => ?_, before, snapshot,
        after ++ [.event [event] (seq + 1)], ?_, hbefore, hcontinues, ?_, ?_⟩
      · rcases List.mem_append.mp hmem with hmem | hmem
        · exact hresyncs latestSeq hmem
        · cases List.mem_singleton.mp hmem
      · rw [hframes, List.append_assoc, List.cons_append]
      · have hnext : eventSeqs [.event [event] (seq + 1)] = [seq + 1] := by
          simp [eventSeqs, hevent]
        have hstart : seq + 1 = snapshot.lastSeq + 1 + (eventSeqs after).length := by omega
        rw [eventSeqs_append, hnext, List.length_append, List.length_singleton,
          List.range'_1_concat, ← hafter, hstart]
      · have hnext : eventSeqs [.event [event] (seq + 1)] = [seq + 1] := by
          simp [eventSeqs, hevent]
        rw [eventSeqs_append, hnext, List.length_append, List.length_singleton]
        omega
  | refused _ ih => exact ih.stop Progress.noConfusion rfl fun _ => ServerFrame.noConfusion
  | resync _ latestSeq ih => exact ih.stop Progress.noConfusion rfl fun _ => ServerFrame.noConfusion

end Reading

/-! ## What a session sends -/

/-- What was sent on a connection, by the stage of its session. -/
def Session.Sends (resumeFromSeq : Nat) (frames : List ServerFrame) (s : Session) : Prop :=
  match s.stage with
  | .requested cursor => cursor = resumeFromSeq ∧ Streams resumeFromSeq frames .before
  | .registered cursor => cursor = resumeFromSeq ∧ Streams resumeFromSeq frames .before
  | .prepared cursor snapshot =>
      cursor = resumeFromSeq ∧ Continues resumeFromSeq snapshot ∧
        Streams resumeFromSeq frames .before
  | .establishing pending _ _ deliveredSeq =>
      Streams resumeFromSeq (frames ++ pending) (.at deliveredSeq)
  | .live deliveredSeq => Streams resumeFromSeq frames (.at deliveredSeq)
  | .closed => ∃ progress, Streams resumeFromSeq frames progress

section Sending

variable {resumeFromSeq : Nat} {frames : List ServerFrame} {s : Session}

theorem Session.Sends.stream (h : s.Sends resumeFromSeq frames) :
    ∃ progress, Streams resumeFromSeq frames progress := by
  obtain ⟨stage, next⟩ := s
  cases stage with
  | requested cursor => exact ⟨_, h.2⟩
  | registered cursor => exact ⟨_, h.2⟩
  | prepared cursor snapshot => exact ⟨_, h.2.2⟩
  | establishing pending catchUp highWater deliveredSeq => exact Streams.of_append h
  | live deliveredSeq => exact ⟨_, h⟩
  | closed => exact h

theorem Streams.requests (h : Streams resumeFromSeq frames .before) (count : Nat) :
    Streams resumeFromSeq (frames ++ List.replicate count (.providerRequestSnapshot false))
      .before := by
  induction count with
  | zero => rwa [List.replicate_zero, List.append_nil]
  | succ count ih =>
      rw [List.replicate_succ', ← List.append_assoc]
      exact ih.request false

/-- The frames before the catch-up end with the snapshot. -/
theorem Streams.greeting {snapshot : RoomSnapshot} (h : Streams resumeFromSeq frames .before)
    (hsnapshot : Continues resumeFromSeq snapshot) (highWater requests : Nat) :
    Streams resumeFromSeq (frames ++ Session.greeting snapshot highWater requests)
      (.at snapshot.lastSeq) := by
  have hcatalog : Streams resumeFromSeq
      (frames ++ [.subscribed snapshot.lastSeq highWater] ++ [.providerCatalogUpdated]) .before :=
    (h.receipt _ _).catalog Progress.noConfusion
  have hrequests := ((hcatalog.requests requests).request true).snapshot hsnapshot
  simpa only [Session.greeting, List.append_assoc, List.cons_append, List.nil_append]
    using hrequests

/-- Every step of a session keeps the stream. -/
theorem Advances.sends {count : Nat} {out : Session × List ServerFrame}
    (hstep : Advances count s out) (h : s.Sends resumeFromSeq frames) :
    out.1.Sends resumeFromSeq (frames ++ out.2) := by
  cases hstep with
  | idle => rwa [List.append_nil]
  | close =>
      rw [List.append_nil]
      exact h.stream
  | register => rwa [List.append_nil]
  | unfit => exact ⟨_, h.2.refused⟩
  | prepare hcontinues =>
      rw [List.append_nil]
      exact ⟨h.1, h.1 ▸ hcontinues, h.2⟩
  | refuse => exact ⟨_, h.2.2.refused⟩
  | loadCatchUp requests =>
      show Streams resumeFromSeq (frames ++ [] ++ _) _
      rw [List.append_nil]
      exact h.2.2.greeting h.2.1 _ requests
  | greet =>
      have h : Streams resumeFromSeq (frames ++ _ :: _) _ := h
      show Streams resumeFromSeq (frames ++ [_] ++ _) _
      rwa [List.append_assoc, List.singleton_append]
  | catchUp hshown =>
      have h : Streams resumeFromSeq (frames ++ []) _ := h
      rw [List.append_nil] at h
      show Streams resumeFromSeq (frames ++ [_] ++ []) _
      rw [List.append_nil]
      exact h.event hshown
  | established =>
      have h : Streams resumeFromSeq (frames ++ []) _ := h
      exact h
  | pass => rwa [List.append_nil]
  | deliver hshown => exact Streams.event h hshown
  | deliverLast hshown => exact ⟨_, Streams.event h hshown⟩
  | lag latestSeq => exact ⟨_, Streams.resync h latestSeq⟩
  | answer catalog =>
      cases catalog with
      | true => exact Streams.catalog h Progress.noConfusion
      | false => exact Streams.other h

end Sending

end AgentsAssemble.Streaming
