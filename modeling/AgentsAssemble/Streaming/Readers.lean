import AgentsAssemble.Streaming.Sessions

/-!
# The browser at the other end

What the room socket client does with the frames of the room stream: it checks every number before
it hands events to the page, and asks the next connection for what is behind the last of them.
-/

namespace AgentsAssemble.Streaming

open Foundation Paging

/-- `Number.MAX_SAFE_INTEGER`. -/
def maxSafeInteger : Nat := 2 ^ 53 - 1

/-- The cursor of the client, the variables of its connection, and the numbers of the events that
the page shows. -/
structure Client where
  lastSeq : Nat
  freshSnapshotRequested : Bool
  /-- The snapshot cursor and the catch-up high water of the verified receipt. -/
  receipt : Option (Nat × Nat)
  initialCatalog : Bool
  requestsComplete : Bool
  snapshotAccepted : Bool
  connectionEstablished : Bool
  timeline : List Nat

/-! ## Snapshots -/

def contiguous : List Nat → Bool
  | [] => true
  | [_] => true
  | seq :: next :: rest => decide (next = seq + 1) && contiguous (next :: rest)

/-- `isSequence` of a number. -/
def isSequence (seq : Nat) : Bool :=
  decide (seq ≤ maxSafeInteger)

/-- The part of `snapshotValidationError` that is about numbers. -/
def snapshotSequenceIsValid (snapshot : RoomSnapshot) (currentLastSeq : Nat) : Bool :=
  let sequences := snapshot.events.map RoomEvent.seq
  if snapshot.snapshotMode = .bridge then false
  else if snapshot.resumeGap ≠ decide (snapshot.snapshotMode = .gap) ∨
      (snapshot.snapshotMode = .initial ∧ currentLastSeq ≠ 0) ∨
      (snapshot.snapshotMode ≠ .initial ∧ currentLastSeq = 0) ∨
      isSequence snapshot.oldestSeq = false ∨ isSequence snapshot.lastSeq = false ∨
      snapshot.lastSeq < currentLastSeq then false
  else if sequences.any fun seq => !(isSequence seq && decide (0 < seq)) then false
  else if contiguous sequences = false then false
  else
    match sequences.head?, sequences.getLast? with
    | some firstSeq, some finalSeq =>
        decide (snapshot.oldestSeq = firstSeq ∧ snapshot.lastSeq = finalSeq ∧
          (snapshot.snapshotMode = .resume → firstSeq = currentLastSeq + 1))
    | _, _ =>
        decide (snapshot.oldestSeq = 0 ∧
          (snapshot.snapshotMode = .initial ∧ snapshot.lastSeq = 0 ∨
            snapshot.snapshotMode = .resume ∧ snapshot.lastSeq = currentLastSeq))

/-! ## Events -/

/-- The loop of `acceptEventFrame`: the cursor behind the events, and the fresh ones of them. -/
def acceptEvents (highWater : Nat) (establishing : Bool) :
    List Nat → Nat → Option (Nat × List Nat)
  | [], nextSeq => some (nextSeq, [])
  | seq :: rest, nextSeq =>
      if isSequence seq = false ∨ seq = 0 then none
      else if establishing = true ∧ seq ≤ nextSeq then none
      else if seq ≤ nextSeq then acceptEvents highWater establishing rest nextSeq
      else if seq ≠ nextSeq + 1 then none
      else if establishing = true ∧ highWater < seq then none
      else (acceptEvents highWater establishing rest seq).map fun (nextSeq, fresh) =>
        (nextSeq, seq :: fresh)

namespace Client

/-- A client before it has connected. -/
def new : Client :=
  { lastSeq := 0
    freshSnapshotRequested := false
    receipt := none
    initialCatalog := false
    requestsComplete := false
    snapshotAccepted := false
    connectionEstablished := false
    timeline := [] }

/-- The variables of a new connection. -/
def connect (c : Client) : Client :=
  { c with
    receipt := none
    initialCatalog := false
    requestsComplete := false
    snapshotAccepted := false
    connectionEstablished := false }

/-- The cursor that the client subscribes with. -/
def resumeFromSeq (c : Client) : Nat :=
  if c.freshSnapshotRequested then 0 else c.lastSeq

/-- `acceptEventFrame`; nothing is returned where it throws. -/
def acceptEventFrame (events : List RoomEvent) (latestSeq highWater : Nat) (establishing : Bool)
    (c : Client) : Option Client :=
  if isSequence latestSeq = false then none
  else
    match acceptEvents highWater establishing (events.map RoomEvent.seq) c.lastSeq with
    | none => none
    | some (nextSeq, fresh) =>
        if fresh = [] ∨ latestSeq ≠ nextSeq then none
        else some { c with lastSeq := nextSeq, timeline := c.timeline ++ fresh }

def markReady (c : Client) : Client :=
  if c.snapshotAccepted = true ∧ c.receipt.map Prod.snd = some c.lastSeq then
    { c with connectionEstablished := true }
  else c

/-- What a frame did, and whether it failed the connection. -/
abbrev Processed := Client × Bool

/-- The first frame of a connection. -/
def processReceipt (frame : ServerFrame) (c : Client) : Processed :=
  match frame with
  | .resyncRequired latestSeq =>
      if isSequence latestSeq = true ∧ latestSeq < c.lastSeq then
        ({ c with freshSnapshotRequested := true }, true)
      else (c, true)
  | .subscribed snapshotCursor catchupHighWater =>
      if isSequence snapshotCursor = true ∧ isSequence catchupHighWater = true ∧
          snapshotCursor ≤ catchupHighWater then
        ({ c with receipt := some (snapshotCursor, catchupHighWater) }, false)
      else (c, true)
  | _ => (c, true)

/-- The page takes a snapshot.  It shows what it showed only if that is resumed. -/
def takeSnapshot (snapshot : RoomSnapshot) (c : Client) : Client :=
  let seqs := snapshot.events.map RoomEvent.seq
  markReady
    { c with
      lastSeq := snapshot.lastSeq
      freshSnapshotRequested := false
      snapshotAccepted := true
      timeline := if snapshot.snapshotMode = .resume then c.timeline ++ seqs else seqs }

def processSnapshot (snapshotCursor : Nat) (frame : ServerFrame) (c : Client) : Processed :=
  match frame with
  | .snapshot snapshot =>
      if snapshot.lastSeq = snapshotCursor ∧ snapshotSequenceIsValid snapshot c.lastSeq = true then
        (c.takeSnapshot snapshot, false)
      else (c, true)
  | _ => (c, true)

def processCatchUp (catchupHighWater : Nat) (frame : ServerFrame) (c : Client) : Processed :=
  match frame with
  | .event events latestSeq =>
      match c.acceptEventFrame events latestSeq catchupHighWater true with
      | some c => (c.markReady, false)
      | none => (c, true)
  | _ => (c, true)

def processEstablished (frame : ServerFrame) (c : Client) : Processed :=
  match frame with
  | .event events latestSeq =>
      match c.acceptEventFrame events latestSeq maxSafeInteger false with
      | some c => (c, false)
      | none => (c, true)
  | .providerCatalogUpdated => (c, false)
  | .other => (c, false)
  | _ => (c, true)

/-- `valid` tells that the members of the frame that are not numbers of the stream pass their
validators, and that the page takes it. -/
def processFrame (valid : Bool) (frame : ServerFrame) (c : Client) : Processed :=
  if valid = false then (c, true)
  else
    match c.receipt with
    | none => c.processReceipt frame
    | some (snapshotCursor, catchupHighWater) =>
        if c.initialCatalog = false then
          match frame with
          | .providerCatalogUpdated => ({ c with initialCatalog := true }, false)
          | _ => (c, true)
        else if c.requestsComplete = false then
          match frame with
          | .providerRequestSnapshot last => ({ c with requestsComplete := last }, false)
          | _ => (c, true)
        else if c.snapshotAccepted = false then c.processSnapshot snapshotCursor frame
        else if c.connectionEstablished = false then c.processCatchUp catchupHighWater frame
        else c.processEstablished frame

end Client

/-! ## What the page shows -/

/-- The page shows one run of events that ends at the cursor, each once and in order. -/
def Client.Shows (c : Client) : Prop :=
  ∃ first count, c.timeline = List.range' (first + 1) count ∧ c.lastSeq = first + count

section Checking

variable {snapshot : RoomSnapshot} {currentLastSeq : Nat}

theorem contiguous_iff {seq : Nat} {seqs : List Nat} :
    contiguous (seq :: seqs) = true ↔ seqs = List.range' (seq + 1) seqs.length := by
  induction seqs generalizing seq with
  | nil => simp [contiguous]
  | cons next seqs ih =>
      rw [contiguous, Bool.and_eq_true, decide_eq_true_eq, ih, List.length_cons, List.range'_succ,
        List.cons.injEq]
      constructor
      · rintro ⟨rfl, hrest⟩
        exact ⟨rfl, hrest⟩
      · rintro ⟨rfl, hrest⟩
        exact ⟨rfl, hrest⟩

/-- What the loop accepts is the next events, each once. -/
theorem acceptEvents_fresh {highWater : Nat} {establishing : Bool} {seqs fresh : List Nat}
    {lastSeq nextSeq : Nat} (h : acceptEvents highWater establishing seqs lastSeq =
      some (nextSeq, fresh)) :
    fresh = List.range' (lastSeq + 1) fresh.length ∧ nextSeq = lastSeq + fresh.length := by
  induction seqs generalizing lastSeq fresh with
  | nil =>
      obtain ⟨rfl, rfl⟩ := Prod.mk.inj (Option.some.inj h)
      exact ⟨rfl, rfl⟩
  | cons seq rest ih =>
      rw [acceptEvents] at h
      split at h
      · cases h
      · split at h
        · cases h
        · split at h
          · exact ih h
          · split at h
            · cases h
            · rename_i hnext
              split at h
              · cases h
              · obtain ⟨⟨last, later⟩, hrest, heq⟩ := Option.map_eq_some_iff.mp h
                obtain ⟨rfl, rfl⟩ := Prod.mk.inj heq
                obtain ⟨hlater, hlast⟩ := ih hrest
                have hseq : seq = lastSeq + 1 := Decidable.not_not.mp hnext
                rw [List.length_cons, List.range'_succ, hseq]
                rw [hseq] at hlater hlast
                exact ⟨congrArg _ hlater, by omega⟩

/-- A snapshot whose numbers pass is a run of events up to its cursor. -/
theorem run_of_valid (hvalid : snapshotSequenceIsValid snapshot currentLastSeq = true) :
    ∃ first count, snapshot.events.map RoomEvent.seq = List.range' (first + 1) count ∧
      snapshot.lastSeq = first + count ∧
      (snapshot.snapshotMode = .resume → first = currentLastSeq) := by
  unfold snapshotSequenceIsValid at hvalid
  dsimp only at hvalid
  split at hvalid
  · cases hvalid
  · split at hvalid
    · cases hvalid
    · split at hvalid
      · cases hvalid
      · rename_i hpositive
        split at hvalid
        · cases hvalid
        · rename_i hcontiguous
          cases hseqs : snapshot.events.map RoomEvent.seq with
          | nil =>
              rw [hseqs] at hvalid
              simp only [List.head?_nil, List.getLast?_nil, decide_eq_true_eq] at hvalid
              refine ⟨snapshot.lastSeq, 0, rfl, rfl, fun hresume => ?_⟩
              rcases hvalid.2 with ⟨hmode, -⟩ | ⟨-, hlast⟩
              · rw [hresume] at hmode
                cases hmode
              · exact hlast
          | cons seq seqs =>
              rw [hseqs] at hvalid hcontiguous hpositive
              rw [Bool.not_eq_false, contiguous_iff] at hcontiguous
              have hseq : 0 < seq := by
                by_contra hzero
                exact hpositive (by simp [Nat.eq_zero_of_not_pos hzero])
              have hlast : (seq :: seqs).getLast? = some (seq + seqs.length) := by
                rw [hcontiguous, ← List.range'_succ, List.getLast?_range']
                simp
              rw [hlast] at hvalid
              simp only [List.head?_cons, decide_eq_true_eq] at hvalid
              obtain ⟨-, hend, hresume⟩ := hvalid
              refine ⟨seq - 1, seqs.length + 1, ?_, by omega, fun hmode => ?_⟩
              · rw [List.range'_succ, Nat.sub_add_cancel hseq]
                exact congrArg _ hcontiguous
              · have hstart := hresume hmode
                omega

end Checking

namespace Client

variable {c c' : Client} {frame : ServerFrame} {valid failed : Bool}

/-- The run goes on with the events after the cursor. -/
theorem Shows.append (fresh : List Nat) (h : c.Shows)
    (hfresh : fresh = List.range' (c.lastSeq + 1) fresh.length)
    (htimeline : c'.timeline = c.timeline ++ fresh)
    (hlast : c'.lastSeq = c.lastSeq + fresh.length) :
    c'.Shows := by
  obtain ⟨first, count, hshown, hcursor⟩ := h
  refine ⟨first, count + fresh.length, ?_, by omega⟩
  have hnext : first + 1 + count = c.lastSeq + 1 := by omega
  rw [htimeline, hshown, hfresh, List.length_range', ← List.range'_append_1, hnext]

theorem shows_of_eq (h : c.Shows) (htimeline : c'.timeline = c.timeline)
    (hlast : c'.lastSeq = c.lastSeq) : c'.Shows := by
  rw [Shows, htimeline, hlast]
  exact h

@[simp] theorem markReady_lastSeq (c : Client) : c.markReady.lastSeq = c.lastSeq := by
  unfold markReady
  split <;> rfl

@[simp] theorem markReady_timeline (c : Client) : c.markReady.timeline = c.timeline := by
  unfold markReady
  split <;> rfl

@[simp] theorem markReady_freshSnapshotRequested (c : Client) :
    c.markReady.freshSnapshotRequested = c.freshSnapshotRequested := by
  unfold markReady
  split <;> rfl

theorem Shows.acceptEventFrame {events : List RoomEvent} {latestSeq highWater : Nat}
    {establishing : Bool} (hc : c.Shows)
    (h : c.acceptEventFrame events latestSeq highWater establishing = some c') : c'.Shows := by
  unfold Client.acceptEventFrame at h
  split at h
  · cases h
  · split at h
    · cases h
    · rename_i nextSeq fresh haccept
      split at h
      · cases h
      · obtain rfl := Option.some.inj h
        obtain ⟨hfresh, hnext⟩ := acceptEvents_fresh haccept
        exact hc.append fresh hfresh rfl hnext

theorem Shows.takeSnapshot {snapshot : RoomSnapshot} (hc : c.Shows)
    (hvalid : snapshotSequenceIsValid snapshot c.lastSeq = true) :
    (c.takeSnapshot snapshot).Shows := by
  obtain ⟨first, count, hseqs, hlast, hresume⟩ := run_of_valid hvalid
  by_cases hmode : snapshot.snapshotMode = .resume
  · have hfirst := hresume hmode
    have hlength : (snapshot.events.map RoomEvent.seq).length = count := by
      rw [hseqs, List.length_range']
    refine hc.append (snapshot.events.map RoomEvent.seq) ?_ ?_ ?_
    · rw [hlength, hseqs, hfirst]
    · rw [Client.takeSnapshot, markReady_timeline]
      exact if_pos hmode
    · rw [Client.takeSnapshot, markReady_lastSeq, hlength, ← hfirst]
      exact hlast
  · refine ⟨first, count, ?_, ?_⟩
    · rw [Client.takeSnapshot, markReady_timeline, ← hseqs]
      exact if_neg hmode
    · rw [Client.takeSnapshot, markReady_lastSeq]
      exact hlast

/-! Which function a frame comes to. -/

theorem processFrame_invalid (c : Client) (frame : ServerFrame) :
    c.processFrame false frame = (c, true) :=
  if_pos rfl

theorem processFrame_receipt (h : c.receipt = none) :
    c.processFrame true frame = c.processReceipt frame := by
  unfold processFrame
  rw [if_neg Bool.noConfusion, h]

section Phases

variable {receipt : Nat × Nat} (hreceipt : c.receipt = some receipt)
include hreceipt

theorem processFrame_catalog (h : c.initialCatalog = false) :
    c.processFrame true .providerCatalogUpdated = ({ c with initialCatalog := true }, false) := by
  unfold processFrame
  rw [if_neg Bool.noConfusion, hreceipt]
  exact if_pos h

theorem processFrame_request (last : Bool) (hcatalog : c.initialCatalog = true)
    (h : c.requestsComplete = false) :
    c.processFrame true (.providerRequestSnapshot last) =
      ({ c with requestsComplete := last }, false) := by
  unfold processFrame
  rw [if_neg Bool.noConfusion, hreceipt]
  dsimp only
  rw [if_neg (by rw [hcatalog]; exact Bool.noConfusion), if_pos h]

variable (hcatalog : c.initialCatalog = true) (hrequests : c.requestsComplete = true)
include hcatalog hrequests

theorem processFrame_snapshot (h : c.snapshotAccepted = false) :
    c.processFrame true frame = c.processSnapshot receipt.1 frame := by
  unfold processFrame
  rw [if_neg Bool.noConfusion, hreceipt]
  dsimp only
  rw [if_neg (by rw [hcatalog]; exact Bool.noConfusion),
    if_neg (by rw [hrequests]; exact Bool.noConfusion), if_pos h]

variable (hsnapshot : c.snapshotAccepted = true)
include hsnapshot

theorem processFrame_catchUp (h : c.connectionEstablished = false) :
    c.processFrame true frame = c.processCatchUp receipt.2 frame := by
  unfold processFrame
  rw [if_neg Bool.noConfusion, hreceipt]
  dsimp only
  rw [if_neg (by rw [hcatalog]; exact Bool.noConfusion),
    if_neg (by rw [hrequests]; exact Bool.noConfusion),
    if_neg (by rw [hsnapshot]; exact Bool.noConfusion), if_pos h]

theorem processFrame_established (h : c.connectionEstablished = true) :
    c.processFrame true frame = c.processEstablished frame := by
  unfold processFrame
  rw [if_neg Bool.noConfusion, hreceipt]
  dsimp only
  rw [if_neg (by rw [hcatalog]; exact Bool.noConfusion),
    if_neg (by rw [hrequests]; exact Bool.noConfusion),
    if_neg (by rw [hsnapshot]; exact Bool.noConfusion),
    if_neg (by rw [h]; exact Bool.noConfusion)]

end Phases

/-- What a frame changes of what the page shows: nothing, or it is a snapshot that passes, or the
frame of events that were accepted. -/
theorem processFrame_cases (c : Client) (valid : Bool) (frame : ServerFrame) :
    ((c.processFrame valid frame).1.lastSeq = c.lastSeq ∧
      (c.processFrame valid frame).1.timeline = c.timeline ∧
      ((c.processFrame valid frame).2 = false →
        (c.processFrame valid frame).1.freshSnapshotRequested = c.freshSnapshotRequested)) ∨
    (∃ snapshot, frame = .snapshot snapshot ∧
      snapshotSequenceIsValid snapshot c.lastSeq = true ∧
      (c.processFrame valid frame).1 = c.takeSnapshot snapshot) ∨
    ∃ events latestSeq highWater establishing accepted, frame = .event events latestSeq ∧
      c.acceptEventFrame events latestSeq highWater establishing = some accepted ∧
      (c.processFrame valid frame).1.lastSeq = accepted.lastSeq ∧
      (c.processFrame valid frame).1.timeline = accepted.timeline ∧
      (c.processFrame valid frame).1.freshSnapshotRequested = accepted.freshSnapshotRequested := by
  unfold processFrame
  split
  · exact Or.inl ⟨rfl, rfl, fun _ => rfl⟩
  · split
    · left
      unfold processReceipt
      split
      · split <;> exact ⟨rfl, rfl, Bool.noConfusion⟩
      · split <;> exact ⟨rfl, rfl, fun _ => rfl⟩
      · exact ⟨rfl, rfl, fun _ => rfl⟩
    · split
      · left
        split <;> exact ⟨rfl, rfl, fun _ => rfl⟩
      · split
        · left
          split <;> exact ⟨rfl, rfl, fun _ => rfl⟩
        · split
          · unfold processSnapshot
            split
            · split
              · rename_i hvalid
                exact Or.inr (Or.inl ⟨_, rfl, hvalid.2, rfl⟩)
              · exact Or.inl ⟨rfl, rfl, fun _ => rfl⟩
            · exact Or.inl ⟨rfl, rfl, fun _ => rfl⟩
          · split
            · unfold processCatchUp
              split
              · split
                · rename_i haccept
                  exact Or.inr (Or.inr ⟨_, _, _, _, _, rfl, haccept, markReady_lastSeq _,
                    markReady_timeline _, markReady_freshSnapshotRequested _⟩)
                · exact Or.inl ⟨rfl, rfl, fun _ => rfl⟩
              · exact Or.inl ⟨rfl, rfl, fun _ => rfl⟩
            · unfold processEstablished
              split
              · split
                · rename_i haccept
                  exact Or.inr (Or.inr ⟨_, _, _, _, _, rfl, haccept, rfl, rfl, rfl⟩)
                · exact Or.inl ⟨rfl, rfl, fun _ => rfl⟩
              · exact Or.inl ⟨rfl, rfl, fun _ => rfl⟩
              · exact Or.inl ⟨rfl, rfl, fun _ => rfl⟩
              · exact Or.inl ⟨rfl, rfl, fun _ => rfl⟩

/-- Whatever frame arrives, the page shows one run that ends at the cursor. -/
theorem Shows.processFrame (hc : c.Shows) : (c.processFrame valid frame).1.Shows := by
  rcases processFrame_cases c valid frame with ⟨hlast, htimeline, -⟩ |
    ⟨snapshot, -, hvalid, htaken⟩ | ⟨_, _, _, _, accepted, -, haccept, hlast, htimeline, -⟩
  · exact shows_of_eq hc htimeline hlast
  · rw [htaken]
    exact hc.takeSnapshot hvalid
  · exact shows_of_eq (hc.acceptEventFrame haccept) htimeline hlast

end Client

/-! ## Any frames -/

/-- What happens to a client: a new connection, or a frame, as the validators find it. -/
inductive ClientInput
  | connect
  | frame (valid : Bool) (frame : ServerFrame)

def Client.react (c : Client) (input : ClientInput) : Client :=
  match input with
  | .connect => c.connect
  | .frame valid frame => (c.processFrame valid frame).1

/-- Whatever frames arrive over whatever connections, the page shows one run of events that ends
at the cursor: none of them twice, none left out, none out of order. -/
theorem page_shows_one_run (inputs : List ClientInput) :
    (inputs.foldl Client.react .new).Shows := by
  induction inputs using List.reverseRecOn with
  | nil => exact ⟨0, 0, rfl, rfl⟩
  | append_singleton inputs input ih =>
      rw [List.foldl_append, List.foldl_cons, List.foldl_nil]
      cases input with
      | connect => exact ih
      | frame valid frame => exact ih.processFrame

/-- The highest number that a frame speaks of. -/
def ServerFrame.highest (frame : ServerFrame) : Nat :=
  match frame with
  | .subscribed _ catchupHighWater => catchupHighWater
  | .snapshot sent => sent.lastSeq
  | .event _ latestSeq => latestSeq
  | _ => 0

section Numbers

variable {c accepted : Client} {valid : Bool} {frame : ServerFrame} {count : Nat}

theorem Client.acceptEventFrame_eq {events : List RoomEvent} {latestSeq highWater : Nat}
    {establishing : Bool}
    (h : c.acceptEventFrame events latestSeq highWater establishing = some accepted) :
    accepted.lastSeq = latestSeq ∧
      accepted.freshSnapshotRequested = c.freshSnapshotRequested := by
  unfold acceptEventFrame at h
  split at h
  · cases h
  · split at h
    · cases h
    · split at h
      · cases h
      · rename_i hlatest
        obtain rfl := Option.some.inj h
        exact ⟨(Decidable.not_not.mp (not_or.mp hlatest).2).symm, rfl⟩

theorem Client.processFrame_within (hframe : frame.highest ≤ count) (hc : c.lastSeq ≤ count) :
    (c.processFrame valid frame).1.lastSeq ≤ count := by
  rcases c.processFrame_cases valid frame with ⟨hlast, -⟩ | ⟨snapshot, rfl, -, htaken⟩ |
    ⟨events, latestSeq, highWater, establishing, accepted, rfl, haccept, hlast, -⟩
  · rw [hlast]
    exact hc
  · rw [htaken, takeSnapshot, markReady_lastSeq]
    exact hframe
  · rw [hlast, (acceptEventFrame_eq haccept).1]
    exact hframe

/-- No frame that is accepted asks for a fresh snapshot. -/
theorem Client.processFrame_resumes (h : (c.processFrame valid frame).2 = false)
    (hc : c.freshSnapshotRequested = false) :
    (c.processFrame valid frame).1.freshSnapshotRequested = false := by
  rcases c.processFrame_cases valid frame with ⟨-, -, hsame⟩ | ⟨snapshot, -, -, htaken⟩ |
    ⟨_, _, _, _, accepted, -, haccept, -, -, hsame⟩
  · rw [hsame h, hc]
  · rw [htaken, takeSnapshot, markReady_freshSnapshotRequested]
  · rw [hsame, (acceptEventFrame_eq haccept).2, hc]

end Numbers

end AgentsAssemble.Streaming
