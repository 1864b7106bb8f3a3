import AgentsAssemble.Persistence.Prepared

/-!
# What a provider observes

A turn is handed a prefix of its queue together with the room history around
it.  The prefix is the longest one a single observation can carry, and the
history is filled in backwards from the source message for as long as the
rendered view still fits.
-/

namespace AgentsAssemble.Persistence

open Foundation Domain

/-! ## Readable messages -/

/-- A stored message whose text and attachments can be read. -/
def Readable (event : RoomEvent) : Prop :=
  ∃ visible, event.messageHasVisiblePayload = .ok visible

theorem readable_iff {event : RoomEvent} :
    Readable event ↔ ∃ attachments text,
      event.messageAttachments = .ok attachments ∧ event.messageVisibleText = .ok text := by
  unfold Readable RoomEvent.messageHasVisiblePayload
  constructor
  · rintro ⟨visible, h⟩
    obtain ⟨attachments, hattachments, h⟩ := Result.bind_eq_ok.mp h
    obtain ⟨text, htext, -⟩ := Result.bind_eq_ok.mp h
    exact ⟨attachments, text, hattachments, htext⟩
  · rintro ⟨attachments, text, hattachments, htext⟩
    exact ⟨_, Result.bind_eq_ok.mpr ⟨attachments, hattachments,
      Result.bind_eq_ok.mpr ⟨text, htext, rfl⟩⟩⟩

theorem IsPending.readable {events : List RoomEvent} {session : DurableAgentSession} {n : Nat}
    {pending : PendingRoomEvent} (h : IsPending events session n pending) :
    Readable pending.event :=
  ⟨true, readable_eq_ok.mp h.visible⟩

/-- A map succeeds when it succeeds at every element. -/
theorem mapM_total {ε α β : Type} {f : α → Except ε β} {as : List α}
    (h : ∀ a ∈ as, ∃ b, f a = .ok b) : ∃ bs, as.mapM f = .ok bs := by
  induction as with
  | nil => exact ⟨[], rfl⟩
  | cons a as ih =>
      obtain ⟨b, hb⟩ := h a List.mem_cons_self
      obtain ⟨bs, hbs⟩ := ih fun x hx => h x (List.mem_cons_of_mem _ hx)
      exact ⟨b :: bs, Result.mapM_cons_eq_ok.mpr ⟨b, bs, hb, hbs, rfl⟩⟩

theorem eventLines_total {event : RoomEvent} (h : Readable event) :
    ∃ lines, eventLines event = .ok lines := by
  obtain ⟨attachments, text, hattachments, htext⟩ := readable_iff.mp h
  unfold eventLines
  rw [htext, hattachments]
  simp only [readable, bind, Except.bind, pure, Except.pure]
  split <;> exact ⟨_, rfl⟩

section View

variable {room : Room} {session : DurableAgentSession} {roomAgentIds : List String}

theorem renderRoomView_total {context : List RoomEvent} (h : ∀ e ∈ context, Readable e) :
    ∃ view, renderRoomView room session roomAgentIds context = .ok view := by
  obtain ⟨bodies, hbodies⟩ := mapM_total fun e he => eventLines_total (h e he)
  exact ⟨_, Result.bind_eq_ok.mpr ⟨bodies, hbodies, rfl⟩⟩

/-- Only readable messages have a view. -/
theorem readable_of_view {context : List RoomEvent} {view : String}
    (h : renderRoomView room session roomAgentIds context = .ok view) :
    ∀ e ∈ context, Readable e := by
  obtain ⟨bodies, hbodies, -⟩ := Result.bind_eq_ok.mp h
  intro e he
  obtain ⟨lines, -, hlines⟩ := Result.forall₂_mem_left (Result.mapM_eq_ok.mp hbodies) he
  obtain ⟨text, htext, hlines⟩ := Result.bind_eq_ok.mp hlines
  obtain ⟨attachments, hattachments, -⟩ := Result.bind_eq_ok.mp hlines
  exact readable_iff.mpr
    ⟨attachments, text, readable_eq_ok.mp hattachments, readable_eq_ok.mp htext⟩

/-! ## The view grows with its messages -/

theorem length_intercalate_le_append (separator : String) (as bs : List String) :
    (String.intercalate separator as).toList.length ≤
      (String.intercalate separator (as ++ bs)).toList.length := by
  by_cases has : as = []
  · simp [has]
  by_cases hbs : bs = []
  · simp [hbs]
  rw [String.intercalate_append_of_ne_nil has hbs]
  simp only [String.toList_append, List.length_append]
  omega

/-- A later message adds lines at the end and changes none before: the line about earlier
updates depends on the first message alone. -/
theorem view_length_le_append {first : RoomEvent} {context more : List RoomEvent} {view : String}
    (h : renderRoomView room session roomAgentIds (first :: context ++ more) = .ok view) :
    ∃ shorter, renderRoomView room session roomAgentIds (first :: context) = .ok shorter ∧
      shorter.toList.length ≤ view.toList.length := by
  obtain ⟨bodies, hbodies, hview⟩ := Result.bind_eq_ok.mp h
  obtain rfl := Result.pure_eq_ok.mp hview
  -- the lines of the longer context are those of the shorter one and then some
  rw [List.mapM_append] at hbodies
  obtain ⟨kept, hkept, hbodies⟩ := Result.bind_eq_ok.mp hbodies
  obtain ⟨added, -, hbodies⟩ := Result.bind_eq_ok.mp hbodies
  obtain rfl := Result.pure_eq_ok.mp hbodies
  refine ⟨_, Result.bind_eq_ok.mpr ⟨kept, hkept, rfl⟩, ?_⟩
  rw [List.flatten_append, ← List.append_assoc]
  exact length_intercalate_le_append _ _ _

/-! ## Attachments of several messages -/

theorem length_le_foldl_attachments (attachments : List MessageAttachmentMetadata)
    (ids : List String) :
    ids.length ≤ (attachments.foldl
      (fun ids attachment =>
        if attachment.id ∈ ids then ids else ids ++ [attachment.id]) ids).length := by
  induction attachments generalizing ids with
  | nil => simp
  | cons attachment attachments ih =>
      refine Nat.le_trans ?_ (ih _)
      dsimp only
      split <;> simp

theorem attachmentIds_go_length {events : List RoomEvent} {ids out : List String}
    (h : RoomEvent.messageAttachmentIdsFromEvents.go ids events = .ok out) :
    ids.length ≤ out.length := by
  induction events generalizing ids with
  | nil =>
      obtain rfl := Except.ok.inj h
      exact Nat.le_refl _
  | cons event events ih =>
      rw [RoomEvent.messageAttachmentIdsFromEvents.go] at h
      cases hattachments : event.messageAttachments with
      | error e =>
          rw [hattachments] at h
          cases h
      | ok attachments =>
          rw [hattachments] at h
          exact (length_le_foldl_attachments attachments ids).trans (ih h)

theorem attachmentIds_go_append {events more : List RoomEvent} {ids out : List String}
    (h : RoomEvent.messageAttachmentIdsFromEvents.go ids (events ++ more) = .ok out) :
    ∃ fewer, RoomEvent.messageAttachmentIdsFromEvents.go ids events = .ok fewer ∧
      fewer.length ≤ out.length := by
  induction events generalizing ids with
  | nil => exact ⟨ids, rfl, attachmentIds_go_length h⟩
  | cons event events ih =>
      rw [List.cons_append, RoomEvent.messageAttachmentIdsFromEvents.go] at h
      rw [RoomEvent.messageAttachmentIdsFromEvents.go]
      cases hattachments : event.messageAttachments with
      | error e =>
          rw [hattachments] at h
          cases h
      | ok attachments =>
          rw [hattachments] at h
          exact ih h

theorem attachmentIds_go_total {events : List RoomEvent} (ids : List String)
    (h : ∀ e ∈ events, Readable e) :
    ∃ out, RoomEvent.messageAttachmentIdsFromEvents.go ids events = .ok out := by
  induction events generalizing ids with
  | nil => exact ⟨ids, rfl⟩
  | cons event events ih =>
      obtain ⟨attachments, text, hattachments, -⟩ := readable_iff.mp (h event List.mem_cons_self)
      rw [RoomEvent.messageAttachmentIdsFromEvents.go, hattachments]
      exact ih _ fun e he => h e (List.mem_cons_of_mem _ he)

/-- What one observation can carry, every shorter prefix of it can carry as well. -/
theorem Fits.of_append {context more : List RoomEvent} (hne : context ≠ [])
    (h : Fits room session roomAgentIds (context ++ more)) :
    Fits room session roomAgentIds context := by
  obtain ⟨first, context, rfl⟩ := List.exists_cons_of_ne_nil hne
  obtain ⟨ids, hids, hcount⟩ := h.attachments
  obtain ⟨view, hview, hlength⟩ := h.view
  obtain ⟨fewer, hfewer, hle⟩ := attachmentIds_go_append hids
  obtain ⟨shorter, hshorter, hview⟩ := view_length_le_append hview
  exact ⟨⟨fewer, hfewer, hle.trans hcount⟩, ⟨shorter, hshorter, hview.trans hlength⟩⟩

/-! ## The longest prefix -/

/-- The messages of one observation: one delivery kind, within its bounds. -/
structure Observable (room : Room) (session : DurableAgentSession)
    (roomAgentIds : List String) (selected : List PendingRoomEvent) : Prop where
  kinds : ∀ p ∈ selected, ∀ q ∈ selected, p.input.deliveryKind = q.input.deliveryKind
  fits : Fits room session roomAgentIds (selected.map PendingRoomEvent.event)

/-- A prefix with the property that contains every prefix with the property. -/
structure IsLongestPrefix {α : Type} (P : List α → Prop) (as out : List α) : Prop where
  isPrefix : out <+: as
  holds : P out
  longest : ∀ more, more <+: as → more ≠ [] → P more → more <+: out

theorem IsLongestPrefix.unique {α : Type} {P : List α → Prop} {as out other : List α}
    (h : IsLongestPrefix P as out) (h' : IsLongestPrefix P as other) (hne : out ≠ [])
    (hne' : other ≠ []) : out = other :=
  (h'.longest out h.isPrefix hne h.holds).eq_of_length_le
    (h.longest other h'.isPrefix hne' h'.holds).length_le

/-- The greedy selection never stops before a longer prefix that could be carried. -/
theorem selectPrefix_longest {kind : RoomInputDeliveryKind}
    {selected rest out more : List PendingRoomEvent}
    (h : selectPrefix room session roomAgentIds kind selected rest = .ok out)
    (hmore : more <+: rest) (hkinds : ∀ p ∈ more, p.input.deliveryKind = kind)
    (hfits : more ≠ [] →
      Fits room session roomAgentIds ((selected ++ more).map PendingRoomEvent.event)) :
    selected ++ more <+: out := by
  induction rest generalizing selected more with
  | nil =>
      obtain rfl := List.prefix_nil.mp hmore
      obtain rfl := Except.ok.inj h
      simp
  | cons pending rest ih =>
      have hkept : selected <+: out := by
        obtain ⟨added, rfl, -⟩ := selectPrefix_ok h
        exact List.prefix_append _ _
      cases more with
      | nil => simpa using hkept
      | cons p more =>
          obtain ⟨rfl, htail⟩ := List.cons_prefix_cons.mp hmore
          have hnext : Fits room session roomAgentIds
              ((selected ++ [p]).map PendingRoomEvent.event) := by
            have hwhole := hfits (List.cons_ne_nil _ _)
            rw [List.append_cons, List.map_append] at hwhole
            exact hwhole.of_append (by simp)
          have hsplit : selected ++ p :: more = selected ++ [p] ++ more := by simp
          obtain ⟨ids, hids, hcount⟩ := hnext.attachments
          obtain ⟨view, hview, hlength⟩ := hnext.view
          rw [selectPrefix, if_neg (not_not.mpr (hkinds p List.mem_cons_self))] at h
          obtain ⟨ids', hids', h⟩ := Result.bind_eq_ok.mp h
          obtain rfl := Except.ok.inj (hids.symm.trans (readable_eq_ok.mp hids'))
          rw [if_neg (Nat.not_lt.mpr hcount)] at h
          obtain ⟨view', hview', h⟩ := Result.bind_eq_ok.mp h
          obtain rfl := Except.ok.inj (hview.symm.trans hview')
          rw [if_neg (Nat.not_lt.mpr hlength)] at h
          rw [hsplit]
          refine ih h htail (fun q hq => hkinds q (List.mem_cons_of_mem _ hq)) fun _ => ?_
          rw [← hsplit]
          exact hfits (List.cons_ne_nil _ _)

theorem selectPrefix_total {kind : RoomInputDeliveryKind} {rest : List PendingRoomEvent}
    (selected : List PendingRoomEvent) (hselected : ∀ p ∈ selected, Readable p.event)
    (hrest : ∀ p ∈ rest, Readable p.event) :
    ∃ out, selectPrefix room session roomAgentIds kind selected rest = .ok out := by
  induction rest generalizing selected with
  | nil => exact ⟨selected, rfl⟩
  | cons pending rest ih =>
      have hnext : ∀ p ∈ selected ++ [pending], Readable p.event := by
        intro p hp
        rcases List.mem_append.mp hp with hp | hp
        · exact hselected p hp
        · obtain rfl := List.mem_singleton.mp hp
          exact hrest p List.mem_cons_self
      have hevents : ∀ e ∈ (selected ++ [pending]).map PendingRoomEvent.event, Readable e := by
        intro e he
        obtain ⟨p, hp, rfl⟩ := List.mem_map.mp he
        exact hnext p hp
      rw [selectPrefix]
      split
      · exact ⟨selected, rfl⟩
      obtain ⟨ids, hids⟩ := attachmentIds_go_total [] hevents
      have hrendered : ∃ view, renderRoomView room session roomAgentIds
          ((selected ++ [pending]).map PendingRoomEvent.event) = .ok view :=
        renderRoomView_total hevents
      obtain ⟨view, hview⟩ := hrendered
      obtain ⟨out, hout⟩ := ih (selected ++ [pending]) hnext
        fun p hp => hrest p (List.mem_cons_of_mem _ hp)
      have hids' := readable_eq_ok.mpr
        (show RoomEvent.messageAttachmentIdsFromEvents _ = .ok ids from hids)
      simp only [hids', hview, bind, Except.bind]
      split
      · exact ⟨selected, rfl⟩
      split
      · exact ⟨selected, rfl⟩
      · exact ⟨out, hout⟩

/-- A non-empty prefix of a bounded queue holds the first message of the queue. -/
theorem first_mem_of_initial {α : Type} {first : α} {rest more : List α} {n : Nat}
    (hpre : more <+: (first :: rest).take n) (hne : more ≠ []) : first ∈ more := by
  obtain ⟨head, tail, rfl⟩ := List.exists_cons_of_ne_nil hne
  cases n with
  | zero => simp at hpre
  | succ n =>
      rw [List.take_succ_cons] at hpre
      obtain ⟨rfl, -⟩ := List.cons_prefix_cons.mp hpre
      exact List.mem_cons_self

/-- The prefix a turn takes is the longest non-empty prefix that one observation can carry, and
there is none exactly when the first message alone is too much. -/
theorem boundedPendingPrefix_longest {pending out : List PendingRoomEvent}
    (hreadable : ∀ p ∈ pending, Readable p.event) :
    boundedPendingPrefix room session roomAgentIds pending = .ok out ↔
      out ≠ [] ∧ IsLongestPrefix (Observable room session roomAgentIds)
        (pending.take maxContextMessages) out := by
  have hforward : ∀ out, boundedPendingPrefix room session roomAgentIds pending = .ok out →
      out ≠ [] ∧ IsLongestPrefix (Observable room session roomAgentIds)
        (pending.take maxContextMessages) out := by
    intro out h
    obtain ⟨hne, -, hkinds, hfits⟩ := boundedPendingPrefix_ok h
    cases pending with
    | nil => cases h
    | cons first rest =>
        rw [boundedPendingPrefix] at h
        obtain ⟨selected, hselected, h⟩ := Result.bind_eq_ok.mp h
        obtain ⟨-, h⟩ := Result.check_eq_ok.mp h
        obtain rfl := Result.pure_eq_ok.mp h
        obtain ⟨taken, htaken, hpre, -⟩ := selectPrefix_ok hselected
        rw [List.nil_append] at htaken
        subst htaken
        refine ⟨hne, hpre, ⟨hkinds, hfits⟩, fun more hmore hsome hcarried => ?_⟩
        refine selectPrefix_longest hselected hmore (fun p hp => ?_) fun _ => hcarried.fits
        exact hcarried.kinds p hp first (first_mem_of_initial hmore hsome)
  refine ⟨hforward out, ?_⟩
  rintro ⟨hne, hlongest⟩
  cases pending with
  | nil => exact absurd (List.prefix_nil.mp hlongest.isPrefix) hne
  | cons first rest =>
      have htotal : ∃ selected, selectPrefix room session roomAgentIds first.input.deliveryKind []
          ((first :: rest).take maxContextMessages) = .ok selected :=
        selectPrefix_total [] (by simp) fun p hp => hreadable p (List.mem_of_mem_take hp)
      obtain ⟨selected, hselected⟩ := htotal
      have hcovers : out <+: selected := by
        refine selectPrefix_longest hselected hlongest.isPrefix (fun p hp => ?_)
          fun _ => hlongest.holds.fits
        exact hlongest.holds.kinds p hp first (first_mem_of_initial hlongest.isPrefix hne)
      have hsome : selected ≠ [] := by
        rintro rfl
        exact hne (List.prefix_nil.mp hcovers)
      have htaken : boundedPendingPrefix room session roomAgentIds (first :: rest) =
          .ok selected := by
        rw [boundedPendingPrefix, Result.bind_eq_ok]
        exact ⟨selected, hselected, Result.check_eq_ok.mpr ⟨hsome, rfl⟩⟩
      rw [htaken, (hforward selected htaken).2.unique hlongest hsome hne]

/-! ## Maps by sequence -/

/-- Events by ascending sequence, as the values of a map keyed by it. -/
def BySeq (selected : List RoomEvent) : Prop :=
  selected.Pairwise fun a b => a.seq < b.seq

theorem mem_insertBySeq {event e : RoomEvent} {selected : List RoomEvent} :
    e ∈ insertBySeq event selected ↔ e = event ∨ e ∈ selected ∧ e.seq ≠ event.seq := by
  simp [insertBySeq, List.mem_orderedInsert]

theorem length_insertBySeq_le (event : RoomEvent) (selected : List RoomEvent) :
    (insertBySeq event selected).length ≤ selected.length + 1 := by
  rw [insertBySeq, List.orderedInsert_length]
  exact Nat.succ_le_succ (List.length_filter_le _ _)

theorem bySeq_orderedInsert {event : RoomEvent} {selected : List RoomEvent}
    (h : BySeq selected) (hfresh : ∀ e ∈ selected, e.seq ≠ event.seq) :
    BySeq (selected.orderedInsert (fun a b => a.seq ≤ b.seq) event) := by
  induction selected with
  | nil => simp [BySeq]
  | cons e selected ih =>
      obtain ⟨hhead, htail⟩ := List.pairwise_cons.mp h
      have hne := hfresh e List.mem_cons_self
      rw [List.orderedInsert]
      split
      case isTrue hle =>
        have hlt : event.seq < e.seq := Nat.lt_of_le_of_ne hle (Ne.symm hne)
        apply List.pairwise_cons.mpr
        refine ⟨fun d hd => ?_, h⟩
        rcases List.mem_cons.mp hd with rfl | hd
        · exact hlt
        · exact hlt.trans (hhead d hd)
      case isFalse hnot =>
        apply List.pairwise_cons.mpr
        refine ⟨fun d hd => ?_, ih htail fun d hd => hfresh d (List.mem_cons_of_mem _ hd)⟩
        rcases (List.mem_orderedInsert _).mp hd with rfl | hd
        · exact Nat.lt_of_not_le hnot
        · exact hhead d hd

theorem bySeq_insertBySeq {event : RoomEvent} {selected : List RoomEvent} (h : BySeq selected) :
    BySeq (insertBySeq event selected) := by
  refine bySeq_orderedInsert (List.Pairwise.filter _ h) fun e he => ?_
  simpa using (List.mem_filter.mp he).2

/-- A newer event goes to the end. -/
theorem insertBySeq_of_lt {event : RoomEvent} {selected : List RoomEvent}
    (h : ∀ e ∈ selected, e.seq < event.seq) : insertBySeq event selected = selected ++ [event] := by
  have hkept : (selected.filter fun stored => stored.seq ≠ event.seq) = selected := by
    rw [List.filter_eq_self]
    intro e he
    simpa using Nat.ne_of_lt (h e he)
  rw [insertBySeq, hkept]
  clear hkept
  induction selected with
  | nil => rfl
  | cons e selected ih =>
      have hlt := h e List.mem_cons_self
      rw [List.orderedInsert, if_neg (Nat.not_le.mpr hlt), List.cons_append,
        ih fun d hd => h d (List.mem_cons_of_mem _ hd)]

/-- Events that already ascend are inserted in order. -/
theorem foldl_insertBySeq {pending : List PendingRoomEvent} {selected : List RoomEvent}
    (h : BySeq (selected ++ pending.map PendingRoomEvent.event)) :
    pending.foldl (fun selected pending => insertBySeq pending.event selected) selected =
      selected ++ pending.map PendingRoomEvent.event := by
  induction pending generalizing selected with
  | nil => simp
  | cons p pending ih =>
      have hlt : ∀ e ∈ selected, e.seq < p.event.seq := fun e he =>
        (List.pairwise_append.mp h).2.2 e he p.event List.mem_cons_self
      rw [List.foldl_cons, insertBySeq_of_lt hlt, ih]
      · simp
      · simpa using h

/-- The queued events ascend. -/
theorem loadPendingEvents_bySeq {events : List RoomEvent} {previousSeq : Nat}
    {inputs : List QueuedRoomInput} {loaded : List PendingRoomEvent}
    (h : loadPendingEvents events session previousSeq inputs = .ok loaded) :
    BySeq (loaded.map PendingRoomEvent.event) := by
  induction inputs generalizing previousSeq loaded with
  | nil =>
      obtain rfl := Except.ok.inj h
      exact List.Pairwise.nil
  | cons input inputs ih =>
      rw [loadPendingEvents] at h
      obtain ⟨found, hfound, h⟩ := Result.bind_eq_ok.mp h
      cases found with
      | none => exact (Result.throw_eq_ok.mp h).elim
      | some event =>
          obtain ⟨visible, hvisible, h⟩ := Result.bind_eq_ok.mp h
          obtain ⟨-, h⟩ := Result.check_eq_ok.mp h
          obtain ⟨rest, hrest, h⟩ := Result.bind_eq_ok.mp h
          obtain rfl := Result.pure_eq_ok.mp h
          apply List.pairwise_cons.mpr
          refine ⟨fun e he => ?_, ih hrest⟩
          obtain ⟨p, hp, rfl⟩ := List.mem_map.mp he
          exact ((loadPendingEvents_ok hrest).2 p hp).later

/-! ## The surrounding context -/

/-- What every accepted insertion of the backwards fill preserves, the whole fill preserves. -/
theorem extendContext_invariant {P : List RoomEvent → Prop} {replay : Bool}
    {selected rows out : List RoomEvent}
    (hstep : ∀ kept event view, event ∈ rows → kept.length < maxContextMessages → P kept →
      renderRoomView room session roomAgentIds (insertBySeq event kept) = .ok view →
      view.toList.length ≤ maxRoomViewCharacters → P (insertBySeq event kept))
    (hselected : P selected)
    (h : extendContext room session roomAgentIds replay selected rows = .ok out) : P out := by
  induction rows generalizing selected with
  | nil =>
      obtain rfl := Except.ok.inj h
      exact hselected
  | cons event rows ih =>
      have hlater := fun kept other view (hmem : other ∈ rows) =>
        hstep kept other view (List.mem_cons_of_mem _ hmem)
      rw [extendContext] at h
      split at h
      · obtain rfl := Except.ok.inj h
        exact hselected
      rename_i hroom
      split at h
      · exact ih hlater hselected h
      obtain ⟨visible, -, h⟩ := Result.bind_eq_ok.mp h
      split at h
      · exact ih hlater hselected h
      obtain ⟨view, hview, h⟩ := Result.bind_eq_ok.mp h
      split at h
      · exact ih hlater hselected h
      rename_i hfit
      exact ih hlater (hstep selected event view List.mem_cons_self (Nat.lt_of_not_le hroom)
        hselected hview (Nat.le_of_not_lt hfit)) h

theorem extendContext_total {replay : Bool} {rows : List RoomEvent} (selected : List RoomEvent)
    (hselected : ∀ e ∈ selected, Readable e) (hrows : ∀ e ∈ rows, Readable e) :
    ∃ out, extendContext room session roomAgentIds replay selected rows = .ok out := by
  induction rows generalizing selected with
  | nil => exact ⟨selected, rfl⟩
  | cons event rows ih =>
      have hlater := fun e he => hrows e (List.mem_cons_of_mem _ he)
      have hnext : ∀ e ∈ insertBySeq event selected, Readable e := by
        intro e he
        rcases mem_insertBySeq.mp he with rfl | ⟨he, -⟩
        · exact hrows e List.mem_cons_self
        · exact hselected e he
      obtain ⟨visible, hvisible⟩ := hrows event List.mem_cons_self
      have hrendered : ∃ view, renderRoomView room session roomAgentIds
          (insertBySeq event selected) = .ok view := renderRoomView_total hnext
      obtain ⟨view, hview⟩ := hrendered
      rw [extendContext]
      split
      · exact ⟨selected, rfl⟩
      split
      · exact ih selected hselected hlater
      simp only [hvisible, hview, readable, bind, Except.bind]
      split
      · exact ih selected hselected hlater
      · split
        · exact ih selected hselected hlater
        · exact ih _ hnext hlater

/-- The stored event with an id is the only stored event with it. -/
theorem findEvent_unique {events : List RoomEvent} {d e : RoomEvent}
    (h : findEvent events e.id = .ok (some e)) (hd : d ∈ events) (hid : d.id = e.id) : d = e := by
  simp only [findEvent] at h
  split at h
  · rename_i hsingle
    have hfound := List.mem_of_head? (Except.ok.inj h)
    exact Result.eq_of_length_le_one hsingle (List.mem_filter.mpr ⟨hd, by simpa using hid⟩) hfound
  · cases h

/-- What a provider is shown of the room around the messages it was handed. -/
structure Observation (events : List RoomEvent) (room : Room) (session : DurableAgentSession)
    (roomAgentIds : List String) (inflight : List PendingRoomEvent) (source : PendingRoomEvent)
    (context : List RoomEvent) : Prop where
  ordered : BySeq context
  upToSource : ∀ e ∈ context, e.seq ≤ source.event.seq
  recent : ∀ e ∈ context, (∃ p ∈ inflight, p.event = e) ∨
    e ∈ events ∧ contextFloor session < e.seq ∧ e.eventType = "message_final"
  complete : ∀ p ∈ inflight, p.event ∈ context
  size : context.length ≤ maxContextMessages
  view : ∃ view, renderRoomView room session roomAgentIds context = .ok view ∧
    view.toList.length ≤ maxRoomViewCharacters

/-- The rows the fill goes through, newest first. -/
def contextRows (events : List RoomEvent) (session : DurableAgentSession) (upToSeq : Nat) :
    List RoomEvent :=
  ((events.filter fun event => contextFloor session < event.seq && event.seq ≤ upToSeq &&
    event.eventType == "message_final").insertionSort fun a b => b.seq ≤ a.seq).take
      maxContextMessages

theorem mem_contextRows {events : List RoomEvent} {upToSeq : Nat} {e : RoomEvent}
    (h : e ∈ contextRows events session upToSeq) :
    e ∈ events ∧ contextFloor session < e.seq ∧ e.seq ≤ upToSeq ∧
      e.eventType = "message_final" := by
  have hmem := (List.mem_insertionSort _).mp (List.mem_of_mem_take h)
  simpa [and_assoc] using hmem

/-- A load fills the rows in around the mandatory messages and checks that none was lost. -/
theorem loadContext_eq_ok {events context : List RoomEvent} {upToSeq : Nat}
    {inflight : List PendingRoomEvent} (hascend : BySeq (inflight.map PendingRoomEvent.event)) :
    loadContext events room session upToSeq inflight roomAgentIds = .ok context ↔
      extendContext room session roomAgentIds (session.runtimeKind == "api")
        (inflight.map PendingRoomEvent.event) (contextRows events session upToSeq) = .ok context ∧
      ∀ p ∈ inflight, ∃ e ∈ context, e.id = p.event.id := by
  have hrequired : inflight.foldl (fun selected pending => insertBySeq pending.event selected) [] =
      inflight.map PendingRoomEvent.event := foldl_insertBySeq hascend
  unfold loadContext
  rw [hrequired, Result.bind_eq_ok]
  constructor
  · rintro ⟨selected, hselected, h⟩
    obtain ⟨hall, h⟩ := Result.check_eq_ok.mp h
    obtain rfl := Result.pure_eq_ok.mp h
    refine ⟨hselected, fun p hp => ?_⟩
    simp only [List.any_eq_true, not_exists, not_and, Bool.not_eq_true', Bool.not_eq_false] at hall
    obtain ⟨e, he, hid⟩ := hall p hp
    exact ⟨e, he, by simpa using hid⟩
  · rintro ⟨hselected, hall⟩
    refine ⟨context, hselected, Result.check_eq_ok.mpr ⟨?_, rfl⟩⟩
    simp only [List.any_eq_true, not_exists, not_and, Bool.not_eq_true', Bool.not_eq_false]
    intro p hp
    obtain ⟨e, he, hid⟩ := hall p hp
    exact ⟨e, he, by simpa using hid⟩

/-- Every context that is loaded is a bounded observation around the inflight messages. -/
theorem loadContext_observes {events context : List RoomEvent}
    {inflight : List PendingRoomEvent} {source : PendingRoomEvent}
    (hascend : BySeq (inflight.map PendingRoomEvent.event))
    (hfound : ∀ p ∈ inflight, findEvent events p.event.id = .ok (some p.event))
    (hsize : inflight.length ≤ maxContextMessages)
    (hfits : Fits room session roomAgentIds (inflight.map PendingRoomEvent.event))
    (hsource : inflight.getLast? = some source)
    (h : loadContext events room session source.event.seq inflight roomAgentIds = .ok context) :
    Observation events room session roomAgentIds inflight source context := by
  obtain ⟨hfill, hall⟩ := (loadContext_eq_ok hascend).mp h
  -- what holds of the mandatory messages, every insertion keeps
  have hkept : BySeq context ∧
      (∀ e ∈ context, e ∈ inflight.map PendingRoomEvent.event ∨
        e ∈ contextRows events session source.event.seq) ∧
      context.length ≤ maxContextMessages ∧
      ∃ view, renderRoomView room session roomAgentIds context = .ok view ∧
        view.toList.length ≤ maxRoomViewCharacters := by
    refine extendContext_invariant (P := fun kept => BySeq kept ∧
      (∀ e ∈ kept, e ∈ inflight.map PendingRoomEvent.event ∨
        e ∈ contextRows events session source.event.seq) ∧
      kept.length ≤ maxContextMessages ∧
      ∃ view, renderRoomView room session roomAgentIds kept = .ok view ∧
        view.toList.length ≤ maxRoomViewCharacters) ?_ ?_ hfill
    · rintro kept event view hevent hroom ⟨hsorted, hmem, -, -⟩ hview hlength
      refine ⟨bySeq_insertBySeq hsorted, fun e he => ?_,
        (length_insertBySeq_le event kept).trans hroom, view, hview, hlength⟩
      rcases mem_insertBySeq.mp he with rfl | ⟨he, -⟩
      · exact Or.inr hevent
      · exact hmem e he
    · exact ⟨hascend, fun e he => Or.inl he, by simpa using hsize, hfits.view⟩
  obtain ⟨hsorted, hmem, hlength, hview⟩ := hkept
  have hlast : ∀ p ∈ inflight, p.event.seq ≤ source.event.seq := by
    obtain ⟨front, rfl⟩ := List.getLast?_eq_some_iff.mp hsource
    intro p hp
    rw [List.map_append] at hascend
    rcases List.mem_append.mp hp with hp | hp
    · exact Nat.le_of_lt ((List.pairwise_append.mp hascend).2.2 p.event
        (List.mem_map_of_mem hp) source.event (by simp))
    · obtain rfl := List.mem_singleton.mp hp
      exact Nat.le_refl _
  refine ⟨hsorted, fun e he => ?_, fun e he => ?_, fun p hp => ?_, hlength, hview⟩
  · rcases hmem e he with hown | hrow
    · obtain ⟨p, hp, rfl⟩ := List.mem_map.mp hown
      exact hlast p hp
    · exact (mem_contextRows hrow).2.2.1
  · rcases hmem e he with hown | hrow
    · obtain ⟨p, hp, rfl⟩ := List.mem_map.mp hown
      exact Or.inl ⟨p, hp, rfl⟩
    · obtain ⟨hevent, hfloor, -, hfinal⟩ := mem_contextRows hrow
      exact Or.inr ⟨hevent, hfloor, hfinal⟩
  · obtain ⟨e, he, hid⟩ := hall p hp
    have hstored : e ∈ events := by
      rcases hmem e he with hown | hrow
      · obtain ⟨q, hq, rfl⟩ := List.mem_map.mp hown
        exact (findEvent_some (hfound q hq)).1
      · exact (mem_contextRows hrow).1
    rw [← findEvent_unique (hfound p hp) hstored hid]
    exact he

/-- No inflight message is lost from a history whose sequences are distinct. -/
theorem loadContext_total {events : List RoomEvent} {upToSeq : Nat}
    {inflight : List PendingRoomEvent}
    (hascend : BySeq (inflight.map PendingRoomEvent.event))
    (hstored : ∀ p ∈ inflight, p.event ∈ events)
    (hseq : ∀ d ∈ events, ∀ e ∈ events, d.seq = e.seq → d = e)
    (hreadable : ∀ e ∈ events, Readable e) :
    ∃ context, loadContext events room session upToSeq inflight roomAgentIds = .ok context := by
  have hrequired : ∀ e ∈ inflight.map PendingRoomEvent.event, e ∈ events := by
    intro e he
    obtain ⟨p, hp, rfl⟩ := List.mem_map.mp he
    exact hstored p hp
  have hfilled : ∃ context, extendContext room session roomAgentIds
      (session.runtimeKind == "api") (inflight.map PendingRoomEvent.event)
      (contextRows events session upToSeq) = .ok context :=
    extendContext_total _ (fun e he => hreadable e (hrequired e he))
      fun e he => hreadable e (mem_contextRows he).1
  obtain ⟨context, hfill⟩ := hfilled
  refine ⟨context, (loadContext_eq_ok hascend).mpr ⟨hfill, fun p hp => ?_⟩⟩
  have hkept : ∀ e ∈ inflight.map PendingRoomEvent.event, e ∈ context := by
    refine extendContext_invariant
      (P := fun kept => ∀ e ∈ inflight.map PendingRoomEvent.event, e ∈ kept) ?_
      (fun e he => he) hfill
    intro kept event view hevent _ hkept _ _ e he
    by_cases hsame : e.seq = event.seq
    · exact mem_insertBySeq.mpr
        (Or.inl (hseq e (hrequired e he) event (mem_contextRows hevent).1 hsame))
    · exact mem_insertBySeq.mpr (Or.inr ⟨hkept e he, hsame⟩)
  exact ⟨p.event, hkept p.event (List.mem_map_of_mem hp), rfl⟩

end View

/-- A provider is handed the longest prefix of its queue that one observation can carry, and is
shown a bounded, ascending view of the history around it that holds all of that prefix. -/
theorem room_observation_bounded {events : List RoomEvent} {room : Room}
    {session : DurableAgentSession} {roomAgentIds : List String} {inputs : List QueuedRoomInput}
    {pending : List PendingRoomEvent}
    (hpending : loadPendingEvents events session session.lastProviderSyncSeq inputs =
      .ok pending) :
    (∀ out, boundedPendingPrefix room session roomAgentIds pending = .ok out ↔
      out ≠ [] ∧ IsLongestPrefix (Observable room session roomAgentIds)
        (pending.take maxContextMessages) out) ∧
    ∀ inflight source, boundedPendingPrefix room session roomAgentIds pending = .ok inflight →
      inflight.getLast? = some source →
      (∀ context,
        loadContext events room session source.event.seq inflight roomAgentIds = .ok context →
        Observation events room session roomAgentIds inflight source context) ∧
      ((∀ d ∈ events, ∀ e ∈ events, d.seq = e.seq → d = e) → (∀ e ∈ events, Readable e) →
        ∃ context,
          loadContext events room session source.event.seq inflight roomAgentIds =
            .ok context) := by
  obtain ⟨-, hqueued⟩ := loadPendingEvents_ok hpending
  refine ⟨fun out => boundedPendingPrefix_longest fun p hp => (hqueued p hp).readable, ?_⟩
  intro inflight source hpre hsource
  obtain ⟨-, htaken, -, hfits⟩ := boundedPendingPrefix_ok hpre
  obtain ⟨-, hlongest⟩ :=
    (boundedPendingPrefix_longest fun p hp => (hqueued p hp).readable).mp hpre
  have hascend : BySeq (inflight.map PendingRoomEvent.event) :=
    List.Pairwise.sublist (htaken.map _).sublist (loadPendingEvents_bySeq hpending)
  have hfound : ∀ p ∈ inflight, findEvent events p.event.id = .ok (some p.event) := by
    intro p hp
    have hfind := (hqueued p (htaken.subset hp)).found
    rwa [← (findEvent_some hfind).2] at hfind
  have hsize : inflight.length ≤ maxContextMessages :=
    hlongest.isPrefix.length_le.trans (List.length_take_le _ _)
  exact ⟨fun context h => loadContext_observes hascend hfound hsize hfits hsource h,
    loadContext_total hascend fun p hp => (findEvent_some (hfound p hp)).1⟩

/-! ## A sample observation -/

namespace Sample

def observedRoom : Room := ⟨"Room", .active⟩

/-- An agent that has seen nothing yet. -/
def observer : DurableAgentSession :=
  { sessionId := "bot"
    participantId := "bot"
    displayName := "Bot"
    runtimeKind := "cli"
    runtimeProfileKey := "profile"
    runtimeProfileVersion := currentRuntimeProfileVersion }

def greeting : RoomEvent :=
  { id := "1"
    seq := 1
    createdAt := 0
    eventType := "message_final"
    actor := ⟨"owner", "human"⟩
    content := some "hi" }

def queuedGreeting : PendingRoomEvent :=
  ⟨⟨"1", .orderedObservation⟩, greeting⟩

end Sample

open Sample in
/-- A first message is handed over and is all there is to see. -/
theorem first_message_observed :
    ∃ context, loadContext [greeting] observedRoom observer 1 [queuedGreeting] [] = .ok context ∧
      Observation [greeting] observedRoom observer [] [queuedGreeting] queuedGreeting context := by
  have hpending : loadPendingEvents [greeting] observer observer.lastProviderSyncSeq
      [queuedGreeting.input] = .ok [queuedGreeting] := by decide +kernel
  have hpre : boundedPendingPrefix observedRoom observer [] [queuedGreeting] =
      .ok [queuedGreeting] := by decide +kernel
  obtain ⟨hobserves, htotal⟩ :=
    (room_observation_bounded hpending).2 [queuedGreeting] queuedGreeting hpre rfl
  have hreadable : Readable greeting := ⟨true, by decide +kernel⟩
  obtain ⟨context, hcontext⟩ := htotal (by simp) (by simpa using hreadable)
  exact ⟨context, hcontext, hobserves context hcontext⟩

end AgentsAssemble.Persistence
