import AgentsAssemble.Persistence.ViewSizes

/-!
# Input that can be delivered

A queue is turned into input when its oldest message fits a view of its own and no NUL comes in
with a name, the room label or the persona card.  Without the former there is no input.
-/

namespace AgentsAssemble.Persistence

open Foundation Domain

/-- The longest text a persona card adds. -/
def maxPersonaContextCharacters : Nat := 8000

theorem hasVisibleText_of_mem {value : String} {c : Char} (h : ¬ Lacks c value)
    (hc : isVisible c = true) : hasVisibleText value = true := by
  unfold Lacks at h
  rw [Decidable.not_not] at h
  exact List.any_eq_true.mpr ⟨c, h, hc⟩

theorem containsNul_eq_false {value : String} : containsNul value = false ↔ Lacks '\x00' value := by
  unfold containsNul Lacks
  simp

/-! ## The view -/

section View

variable {room : Room} {session : DurableAgentSession} {roomAgentIds : List String}
  {context : List RoomEvent} {view : String}

/-- Below its header a view has the lines of its messages. -/
theorem view_lines (h : renderRoomView room session roomAgentIds context = .ok view) :
    ∃ lines, view = String.intercalate "\n" (viewHeader room session roomAgentIds ++ lines) ∧
      (∀ e ∈ context, ∀ own, eventLines e = .ok own → ∀ line ∈ own, line ∈ lines) ∧
      ∀ line ∈ lines,
        line = "[Earlier room updates are outside this bounded observation.]" ∨
          ∃ e ∈ context, ∃ own, eventLines e = .ok own ∧ line ∈ own := by
  obtain ⟨bodies, hbodies, h⟩ := Result.bind_eq_ok.mp h
  obtain rfl := Result.pure_eq_ok.mp h
  have hmatched := Result.mapM_eq_ok.mp hbodies
  refine ⟨_, congrArg _ (List.append_assoc _ _ _), ?_, ?_⟩
  · intro e he own hown line hline
    obtain ⟨body, hbody, heq⟩ := Result.forall₂_mem_left hmatched he
    obtain rfl := Except.ok.inj (hown.symm.trans heq)
    exact List.mem_append_right _ (List.mem_flatten.mpr ⟨own, hbody, hline⟩)
  · intro line hline
    rcases List.mem_append.mp hline with hgap | hbody
    · left
      split_ifs at hgap
      · exact List.mem_singleton.mp hgap
      · cases hgap
    · obtain ⟨own, hown, hline⟩ := List.mem_flatten.mp hbody
      obtain ⟨e, he, heq⟩ := Result.forall₂_mem_right hmatched hown
      exact Or.inr ⟨e, he, own, heq, hline⟩

theorem lacks_viewHeader (hlabel : Lacks '\x00' room.label)
    (hname : Lacks '\x00' session.displayName) (hhandles : ∀ id ∈ roomAgentIds, Lacks '\x00' id) :
    ∀ line ∈ viewHeader room session roomAgentIds, Lacks '\x00' line := by
  have hshown : Lacks '\x00'
      (if roomAgentIds = [] then "none" else String.intercalate ", " roomAgentIds) := by
    split_ifs
    · decide
    · exact Lacks.intercalate (by decide) hhandles
  unfold viewHeader
  refine List.forall_mem_cons.mpr ⟨?_, List.forall_mem_cons.mpr ⟨?_, ?_⟩⟩
  · exact (show Lacks '\x00' "Room: " by decide).append hlabel
  · exact (show Lacks '\x00' "You are: " by decide).append hname
  · exact List.forall_mem_singleton.mpr
      ((show Lacks '\x00' "Agent handles: " by decide).append hshown)

/-- A view without a NUL in the texts around its messages has none. -/
theorem lacks_view (h : renderRoomView room session roomAgentIds context = .ok view)
    (hlabel : Lacks '\x00' room.label) (hname : Lacks '\x00' session.displayName)
    (hhandles : ∀ id ∈ roomAgentIds, Lacks '\x00' id)
    (hspeakers : ∀ e ∈ context, Lacks '\x00' (speakerOf e)) : Lacks '\x00' view := by
  obtain ⟨lines, rfl, -, hlines⟩ := view_lines h
  refine Lacks.intercalate (by decide) fun line hline => ?_
  rcases List.mem_append.mp hline with hheader | hline
  · exact lacks_viewHeader hlabel hname hhandles line hheader
  · rcases hlines line hline with rfl | ⟨e, he, own, hown, hline⟩
    · simp [Lacks]
    · exact lacks_eventLines hown (hspeakers e he) line hline

/-- A NUL in the label, in the name of the agent or in the name of a speaker shows in the view. -/
theorem names_of_lacks_view (h : renderRoomView room session roomAgentIds context = .ok view)
    (hview : Lacks '\x00' view) :
    Lacks '\x00' room.label ∧ Lacks '\x00' session.displayName ∧
      ∀ e ∈ context, e.messageHasVisiblePayload = .ok true → Lacks '\x00' (speakerOf e) := by
  obtain ⟨lines, rfl, hown, -⟩ := view_lines h
  have hline : ∀ line ∈ viewHeader room session roomAgentIds ++ lines, Lacks '\x00' line :=
    fun line hmem => Lacks.of_mem_intercalate hview hmem
  refine ⟨?_, ?_, fun e he hvisible => ?_⟩
  · have hfirst := hline ("Room: " ++ room.label) (by simp [viewHeader])
    exact (Lacks.append_iff.mp hfirst).2
  · have hsecond := hline ("You are: " ++ session.displayName) (by simp [viewHeader])
    exact (Lacks.append_iff.mp hsecond).2
  · unfold RoomEvent.messageHasVisiblePayload at hvisible
    obtain ⟨attachments, hattachments, hvisible⟩ := Result.bind_eq_ok.mp hvisible
    obtain ⟨text, htext, hvisible⟩ := Result.bind_eq_ok.mp hvisible
    have hshown := Result.pure_eq_ok.mp hvisible
    rw [Bool.or_eq_true, bne_iff_ne] at hshown
    have hlines := eventLines_of_visible htext hattachments hshown
    have hspoken := hline _ (List.mem_append_right _ (hown e he _ hlines _ List.mem_cons_self))
    simp only [Lacks.append_iff] at hspoken
    exact hspoken.1.1.2

theorem isRoomObservationView_of_view
    (h : renderRoomView room session roomAgentIds context = .ok view)
    (hlength : view.toList.length ≤ maxRoomViewCharacters) (hview : Lacks '\x00' view) :
    isRoomObservationView view = true := by
  have hbytes : view.utf8ByteSize ≤ maxRoomViewBytes := by
    have hsize := utf8ByteSize_le view
    unfold maxRoomViewCharacters at hlength
    unfold maxRoomViewBytes
    omega
  have hvisible : hasVisibleText view = true := by
    refine hasVisibleText_of_mem (c := 'R') (fun hlacks => ?_) (by decide)
    obtain ⟨lines, rfl, -, -⟩ := view_lines h
    have hfirst : Lacks 'R' ("Room: " ++ room.label) :=
      Lacks.of_mem_intercalate hlacks (by simp [viewHeader])
    exact absurd (Lacks.append_iff.mp hfirst).1 (by decide)
  unfold isRoomObservationView
  rw [decide_eq_true hlength, decide_eq_true hbytes, containsNul_eq_false.mpr hview, hvisible]
  rfl

end View

/-! ## The provider input -/

theorem characters_literal (value : String) : characters value = (charsOf value).length := by
  rw [characters, toList_eq_charsOf]

/-- The names leave room in the sections for the longest persona context. -/
theorem characters_sections_le {heading identity instruction tabletop applied persona : String}
    {names : Nat} (tabletopTools : Bool) (hheading : characters heading ≤ 33)
    (hidentity : characters identity ≤ names + 27) (hinstruction : characters instruction ≤ 300)
    (htabletop : characters tabletop ≤ 150) (happlied : characters applied ≤ 40) :
    characters (String.intercalate "\n\n" ([heading, identity, instruction] ++
      (if tabletopTools then [tabletop] else []) ++
      (if persona ≠ "" then [applied ++ persona] else []))) ≤
        names + characters persona + 600 := by
  have hbreak : characters "\n\n" = 2 := by simp [characters]
  rw [characters_intercalate, hbreak]
  split_ifs <;>
    simp only [List.map_append, List.map_cons, List.map_nil, List.sum_append, List.sum_cons,
      List.sum_nil, List.length_append, List.length_cons, List.length_nil, characters_append] <;>
    omega

theorem characters_renderObservationInput_le {room : Room} {session : DurableAgentSession}
    {mode : String} (tabletopTools : Bool) (personaContext : String)
    (hmode : characters mode ≤ 7) :
    characters (renderObservationInput room session mode tabletopTools personaContext) ≤
      characters room.label + characters session.displayName + characters personaContext + 600 := by
  have hheading : characters ("[" ++ mode ++ " shared-room observation]") ≤ 33 := by
    have h1 : characters "[" = 1 := by simp [characters]
    have h2 : characters " shared-room observation]" = 25 := by simp [characters]
    rw [characters_append, characters_append, h1, h2]
    omega
  have hidentity : characters ("Your room identity is " ++ session.displayName ++ " in " ++
      room.label ++ ".") ≤ characters room.label + characters session.displayName + 27 := by
    have h1 : characters "Your room identity is " = 22 := by simp [characters]
    have h2 : characters " in " = 4 := by simp [characters]
    have h3 : characters "." = 1 := by simp [characters]
    simp only [characters_append, h1, h2, h3]
    omega
  refine characters_sections_le tabletopTools hheading hidentity ?_ ?_ ?_
  all_goals
    rw [characters_literal]
    decide +kernel

theorem lacks_renderObservationInput {room : Room} {session : DurableAgentSession} {mode : String}
    (tabletopTools : Bool) {personaContext : String} (hmode : Lacks '\x00' mode)
    (hlabel : Lacks '\x00' room.label) (hname : Lacks '\x00' session.displayName)
    (hpersona : Lacks '\x00' personaContext) :
    Lacks '\x00' (renderObservationInput room session mode tabletopTools personaContext) := by
  unfold renderObservationInput
  refine Lacks.intercalate (by decide) ?_
  refine List.forall_mem_append.mpr ⟨List.forall_mem_append.mpr ⟨?_, ?_⟩, ?_⟩
  · refine List.forall_mem_cons.mpr ⟨?_, List.forall_mem_cons.mpr ⟨?_, ?_⟩⟩
    · exact ((show Lacks '\x00' "[" by decide).append hmode).append (by simp [Lacks])
    · exact ((((show Lacks '\x00' "Your room identity is " by simp [Lacks]).append hname).append
        (by decide)).append hlabel).append (by decide)
    · exact List.forall_mem_singleton.mpr (Lacks.literal (by decide +kernel))
  · split_ifs
    · exact List.forall_mem_singleton.mpr (Lacks.literal (by decide +kernel))
    · exact List.forall_mem_nil _
  · split_ifs
    · exact List.forall_mem_singleton.mpr
        ((Lacks.literal (by decide +kernel)).append hpersona)
    · exact List.forall_mem_nil _

theorem isProviderInput_renderObservationInput {room : Room} {session : DurableAgentSession}
    {personaContext : String} (kind : RoomInputDeliveryKind) (tabletopTools : Bool)
    (hlabel : characters room.label ≤ 128 ∧ Lacks '\x00' room.label)
    (hname : characters session.displayName ≤ 128 ∧ Lacks '\x00' session.displayName)
    (hpersona : characters personaContext ≤ maxPersonaContextCharacters ∧
      Lacks '\x00' personaContext) :
    isProviderInput (renderObservationInput room session (deliveryMode kind) tabletopTools
      personaContext) = true := by
  have hmode : characters (deliveryMode kind) ≤ 7 ∧ Lacks '\x00' (deliveryMode kind) := by
    cases kind <;> simp [deliveryMode, characters, Lacks]
  have hsize : characters (renderObservationInput room session (deliveryMode kind) tabletopTools
      personaContext) ≤ _ :=
    characters_renderObservationInput_le tabletopTools personaContext hmode.1
  have hlacks := lacks_renderObservationInput tabletopTools hmode.2 hlabel.2 hname.2 hpersona.2
  have hvisible : hasVisibleText (renderObservationInput room session (deliveryMode kind)
      tabletopTools personaContext) = true := by
    refine hasVisibleText_of_mem (c := 'Y') (fun hnone => ?_) (by decide)
    have hidentity : Lacks 'Y' ("Your room identity is " ++ session.displayName ++ " in " ++
        room.label ++ ".") := Lacks.of_mem_intercalate hnone (by simp)
    simp only [Lacks.append_iff] at hidentity
    exact absurd hidentity.1.1.1.1 (by decide)
  have hlength : (renderObservationInput room session (deliveryMode kind) tabletopTools
      personaContext).toList.length ≤ maxProviderInputCharacters := by
    have hbound := hpersona.1
    have hlabelled := hlabel.1
    have hnamed := hname.1
    unfold maxPersonaContextCharacters at hbound
    unfold maxProviderInputCharacters
    change characters _ ≤ 20000
    omega
  unfold isProviderInput
  rw [decide_eq_true hlength, containsNul_eq_false.mpr hlacks, hvisible]
  rfl

/-! ## Recent messages -/

theorem recent_total {context : List RoomEvent} (h : ∀ e ∈ context, Readable e) :
    ∃ recent, renderRecentMessages context = .ok recent := by
  have hread : ∀ e ∈ context, ∃ text, readable e.messageVisibleText = .ok text := by
    intro e he
    obtain ⟨_, text, -, htext⟩ := readable_iff.mp (h e he)
    exact ⟨text, readable_eq_ok.mpr htext⟩
  obtain ⟨texts, htexts⟩ := mapM_total hread
  exact ⟨_, Result.bind_eq_ok.mpr ⟨texts, htexts, rfl⟩⟩

theorem lacks_recent {context : List RoomEvent} {recent : String}
    (h : renderRecentMessages context = .ok recent)
    (hspeakers : ∀ e ∈ context, Lacks '\x00' (speakerOf e)) : Lacks '\x00' recent := by
  obtain ⟨texts, htexts, h⟩ := Result.bind_eq_ok.mp h
  obtain rfl := Result.pure_eq_ok.mp h
  refine Lacks.intercalate (by decide) fun line hline => ?_
  obtain ⟨⟨e, text⟩, hentry, rfl⟩ := List.mem_map.mp hline
  have hzip := (List.mem_filter.mp hentry).1
  have hevent : e ∈ context := (List.of_mem_zip hzip).1
  obtain ⟨spoken, -, hread⟩ := Result.forall₂_mem_right (Result.mapM_eq_ok.mp htexts)
    (List.of_mem_zip hzip).2
  have htext := lacks_messageVisibleText (readable_eq_ok.mp hread)
  exact (((show Lacks '\x00' "- " by decide).append (hspeakers e hevent)).append
    (by decide)).append htext

/-! ## The prefix -/

section Prefix

variable {room : Room} {session : DurableAgentSession} {roomAgentIds : List String}

theorem length_attachmentIds_le {event : RoomEvent} {ids : List String}
    (h : RoomEvent.messageAttachmentIdsFromEvents [event] = .ok ids) :
    ids.length ≤ maxMessageAttachmentsPerEvent := by
  have hfold : ∀ (attachments : List MessageAttachmentMetadata) (ids : List String),
      (attachments.foldl (fun ids attachment =>
        if attachment.id ∈ ids then ids else ids ++ [attachment.id]) ids).length ≤
          ids.length + attachments.length := by
    intro attachments
    induction attachments with
    | nil => simp
    | cons attachment attachments ih =>
        intro ids
        rw [List.foldl_cons, List.length_cons]
        refine (ih _).trans ?_
        split
        · omega
        · rw [List.length_append, List.length_singleton]
          omega
  unfold RoomEvent.messageAttachmentIdsFromEvents RoomEvent.messageAttachmentIdsFromEvents.go at h
  cases hattachments : event.messageAttachments with
  | error e =>
      rw [hattachments] at h
      cases h
  | ok attachments =>
      rw [hattachments] at h
      obtain rfl := Except.ok.inj h
      have hcount : attachments.length ≤ maxMessageAttachmentsPerEvent := by
        unfold RoomEvent.messageAttachments at hattachments
        split at hattachments
        · obtain rfl := Except.ok.inj hattachments
          exact Nat.zero_le _
        · split at hattachments
          · next hcanonical =>
              obtain rfl := Except.ok.inj hattachments
              exact hcanonical.1
          · cases hattachments
      exact (hfold attachments []).trans (by simpa using hcount)

/-- The oldest message is taken when it fits a view of its own. -/
theorem boundedPendingPrefix_iff_first {first : PendingRoomEvent} {rest : List PendingRoomEvent}
    (hreadable : ∀ p ∈ first :: rest, Readable p.event) :
    (∃ out, boundedPendingPrefix room session roomAgentIds (first :: rest) = .ok out) ↔
      ∃ view, renderRoomView room session roomAgentIds [first.event] = .ok view ∧
        view.toList.length ≤ maxRoomViewCharacters := by
  constructor
  · rintro ⟨out, h⟩
    obtain ⟨hne, htaken, -, hfits⟩ := boundedPendingPrefix_ok h
    obtain ⟨head, more, rfl⟩ := List.exists_cons_of_ne_nil hne
    obtain ⟨rfl, -⟩ := List.cons_prefix_cons.mp htaken
    rw [List.map_cons, ← List.singleton_append] at hfits
    exact (hfits.of_append (List.cons_ne_nil _ _)).view
  · intro hview
    have hreads : ∀ p ∈ (first :: rest).take maxContextMessages, Readable p.event :=
      fun p hp => hreadable p (List.mem_of_mem_take hp)
    have htotal : ∃ selected, selectPrefix room session roomAgentIds first.input.deliveryKind []
        ((first :: rest).take maxContextMessages) = .ok selected :=
      selectPrefix_total [] (by simp) hreads
    obtain ⟨selected, hselected⟩ := htotal
    have hfirst : Readable first.event := hreadable first List.mem_cons_self
    have hattached : ∃ ids, RoomEvent.messageAttachmentIdsFromEvents [first.event] = .ok ids :=
      attachmentIds_go_total [] (by simpa using hfirst)
    obtain ⟨ids, hids⟩ := hattached
    have hfits : Fits room session roomAgentIds [first.event] :=
      ⟨⟨ids, hids, length_attachmentIds_le hids⟩, hview⟩
    have hone : [first] <+: (first :: rest).take maxContextMessages := by
      rw [maxContextMessages, List.take_succ_cons]
      exact List.cons_prefix_cons.mpr ⟨rfl, List.nil_prefix⟩
    have hcovers := selectPrefix_longest hselected hone (by simp) fun _ => hfits
    refine ⟨selected, ?_⟩
    rw [boundedPendingPrefix, Result.bind_eq_ok]
    refine ⟨selected, hselected, Result.check_eq_ok.mpr ⟨?_, rfl⟩⟩
    rintro rfl
    exact absurd (List.prefix_nil.mp hcovers) (by simp)

end Prefix

/-! ## The prepared input -/

/-- A message that a view of the session may show. -/
def MayShow (session : DurableAgentSession) (event : RoomEvent) : Prop :=
  event.eventType = "message_final" ∧
    (contextFloor session < event.seq ∨ session.lastProviderSyncSeq < event.seq)

/-- A chain of steps succeeds when its first step does and the rest does from there. -/
theorem exists_ok_bind {ε α β : Type} {x : Except ε α} {f : α → Except ε β} {a : α}
    (hx : x = .ok a) (h : ∃ b, f a = .ok b) : ∃ b, (x >>= f) = .ok b := by
  rw [hx]
  exact h

section Prepared

variable [TextServices] {s : Store} {room : Room} {session : DurableAgentSession}
  {inputs : List QueuedRoomInput} {tabletopTools : Bool} {roomAgentIds : List String}
  {first : PendingRoomEvent} {rest : List PendingRoomEvent}

/-- What a queue needs besides its first message: a room whose texts can be shown. -/
structure Showable (s : Store) (room : Room) (session : DurableAgentSession)
    (roomAgentIds : List String) : Prop where
  label : characters room.label ≤ 128 ∧ Lacks '\x00' room.label
  name : characters session.displayName ≤ 128 ∧ Lacks '\x00' session.displayName
  handles : ∀ id ∈ roomAgentIds, Lacks '\x00' id
  speakers : ∀ e ∈ s.events, MayShow session e → Lacks '\x00' (speakerOf e)
  messages : ∀ e ∈ s.events, Readable e
  distinct : ∀ d ∈ s.events, ∀ e ∈ s.events, d.seq = e.seq → d = e
  card : ∃ card, selectedPersonaCard s session.personaCardId = .ok card ∧
    ∀ stored ∈ card, ∀ recent, Lacks '\x00' recent →
      characters (TextServices.renderPersonaContext stored recent) ≤ maxPersonaContextCharacters ∧
        Lacks '\x00' (TextServices.renderPersonaContext stored recent)

/-- A queue whose oldest message fits a view of its own becomes input. -/
theorem prepareRoomInput_total (hshow : Showable s room session roomAgentIds)
    (hcursor : validateProviderCursor s.events session = .ok ())
    (hids : loadRoomAgentIds s session = .ok roomAgentIds)
    (hpending : loadPendingEvents s.events session session.lastProviderSyncSeq inputs =
      .ok (first :: rest))
    (hfirst : ∃ view, renderRoomView room session roomAgentIds [first.event] = .ok view ∧
      view.toList.length ≤ maxRoomViewCharacters) :
    ∃ prepared, prepareRoomInput s room session inputs tabletopTools = .ok prepared := by
  obtain ⟨-, hqueued⟩ := loadPendingEvents_ok hpending
  obtain ⟨inflight, hprefix⟩ := (boundedPendingPrefix_iff_first
    fun p hp => (hqueued p hp).readable).mpr hfirst
  obtain ⟨hne, htaken, -, hfits⟩ := boundedPendingPrefix_ok hprefix
  obtain ⟨-, hlongest⟩ :=
    (boundedPendingPrefix_longest fun p hp => (hqueued p hp).readable).mp hprefix
  obtain ⟨source, hsource⟩ : ∃ source, inflight.getLast? = some source :=
    ⟨_, List.getLast?_eq_some_getLast hne⟩
  obtain ⟨head, hhead⟩ : ∃ head, inflight.head? = some head := ⟨_, List.head?_eq_some_head hne⟩
  -- the context around the prefix
  have hascend : BySeq (inflight.map PendingRoomEvent.event) :=
    List.Pairwise.sublist (htaken.map _).sublist (loadPendingEvents_bySeq hpending)
  have hfound : ∀ p ∈ inflight, findEvent s.events p.event.id = .ok (some p.event) := by
    intro p hp
    have hfind := (hqueued p (htaken.subset hp)).found
    rwa [← (findEvent_some hfind).2] at hfind
  have hreads : ∀ p ∈ inflight, Readable p.event :=
    fun p hp => (hqueued p (htaken.subset hp)).readable
  have hloads : ∃ context, loadContext s.events room session source.event.seq inflight
      roomAgentIds = .ok context :=
    loadContext_total hascend (fun p hp => (findEvent_some (hfound p hp)).1) hshow.distinct
      hshow.messages
  obtain ⟨context, hcontext⟩ := hloads
  have hobserved := loadContext_observes hascend hfound
    (hlongest.isPrefix.length_le.trans (List.length_take_le _ _)) hfits hsource hcontext
  obtain ⟨view, hview, hlength⟩ := hobserved.view
  have hspeakers : ∀ e ∈ context, Lacks '\x00' (speakerOf e) := by
    intro e he
    rcases hobserved.recent e he with ⟨p, hp, rfl⟩ | ⟨hevent, hfloor, hfinal⟩
    · have hown := hqueued p (htaken.subset hp)
      exact hshow.speakers _ (findEvent_some hown.found).1 ⟨hown.final, Or.inr hown.later⟩
    · exact hshow.speakers e hevent ⟨hfinal, Or.inl hfloor⟩
  have hviewed : isRoomObservationView view = true :=
    isRoomObservationView_of_view hview hlength
      (lacks_view hview hshow.label.2 hshow.name.2 hshow.handles hspeakers)
  obtain ⟨ids, hattached⟩ := attachmentIds_go_total [] (List.forall_mem_map.mpr hreads)
  obtain ⟨card, hcard, hrenders⟩ := hshow.card
  obtain ⟨recent, hrecent⟩ := recent_total (readable_of_view hview)
  have hrecentLacks := lacks_recent hrecent hspeakers
  have hinput : ∀ personaContext, characters personaContext ≤ maxPersonaContextCharacters →
      Lacks '\x00' personaContext → isProviderInput (renderObservationInput room session
        (deliveryMode head.input.deliveryKind) tabletopTools personaContext) = true :=
    fun personaContext hsize hlacks => isProviderInput_renderObservationInput _ _ hshow.label
      hshow.name ⟨hsize, hlacks⟩
  have hbuilt : ∀ personaContext, characters personaContext ≤ maxPersonaContextCharacters →
      Lacks '\x00' personaContext → ¬ (isRoomObservationView view = false ∨
        isProviderInput (renderObservationInput room session
          (deliveryMode head.input.deliveryKind) tabletopTools personaContext) = false) := by
    intro personaContext hsize hlacks
    rw [hviewed, hinput personaContext hsize hlacks]
    simp
  unfold prepareRoomInput
  refine exists_ok_bind hcursor (exists_ok_bind hids (exists_ok_bind hpending
    (exists_ok_bind hprefix ?_)))
  rw [hsource, hhead]
  refine exists_ok_bind hcontext (exists_ok_bind (readable_eq_ok.mpr hattached)
    (exists_ok_bind hview (exists_ok_bind hcard ?_)))
  cases card with
  | none =>
      refine exists_ok_bind rfl ⟨_, Result.check_eq_ok.mpr ⟨?_, rfl⟩⟩
      exact hbuilt "" (Nat.zero_le _) (by decide)
  | some stored =>
      obtain ⟨hsize, hlacks⟩ := hrenders stored rfl recent hrecentLacks
      refine exists_ok_bind hrecent (exists_ok_bind rfl ⟨_, Result.check_eq_ok.mpr ⟨?_, rfl⟩⟩)
      exact hbuilt _ hsize hlacks

/-- Input shows the oldest message alone within the bound, and no NUL in the names of the room, of
the agent and of who wrote that message. -/
theorem prepareRoomInput_shows {prepared : PreparedRoomInput}
    (hids : loadRoomAgentIds s session = .ok roomAgentIds)
    (hpending : loadPendingEvents s.events session session.lastProviderSyncSeq inputs =
      .ok (first :: rest))
    (h : prepareRoomInput s room session inputs tabletopTools = .ok prepared) :
    (∃ view, renderRoomView room session roomAgentIds [first.event] = .ok view ∧
      view.toList.length ≤ maxRoomViewCharacters) ∧
    Lacks '\x00' room.label ∧ Lacks '\x00' session.displayName ∧
      Lacks '\x00' (speakerOf first.event) := by
  obtain ⟨-, hqueued⟩ := loadPendingEvents_ok hpending
  rw [prepareRoomInput] at h
  obtain ⟨_, -, h⟩ := Result.bind_eq_ok.mp h
  obtain ⟨found, hfound, h⟩ := Result.bind_eq_ok.mp h
  obtain rfl := Except.ok.inj (hids.symm.trans hfound)
  obtain ⟨loaded, hloaded, h⟩ := Result.bind_eq_ok.mp h
  obtain rfl := Except.ok.inj (hpending.symm.trans hloaded)
  obtain ⟨inflight, hprefix, h⟩ := Result.bind_eq_ok.mp h
  have hfirst := (boundedPendingPrefix_iff_first fun p hp => (hqueued p hp).readable).mp
    ⟨inflight, hprefix⟩
  refine ⟨hfirst, ?_⟩
  obtain ⟨hne, htaken, -, hfits⟩ := boundedPendingPrefix_ok hprefix
  obtain ⟨-, hlongest⟩ :=
    (boundedPendingPrefix_longest fun p hp => (hqueued p hp).readable).mp hprefix
  split at h
  swap
  · exact (Result.throw_eq_ok.mp h).elim
  rename_i source start hsource hstart
  obtain ⟨context, hcontext, h⟩ := Result.bind_eq_ok.mp h
  obtain ⟨attachmentIds, -, h⟩ := Result.bind_eq_ok.mp h
  obtain ⟨roomView, hview, h⟩ := Result.bind_eq_ok.mp h
  obtain ⟨card, -, h⟩ := Result.bind_eq_ok.mp h
  have hshown : isRoomObservationView roomView = true := by
    cases card with
    | none =>
        obtain ⟨_, -, h⟩ := Result.bind_eq_ok.mp h
        obtain ⟨hbounds, -⟩ := Result.check_eq_ok.mp h
        simp only [not_or, Bool.not_eq_false] at hbounds
        exact hbounds.1
    | some card =>
        obtain ⟨_, -, h⟩ := Result.bind_eq_ok.mp h
        obtain ⟨_, -, h⟩ := Result.bind_eq_ok.mp h
        obtain ⟨hbounds, -⟩ := Result.check_eq_ok.mp h
        simp only [not_or, Bool.not_eq_false] at hbounds
        exact hbounds.1
  have hlacks : Lacks '\x00' roomView := by
    unfold isRoomObservationView at hshown
    simp only [Bool.and_eq_true, Bool.not_eq_true'] at hshown
    exact containsNul_eq_false.mp hshown.1.2
  obtain ⟨hlabel, hname, hspeakers⟩ := names_of_lacks_view hview hlacks
  -- the oldest message is part of the context
  have hascend : BySeq (inflight.map PendingRoomEvent.event) :=
    List.Pairwise.sublist (htaken.map _).sublist (loadPendingEvents_bySeq hpending)
  have hevents : ∀ p ∈ inflight, findEvent s.events p.event.id = .ok (some p.event) := by
    intro p hp
    have hfind := (hqueued p (htaken.subset hp)).found
    rwa [← (findEvent_some hfind).2] at hfind
  have hobserved := loadContext_observes hascend hevents
    (hlongest.isPrefix.length_le.trans (List.length_take_le _ _)) hfits hsource hcontext
  obtain ⟨head, more, rfl⟩ := List.exists_cons_of_ne_nil hne
  obtain ⟨rfl, -⟩ := List.cons_prefix_cons.mp htaken
  have hown := hqueued head List.mem_cons_self
  have hmem := hobserved.complete head List.mem_cons_self
  exact ⟨hlabel, hname, hspeakers _ hmem (readable_eq_ok.mp hown.visible)⟩

end Prepared

end AgentsAssemble.Persistence
