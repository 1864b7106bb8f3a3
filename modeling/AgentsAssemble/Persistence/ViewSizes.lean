import AgentsAssemble.Domain.Cleaning
import AgentsAssemble.Foundation.Texts
import AgentsAssemble.Persistence.Observations

/-!
# What a view holds

The size of the view of one message, from the sizes of what it shows, and the texts that a NUL can
come in with: the room label and the names, never the messages.
-/

namespace AgentsAssemble.Persistence

open Foundation Domain

/-! ## Sizes -/

/-- The characters of a text. -/
def characters (value : String) : Nat :=
  value.toList.length

theorem characters_append (a b : String) : characters (a ++ b) = characters a + characters b := by
  rw [characters, String.toList_append, List.length_append, characters, characters]

theorem characters_intercalate (separator : String) (parts : List String) :
    characters (String.intercalate separator parts) =
      (parts.map characters).sum + characters separator * (parts.length - 1) :=
  length_intercalate separator parts

/-- The handles, with a comma and a space between them. -/
def handlesSize (roomAgentIds : List String) : Nat :=
  if roomAgentIds = [] then 4
  else (roomAgentIds.map characters).sum + 2 * (roomAgentIds.length - 1)

/-- The line of an attachment and the line break before it. -/
def attachmentSize (attachment : MessageAttachmentMetadata) : Nat :=
  characters attachment.id + characters attachment.filename +
    characters attachment.contentType + characters (toString attachment.size) + 31

/-- A message under its header: the lines of the room, of the agent and of the handles, the line
about earlier updates when there are some, the message, and a line for each attachment. -/
def observationSize (room : Room) (session : DurableAgentSession) (roomAgentIds : List String)
    (event : RoomEvent) (text : String) (attachments : List MessageAttachmentMetadata) : Nat :=
  characters room.label + characters session.displayName + handlesSize roomAgentIds + 32 +
    (if contextFloor session + 1 < event.seq then 61 else 0) +
    (characters (toString event.seq) + characters (speakerOf event) +
      (if hasVisibleText text then characters text else 18) + 5) +
    (attachments.map attachmentSize).sum

theorem characters_attachmentLine (attachment : MessageAttachmentMetadata) :
    characters (attachmentLine attachment) + 1 = attachmentSize attachment := by
  have h1 : characters "  - Attachment `" = 16 := by simp [characters]
  have h2 : characters "`: " = 3 := by simp [characters]
  have h3 : characters " (" = 2 := by simp [characters]
  have h4 : characters "; " = 2 := by simp [characters]
  have h5 : characters " bytes)" = 7 := by simp [characters]
  unfold attachmentLine attachmentSize
  simp only [characters_append, h1, h2, h3, h4, h5]
  omega

section View

variable {room : Room} {session : DurableAgentSession} {roomAgentIds : List String}

theorem sum_viewHeader (room : Room) (session : DurableAgentSession) (roomAgentIds : List String) :
    ((viewHeader room session roomAgentIds).map characters).sum =
      characters room.label + characters session.displayName + handlesSize roomAgentIds + 30 := by
  have h1 : characters "Room: " = 6 := by simp [characters]
  have h2 : characters "You are: " = 9 := by simp [characters]
  have h3 : characters "Agent handles: " = 15 := by simp [characters]
  have h4 : characters "none" = 4 := by simp [characters]
  have h5 : characters ", " = 2 := by simp [characters]
  have hhandles : characters
      (if roomAgentIds = [] then "none" else String.intercalate ", " roomAgentIds) =
        handlesSize roomAgentIds := by
    unfold handlesSize
    split_ifs
    · exact h4
    · rw [characters_intercalate, h5]
  simp only [viewHeader, List.map_cons, List.map_nil, List.sum_cons, List.sum_nil,
    characters_append, h1, h2, h3, hhandles]
  omega

/-- The lines of a message that shows something. -/
theorem eventLines_of_visible {event : RoomEvent} {text : String}
    {attachments : List MessageAttachmentMetadata} (htext : event.messageVisibleText = .ok text)
    (hattachments : event.messageAttachments = .ok attachments)
    (hvisible : hasVisibleText text = true ∨ attachments ≠ []) :
    eventLines event = .ok
      (("#" ++ toString event.seq ++ " " ++ speakerOf event ++ ": " ++
        (if hasVisibleText text then text else "(attachments only)")) ::
          attachments.map attachmentLine) := by
  unfold eventLines
  rw [htext, hattachments]
  have hshown : ¬ ((!hasVisibleText text && attachments == []) = true) := by
    simp only [Bool.and_eq_true, Bool.not_eq_true', beq_iff_eq, not_and]
    intro hhidden hnone
    rcases hvisible with hvisible | hsome
    · rw [hvisible] at hhidden
      cases hhidden
    · exact hsome hnone
  simp only [readable, bind, Except.bind, pure, Except.pure, if_neg hshown]

/-- The view of one message has exactly the size of what it shows. -/
theorem view_of_visible {event : RoomEvent} {text : String}
    {attachments : List MessageAttachmentMetadata} (htext : event.messageVisibleText = .ok text)
    (hattachments : event.messageAttachments = .ok attachments)
    (hvisible : hasVisibleText text = true ∨ attachments ≠ []) :
    ∃ view, renderRoomView room session roomAgentIds [event] = .ok view ∧
      characters view = observationSize room session roomAgentIds event text attachments := by
  have hlines := eventLines_of_visible htext hattachments hvisible
  have hbodies : [event].mapM eventLines = .ok [_] :=
    Result.mapM_cons_eq_ok.mpr ⟨_, [], hlines, rfl, rfl⟩
  refine ⟨_, Result.bind_eq_ok.mpr ⟨_, hbodies, rfl⟩, ?_⟩
  have h1 : characters "#" = 1 := by simp [characters]
  have h2 : characters " " = 1 := by simp [characters]
  have h3 : characters ": " = 2 := by simp [characters]
  have h4 : characters "(attachments only)" = 18 := by simp [characters]
  have h5 : characters "\n" = 1 := by simp [characters]
  have h6 : characters "[Earlier room updates are outside this bounded observation.]" = 60 := by
    simp [characters]
  have hattached : ((attachments.map attachmentLine).map characters).sum + attachments.length =
      (attachments.map attachmentSize).sum := by
    clear hattachments hlines hbodies hvisible
    induction attachments with
    | nil => rfl
    | cons attachment attachments ih =>
        have hline := characters_attachmentLine attachment
        simp only [List.map_cons, List.sum_cons, List.length_cons]
        omega
  have hheader := sum_viewHeader room session roomAgentIds
  have hcount : (viewHeader room session roomAgentIds).length = 3 := rfl
  rw [characters_intercalate, h5, Nat.one_mul]
  simp only [List.head?_cons, List.flatten_cons, List.flatten_nil, List.append_nil,
    decide_eq_true_eq, List.map_append, List.sum_append, List.length_append, hheader, hcount,
    List.map_cons, List.sum_cons, List.length_cons, List.length_map, characters_append, h1, h2, h3]
  unfold observationSize
  split_ifs <;>
    simp only [List.map_cons, List.map_nil, List.sum_cons, List.sum_nil, List.length_cons,
      List.length_nil, h4, h6] <;>
    omega

end View

/-! ## NULs -/

theorem lacks_of_all {value : String} {p : Char → Bool} (hp : p '\x00' = false)
    (h : value.toList.all p = true) : Lacks '\x00' value := by
  intro hmem
  have hnul := List.all_eq_true.mp h _ hmem
  rw [hp] at hnul
  cases hnul

theorem lacks_cleanMessage (value : String) (limit : Nat) :
    Lacks '\x00' (cleanMessage value limit) := by
  intro hmem
  rw [cleanMessage, String.toList_ofList] at hmem
  have hkept := trimMatches_subset _ _ (List.mem_of_mem_take hmem)
  rcases mem_normalizeNewlines hkept with hbreak | hmem
  · exact absurd hbreak (by decide)
  · have hkept := (List.mem_filter.mp hmem).2
    exact absurd hkept (by decide)

/-- What a message shows has no NUL. -/
theorem lacks_messageVisibleText {event : RoomEvent} {text : String}
    (h : event.messageVisibleText = .ok text) : Lacks '\x00' text := by
  unfold RoomEvent.messageVisibleText at h
  dsimp only at h
  split at h
  · obtain rfl := Except.ok.inj h
    exact lacks_cleanMessage _ _
  split at h
  · obtain rfl := Except.ok.inj h
    decide
  split at h
  · cases h
  split at h
  · cases h
  · obtain rfl := Except.ok.inj h
    exact lacks_cleanMessage _ _

theorem lacks_messageAttachmentId {attachmentId : String}
    (h : isMessageAttachmentId attachmentId = true) : Lacks '\x00' attachmentId := by
  unfold isMessageAttachmentId at h
  split at h
  · next hex hlist =>
      rw [Bool.and_eq_true] at h
      intro hmem
      rw [hlist] at hmem
      simp only [List.mem_cons] at hmem
      rcases hmem with hm | ha | hu | hmem
      · exact absurd hm (by decide)
      · exact absurd ha (by decide)
      · exact absurd hu (by decide)
      · have hdigit := List.all_eq_true.mp h.2 _ hmem
        exact absurd hdigit (by decide)
  · cases h

theorem lacks_canonicalFilename (value : String) :
    Lacks '\x00' (canonicalMessageAttachmentFilename value) := by
  unfold canonicalMessageAttachmentFilename
  dsimp only
  split
  · decide
  · intro hmem
    rw [String.toList_ofList] at hmem
    have hmem := trimMatches_subset _ _ (List.mem_of_mem_take (trimMatches_subset _ _ hmem))
    have hkept := (List.mem_filter.mp hmem).2
    exact absurd hkept (by decide)

theorem lacks_contentType {contentType : String} (h : validContentType contentType = true) :
    Lacks '\x00' contentType := by
  unfold validContentType at h
  dsimp only at h
  split at h
  · next subtype hdrop =>
      simp only [Bool.and_eq_true, List.all_append] at h
      have hsplit : contentType.toList.takeWhile (· ≠ '/') ++
          contentType.toList.dropWhile (· ≠ '/') = contentType.toList :=
        List.takeWhile_append_dropWhile
      intro hmem
      rw [← hsplit, List.mem_append, hdrop, List.mem_cons] at hmem
      rcases hmem with htop | hslash | hsub
      · exact absurd (List.all_eq_true.mp h.2.1 _ htop) (by decide)
      · exact absurd hslash (by decide)
      · exact absurd (List.all_eq_true.mp h.2.2 _ hsub) (by decide)
  · cases h

theorem lacks_attachmentLine {attachment : MessageAttachmentMetadata}
    (h : canonicalMetadata attachment = true) : Lacks '\x00' (attachmentLine attachment) := by
  unfold canonicalMetadata at h
  simp only [Bool.and_eq_true, beq_iff_eq] at h
  obtain ⟨⟨⟨⟨⟨⟨⟨hid, hname⟩, -⟩, htype⟩, -⟩, -⟩, -⟩, -⟩ := h
  have hfilename : Lacks '\x00' attachment.filename := hname ▸ lacks_canonicalFilename _
  unfold attachmentLine
  simp only [Lacks.append_iff]
  refine ⟨⟨⟨⟨⟨⟨⟨⟨?_, lacks_messageAttachmentId hid⟩, ?_⟩, hfilename⟩, ?_⟩, lacks_contentType htype⟩,
    ?_⟩, Lacks.natural (by decide) _⟩, ?_⟩
  all_goals simp [Lacks]

/-- A message brings in a NUL only with the name of its speaker. -/
theorem lacks_eventLines {event : RoomEvent} {lines : List String}
    (h : eventLines event = .ok lines) (hspeaker : Lacks '\x00' (speakerOf event)) :
    ∀ line ∈ lines, Lacks '\x00' line := by
  unfold eventLines at h
  obtain ⟨text, htext, h⟩ := Result.bind_eq_ok.mp h
  obtain ⟨attachments, hattachments, h⟩ := Result.bind_eq_ok.mp h
  split at h
  · obtain rfl := Result.pure_eq_ok.mp h
    intro line hline
    cases hline
  · obtain rfl := Result.pure_eq_ok.mp h
    have hshown : Lacks '\x00' (if hasVisibleText text then text else "(attachments only)") := by
      split_ifs
      · exact lacks_messageVisibleText (readable_eq_ok.mp htext)
      · simp [Lacks]
    intro line hline
    rcases List.mem_cons.mp hline with rfl | hline
    · simp only [Lacks.append_iff]
      refine ⟨⟨⟨⟨⟨?_, Lacks.natural (by decide) _⟩, ?_⟩, hspeaker⟩, ?_⟩, hshown⟩
      all_goals decide
    · obtain ⟨attachment, hattachment, rfl⟩ := List.mem_map.mp hline
      have hread := readable_eq_ok.mp hattachments
      unfold RoomEvent.messageAttachments at hread
      split at hread
      · obtain rfl := Except.ok.inj hread
        cases hattachment
      · split at hread
        · next hcanonical =>
            obtain rfl := Except.ok.inj hread
            exact lacks_attachmentLine (List.all_eq_true.mp hcanonical.2.2 _ hattachment)
        · cases hread

end AgentsAssemble.Persistence
