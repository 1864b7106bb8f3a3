import AgentsAssemble.Persistence.Rows

/-!
# Room observations

What a provider is shown for a prefix of its queue: the bounded prefix itself,
the surrounding context, the rendered room view and the provider input.  All of
it only reads the store.
-/

namespace AgentsAssemble.Persistence

open Foundation Domain

def maxContextMessages : Nat := 50
def maxProviderInputCharacters : Nat := 20000
def maxRoomViewCharacters : Nat := 20000
def maxRoomViewBytes : Nat := 96 * 1024
def maxRoomObservationAgentIds : Nat := 64
def maxRoomObservationAgentIdBytes : Nat := 128
def maxProviderTurnIdBytes : Nat := 128

def containsNul (value : String) : Bool :=
  value.toList.contains '\x00'

def isProviderInput (value : String) : Bool :=
  decide (value.toList.length ≤ maxProviderInputCharacters) && !containsNul value &&
    hasVisibleText value

def isRoomObservationView (value : String) : Bool :=
  decide (value.toList.length ≤ maxRoomViewCharacters) &&
    decide (value.utf8ByteSize ≤ maxRoomViewBytes) && !containsNul value &&
    hasVisibleText value

def canonicalBoundedId (value : String) (maxBytes : Nat) : Bool :=
  value != "" && decide (value.utf8ByteSize ≤ maxBytes) && trim value == value &&
    !value.toList.any isControl

def isProviderTurnId (value : String) : Bool :=
  canonicalBoundedId value maxProviderTurnIdBytes

def isRoomObservationAgentId (value : String) : Bool :=
  canonicalBoundedId value maxRoomObservationAgentIdBytes

/-- The persistence error for an unreadable stored message. -/
def messageStateRejection : MessageStateError → PersistenceError
  | .invalidAttachments =>
      rejected "invalid_state" "Stored message attachment metadata is invalid."
  | .invalidMessage =>
      rejected "invalid_state" "Stored room message visible content is invalid."

def readable {α : Type} (value : Except MessageStateError α) : Except PersistenceError α :=
  match value with
  | .ok a => .ok a
  | .error e => .error (messageStateRejection e)

/-! ## Rendering -/

def contextFloor (session : DurableAgentSession) : Nat :=
  if session.runtimeKind = "api" then session.bootstrapCutoffSeq
  else session.lastProviderSyncSeq

def attachmentLine (attachment : MessageAttachmentMetadata) : String :=
  "  - Attachment `" ++ attachment.id ++ "`: " ++ attachment.filename ++ " (" ++
    attachment.contentType ++ "; " ++ toString attachment.size ++ " bytes)"

def speakerOf (event : RoomEvent) : String :=
  event.displayName.getD event.actor.participantId

/-- The lines one event contributes to the view. -/
def eventLines (event : RoomEvent) : Except PersistenceError (List String) := do
  let text ← readable event.messageVisibleText
  let attachments ← readable event.messageAttachments
  if !hasVisibleText text && attachments == [] then
    pure []
  else
    let shown := if hasVisibleText text then text else "(attachments only)"
    pure (("#" ++ toString event.seq ++ " " ++ speakerOf event ++ ": " ++ shown) ::
      attachments.map attachmentLine)

def viewHeader (room : Room) (session : DurableAgentSession) (roomAgentIds : List String) :
    List String :=
  [ "Room: " ++ room.label
  , "You are: " ++ session.displayName
  , "Agent handles: " ++
      (if roomAgentIds = [] then "none" else String.intercalate ", " roomAgentIds) ]

def renderRoomView (room : Room) (session : DurableAgentSession)
    (roomAgentIds : List String) (context : List RoomEvent) :
    Except PersistenceError String := do
  let gap := match context.head? with
    | some event => decide (contextFloor session + 1 < event.seq)
    | none => false
  let bodies ← context.mapM eventLines
  let lines := viewHeader room session roomAgentIds ++
    (if gap then ["[Earlier room updates are outside this bounded observation.]"] else []) ++
    bodies.flatten
  pure (String.intercalate "\n" lines)

def renderRecentMessages (context : List RoomEvent) : Except PersistenceError String := do
  let texts ← context.mapM fun event => readable event.messageVisibleText
  let messages := (context.zip texts).filter fun entry => hasVisibleText entry.2
  pure (String.intercalate "\n"
    (messages.map fun entry => "- " ++ speakerOf entry.1 ++ ": " ++ entry.2))

def renderObservationInput (room : Room) (session : DurableAgentSession) (mode : String)
    (tabletopTools : Bool) (personaContext : String) : String :=
  String.intercalate "\n\n"
    ([ "[" ++ mode ++ " shared-room observation]"
     , "Your room identity is " ++ session.displayName ++ " in " ++ room.label ++ "."
     , "Call `read_discussion` before deciding. Then finish with exactly one terminal action exposed by the room transport, choosing the action that fulfills the current room request. Ordinary assistant final text is not a room publication." ] ++
     (if tabletopTools then
        ["For official game randomness, use the `roll_dice` or `choose_random` room tool; do not invent a result yourself."]
      else []) ++
     (if personaContext ≠ "" then
        ["[Applied bot card or Risu module]\n" ++ personaContext]
      else []))

/-! ## The inflight prefix -/

structure PendingRoomEvent where
  input : QueuedRoomInput
  event : RoomEvent
  deriving DecidableEq, Repr

def roomEventMissing : PersistenceError :=
  rejected "room_event_missing" "Queued room input is missing."

/-- The queued events, each newer than the one before and visible. -/
def loadPendingEvents (events : List RoomEvent) (session : DurableAgentSession)
    (previousSeq : Nat) : List QueuedRoomInput → Except PersistenceError (List PendingRoomEvent)
  | [] => .ok []
  | input :: inputs => do
      let found ← findEvent events input.eventId
      match found with
      | none => throw roomEventMissing
      | some event => do
          let visible ← readable event.messageHasVisiblePayload
          if event.eventType ≠ "message_final" ∨
              event.actor.participantId = session.participantId ∨
              event.seq ≤ previousSeq ∨ visible = false then
            throw (rejected "queued_room_event_invalid"
              "Queued room input does not match ordered-floor authority.")
          let rest ← loadPendingEvents events session event.seq inputs
          pure ({ input, event } :: rest)

/-- The longest prefix of one delivery kind that fits the observation bounds. -/
def selectPrefix (room : Room) (session : DurableAgentSession) (roomAgentIds : List String)
    (kind : RoomInputDeliveryKind) (selected : List PendingRoomEvent) :
    List PendingRoomEvent → Except PersistenceError (List PendingRoomEvent)
  | [] => .ok selected
  | pending :: rest =>
      if pending.input.deliveryKind ≠ kind then
        .ok selected
      else do
        let next := selected ++ [pending]
        let ids ← readable
          (RoomEvent.messageAttachmentIdsFromEvents (next.map PendingRoomEvent.event))
        if ids.length > maxMessageAttachmentsPerEvent then
          pure selected
        else do
          let view ← renderRoomView room session roomAgentIds
            (next.map PendingRoomEvent.event)
          if view.toList.length > maxRoomViewCharacters then
            pure selected
          else
            selectPrefix room session roomAgentIds kind next rest

def boundedPendingPrefix (room : Room) (session : DurableAgentSession)
    (roomAgentIds : List String) (pending : List PendingRoomEvent) :
    Except PersistenceError (List PendingRoomEvent) :=
  match pending with
  | [] =>
      .error (rejected "queued_room_event_invalid"
        "The room assignment has no provider-visible source message.")
  | first :: _ => do
      let selected ← selectPrefix room session roomAgentIds first.input.deliveryKind []
        (pending.take maxContextMessages)
      if selected = [] then
        throw (rejected "provider_turn_input_invalid"
          "The oldest queued room message cannot fit the canonical observation bound.")
      pure selected

/-! ## Context -/

/-- `BTreeMap::insert` on events keyed by their sequence. -/
def insertBySeq (event : RoomEvent) (selected : List RoomEvent) : List RoomEvent :=
  (selected.filter fun stored => stored.seq ≠ event.seq).orderedInsert
    (fun a b => a.seq ≤ b.seq) event

/-- Adds context events, newest first, while the view still fits. -/
def extendContext (room : Room) (session : DurableAgentSession) (roomAgentIds : List String)
    (replayCanonicalContext : Bool) (selected : List RoomEvent) :
    List RoomEvent → Except PersistenceError (List RoomEvent)
  | [] => .ok selected
  | event :: rows =>
      if selected.length ≥ maxContextMessages then
        .ok selected
      else if !replayCanonicalContext &&
          event.actor.participantId == session.participantId then
        extendContext room session roomAgentIds replayCanonicalContext selected rows
      else do
        let visible ← readable event.messageHasVisiblePayload
        if visible = false then
          extendContext room session roomAgentIds replayCanonicalContext selected rows
        else do
          let next := insertBySeq event selected
          let view ← renderRoomView room session roomAgentIds next
          extendContext room session roomAgentIds replayCanonicalContext
            (if view.toList.length > maxRoomViewCharacters then selected else next) rows

def loadContext (events : List RoomEvent) (room : Room) (session : DurableAgentSession)
    (upToSeq : Nat) (mandatory : List PendingRoomEvent) (roomAgentIds : List String) :
    Except PersistenceError (List RoomEvent) := do
  let floor := contextFloor session
  let rows := ((events.filter fun event => floor < event.seq && event.seq ≤ upToSeq &&
      event.eventType == "message_final").insertionSort fun a b => b.seq ≤ a.seq).take
        maxContextMessages
  let required := mandatory.foldl
    (fun selected pending => insertBySeq pending.event selected) []
  let selected ← extendContext room session roomAgentIds (session.runtimeKind == "api")
    required rows
  if mandatory.any fun pending => !selected.any fun event => event.id == pending.event.id then
    throw (rejected "provider_turn_input_invalid"
      "A queued room message was omitted from the canonical observation.")
  pure selected

/-! ## The prepared input -/

def providerCursorIsValid (events : List RoomEvent) (session : DurableAgentSession) :
    Except PersistenceError Bool := do
  if session.lastProviderSyncSeq = 0 then
    pure (session.lastProviderSyncEventId == "")
  else
    let event ← findEvent events session.lastProviderSyncEventId
    pure (event.any fun event => event.seq == session.lastProviderSyncSeq)

def validateProviderCursor (events : List RoomEvent) (session : DurableAgentSession) :
    Except PersistenceError Unit := do
  let valid ← providerCursorIsValid events session
  if valid = false then
    throw (rejected "provider_sync_cursor_mismatch"
      "The provider sync cursor is outside canonical room history.")

/-- The other agents of the room that may be addressed, by ascending id. -/
def loadRoomAgentIds (s : Store) (session : DurableAgentSession) :
    Except PersistenceError (List String) :=
  let rows := ((s.sessions.sorted (· ≤ ·)).filter fun entry =>
      entry.1 ≠ session.sessionId).filterMap fun entry =>
    (s.participants.lookup entry.2.participantId).map fun participant => (entry.1, participant)
  if rows.length > maxRoomObservationAgentIds then
    .error (rejected "agent_session_capacity"
      "This room exceeds its Agent Session capacity.")
  else
    .ok ((rows.filter fun entry =>
      entry.2.status ≠ .kicked && !entry.2.muted).map Prod.fst)

def selectedPersonaCard (s : Store) (personaId : String) :
    Except PersistenceError (Option String) :=
  if personaId = "" then
    .ok none
  else
    match s.personaCards.lookup personaId with
    | some card => .ok (some card)
    | none => .error (rejected "persona_not_found" "The selected bot card or module is unavailable.")

structure PreparedRoomInput where
  providerInput : String
  roomView : String
  attachmentIds : List String
  inflightInputs : List QueuedRoomInput
  sourceEventId : String
  inputUpToSeq : Nat
  roomAgentIds : List String
  deriving DecidableEq, Repr

def deliveryMode : RoomInputDeliveryKind → String
  | .orderedObservation => "Ordered"
  | .ambientObservation => "Ambient"

variable [TextServices]

def prepareRoomInput (s : Store) (room : Room) (session : DurableAgentSession)
    (pendingInputs : List QueuedRoomInput) (tabletopTools : Bool) :
    Except PersistenceError PreparedRoomInput := do
  validateProviderCursor s.events session
  let roomAgentIds ← loadRoomAgentIds s session
  let pending ← loadPendingEvents s.events session session.lastProviderSyncSeq pendingInputs
  let inflight ← boundedPendingPrefix room session roomAgentIds pending
  match inflight.getLast?, inflight.head? with
  | some source, some first => do
      let context ← loadContext s.events room session source.event.seq inflight roomAgentIds
      let attachmentIds ← readable
        (RoomEvent.messageAttachmentIdsFromEvents (inflight.map PendingRoomEvent.event))
      let roomView ← renderRoomView room session roomAgentIds context
      let card ← selectedPersonaCard s session.personaCardId
      let personaContext ← match card with
        | some card => do
            let recent ← renderRecentMessages context
            pure (renderPersonaContext card recent)
        | none => pure ""
      let providerInput := renderObservationInput room session
        (deliveryMode first.input.deliveryKind) tabletopTools personaContext
      if isRoomObservationView roomView = false ∨ isProviderInput providerInput = false then
        throw (rejected "provider_turn_input_invalid"
          "The canonical room observation exceeds its provider-visible bound.")
      pure
        { providerInput
          roomView
          attachmentIds
          inflightInputs := inflight.map PendingRoomEvent.input
          sourceEventId := source.event.id
          inputUpToSeq := source.event.seq
          roomAgentIds }
  | _, _ =>
      throw (rejected "queued_room_event_invalid"
        "The ordered-floor assignment has no provider-visible source message.")

end AgentsAssemble.Persistence
