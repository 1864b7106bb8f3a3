import AgentsAssemble.Persistence.Rows

/-!
# Message routing

Which sessions a public message is queued for: the direct target named by the
latest unambiguous mention, the ordered-floor candidate, or every listening
session in ambient mode.
-/

namespace AgentsAssemble.Persistence

open Foundation Domain

section Mentions

variable [TextServices]

def isAliasSeparator (c : Char) : Bool :=
  isWhitespace c || ['/', '|', '·', '—', '–', ':', '(', ')'].contains c

def mentionWord (c : Char) : Bool :=
  isAlphanumeric c || c == '_' || c == '-'

def aliasTrimmed (c : Char) : Bool :=
  [' ', '@', ',', ';', '!', '?', '[', ']', '{', '}'].contains c

def validAlias (name : List Char) : Bool :=
  name != [] &&
    !name.any (fun c => ['@', '<', '>', '\r', '\n'].contains c) &&
    (name.any isWhitespace ||
      name.all fun c => isAlphanumeric c || c == '_' || c == '.' || c == '-')

/-- The aliases a session claims, lower-cased, in candidate order. -/
def aliasesOf (session : DurableAgentSession) : List (List Char) :=
  let candidates := session.sessionId.toList :: session.displayName.toList ::
    session.displayName.toList.splitOnP isAliasSeparator
  let aliases := candidates.map fun candidate =>
    (toLowercase (String.ofList (trimMatches aliasTrimmed candidate))).toList
  aliases.filter fun name => validAlias name && name != "all".toList

/-- Every claimed alias with its owner, or no owner when two sessions claim it. -/
def uniqueAliases (sessions : List DurableAgentSession) : List (List Char × Option String) :=
  let claims := sessions.flatMap fun session =>
    (aliasesOf session).map fun name => (name, session.sessionId)
  claims.map fun claim =>
    (claim.1, if claims.all fun other => other.1 != claim.1 || other.2 == claim.2
      then some claim.2 else none)

/-- The alias stands at the head of `rest`, and no mention word touches it. -/
def plainMentionAt (before : Option Char) (rest needle : List Char) : Bool :=
  needle.isPrefixOf rest &&
    !(before.any mentionWord) && !((rest.drop needle.length).head?.any mentionWord)

/-- `<@`, the alias, `>`, with optional blanks around the alias. -/
def bracketedMentionAt (rest name : List Char) : Bool :=
  match rest with
  | '<' :: '@' :: tail =>
      let body := tail.dropWhile isWhitespace
      name.isPrefixOf body &&
        ((body.drop name.length).dropWhile isWhitespace).head? == some '>'
  | _ => false

/-- The last position at which the content mentions the alias. -/
def lastMentionPosition (content name : List Char) : Option Nat :=
  go none 0 none content
where
  go (before : Option Char) (index : Nat) (found : Option Nat) : List Char → Option Nat
    | [] => found
    | c :: rest =>
        let here := plainMentionAt before (c :: rest) ('@' :: name) ||
          bracketedMentionAt (c :: rest) name
        go (some c) (index + 1) (if here then some index else found) rest

/-- The greater of two mentions by position, then by owner. -/
def laterMention (a b : Nat × String) : Nat × String :=
  if a.1 < b.1 ∨ (a.1 = b.1 ∧ a.2 ≤ b.2) then b else a

def lastDirectTarget (content : String) (sessions : List DurableAgentSession) :
    Option String :=
  let lowered := (toLowercase content).toList
  let mentions := (uniqueAliases sessions).filterMap fun entry =>
    entry.2.bind fun owner =>
      (lastMentionPosition lowered entry.1).map fun position => (position, owner)
  match mentions with
  | [] => none
  | first :: rest => some (rest.foldl laterMention first).2

end Mentions

/-- Two distinct candidate positions drawn from a random seed. -/
def sampledCandidateIndexes (length seed : Nat) : List Nat :=
  if length ≤ 2 then
    List.range length
  else
    let first := seed % length
    let second := (seed / length) % (length - 1)
    [first, if second ≥ first then second + 1 else second]

def isActor (session : DurableAgentSession) (event : RoomEvent) : Bool :=
  session.participantId == event.actor.participantId ||
    session.sessionId == event.actor.participantId

def routeSessionIsEligible (session : DurableAgentSession) (participant : Participant) :
    Bool :=
  participant.status == .joined && !participant.muted && session.enabled &&
    session.status == .attached &&
    (session.runtimeStatus == .idle || session.runtimeStatus == .busy) &&
    session.providerSessionActive && session.lifecycleIntentAction == .none

/-- Message counts of the agents among the last events, and the latest speaker. -/
def recentAgentSpeakingState (events : List RoomEvent) (beforeSeq : Nat) :
    List String × String :=
  let rows := ((events.filter fun event => event.seq < beforeSeq).insertionSort
    fun a b => b.seq ≤ a.seq).take 100
  let speakers := (rows.filter fun event =>
    event.eventType == "message_final" && event.actor.participantType == "agent").map
      fun event => event.actor.participantId
  (speakers, (speakers.find? (· ≠ "")).getD "")

/-- `min_by_key`: the first candidate with the least count. -/
def leastSpoken (speakers : List String) :
    List DurableAgentSession → Option DurableAgentSession
  | [] => none
  | session :: rest =>
      some (rest.foldl
        (fun best next =>
          if speakers.count next.sessionId < speakers.count best.sessionId then next else best)
        session)

/-- The floor among equal candidates: the one of two sampled sessions that spoke least. -/
def sampledTarget (s : Store) (settings : RoomSettings) (event : RoomEvent)
    (candidates : List (DurableAgentSession × Participant)) (seed : Nat) :
    Except PersistenceError (List (String × RoomInputDeliveryKind)) :=
  if candidates = [] then
    .ok []
  else
    let (speakers, previousSpeaker) := recentAgentSpeakingState s.events event.seq
    let kept :=
      if settings.orderedExcludePreviousSpeaker ∧ 1 < candidates.length then
        candidates.filter fun entry => entry.1.sessionId ≠ previousSpeaker
      else
        candidates
    let sorted := (kept.map Prod.fst).insertionSort fun a b => a.sessionId ≤ b.sessionId
    let sampled := (sampledCandidateIndexes sorted.length seed).filterMap (sorted[·]?)
    match leastSpoken speakers sampled with
    | some session => .ok [(session.sessionId, .orderedObservation)]
    | none => .error (rejected "ordered_floor_empty" "No ordered floor target remained.")

variable [TextServices]

/-- The target of an ordered-floor message, if any session may take the floor. -/
def orderedTargets (s : Store) (settings : RoomSettings) (event : RoomEvent)
    (sessions : List (DurableAgentSession × Participant)) (seed : Nat) :
    Except PersistenceError (List (String × RoomInputDeliveryKind)) := do
  let others := sessions.filter fun entry => !isActor entry.1 event
  let structuredTarget := event.extra.targetAgentId.filter fun target =>
    others.any fun entry => entry.1.sessionId == target
  let direct := (lastDirectTarget (event.content.getD "") (others.map Prod.fst)).or
    structuredTarget
  match direct with
  | some target =>
      match sessions.find? fun entry => entry.1.sessionId == target with
      | none =>
          throw (rejected "ordered_floor_empty" "The direct floor target is missing.")
      | some (_, participant) =>
          if participant.status = .kicked ∨ participant.muted then
            pure []
          else
            pure [(target, .orderedObservation)]
  | none => do
      let eligible := others.filter fun entry => routeSessionIsEligible entry.1 entry.2
      let candidates ←
        if event.actor.participantType = "agent" then
          match s.participants.lookup event.actor.participantId with
          | none => throw .participantMissing
          | some actor =>
              let directors := eligible.filter fun entry => entry.2.role == .director
              pure (if actor.role ≠ .director ∧ directors ≠ [] then directors else eligible)
        else
          pure eligible
      sampledTarget s settings event candidates seed

def ambientTargets (event : RoomEvent) (sessions : List (DurableAgentSession × Participant)) :
    List (String × RoomInputDeliveryKind) :=
  (sessions.filter fun entry =>
    !isActor entry.1 event && routeSessionIsEligible entry.1 entry.2).map
      fun entry => (entry.1.sessionId, .ambientObservation)

end AgentsAssemble.Persistence
