import AgentsAssemble.Domain.ProviderRequest
import AgentsAssemble.Foundation.Agreement
import AgentsAssemble.Foundation.JsonText
import AgentsAssemble.Foundation.Table
import AgentsAssemble.Persistence.State

/-!
# Resolving a provider request

The command that claims the one live response of a provider request.  It stores
the projection of the answers and a keyed fingerprint of all of them; the
answers themselves leave with the delivery, which is never stored.
-/

namespace AgentsAssemble.Persistence

open Foundation Domain Tx

/-! ## Stored JSON -/

def jsonString (value : String) : JsonText :=
  .string value.toList

/-- The members of `DurableProviderResolution`, as they are serialized. -/
def durableJson : DurableProviderResolution → JsonText
  | .option optionId =>
      .object [("response_kind".toList, jsonString "option"),
        ("option_id".toList, jsonString optionId)]
  | .answers answers secretAnsweredQuestionIds =>
      .object [("response_kind".toList, jsonString "answers"),
        ("answers".toList, .object (answers.entries.map fun entry =>
          (entry.1.toList, .array (entry.2.map jsonString)))),
        ("secret_answered_question_ids".toList,
          .array (secretAnsweredQuestionIds.map jsonString))]
  | .acknowledge => .object [("response_kind".toList, jsonString "acknowledge")]

/-- `serde_json::to_string`. -/
def durableText (durable : DurableProviderResolution) : String :=
  String.ofList (durableJson durable).print

/-- A hyphenated UUID. -/
def uuidText (id : Uuid) : List Char :=
  let digits := (List.range 32).map fun i => Nat.digitChar (id.toNat / 16 ^ (31 - i) % 16)
  List.intercalate ['-'] [digits.take 8, (digits.drop 8).take 4, (digits.drop 12).take 4,
    (digits.drop 16).take 4, digits.drop 20]

/-! ## State -/

structure ProviderRequestRow where
  sessionId : String
  turnGeneration : Int
  executionId : String
  ownerId : String
  /-- The decoded `request_json`, if it decodes. -/
  request : Option ProviderRequest
  expiresAt : Int
  state : String
  connectionId : Option String
  resolutionJson : Option String
  resolutionFingerprint : Option (List UInt8)
  resolutionEventId : Option String
  deriving DecidableEq

/-- An event the room itself writes, with its extra members. -/
structure InternalEvent where
  id : String
  seq : Nat
  createdAt : Int
  roomId : String
  eventType : String
  actor : Actor
  participantId : String
  participantType : String
  displayName : String
  content : Option String
  messageKind : Option String
  extra : List (String × JsonText)

/-- The tables the command writes, and the rest of the database. -/
structure RequestStore (σ : Type) where
  requests : Table (String × Uuid) ProviderRequestRow
  events : List InternalEvent
  rest : σ

/-- What the command reads of an authenticated principal. -/
structure RequestPrincipal where
  roomId : String
  participantId : String
  clientKind : ClientKind
  readWrite : Bool
  messageSend : Bool

/-- What the command reads of the session that asked. -/
structure RequestSession where
  roomId : String
  sessionId : String
  participantId : String
  displayName : String
  turnGeneration : Nat

/-- The parts of the store that the command rests on: authority over the session, the clock and
the write budget. -/
class RequestHost (σ : Type) where
  resolvePrincipal : RequestStore σ → Except PersistenceError RequestPrincipal
  loadSession : RequestStore σ → (roomId sessionId : String) →
    Except PersistenceError RequestSession
  requirePendingAuthority : RequestStore σ → RequestSession → ProviderRequestRow → Int →
    Except PersistenceError Unit
  reserveRoomWriteBudget : σ → (roomId : String) → (payloadBytes : Nat) → Except PersistenceError σ
  newUuid : RequestStore σ → String
  nextSequence : RequestStore σ → (roomId : String) → Nat
  utcNow : RequestStore σ → Int

/-- The keyed digest of a response, under the key of the host. -/
class ResponseMac where
  responseFingerprint : (roomId : String) → Uuid → ProviderRequestResolution → List UInt8

export ResponseMac (responseFingerprint)

/-- Leaves the process with the answers; never stored. -/
structure ProviderRequestDelivery where
  roomId : String
  sessionId : String
  requestId : Uuid
  turnGeneration : Nat
  executionId : String
  fingerprint : List UInt8
  resolution : ProviderRequestResolution

structure ProviderRequestResolutionCommit where
  event : InternalEvent
  delivery : Option ProviderRequestDelivery

/-! ## The command -/

abbrev RequestTx (σ : Type) := Tx (RequestStore σ) PersistenceError

section Command

variable {σ : Type} [RequestHost σ]

def authorizeResolution (s : RequestStore σ) (principal : RequestPrincipal)
    (row : ProviderRequestRow) (now : Int) : Except PersistenceError RequestSession := do
  if principal.clientKind ≠ .browser ∨ ¬principal.readWrite ∨ ¬principal.messageSend ∨
      principal.participantId ≠ row.ownerId then
    throw (rejected "permission_denied" "Only the current human owner may answer.")
  let session ← RequestHost.loadSession s principal.roomId row.sessionId
  RequestHost.requirePendingAuthority s session row now
  pure session

def resolutionEvent (roomId : String) (eventId : Option String) : RequestTx σ InternalEvent := do
  let id ← orReject eventId (rejected "invalid_state" "Provider resolution event is missing.")
  let events ← read RequestStore.events
  orReject (events.find? fun event => event.roomId == roomId && event.id == id)
    (rejected "invalid_state" "Provider resolution event is missing.")

def internalRequestEvent (session : RequestSession) (eventType : String)
    (extra : List (String × JsonText)) : RequestTx σ InternalEvent := do
  let id ← read RequestHost.newUuid
  let seq ← read fun s => RequestHost.nextSequence s session.roomId
  let createdAt ← read RequestHost.utcNow
  let event : InternalEvent :=
    { id, seq, createdAt
      roomId := session.roomId
      eventType
      actor := ⟨"room-system", "system"⟩
      participantId := session.participantId
      participantType := "agent"
      displayName := session.displayName
      content := none
      messageKind := none
      extra }
  write fun s => { s with events := s.events ++ [event] }
  pure event

/-- The first answer: stores its projection and issues the delivery. -/
def claimResponse (principal : RequestPrincipal) (session : RequestSession) (requestId : Uuid)
    (row : ProviderRequestRow) (durable : DurableProviderResolution) (fingerprint : List UInt8)
    (resolution : ProviderRequestResolution) (now : Int) :
    RequestTx σ ProviderRequestResolutionCommit := do
  require (row.state = "open" ∧ now < row.expiresAt)
    (rejected "provider_request_closed" "Provider request is no longer open.")
  let encoded := durableText durable
  let rest ← read RequestStore.rest
  let reserved ← ofResult
    (RequestHost.reserveRoomWriteBudget rest principal.roomId encoded.utf8ByteSize)
  write fun s => { s with rest := reserved }
  let event ← internalRequestEvent session "provider_request_resolving"
    [("owner_id", jsonString principal.participantId),
      ("provider_request_id", .string (uuidText requestId)),
      ("resolution", durableJson durable), ("visibility", jsonString "owner")]
  write fun s => { s with
    requests := s.requests.insert (principal.roomId, requestId)
      { row with
        state := "resolving"
        resolutionJson := some encoded
        resolutionFingerprint := some fingerprint
        resolutionEventId := some event.id } }
  pure
    { event
      delivery := some
        { roomId := principal.roomId
          sessionId := session.sessionId
          requestId
          turnGeneration := session.turnGeneration
          executionId := row.executionId
          fingerprint
          resolution } }

variable [UrlParser] [ResponseMac]

def resolveProviderRequest (requestId : Uuid) (resolution : ProviderRequestResolution)
    (now : Int) : RequestTx σ ProviderRequestResolutionCommit := do
  let resolved ← read RequestHost.resolvePrincipal
  let principal ← ofResult resolved
  let found ← read fun s => s.requests.lookup (principal.roomId, requestId)
  let row ← orReject found
    (rejected "provider_request_missing" "Provider request is unavailable.")
  let authorized ← read fun s => authorizeResolution s principal row now
  let session ← ofResult authorized
  let request ← orReject row.request (.database "request_json")
  let durable ← orReject (request.durableResolution resolution)
    (rejected "invalid_provider_response" "Response does not match the provider request.")
  let fingerprint := responseFingerprint principal.roomId requestId resolution
  match row.resolutionFingerprint with
  | some previous => do
      require (previous = fingerprint) .commandConflict
      let event ← resolutionEvent principal.roomId row.resolutionEventId
      pure { event, delivery := none }
  | none => claimResponse principal session requestId row durable fingerprint resolution now

end Command

/-! ## What two answers leave -/

/-- A row with its fingerprint blotted out. -/
def withoutFingerprint (row : ProviderRequestRow) : ProviderRequestRow :=
  { row with resolutionFingerprint := row.resolutionFingerprint.map fun _ => [] }

/-- The same command result, rows, events and everything else, but for fingerprints.  A delivery
only leaves the process, so of it only that there is one. -/
structure SameTrace {σ : Type} (x y : ProviderRequestResolutionCommit × RequestStore σ) : Prop where
  event : x.1.event = y.1.event
  claimed : x.1.delivery.isSome = y.1.delivery.isSome
  requests : ∀ key, (x.2.requests.lookup key).map withoutFingerprint =
    (y.2.requests.lookup key).map withoutFingerprint
  events : x.2.events = y.2.events
  rest : x.2.rest = y.2.rest

theorem SameTrace.refl {σ : Type} (x : ProviderRequestResolutionCommit × RequestStore σ) :
    SameTrace x x :=
  ⟨rfl, rfl, fun _ => rfl, rfl, rfl⟩

theorem resolutionEvent_commits {σ : Type} {s t : RequestStore σ} {roomId : String}
    {eventId : Option String} {event : InternalEvent}
    (h : Commits (resolutionEvent roomId eventId) s event t) : t = s := by
  unfold resolutionEvent at h
  simp only [commits_bind, commits_read, commits_orReject] at h
  obtain ⟨id, _, ⟨-, rfl⟩, events, _, ⟨-, rfl⟩, -, rfl⟩ := h
  rfl

section Traces

variable {σ : Type} [RequestHost σ]

/-- Claims that store the same projection leave the same trace. -/
theorem claimResponse_agree (principal : RequestPrincipal) (session : RequestSession)
    (requestId : Uuid) (row : ProviderRequestRow) (durable : DurableProviderResolution)
    (fingerprint other : List UInt8) (resolution resolution' : ProviderRequestResolution)
    (now : Int) (s : RequestStore σ) :
    Agree SameTrace
      (claimResponse principal session requestId row durable fingerprint resolution now)
      (claimResponse principal session requestId row durable other resolution' now) s := by
  unfold claimResponse
  refine agree_bind fun _ _ _ => ?_
  refine agree_bind fun _ _ _ => ?_
  refine agree_bind fun _ _ _ => ?_
  refine agree_bind fun _ _ _ => ?_
  refine agree_bind fun event t _ => ?_
  refine agree_write_pure ⟨rfl, rfl, fun key => ?_, rfl, rfl⟩
  dsimp only
  rw [Table.lookup_insert_ite, Table.lookup_insert_ite]
  split
  · rfl
  · rfl

/-- The row of a request, as the principal behind the command sees it. -/
def StoredRow (s : RequestStore σ) (requestId : Uuid) (row : ProviderRequestRow) : Prop :=
  ∃ principal, RequestHost.resolvePrincipal s = .ok principal ∧
    s.requests.lookup (principal.roomId, requestId) = some row

theorem StoredRow.unique {s : RequestStore σ} {requestId : Uuid} {row other : ProviderRequestRow}
    (h : StoredRow s requestId row) (h' : StoredRow s requestId other) : row = other := by
  obtain ⟨principal, hprincipal, hrow⟩ := h
  obtain ⟨principal', hprincipal', hother⟩ := h'
  obtain rfl := Except.ok.inj (hprincipal.symm.trans hprincipal')
  exact Option.some.inj (hrow.symm.trans hother)

variable [UrlParser] [ResponseMac]

/-- The stored request accepts both resolutions, and they differ in secret answers only. -/
structure SecretVariants (s : RequestStore σ) (requestId : Uuid)
    (resolution other : ProviderRequestResolution) : Prop where
  accepted : ∀ row request, StoredRow s requestId row → row.request = some request →
    (request.durableResolution resolution).isSome ∧ (request.durableResolution other).isSome
  same : ∀ row request, StoredRow s requestId row → row.request = some request →
    SameButSecrets request.prompt resolution other

/-- A first answer leaves the same trace whatever its secrets are. -/
theorem resolveProviderRequest_agree {s : RequestStore σ} {requestId : Uuid}
    {resolution other : ProviderRequestResolution} (h : SecretVariants s requestId resolution other)
    (hfirst : ∀ row, StoredRow s requestId row → row.resolutionFingerprint = none) (now : Int) :
    Agree SameTrace (resolveProviderRequest requestId resolution now)
      (resolveProviderRequest requestId other now) s := by
  unfold resolveProviderRequest
  refine agree_bind fun resolved t₁ hresolved => ?_
  obtain ⟨rfl, rfl⟩ := commits_read.mp hresolved
  refine agree_bind fun principal t₂ hcommits => ?_
  obtain ⟨hprincipal, rfl⟩ := commits_ofResult.mp hcommits
  refine agree_bind fun found t₃ hfound => ?_
  obtain ⟨rfl, rfl⟩ := commits_read.mp hfound
  refine agree_bind fun row t₄ hread => ?_
  obtain ⟨hrow, rfl⟩ := commits_orReject.mp hread
  refine agree_bind fun authorized t₅ hauthorized => ?_
  obtain ⟨rfl, rfl⟩ := commits_read.mp hauthorized
  refine agree_bind fun session t₆ hsession => ?_
  obtain ⟨-, rfl⟩ := commits_ofResult.mp hsession
  refine agree_bind fun request t₇ hdecoded => ?_
  obtain ⟨hrequest, rfl⟩ := commits_orReject.mp hdecoded
  have hstored : StoredRow t₇ requestId row := ⟨principal, hprincipal, hrow⟩
  obtain ⟨haccepted, haccepted'⟩ := h.accepted row request hstored hrequest
  rw [durableResolution_same (h.same row request hstored hrequest) haccepted haccepted',
    hfirst row hstored]
  exact agree_bind fun durable t₈ _ => claimResponse_agree principal session requestId row durable
    _ _ resolution other now t₈

/-- A committed answer is the first one, or it repeats the stored one and writes nothing. -/
theorem resolveProviderRequest_cases {s t : RequestStore σ} {requestId : Uuid}
    {resolution : ProviderRequestResolution} {now : Int}
    {commit : ProviderRequestResolutionCommit}
    (h : Commits (resolveProviderRequest requestId resolution now) s commit t) :
    ∃ principal row, RequestHost.resolvePrincipal s = .ok principal ∧
      StoredRow s requestId row ∧
      (row.resolutionFingerprint = none ∨
        (commit.delivery = none ∧
          Commits (resolutionEvent principal.roomId row.resolutionEventId) s commit.event t)) := by
  unfold resolveProviderRequest at h
  simp only [commits_bind, commits_read, commits_ofResult, commits_orReject] at h
  obtain ⟨resolved, _, ⟨rfl, rfl⟩, principal, _, ⟨hprincipal, rfl⟩, found, _, ⟨rfl, rfl⟩, row, _,
    ⟨hrow, rfl⟩, authorized, _, ⟨rfl, rfl⟩, session, _, ⟨-, rfl⟩, request, _, ⟨-, rfl⟩, durable, _,
    ⟨-, rfl⟩, h⟩ := h
  refine ⟨principal, row, hprincipal, ⟨principal, hprincipal, hrow⟩, ?_⟩
  split at h
  · simp only [commits_bind, commits_require, commits_pure] at h
    obtain ⟨_, _, ⟨-, rfl⟩, event, _, hevent, rfl, rfl⟩ := h
    exact Or.inr ⟨rfl, hevent⟩
  · next hnone => exact Or.inl hnone

/-- A request accepts exactly what answers all of it.  Two accepted resolutions that differ in
secret answers only leave the same trace when they answer an open request, and whenever both are
committed. -/
theorem secret_answers_leave_no_trace :
    (∀ (request : ProviderRequest) (resolution : ProviderRequestResolution),
      (request.durableResolution resolution).isSome ↔
        request.isValid = true ∧ Resolves request.prompt resolution) ∧
    ∀ (s : RequestStore σ) (requestId : Uuid) (resolution other : ProviderRequestResolution)
      (now : Int), SecretVariants s requestId resolution other →
      ((∀ row, StoredRow s requestId row → row.resolutionFingerprint = none) →
        Agree SameTrace (resolveProviderRequest requestId resolution now)
          (resolveProviderRequest requestId other now) s) ∧
      ∀ commit t commit' t',
        Commits (resolveProviderRequest requestId resolution now) s commit t →
        Commits (resolveProviderRequest requestId other now) s commit' t' →
          SameTrace (commit, t) (commit', t') := by
  refine ⟨fun request resolution => ?_, fun s requestId resolution other now h =>
    ⟨fun hfirst => resolveProviderRequest_agree h hfirst now, ?_⟩⟩
  · rw [Option.isSome_iff_exists]
    constructor
    · rintro ⟨durable, hdurable⟩
      obtain ⟨hvalid, hresolves, -⟩ := durableResolution_eq_some.mp hdurable
      exact ⟨hvalid, hresolves⟩
    · rintro ⟨hvalid, hresolves⟩
      exact ⟨_, durableResolution_eq_some.mpr ⟨hvalid, hresolves, rfl⟩⟩
  · intro commit t commit' t' hcommit hcommit'
    obtain ⟨principal, row, hprincipal, hrow, hcase⟩ := resolveProviderRequest_cases hcommit
    obtain ⟨principal', row', hprincipal', hrow', hcase'⟩ := resolveProviderRequest_cases hcommit'
    obtain rfl := Except.ok.inj (hprincipal.symm.trans hprincipal')
    obtain rfl := hrow.unique hrow'
    by_cases hfirst : row.resolutionFingerprint = none
    · have hagree := resolveProviderRequest_agree h
        (fun other hother => by rw [hother.unique hrow]; exact hfirst) now
      unfold Agree at hagree
      unfold Commits at hcommit hcommit'
      rwa [hcommit, hcommit'] at hagree
    · obtain ⟨hnone, hevent⟩ := hcase.resolve_left hfirst
      obtain ⟨hnone', hevent'⟩ := hcase'.resolve_left hfirst
      obtain ⟨hsame, rfl⟩ := commits_functional hevent hevent'
      exact ⟨hsame, by rw [hnone, hnone'], fun _ => rfl, rfl, rfl⟩

end Traces

/-! ## Two passwords -/

section Sample

local instance sampleHost : RequestHost Unit where
  resolvePrincipal _ := .ok ⟨"room", "owner", .browser, true, true⟩
  loadSession _ _ sessionId := .ok ⟨"room", sessionId, "agent", "Agent", 1⟩
  requirePendingAuthority _ _ _ _ := .ok ()
  reserveRoomWriteBudget rest _ _ := .ok rest
  newUuid _ := "event"
  nextSequence s _ := s.events.length + 1
  utcNow _ := 0

local instance sampleUrls : UrlParser where
  parseUrl _ := none

/-- Thirty-two bytes that tell the two resolutions below apart. -/
local instance sampleMac : ResponseMac where
  responseFingerprint _ _ resolution :=
    match resolution with
    | .answers answers =>
        List.replicate 32 (UInt8.ofNat (((answers.get "password").getD []).map String.length).sum)
    | _ => List.replicate 32 0

def loginQuestion (id : String) (isSecret : Bool) : ProviderRequestQuestion :=
  { id, header := "", question := "Which?", options := [], multiple := false, isOther := true,
    isSecret }

def loginRequest : ProviderRequest :=
  { providerRequestId := 1
    requestKind := .userInput
    title := "Login"
    description := ""
    timeoutSeconds := 60
    prompt := .answers [loginQuestion "name" false, loginQuestion "password" true] }

def loginAnswers (password : String) : AnswerMap :=
  ⟨[("name", ["me"]), ("password", [password])], by
    rw [List.pairwise_pair]
    exact (by decide : "name" < "password")⟩

def loginStore : RequestStore Unit :=
  { requests := AList.singleton ("room", 1)
      { sessionId := "session"
        turnGeneration := 1
        executionId := "execution"
        ownerId := "owner"
        request := some loginRequest
        expiresAt := 10
        state := "open"
        connectionId := none
        resolutionJson := none
        resolutionFingerprint := none
        resolutionEventId := none }
    events := []
    rest := () }

theorem loginStore_row {row : ProviderRequestRow} (h : StoredRow loginStore 1 row) :
    row.request = some loginRequest ∧ row.resolutionFingerprint = none := by
  obtain ⟨principal, hprincipal, hrow⟩ := h
  obtain rfl := Except.ok.inj hprincipal
  obtain rfl := Option.some.inj hrow
  exact ⟨rfl, rfl⟩

theorem two_passwords_one_trace :
    Agree SameTrace (resolveProviderRequest 1 (.answers (loginAnswers "alpha")) 5)
      (resolveProviderRequest 1 (.answers (loginAnswers "beta")) 5) loginStore := by
  have hvariants : SecretVariants loginStore 1 (.answers (loginAnswers "alpha"))
      (.answers (loginAnswers "beta")) := by
    refine ⟨fun row request hrow hrequest => ?_, fun row request hrow hrequest => ?_⟩
    · obtain rfl := Option.some.inj ((loginStore_row hrow).1.symm.trans hrequest)
      decide
    · obtain rfl := Option.some.inj ((loginStore_row hrow).1.symm.trans hrequest)
      intro id hopen
      have hid : "password" ≠ id := by
        rintro rfl
        exact absurd (hopen (loginQuestion "password" true) (by decide) rfl) (by decide)
      unfold AnswerMap.get loginAnswers
      by_cases hname : "name" = id
      · subst hname
        rfl
      · simp [hid, hname]
  exact (secret_answers_leave_no_trace.2 loginStore 1 _ _ 5 hvariants).1
    fun row hrow => (loginStore_row hrow).2

end Sample

end AgentsAssemble.Persistence
