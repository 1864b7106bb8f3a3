import AgentsAssemble.Domain.Text
import AgentsAssemble.Foundation.Json

/-!
# The events of a turn

What a provider's event stream says about one session: which message asked, which
one answered and with what model, whether the provider failed, and what it asks
its owner meanwhile.
-/

namespace AgentsAssemble.Provider.OpenCode

open Domain Foundation

inductive OpenCodeEventError
  | transport
  | tooLarge
  | protocol
  | provider
  deriving DecidableEq, Repr

structure OpenCodeTurnEvents where
  requestMessage : String
  assistantMessage : String
  observedModel : String
  deriving DecidableEq, Repr

inductive WaitMode
  | turn
  | quiescence
  deriving DecidableEq, Repr

structure EventState where
  sessionId : String
  mode : WaitMode
  turn : OpenCodeTurnEvents
  providerError : Bool
  request : Option Json

def EventState.new (sessionId : String) (mode : WaitMode) : EventState :=
  ⟨sessionId, mode, ⟨"", "", ""⟩, false, none⟩

/-! ## Reading a value -/

/-- `Value::get` with a key, which only an object has. -/
def member (value : Json) (key : String) : Option Json :=
  value.asObject.bind fun members => Json.get members key

/-- The text under a key, or none of it. -/
def textOf (members : List (String × Json)) (key : String) : String :=
  ((Json.get members key).bind Json.asStr).getD ""

def cleanId (value : String) : String :=
  let value := trim value
  if value = "" ∨ 128 < value.utf8ByteSize ∨ value.toList.any isControl = true then "" else value

/-- The one text that every alias present carries. -/
def exactAlias : Option String → List Json → Option (Option String)
  | observed, [] => some observed
  | observed, value :: values =>
      match value.asStr with
      | none => none
      | some text =>
          if text = "" ∨ 128 < text.utf8ByteSize ∨ text.toList.any isControl = true then none
          else if observed.any (· ≠ text) then none
          else exactAlias (some text) values

/-- The model a message names; none where its aliases are not one provider and one model. -/
def observedModel (info : List (String × Json)) : Option (Option String) := do
  let nested ← match Json.get info "model" with
    | some value => value.asObject.map some
    | none => some none
  let nestedMember (key : String) := nested.bind fun model => Json.get model key
  let provider ← exactAlias none
    ([Json.get info "providerID", nestedMember "providerID"].reduceOption)
  let model ← exactAlias none
    ([Json.get info "modelID", nestedMember "modelID", nestedMember "id"].reduceOption)
  match provider, model with
  | some provider, some model => some (some (provider ++ "/" ++ model))
  | none, none => some none
  | _, _ => none

def terminalIdle (eventType : String) (properties : List (String × Json)) : Bool :=
  eventType == "session.status" &&
    ((Json.get properties "status").bind (member · "type")).bind Json.asStr == some "idle"

/-! ## Accepting an event -/

namespace EventState

/-- The answer to the turn's message, and the model that gave it. -/
def acceptAssistant (state : EventState) (info : List (String × Json)) (messageId : String) :
    Except OpenCodeEventError EventState := do
  let state := { state with turn := { state.turn with assistantMessage := messageId } }
  let state ← match observedModel info with
    | none => throw .protocol
    | some none => pure state
    | some (some model) =>
        if state.turn.observedModel ≠ "" ∧ state.turn.observedModel ≠ model then throw .protocol
        else pure { state with turn := { state.turn with observedModel := model } }
  if ((Json.get info "error").bind Json.asObject).isSome then
    pure { state with providerError := true }
  else
    pure state

def acceptMessage (state : EventState) (properties : List (String × Json)) :
    Except OpenCodeEventError EventState :=
  match (Json.get properties "info").bind Json.asObject with
  | none => .ok state
  | some info =>
      let role := textOf info "role"
      let messageId := cleanId (textOf info "id")
      if role = "user" ∧ state.turn.requestMessage = "" then
        .ok { state with turn := { state.turn with requestMessage := messageId } }
      else if role = "assistant" ∧ messageId ≠ "" ∧
          (Json.get info "parentID").bind Json.asStr = some state.turn.requestMessage then
        state.acceptAssistant info messageId
      else
        .ok state

/-- Takes in one event; the flag says whether it ends the wait. -/
def accept (state : EventState) (event : Json) : Except OpenCodeEventError (Bool × EventState) :=
  let eventType := ((member event "type").bind Json.asStr).getD ""
  match (member event "properties").bind Json.asObject with
  | none => .ok (false, state)
  | some properties =>
      if textOf properties "sessionID" ≠ state.sessionId then
        .ok (false, state)
      else if (eventType = "permission.asked" ∨ eventType = "question.asked") ∧
          state.mode = .turn then
        .ok (false, { state with request := some event })
      else if eventType = "session.error" then
        .ok (false, { state with providerError := true })
      else if eventType = "message.updated" then do
        let state ← state.acceptMessage properties
        pure (false, state)
      else if terminalIdle eventType properties = true ∧
          (state.mode = .quiescence ∨ state.turn.requestMessage ≠ "") then
        if state.mode = .turn ∧ state.providerError = true then .error .provider
        else .ok (true, state)
      else
        .ok (false, state)

end EventState

end AgentsAssemble.Provider.OpenCode
