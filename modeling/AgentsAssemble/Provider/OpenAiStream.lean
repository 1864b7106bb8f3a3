import AgentsAssemble.Domain.Text
import AgentsAssemble.Foundation.Json
import AgentsAssemble.Foundation.Merging

/-!
# The streamed completion

A chat completion arrives as a stream of chunks, each of which carries a piece
of every text of the answer.  The accumulator merges the pieces as they arrive,
and is turned into a completion once the stream has said that it is done.
-/

namespace AgentsAssemble.Provider

open Domain Foundation
open Foundation.Merging (appendChecked)

def maxToolCalls : Nat := 16
def maxToolArgumentBytes : Nat := 64 * 1024
def maxIdentifierBytes : Nat := 128
def maxFinishReasonBytes : Nat := 64

inductive OpenAiStreamError
  | contextLimit
  | credentialRejected
  | rateLimited
  | http
  | transport
  | responseTooLarge
  | invalidResponse
  deriving DecidableEq, Repr

structure ToolFunction where
  name : String
  arguments : String
  deriving DecidableEq, Repr

structure ToolCall where
  id : String
  kind : String
  function : ToolFunction
  deriving DecidableEq, Repr

structure AssistantMessage where
  role : String
  content : Option String
  reasoningContent : Option String
  toolCalls : List ToolCall
  deriving DecidableEq, Repr

structure OpenAiUsage where
  prompt : UInt64
  completion : UInt64
  total : UInt64
  deriving DecidableEq, Repr

structure OpenAiStreamCompletion where
  id : String
  model : String
  finishReason : String
  message : AssistantMessage
  usage : Option OpenAiUsage
  deriving DecidableEq, Repr

/-! ## Chunks -/

structure StreamChoice where
  index : UInt32
  delta : Json
  finishReason : Option String

/-- A decoded chunk; its usage is read into the fields of `OpenAiUsage`. -/
structure StreamChunk where
  id : Option String
  model : Option String
  choices : List StreamChoice
  usage : Option OpenAiUsage

structure ToolFunctionDelta where
  name : Option String
  arguments : Option String
  deriving DecidableEq, Repr

structure ToolCallDelta where
  index : Nat
  id : Option String
  kind : Option String
  function : Option ToolFunctionDelta
  deriving DecidableEq, Repr

/-- The fields a derived `Deserialize` reads: by name from an object, by position
from an array that is not longer than the list of fields. -/
def structFields (names : List String) : Json → Option (String → Option Json)
  | .object members => some (Json.get members)
  | .array items =>
      if items.length ≤ names.length then some fun name => items[names.idxOf name]? else none
  | _ => none

/-- An `Option<String>` field with a default. -/
def optionalString : Option Json → Option (Option String)
  | none => some none
  | some .null => some none
  | some (.string value) => some (some value)
  | some _ => none

def toolFunctionDelta (value : Json) : Option ToolFunctionDelta := do
  let field ← structFields ["name", "arguments"] value
  let name ← optionalString (field "name")
  let arguments ← optionalString (field "arguments")
  return ⟨name, arguments⟩

def optionalFunction : Option Json → Option (Option ToolFunctionDelta)
  | none => some none
  | some .null => some none
  | some value => (toolFunctionDelta value).map some

def toolCallDelta (value : Json) : Option ToolCallDelta := do
  let field ← structFields ["index", "id", "type", "function"] value
  let index ← (field "index").bind Json.asU64
  let id ← optionalString (field "id")
  let kind ← optionalString (field "type")
  let function ← optionalFunction (field "function")
  return ⟨index, id, kind, function⟩

/-- `serde_json::from_value::<Vec<ToolCallDelta>>`. -/
def toolCallDeltas : Json → Option (List ToolCallDelta)
  | .array items => items.mapM toolCallDelta
  | _ => none

/-! ## Merging -/

def validText (value : String) (maxBytes : Nat) : Bool :=
  value != "" && decide (value.utf8ByteSize ≤ maxBytes) && trim value == value &&
    !value.toList.any isControl

def mergeIdentifier (target : String) (value : Option String) :
    Except OpenAiStreamError String :=
  match value.filter (· ≠ "") with
  | none => .ok target
  | some value =>
      if !validText value maxIdentifierBytes || (target ≠ "" && target ≠ value) then
        .error .invalidResponse
      else
        .ok (if target = "" then value else target)

def appendOptionalText (value : Option Json) (target : String) :
    Except OpenAiStreamError String :=
  match value with
  | none => .ok target
  | some .null => .ok target
  | some (.string value) => .ok (target ++ value)
  | some _ => .error .invalidResponse

structure ToolCallAccumulator where
  id : String
  name : String
  arguments : String
  deriving DecidableEq, Repr

def ToolCallAccumulator.fresh : ToolCallAccumulator :=
  ⟨"", "", ""⟩

/-- The tools are the `BTreeMap` from a tool's index to its call so far. -/
structure CompletionAccumulator where
  id : String
  model : String
  finishReason : String
  content : String
  reasoning : String
  tools : Table Nat ToolCallAccumulator
  usage : Option OpenAiUsage

def CompletionAccumulator.fresh : CompletionAccumulator :=
  ⟨"", "", "", "", "", ∅, none⟩

/-- Replace the usage of an earlier chunk, which must have been the same. -/
def replaceUsage (prior usage : Option OpenAiUsage) :
    Except OpenAiStreamError (Option OpenAiUsage) :=
  match usage with
  | none => .ok prior
  | some usage =>
      if prior.any (· ≠ usage) then .error .invalidResponse else .ok (some usage)

def mergeFinishReason (finishReason : String) (reason : Option String) :
    Except OpenAiStreamError String :=
  match reason with
  | none => .ok finishReason
  | some reason =>
      if !validText reason maxFinishReasonBytes ||
          (finishReason ≠ "" && finishReason ≠ reason) then
        .error .invalidResponse
      else
        .ok reason

/-- The member under a key, unless it is `null`. -/
def nonNull (members : List (String × Json)) (key : String) : Option Json :=
  match Json.get members key with
  | some .null => none
  | value => value

/-- The one reasoning text of a delta, under whichever of its names. -/
def reasoningValue (delta : List (String × Json)) : Except OpenAiStreamError (Option Json) :=
  match ["reasoning_content", "reasoning", "thinking"].filterMap (nonNull delta) with
  | [] => .ok none
  | [value] => .ok (some value)
  | _ => .error .invalidResponse

/-- Append a piece that was sent and check the text so far. -/
def appendPiece (p : String → Bool) (text : String) (piece : Option String) :
    Except OpenAiStreamError String :=
  match piece with
  | none => .ok text
  | some piece => appendChecked p .invalidResponse text piece

def validName (name : String) : Bool :=
  validText name maxIdentifierBytes

def validArguments (arguments : String) : Bool :=
  decide (arguments.utf8ByteSize ≤ maxToolArgumentBytes)

def ToolCallDelta.name (delta : ToolCallDelta) : Option String :=
  delta.function.bind ToolFunctionDelta.name

def ToolCallDelta.arguments (delta : ToolCallDelta) : Option String :=
  delta.function.bind ToolFunctionDelta.arguments

/-- What a delta adds to the call under its index. -/
def ToolCallAccumulator.push (call : ToolCallAccumulator) (delta : ToolCallDelta) :
    Except OpenAiStreamError ToolCallAccumulator := do
  let id ← mergeIdentifier call.id delta.id
  let name ← appendPiece validName call.name delta.name
  let arguments ← appendPiece validArguments call.arguments delta.arguments
  return ⟨id, name, arguments⟩

def pushToolDelta (tools : Table Nat ToolCallAccumulator) (delta : ToolCallDelta) :
    Except OpenAiStreamError (Table Nat ToolCallAccumulator) :=
  if maxToolCalls ≤ delta.index then
    .error .invalidResponse
  else if (delta.kind.filter (· ≠ "")).any (· ≠ "function") then
    .error .invalidResponse
  else do
    let call ← ((tools.lookup delta.index).getD .fresh).push delta
    return tools.insert delta.index call

def orInvalid {α : Type} (value : Option α) : Except OpenAiStreamError α :=
  match value with
  | none => .error .invalidResponse
  | some a => .ok a

def pushToolCalls (tools : Table Nat ToolCallAccumulator) :
    Option Json → Except OpenAiStreamError (Table Nat ToolCallAccumulator)
  | none => .ok tools
  | some value => do
      let calls ← orInvalid (toolCallDeltas value)
      calls.foldlM pushToolDelta tools

def CompletionAccumulator.pushChoice (s : CompletionAccumulator) (choice : StreamChoice) :
    Except OpenAiStreamError CompletionAccumulator :=
  if choice.index ≠ 0 then
    .error .invalidResponse
  else do
    let finishReason ← mergeFinishReason s.finishReason choice.finishReason
    let delta ← orInvalid choice.delta.asObject
    if (Json.get delta "role").any (·.asStr ≠ some "assistant") then
      throw .invalidResponse
    let content ← appendOptionalText (Json.get delta "content") s.content
    let value ← reasoningValue delta
    let reasoning ← appendOptionalText value s.reasoning
    let tools ← pushToolCalls s.tools (Json.get delta "tool_calls")
    return { s with finishReason, content, reasoning, tools }

def CompletionAccumulator.push (s : CompletionAccumulator) (chunk : StreamChunk) :
    Except OpenAiStreamError CompletionAccumulator := do
  let id ← mergeIdentifier s.id chunk.id
  let model ← mergeIdentifier s.model chunk.model
  let usage ← replaceUsage s.usage chunk.usage
  let merged := { s with id, model, usage }
  match chunk.choices with
  | [] => return merged
  | [choice] => merged.pushChoice choice
  | _ => throw .invalidResponse

/-! ## The completion -/

def ToolCallAccumulator.toolCall (call : ToolCallAccumulator) : ToolCall :=
  ⟨call.id, "function", call.name, call.arguments⟩

/-- The loop of `finish` over the calls in order of their index, with the next
index and the ids seen before. -/
def collectCalls (expected : Nat) (seen : List String) :
    List (Nat × ToolCallAccumulator) → Except OpenAiStreamError (List ToolCall)
  | [] => .ok []
  | (index, call) :: rest =>
      if index ≠ expected || !validText call.id maxIdentifierBytes || seen.contains call.id ||
          !validName call.name || !validArguments call.arguments then
        .error .invalidResponse
      else do
        let calls ← collectCalls (expected + 1) (call.id :: seen) rest
        return call.toolCall :: calls

def CompletionAccumulator.finish (s : CompletionAccumulator) :
    Except OpenAiStreamError OpenAiStreamCompletion :=
  if !validText s.id maxIdentifierBytes || !validText s.model maxIdentifierBytes ||
      !validText s.finishReason maxFinishReasonBytes then
    .error .invalidResponse
  else do
    let toolCalls ← collectCalls 0 [] (s.tools.sorted (· ≤ ·))
    return {
      id := s.id
      model := s.model
      finishReason := s.finishReason
      message := {
        role := "assistant"
        content := if s.content = "" then none else some s.content
        reasoningContent := if s.reasoning = "" then none else some s.reasoning
        toolCalls
      }
      usage := s.usage
    }

/-- The completion of a stream that said it was done: every chunk is pushed, then
the accumulator is finished. -/
def completeStream (chunks : List StreamChunk) :
    Except OpenAiStreamError OpenAiStreamCompletion := do
  let accumulator ← chunks.foldlM CompletionAccumulator.push .fresh
  accumulator.finish

end AgentsAssemble.Provider
