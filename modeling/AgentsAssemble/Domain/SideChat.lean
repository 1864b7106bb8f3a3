import AgentsAssemble.Domain.Event
import AgentsAssemble.Domain.Text
import AgentsAssemble.Foundation.Json

/-!
# Side chat values

The messages of a room's ephemeral side chat, and the send intent of a client, which names the
lifetime it observed and the last sequence number it had seen.
-/

namespace AgentsAssemble.Domain

open Foundation

def sideChatMaxMessages : Nat := 200
def sideChatTtlSeconds : Int := 24 * 60 * 60
def maxTextChatCharacters : Nat := 2000

/-- Instants are nanoseconds since the epoch. -/
structure SideChatMessage where
  id : String
  seq : Nat
  createdAt : Int
  participantId : String
  displayName : String
  content : String
  deriving DecidableEq, Repr

structure SideChatSnapshot where
  roomId : String
  roomUid : String
  generation : String
  retainedAfterSeq : Nat
  latestSeq : Nat
  messages : List SideChatMessage
  deriving DecidableEq, Repr

structure SideChatUpdate where
  roomId : String
  generation : String
  retainedAfterSeq : Nat
  message : SideChatMessage
  deriving DecidableEq, Repr

structure SideChatSend where
  generation : String
  afterSeq : Int
  content : String
  deriving DecidableEq, Repr

/-- `Uuid::parse_str`, with the parsed id in its hyphenated form. -/
class UuidText where
  parseStr : String → Option String

/-- An integer that `i64` can hold. -/
def asI64 : Json → Option Int
  | .number (.posInt value) =>
      if value.toNat < 2 ^ 63 then some value.toNat else none
  | .number (.negInt value) => some value.toInt
  | _ => none

namespace SideChatSend

section Payload

variable [UuidText]

def ofFields (generation afterSeq content : Json) : Option SideChatSend := do
  pure
    { generation := ← generation.asStr.bind UuidText.parseStr
      afterSeq := ← asI64 afterSeq
      content := ← content.asStr }

def fieldNames : List String := ["generation", "after_seq", "content"]

/-- `serde_json::from_value`: an object with exactly the fields, or an array of their values. -/
def decode : Json → Option SideChatSend
  | .object members =>
      if members.all fun member => fieldNames.contains member.1 then do
        ofFields (← Json.get members "generation") (← Json.get members "after_seq")
          (← Json.get members "content")
      else
        none
  | .array [generation, afterSeq, content] => ofFields generation afterSeq content
  | _ => none

def fromPayload (payload : Json) : Except CommandRejection SideChatSend :=
  match decode payload with
  | none => .error ⟨"bad_request", "Side chat requires generation, after_seq and content."⟩
  | some request =>
      if request.afterSeq < 0 then
        .error ⟨"bad_request", "Side chat cursor is invalid."⟩
      else
        let content := cleanMessage request.content maxTextChatCharacters
        if hasVisibleText content = false then
          .error ⟨"empty", "Side chat text is required."⟩
        else
          .ok { request with content }

end Payload

end SideChatSend

end AgentsAssemble.Domain
