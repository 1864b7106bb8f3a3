import AgentsAssemble.Directory.Settings
import AgentsAssemble.Domain.CanonicalJson
import AgentsAssemble.Foundation.Result

/-!
# Settings updates

A strict partial update of the settings of a room: the fields it names replace the current ones,
and what comes out passes the checks of every settings document.
-/

namespace AgentsAssemble.Appearance

open Foundation
open Domain (cleanSingleLine)
open Domain.CanonicalJson (DoubleText Sha256 canonicalPayloadHash)
open Directory (RoomAppearance RoomChannel RoomSettings RoomSettingsError UpperCase
  validateSettings)

/-! ## Values -/

def asBool : Json → Option Bool
  | .bool value => some value
  | _ => none

/-- A number that `u32` can hold. -/
def asU32 (value : Json) : Option Nat :=
  value.asU64.filter fun n => decide (n < 2 ^ 32)

def channelFieldNames : List String := ["id", "name", "type", "position", "created_at"]

def channelOfFields (id name channelType position createdAt : Json) : Option RoomChannel := do
  pure
    { id := ← id.asStr
      name := ← name.asStr
      channelType := ← channelType.asStr
      position := ← asU32 position
      createdAt := ← createdAt.asStr }

/-- A channel as it is decoded: an object with exactly its fields, or an array of their values. -/
def decodeChannel : Json → Option RoomChannel
  | .object members =>
      if members.all fun member => channelFieldNames.contains member.1 then do
        channelOfFields (← Json.get members "id") (← Json.get members "name")
          (← Json.get members "type") (← Json.get members "position")
          (← Json.get members "created_at")
      else
        none
  | .array [id, name, channelType, position, createdAt] =>
      channelOfFields id name channelType position createdAt
  | _ => none

def decodeChannels (value : Json) : Option (List RoomChannel) := do
  (← value.asArray).mapM decodeChannel

/-! ## Fields -/

def requireKnownKeys (members : List (String × Json)) (keys : List String) (field : String) :
    Except RoomSettingsError Unit :=
  let unknown := (members.map Prod.fst).filter fun key => !keys.contains key
  if unknown = [] then
    .ok ()
  else
    .error (.badRequest ("Unsupported " ++ field ++ " fields: " ++
      String.intercalate ", " unknown ++ "."))

def requiredString (members : List (String × Json)) (field : String) :
    Except RoomSettingsError String :=
  match (Json.get members field).bind Json.asStr with
  | some value => if value = "" then .error (.badRequest (field ++ " is required.")) else .ok value
  | none => .error (.badRequest (field ++ " is required."))

/-- A field that may be absent, with what is said of a value that does not decode. -/
def optionalField {α : Type} (decode : Json → Option α) (problem : String)
    (members : List (String × Json)) (field : String) : Except RoomSettingsError (Option α) :=
  match Json.get members field with
  | none => .ok none
  | some value =>
      match decode value with
      | some decoded => .ok (some decoded)
      | none => .error (.badRequest (field ++ problem))

def optionalString := optionalField Json.asStr " must be a string."
def optionalBool := optionalField asBool " must be a boolean."
def optionalChannels := optionalField decodeChannels " is invalid."

/-! ## Patches -/

structure RoomAppearancePatch where
  bannerPreset : Option String
  bannerImageUrl : Option String
  iconImageUrl : Option String
  iconLabel : Option String
  inviteScope : Option String
  deriving DecidableEq, Repr

namespace RoomAppearancePatch

def none : RoomAppearancePatch :=
  ⟨.none, .none, .none, .none, .none⟩

def parse (value : Json) : Except RoomSettingsError RoomAppearancePatch :=
  match value.asObject with
  | .none => .error (.badRequest "appearance must be an object.")
  | some members => do
      requireKnownKeys members
        ["banner_preset", "banner_image_url", "icon_image_url", "icon_label", "invite_scope"]
        "appearance"
      if members = [] then
        throw (.badRequest "appearance update must not be empty.")
      pure
        { bannerPreset := ← optionalString members "banner_preset"
          bannerImageUrl := ← optionalString members "banner_image_url"
          iconImageUrl := ← optionalString members "icon_image_url"
          iconLabel := ← optionalString members "icon_label"
          inviteScope := ← optionalString members "invite_scope" }

def isEmpty (patch : RoomAppearancePatch) : Bool :=
  decide (patch = none)

def apply (patch : RoomAppearancePatch) (current : RoomAppearance) : RoomAppearance :=
  { bannerPreset := patch.bannerPreset.getD current.bannerPreset
    bannerImageUrl := patch.bannerImageUrl.getD current.bannerImageUrl
    iconImageUrl := patch.iconImageUrl.getD current.iconImageUrl
    iconLabel := patch.iconLabel.getD current.iconLabel
    inviteScope := patch.inviteScope.getD current.inviteScope }

end RoomAppearancePatch

structure RoomSettingsPatch where
  label : Option String
  topic : Option String
  appearance : RoomAppearancePatch
  conversationMode : Option String
  toolMode : Option String
  orderedExcludePreviousSpeaker : Option Bool
  channels : Option (List RoomChannel)
  deriving DecidableEq, Repr

namespace RoomSettingsPatch

def parse (members : List (String × Json)) : Except RoomSettingsError RoomSettingsPatch := do
  pure
    { label := ← optionalString members "label"
      topic := ← optionalString members "topic"
      appearance := ←
        match Json.get members "appearance" with
        | none => .ok .none
        | some value => RoomAppearancePatch.parse value
      conversationMode := ← optionalString members "conversation_mode"
      toolMode := ← optionalString members "tool_mode"
      orderedExcludePreviousSpeaker := ← optionalBool members "ordered_exclude_previous_speaker"
      channels := ← optionalChannels members "channels" }

def isEmpty (patch : RoomSettingsPatch) : Bool :=
  decide (patch = ⟨none, none, .none, none, none, none, none⟩)

def requireAvailable (patch : RoomSettingsPatch) : Except RoomSettingsError Unit :=
  if (patch.channels.getD []).any fun channel => channel.channelType != "text" then
    .error ⟨"room_setting_unsupported",
      "Voice channels are deferred; only text channels can be configured."⟩
  else
    .ok ()

/-- What the patch makes of the current settings, before it is checked. -/
def merge (patch : RoomSettingsPatch) (current : RoomSettings) : RoomSettings :=
  { label := patch.label.getD current.label
    topic := patch.topic.getD current.topic
    appearance := patch.appearance.apply current.appearance
    conversationMode := patch.conversationMode.getD current.conversationMode
    toolMode := patch.toolMode.getD current.toolMode
    orderedExcludePreviousSpeaker :=
      patch.orderedExcludePreviousSpeaker.getD current.orderedExcludePreviousSpeaker
    channels := patch.channels.getD current.channels }

def apply [UpperCase] (patch : RoomSettingsPatch) (current : RoomSettings) :
    Except RoomSettingsError RoomSettings :=
  validateSettings (patch.merge current)

end RoomSettingsPatch

/-! ## Updates -/

def updateKeys : List String :=
  ["expected_revision", "label", "topic", "appearance", "conversation_mode", "tool_mode",
    "ordered_exclude_previous_speaker", "channels"]

/-- The revision that the update expects, and the settings it asks for. -/
def strictUpdate [UpperCase] (current : RoomSettings) (payload : Json) :
    Except RoomSettingsError (String × RoomSettings) :=
  match payload.asObject with
  | none => .error (.badRequest "payload must be an object.")
  | some members => do
      requireKnownKeys members updateKeys "room settings"
      let expectedRevision ← requiredString members "expected_revision"
      if 96 < expectedRevision.toList.length ∨
          cleanSingleLine expectedRevision 96 ≠ expectedRevision then
        throw (.badRequest "expected_revision is not canonical.")
      let patch ← RoomSettingsPatch.parse members
      if patch.isEmpty = true then
        throw (.badRequest "At least one room-global setting is required.")
      patch.requireAvailable
      let next ← patch.apply current
      pure (expectedRevision, next)

/-! ## Revisions -/

def appearanceValue (appearance : RoomAppearance) : Json :=
  .object [("banner_preset", .string appearance.bannerPreset),
    ("banner_image_url", .string appearance.bannerImageUrl),
    ("icon_image_url", .string appearance.iconImageUrl),
    ("icon_label", .string appearance.iconLabel),
    ("invite_scope", .string appearance.inviteScope)]

def channelValue (channel : RoomChannel) : Json :=
  .object [("id", .string channel.id), ("name", .string channel.name),
    ("type", .string channel.channelType),
    ("position", .number (.posInt (UInt64.ofNat channel.position))),
    ("created_at", .string channel.createdAt)]

def settingsValue (settings : RoomSettings) : Json :=
  .object [("label", .string settings.label), ("topic", .string settings.topic),
    ("appearance", appearanceValue settings.appearance),
    ("conversation_mode", .string settings.conversationMode),
    ("tool_mode", .string settings.toolMode),
    ("ordered_exclude_previous_speaker", .bool settings.orderedExcludePreviousSpeaker),
    ("channels", .array (settings.channels.map channelValue))]

structure PublicRoomSettings where
  settingsRevision : String
  settings : RoomSettings
  deriving DecidableEq, Repr

def publicSettings [DoubleText] [Sha256] (settings : RoomSettings) : PublicRoomSettings :=
  { settingsRevision := "room-settings-v1-" ++ canonicalPayloadHash (settingsValue settings)
    settings }

end AgentsAssemble.Appearance
