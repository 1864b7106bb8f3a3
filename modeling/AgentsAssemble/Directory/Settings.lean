import AgentsAssemble.Domain.SingleLine
import Mathlib.Data.List.Basic

/-!
# Room settings

The settings document of a room and the checks every decoded document passes.
-/

namespace AgentsAssemble.Directory

open Domain

def roomLabelLimit : Nat := 128
def roomTopicLimit : Nat := 160
def imageUrlLimit : Nat := 240
def channelNameLimit : Nat := 60
def maxChannels : Nat := 50
def roomAppearanceAssetPrefix : String := "ra_"
def roomAppearanceAssetHexLength : Nat := 32
def roomAppearanceReferencePrefix : String := "/api/attachments/"
def roomAppearanceReferenceSuffix : String := "?view=1"

/-- `char::to_uppercase`, which may yield several characters. -/
class UpperCase where
  toUppercase : Char → List Char

export UpperCase (toUppercase)

structure RoomAppearance where
  bannerPreset : String
  bannerImageUrl : String
  iconImageUrl : String
  iconLabel : String
  inviteScope : String
  deriving DecidableEq, Repr

structure RoomChannel where
  id : String
  name : String
  channelType : String
  position : Nat
  createdAt : String
  deriving DecidableEq, Repr

structure RoomSettings where
  label : String
  topic : String
  appearance : RoomAppearance
  conversationMode : String
  toolMode : String
  orderedExcludePreviousSpeaker : Bool
  channels : List RoomChannel
  deriving DecidableEq, Repr

structure RoomSettingsError where
  code : String
  message : String
  deriving DecidableEq, Repr

def RoomSettingsError.badRequest (message : String) : RoomSettingsError :=
  ⟨"bad_request", message⟩

def RoomSettings.defaults (label : String) : RoomSettings :=
  { label := cleanSingleLine label roomLabelLimit
    topic := ""
    appearance :=
      { bannerPreset := "default"
        bannerImageUrl := ""
        iconImageUrl := ""
        iconLabel := ""
        inviteScope := "room" }
    conversationMode := "ordered"
    toolMode := "chat"
    orderedExcludePreviousSpeaker := true
    channels := [] }

/-! ## Checks -/

def isLowerHex (c : Char) : Bool :=
  c.isDigit || ('a' ≤ c && c ≤ 'f')

/-- The pattern `^c[0-9a-f]{12}$`. -/
def isCustomChannelId (value : String) : Bool :=
  match value.toList with
  | 'c' :: hex => hex.length == 12 && hex.all isLowerHex
  | _ => false

def requireCanonicalText (value field : String) (limit : Nat) :
    Except RoomSettingsError Unit :=
  if cleanSingleLine value limit ≠ value then
    .error (.badRequest (field ++ " must be canonical single-line text up to " ++
      toString limit ++ " characters."))
  else
    .ok ()

def isRoomAppearanceAssetId (assetId : String) : Bool :=
  match roomAppearanceAssetPrefix.toList.isPrefixOf assetId.toList with
  | false => false
  | true =>
      let hex := assetId.toList.drop roomAppearanceAssetPrefix.length
      hex.length == roomAppearanceAssetHexLength && hex.all isLowerHex

/-- The asset an appearance URL names. -/
def roomAppearanceAssetId (value : String) : Option String :=
  let cs := value.toList
  let front := roomAppearanceReferencePrefix.toList
  let back := roomAppearanceReferenceSuffix.toList
  if front.isPrefixOf cs && back.isSuffixOf (cs.drop front.length) then
    let assetId := String.ofList ((cs.drop front.length).take
      ((cs.drop front.length).length - back.length))
    if isRoomAppearanceAssetId assetId then some assetId else none
  else
    none

def requireAssetUrl (value field : String) : Except RoomSettingsError Unit := do
  requireCanonicalText value field imageUrlLimit
  if value ≠ "" ∧ roomAppearanceAssetId value = none then
    throw (.badRequest (field ++ " must be empty or a canonical room attachment URL."))

theorem requireCanonicalText_ok {value field : String} {limit : Nat}
    (h : cleanSingleLine value limit = value) :
    requireCanonicalText value field limit = .ok () :=
  if_neg (not_not_intro h)

theorem requireAssetUrl_empty (field : String) : requireAssetUrl "" field = .ok () := by
  unfold requireAssetUrl
  rw [requireCanonicalText_ok (by decide)]
  rfl

section Validation

variable [UpperCase]

def requireShortLabel (value : String) : Except RoomSettingsError Unit :=
  let clean := String.ofList
    (((cleanSingleLine value 2).toList.flatMap toUppercase).take 2)
  if clean ≠ value then
    .error (.badRequest "icon_label is not canonical.")
  else
    .ok ()

def validateAppearance (raw : RoomAppearance) : Except RoomSettingsError RoomAppearance := do
  requireCanonicalText raw.bannerPreset "banner_preset" 24
  if raw.bannerPreset ∉ ["default", "forest", "midnight", "ember", "custom"] then
    throw (.badRequest ("Unsupported banner_preset: " ++ raw.bannerPreset ++ "."))
  requireAssetUrl raw.bannerImageUrl "banner_image_url"
  requireAssetUrl raw.iconImageUrl "icon_image_url"
  requireShortLabel raw.iconLabel
  if raw.inviteScope ∉ ["room", "read_only"] then
    throw (.badRequest ("Unsupported invite_scope: " ++ raw.inviteScope ++ "."))
  pure raw

/-- The channels from a position on, given the ids already seen. -/
def validateChannels (position : Nat) (seen : List String) :
    List RoomChannel → Except RoomSettingsError Unit
  | [] => .ok ()
  | channel :: channels => do
      if isCustomChannelId channel.id = false ∨ channel.id ∈ seen then
        throw (.badRequest "Channel ids must be unique canonical ids.")
      requireCanonicalText channel.name "channel name" channelNameLimit
      if channel.name = "" ∨ channel.channelType ∉ ["text", "voice"] then
        throw (.badRequest "Channel name or type is invalid.")
      if channel.position ≠ position then
        throw (.badRequest "Channel positions must be dense and match list order.")
      requireCanonicalText channel.createdAt "channel created_at" 64
      validateChannels (position + 1) (channel.id :: seen) channels

def validateSettings (raw : RoomSettings) : Except RoomSettingsError RoomSettings := do
  requireCanonicalText raw.label "label" roomLabelLimit
  requireCanonicalText raw.topic "topic" roomTopicLimit
  if raw.conversationMode ∉ ["ordered", "ambient"] then
    throw (.badRequest ("Unsupported conversation_mode: " ++ raw.conversationMode ++ "."))
  if raw.toolMode ∉ ["chat", "tabletop"] then
    throw (.badRequest ("Unsupported tool_mode: " ++ raw.toolMode ++ "."))
  if raw.channels.length > maxChannels then
    throw (.badRequest "channels cannot contain more than 50 entries.")
  validateChannels 0 [] raw.channels
  let appearance ← validateAppearance raw.appearance
  pure { raw with appearance }

theorem validateAppearance_defaults :
    validateAppearance ⟨"default", "", "", "", "room"⟩ =
      .ok ⟨"default", "", "", "", "room"⟩ := by
  have hshort : requireShortLabel "" = .ok () := rfl
  unfold validateAppearance
  rw [requireCanonicalText_ok (by decide), requireAssetUrl_empty, requireAssetUrl_empty, hshort]
  rfl

/-- The default settings decode to themselves whenever their label is a clean line. -/
theorem validateSettings_defaults {label : String}
    (h : cleanSingleLine (cleanSingleLine label roomLabelLimit) roomLabelLimit =
      cleanSingleLine label roomLabelLimit) :
    validateSettings (RoomSettings.defaults label) = .ok (RoomSettings.defaults label) := by
  have htopic : requireCanonicalText "" "topic" roomTopicLimit = .ok () :=
    requireCanonicalText_ok (by decide)
  have hchannels : validateChannels 0 [] [] = .ok () := rfl
  simp only [validateSettings, RoomSettings.defaults, requireCanonicalText_ok h, htopic,
    hchannels, validateAppearance_defaults]
  rfl

end Validation

end AgentsAssemble.Directory
