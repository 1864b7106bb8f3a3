import AgentsAssemble.Admission.Store

/-!
# Human admission: one transaction

`admit_human` consumes one invite for one browser and commits its profile,
membership, session and events, or answers an exact retry from the stored
session.  A product rejection is a decision, not an error.
-/

namespace AgentsAssemble.Admission

open Foundation Domain Tx
open Directory (Room RoomSettings UserProfile localOperatorUserId localOperatorParticipantId)
open Persistence (RoomStatus UuidSource)

def sessionTtlSeconds : Nat := 3600
def sessionTtl : Nat := sessionTtlSeconds * 1000000
def maxPublicSessions : Nat := 448
def maxPublicRoomSessions : Nat := 112

/-- The last microsecond that `DateTime<Utc>` can hold. -/
def maxTimestampMicros : Nat := 8210266876799999999

/-! ## Profiles -/

/-- `clean_text` of the profile. -/
def cleanText (value : String) (limit : Nat) : String :=
  String.ofList ((joinWords (splitWhitespace value.toList)).take limit)

def defaultDisplayName : String := "SeiNel"

def defaultedText (value : String) (limit : Nat) (default : String) : String :=
  let value := cleanText value limit
  if value = "" then default else value

def avatarUrlPrefix : String := "/api/attachments/"
def avatarUrlSuffix : String := "?view=1"

def avatarUrl (attachmentId : String) : String :=
  avatarUrlPrefix ++ attachmentId ++ avatarUrlSuffix

def validAttachmentId (value : List Char) : Bool :=
  decide (8 ≤ value.length ∧ value.length ≤ 64) &&
    value.all fun c => c.isAlphanum || c == '_' || c == '-'

def stripPrefix (fix value : List Char) : Option (List Char) :=
  if fix.isPrefixOf value then some (value.drop fix.length) else none

def stripSuffix (fix value : List Char) : Option (List Char) :=
  if fix.isSuffixOf value then some (value.take (value.length - fix.length)) else none

def avatarAttachmentId (value : String) : Option String := do
  let rest ← stripPrefix avatarUrlPrefix.toList value.toList
  let attachmentId ← stripSuffix avatarUrlSuffix.toList rest
  if validAttachmentId attachmentId then some (String.ofList attachmentId) else none

def canonicalAvatarUrl (value : String) : Option String :=
  (avatarAttachmentId (cleanText value 240)).map avatarUrl

/-- `UserProfile::for_admitted_human`. -/
def forAdmittedHuman (participantId displayName avatarImageUrl : String) : Option UserProfile :=
  let displayName := cleanText displayName 120
  if displayName = "" then none
  else some
    { participantId
      revision := 1
      displayName
      avatarImageUrl := (canonicalAvatarUrl avatarImageUrl).getD "" }

def maxRevision : Int := 2 ^ 63 - 1

/-- `apply_patch` with the fields an admission sets; the flag tells whether anything changed. -/
def applyPatch (profile : UserProfile) (displayName avatarImageUrl : Option String) :
    UserProfile × Bool :=
  let patched : UserProfile :=
    { profile with
      displayName := (displayName.map (defaultedText · 120 defaultDisplayName)).getD
        profile.displayName
      avatarImageUrl := (avatarImageUrl.map fun url => (canonicalAvatarUrl url).getD "").getD
        profile.avatarImageUrl }
  if patched = profile then (profile, false)
  else ({ patched with revision := max (min (profile.revision + 1) maxRevision) 1 }, true)

def decodeBoundProfile (profile : UserProfile) (expectedParticipantId : String) :
    Except StoreError UserProfile :=
  if profile.participantId ≠ expectedParticipantId then
    .error (rejected "profile_authority_mismatch"
      "Authenticated user profile does not own this participant.")
  else if profile.revision < 1 then
    .error (invalidState "Stored user profile revision is invalid.")
  else
    .ok profile

/-! ## Invite and room -/

def decodeHumanInvite (inviteId : String) (invite : HumanInvite) :
    Except StoreError HumanInvite :=
  if invite.inviteId ≠ inviteId ∨ invite.inviteId ≠ hexPrefix invite.signedTokenFingerprint 16 ∨
      invite.roomId = "" ∨ invite.baseParticipantId = "" ∨ invite.displayName = "" ∨
      invite.createdByUserId = "" ∨ invite.maxUses < 0 ∨ invite.useCount < 0 ∨
      invite.effectiveUseLimit < invite.useCount ∨ invite.expiresAt ≤ invite.createdAt then
    .error .invalidHumanInvite
  else
    .ok invite

def HumanInviteCredentialEvidence.selects (credential : HumanInviteCredentialEvidence)
    (invite : HumanInvite) : Bool :=
  match credential with
  | .signed fingerprint _ => invite.signedTokenFingerprint == fingerprint
  | .joinCode fingerprint => invite.joinCodeFingerprint == fingerprint

def loadInviteAndRoom (credential : HumanInviteCredentialEvidence) :
    HumanTx (Option (HumanInvite × Room)) := do
  let invites ← read HumanStore.invites
  match invites.find? fun _ invite => credential.selects invite with
  | none => pure none
  | some (inviteId, stored) =>
      match (← read HumanStore.rooms).lookup stored.roomId with
      | none => pure none
      | some (room, _) => do
          let invite ← ofResult (decodeHumanInvite inviteId stored)
          require (room.roomId = invite.roomId ∧ trim room.label ≠ "")
            (invalidState "Stored invite room authority is invalid.")
          pure (some (invite, room))

def requireCredentialBinding (invite : HumanInvite) :
    HumanInviteCredentialEvidence → HumanTx Unit
  | .joinCode _ => pure ()
  | .signed _ claims =>
      require (claims.roomId = invite.roomId ∧
          claims.baseParticipantId = invite.baseParticipantId ∧
          claims.displayName = invite.displayName ∧ claims.inviteScope = invite.inviteScope ∧
          claims.issuedAt = invite.createdAt ∧ claims.expiresAt = invite.expiresAt)
        .invalidHumanInvite

/-! ## Decisions -/

inductive HumanAdmissionRejection
  | inviteNotFound
  | inviteRevoked
  | inviteExpired
  | inviteUseLimitReached
  | roomUnavailable
  | meetingMismatch
  | identityConflict
  | capacityReached
  | sessionUnavailable
  | idempotencyConflict
  deriving DecidableEq, Repr

structure HumanAdmissionCommit where
  result : HumanAdmissionResult
  sessionBearer : String
  events : List MembershipEvent
  replacedSessionFingerprints : List String
  deduplicated : Bool
  deriving DecidableEq, Repr

inductive HumanAdmissionDecision
  | admitted (commit : HumanAdmissionCommit)
  | rejected (rejection : HumanAdmissionRejection)
  deriving DecidableEq, Repr

/-! ## Avatars -/

structure AdmissionAvatar where
  attachmentId : String
  url : String
  deriving DecidableEq, Repr

def maxRasterBytes : Nat := 10 * 1024 * 1024

section Transaction

variable [AdmissionDigests] [UuidSource]

/-- The avatar was stored for this room by this browser under this invite. -/
def PrejoinAvatarRow.inCustody (row : PrejoinAvatarRow) (request : PreparedHumanAdmission)
    (invite : HumanInvite) : Bool :=
  decide (row.roomId = invite.roomId ∧ row.custodyFingerprint = request.avatarCustodyFingerprint ∧
    row.inviteFingerprint = invite.signedTokenFingerprint)

def resolveAdmissionAvatar (request : PreparedHumanAdmission) (invite : HumanInvite) (now : Nat) :
    HumanTx (Option AdmissionAvatar) := do
  match request.payload.avatarAttachmentId with
  | none => pure none
  | some attachmentId =>
      match (← read HumanStore.prejoinAvatars).lookup attachmentId with
      | none => pure none
      | some row =>
          if row.inCustody request invite = true ∧ now / 1000000 < row.expiresAt then do
            require (row.contentType = "image/png" ∧ 1 ≤ row.size ∧ row.size ≤ maxRasterBytes ∧
                row.size = row.contentLength)
              (invalidState "Stored raster attachment metadata is invalid.")
            pure (some ⟨attachmentId, avatarUrl attachmentId⟩)
          else
            pure none

/-- The avatar the transaction resolved moves from its custody into the profile's assets. -/
def transferAdmissionAvatar (avatar : AdmissionAvatar) (userId : String)
    (request : PreparedHumanAdmission) (invite : HumanInvite) (now : Nat) : HumanTx Unit := do
  write fun s => { s with
    profileAvatars := s.profileAvatars.eraseWhere fun attachmentId =>
      (s.profileAvatars.lookup attachmentId).any fun row =>
        row.ownerUserId == userId && row.state == .pending }
  require (((← read HumanStore.prejoinAvatars).lookup avatar.attachmentId).any (fun row =>
      row.inCustody request invite && decide (now / 1000000 < row.expiresAt)) = true)
    (invalidState "Admission avatar custody changed inside one transaction.")
  require ((← read HumanStore.profileAvatars).lookup avatar.attachmentId = none)
    (constraintViolation "profile_avatar_assets")
  write fun s => { s with
    profileAvatars := s.profileAvatars.insert avatar.attachmentId ⟨userId, .pending⟩ }
  require (((← read HumanStore.prejoinAvatars).lookup avatar.attachmentId).any (fun row =>
      row.inCustody request invite) = true)
    (invalidState "Admission avatar transfer was not exclusive.")
  write fun s => { s with prejoinAvatars := s.prejoinAvatars.erase avatar.attachmentId }

def attachmentMissing : StoreError :=
  rejected "attachment_missing" "Profile avatar attachment was not found."

/-- The current avatar of a profile is deleted. -/
def deleteCurrentAvatar (userId : String) : Option String → HumanTx Unit
  | none => pure ()
  | some previousId => do
      require ((← read HumanStore.profileAvatars).lookup previousId = some ⟨userId, .current⟩)
        attachmentMissing
      write fun s => { s with profileAvatars := s.profileAvatars.erase previousId }

/-- A pending avatar of a profile becomes its current one. -/
def promotePendingAvatar (userId : String) : Option String → HumanTx Unit
  | none => pure ()
  | some nextId => do
      require ((← read HumanStore.profileAvatars).lookup nextId = some ⟨userId, .pending⟩)
        attachmentMissing
      require (((← read HumanStore.profileAvatars).find? fun _ row =>
          row.ownerUserId == userId && row.state == .current) = none)
        (constraintViolation "profile_avatar_assets_owner_state_idx")
      write fun s => { s with
        profileAvatars := s.profileAvatars.insert nextId ⟨userId, .current⟩ }

def replaceProfileAvatar (userId previousAvatarUrl nextAvatarUrl : String) : HumanTx Unit := do
  let previousId := avatarAttachmentId previousAvatarUrl
  let nextId := avatarAttachmentId nextAvatarUrl
  if previousId = nextId then pure ()
  else do
    deleteCurrentAvatar userId previousId
    promotePendingAvatar userId nextId

/-! ## Identities -/

structure ResolvedIdentity where
  userId : String
  participantId : String
  profile : UserProfile
  profileEvents : List MembershipEvent
  previousAvatarUrl : String
  profileChanged : Bool
  isNew : Bool
  deriving DecidableEq, Repr

def identityExists (s : HumanStore) (userId participantId : String) : Bool :=
  (s.profiles.lookup userId).isSome ||
    (s.profiles.find? fun _ profile => profile.participantId == participantId).isSome ||
    (s.participants.find? fun key _ => key.2 == participantId).isSome

/-- The identity of a browser that holds no credential yet. -/
def freshIdentity (request : PreparedHumanAdmission) (invite : HumanInvite)
    (admissionKey : String) : String × String :=
  if invite.isReusable then
    ("u-" ++ hexPrefix request.browserCredentialFingerprint 12,
      "guest-" ++ hexPrefix request.browserCredentialFingerprint 8)
  else
    ("u-admission-" ++ hexPrefix admissionKey 16, invite.baseParticipantId)

def resolveNewIdentity (request : PreparedHumanAdmission) (invite : HumanInvite)
    (admissionKey : String) (avatar : Option AdmissionAvatar) :
    HumanTx (Option ResolvedIdentity) := do
  let (userId, participantId) := freshIdentity request invite admissionKey
  if identityExists (← read id) userId participantId then pure none
  else
    let displayName :=
      if request.payload.displayName = "" then invite.displayName else request.payload.displayName
    match forAdmittedHuman participantId displayName ((avatar.map AdmissionAvatar.url).getD "") with
    | none => pure none
    | some profile => pure (some
        { userId, participantId, profile
          profileEvents := []
          previousAvatarUrl := ""
          profileChanged := false
          isNew := true })

def resolveIdentity (request : PreparedHumanAdmission) (invite : HumanInvite)
    (admissionKey : String) (avatar : Option AdmissionAvatar) :
    HumanTx (Option ResolvedIdentity) := do
  let s ← read id
  let known := if invite.isReusable then
      (s.devices.lookup request.browserCredentialFingerprint).bind fun userId =>
        (s.profiles.lookup userId).map fun profile => (userId, profile)
    else none
  match known with
  | none => resolveNewIdentity request invite admissionKey avatar
  | some (userId, stored) => do
      let profile ← ofResult (decodeBoundProfile stored stored.participantId)
      let displayName :=
        if request.payload.displayName = "" then none else some request.payload.displayName
      let (updated, changed) := applyPatch profile displayName (avatar.map AdmissionAvatar.url)
      pure (some
        { userId
          participantId := stored.participantId
          profile := updated
          profileEvents := []
          previousAvatarUrl := profile.avatarImageUrl
          profileChanged := changed
          isNew := false })

/-- The projection of a changed profile into one room, for a member that shows another name
or avatar. -/
def projectProfileInto (profile : UserProfile) (now : Nat) (roomId : String) :
    HumanTx (List MembershipEvent) := do
  let s ← read id
  match s.participant? roomId profile.participantId, s.rooms.lookup roomId with
  | some participant, some (room, _) => do
      require (room.roomId = roomId ∧ participant.roomId = roomId)
        (invalidState "Stored room profile projection is invalid.")
      if room.status ≠ .active ∨ participant.status ≠ .joined ∨
          participant.participantType ≠ "human" ∨
          (participant.displayName = profile.displayName ∧
            participant.avatarImageUrl = profile.avatarImageUrl) then
        pure []
      else do
        write fun s => { s with
          participants := s.participants.insert (roomId, profile.participantId)
            { participant with
              displayName := profile.displayName
              avatarImageUrl := profile.avatarImageUrl
              updatedAt := now } }
        let event ← appendEvent now roomId "participant_updated"
          ⟨profile.participantId, "human"⟩ (some profile.participantId) (some profile.displayName)
          (.profile profile.avatarImageUrl profile.revision)
        pure [event]
  | _, _ => pure []

/-- The rooms of a participant, in the order of `ORDER BY room_id`. -/
def roomsOf (s : HumanStore) (participantId : String) : List String :=
  ((s.participants.rows.filter fun row => row.1.2 == participantId).map fun row =>
    row.1.1).insertionSort fun a b => a ≤ b

def projectProfileIntoRooms (profile : UserProfile) (now : Nat) :
    HumanTx (List MembershipEvent) := do
  let rooms ← read fun s => roomsOf s profile.participantId
  List.flatten <$> each (projectProfileInto profile now) rooms

/-- The avatar of a new profile, transferred and promoted at once. -/
def adoptAvatar (userId : String) (request : PreparedHumanAdmission) (invite : HumanInvite)
    (now : Nat) : Option AdmissionAvatar → HumanTx Unit
  | none => pure ()
  | some avatar => do
      transferAdmissionAvatar avatar userId request invite now
      replaceProfileAvatar userId "" avatar.url

/-- The browser's credential for a profile that a reusable invite created. -/
def bindDevice (userId : String) (request : PreparedHumanAdmission) (invite : HumanInvite) :
    HumanTx Unit := do
  if invite.isReusable then do
    require ((← read HumanStore.devices).lookup request.browserCredentialFingerprint = none)
      (constraintViolation "human_device_credentials")
    write fun s => { s with
      devices := s.devices.insert request.browserCredentialFingerprint userId }
  else pure ()

/-- The changed profile of a known identity, with its avatar. -/
def updateProfile (identity : ResolvedIdentity) : HumanTx Unit := do
  write fun s => { s with profiles := s.profiles.insert identity.userId identity.profile }
  if identity.previousAvatarUrl ≠ identity.profile.avatarImageUrl then
    replaceProfileAvatar identity.userId identity.previousAvatarUrl identity.profile.avatarImageUrl
  else pure ()

def transferIfAny (userId : String) (request : PreparedHumanAdmission) (invite : HumanInvite)
    (now : Nat) : Option AdmissionAvatar → HumanTx Unit
  | none => pure ()
  | some avatar => transferAdmissionAvatar avatar userId request invite now

def persistIdentity (identity : ResolvedIdentity) (request : PreparedHumanAdmission)
    (invite : HumanInvite) (avatar : Option AdmissionAvatar) (now : Nat) :
    HumanTx ResolvedIdentity := do
  if identity.isNew then do
    require ((← read HumanStore.profiles).lookup identity.userId = none)
      (constraintViolation "user_profiles")
    write fun s => { s with profiles := s.profiles.insert identity.userId identity.profile }
    adoptAvatar identity.userId request invite now avatar
    bindDevice identity.userId request invite
    pure identity
  else do
    transferIfAny identity.userId request invite now avatar
    if identity.profileChanged then do
      updateProfile identity
      let profileEvents ← projectProfileIntoRooms identity.profile now
      pure { identity with profileEvents }
    else
      pure identity

/-! ## Capacity, sessions and membership -/

def capacityReached (s : HumanStore) (roomId participantId : String) (now : Nat) : Bool :=
  decide (maxPublicSessions ≤ s.liveCount now fun session => !session.isOf roomId participantId) ||
    decide (maxPublicRoomSessions ≤ s.liveCount now fun session =>
      session.roomId == roomId && session.participantId != participantId)

/-- Marks sessions as ended. -/
def endSessions (p : HumanRoomSession → Bool) : HumanTx Unit :=
  write fun s => { s with
    sessions := s.sessions.update (fun _ session => session.isActive && p session)
      HumanRoomSession.end_ }

def endExpiredSessions (roomId participantId : String) (now : Nat) : HumanTx Unit :=
  endSessions fun session => session.isOf roomId participantId && decide (session.expiresAt ≤ now)

def replaceLiveSessions (roomId participantId : String) (now : Nat) : HumanTx (List String) := do
  let live := fun session : HumanRoomSession =>
    session.isOf roomId participantId && decide (now < session.expiresAt)
  let replaced ← read fun s =>
    (s.sessions.rows.filter fun row => row.2.isActive && live row.2).map fun row =>
      row.2.sessionFingerprint
  endSessions live
  pure replaced

def joinParticipant (invite : HumanInvite) (participantId : String) (profile : UserProfile)
    (now : Nat) : HumanTx (Directory.Participant × Bool) := do
  match (← read id).participant? invite.roomId participantId with
  | some participant => do
      require (participant.roomId = invite.roomId ∧ participant.participantId = participantId ∧
          participant.participantType = "human")
        (invalidState "Stored human participant authority is invalid.")
      let joined : Bool := decide (participant.status ≠ .joined)
      if joined = true ∨ participant.displayName ≠ profile.displayName ∨
          participant.avatarImageUrl ≠ profile.avatarImageUrl then do
        let participant : Directory.Participant := { participant with
          status := .joined
          displayName := profile.displayName
          avatarImageUrl := profile.avatarImageUrl
          updatedAt := now }
        write fun s => { s with
          participants := s.participants.insert (invite.roomId, participantId) participant }
        pure (participant, joined)
      else
        pure (participant, joined)
  | none => do
      let participant : Directory.Participant :=
        { roomId := invite.roomId
          participantId
          displayName := profile.displayName
          avatarImageUrl := profile.avatarImageUrl
          participantType := "human"
          status := .joined
          role := .human
          ownerId := invite.createdByUserId
          muted := false
          createdAt := now
          updatedAt := now }
      write fun s => { s with
        participants := s.participants.insert (invite.roomId, participantId) participant }
      pure (participant, true)

/-- One use of the invite, if its row still has one. -/
def consumeInvite (invite : HumanInvite) (now : Nat) : HumanTx Unit := do
  match (← read HumanStore.invites).lookup invite.inviteId with
  | none => throw (invalidState "Invite authority changed inside one admission transaction.")
  | some row => do
      require (row.revoked = false ∧ now < row.expiresAt ∧
          row.useCount < invite.effectiveUseLimit)
        (invalidState "Invite authority changed inside one admission transaction.")
      write fun s => { s with
        invites := s.invites.insert invite.inviteId { row with useCount := row.useCount + 1 } }

def humanUsageGuide (roomId participantId displayName : String) : HumanUsageGuide :=
  { welcome := "You joined room '" ++ roomId ++ "' as '" ++ displayName ++ "' (" ++
      participantId ++ "). Your identity is enforced by the room session."
    howTo :=
      ["Use the room browser to read and send messages.",
        "The browser uses the canonical room WebSocket for live updates.",
        "Use the room leave action when you are finished."]
    etiquette := []
    expiresInSeconds := sessionTtlSeconds
    rejoin := "This session cannot be renewed after it expires; ask the host for a new " ++
      "invite link." }

def admissionResult (request : PreparedHumanAdmission) (invite : HumanInvite) (room : Room)
    (settings : RoomSettings) (participantId : String) (profile : UserProfile)
    (expiresAt : Nat) : HumanAdmissionResult :=
  { status := "admitted"
    requestId := request.requestId
    agentId := participantId
    displayName := profile.displayName
    avatarImageUrl := profile.avatarImageUrl
    meetingId := invite.roomId
    inviteScope := inviteScopePublic invite.inviteScope
    participantType := "human"
    clientType := "browser"
    providerKind := "manual"
    ownerDisplayName := request.payload.ownerDisplayName
    ownerId := invite.createdByUserId
    stableIdentity := invite.isReusable
    operator := false
    connectionKind := "native_remote_room_client"
    clientId := request.payload.clientId
    expiresAt
    roomLabel := settings.label
    roomTopic := settings.topic
    roomCreatedAt := room.createdAt
    guide := humanUsageGuide invite.roomId participantId profile.displayName }

/-- The session row of a new admission. -/
def newSession (request : PreparedHumanAdmission) (invite : HumanInvite)
    (admissionKey userId participantId : String) (result : HumanAdmissionResult) (now : Nat) :
    HumanRoomSession :=
  { keyKind := if invite.isReusable then .reusable else .oneUse
    firstRequestId := request.requestId
    inviteId := invite.inviteId
    payloadHash := payloadHash request.payload
    sessionFingerprint := sessionFingerprint admissionKey
    roomId := invite.roomId
    userId
    participantId
    clientKind := "browser"
    inviteScope := invite.inviteScope
    browserCredentialFingerprint := request.browserCredentialFingerprint
    reusableIdentityFingerprint :=
      if invite.isReusable then some request.browserCredentialFingerprint else none
    result
    admittedAt := now
    expiresAt := now + sessionTtl
    state := .active }

/-- A new active session, within the unique indexes of its table. -/
def insertSession (admissionKey : String) (session : HumanRoomSession) : HumanTx Unit := do
  let sessions ← read HumanStore.sessions
  require (sessions.lookup admissionKey = none) (constraintViolation "human_room_sessions")
  require ((sessions.find? fun _ row => row.sessionFingerprint == session.sessionFingerprint) =
      none) (constraintViolation "human_room_sessions.session_fingerprint")
  require ((sessions.find? fun _ row =>
      row.isActive && row.isOf session.roomId session.participantId) = none)
    (constraintViolation "human_room_sessions_active_participant_idx")
  write fun s => { s with sessions := s.sessions.insert admissionKey session }

/-! ## The decision -/

/-- The `participant_joined` event of a member who was not joined before. -/
def announceJoin (invite : HumanInvite) (participant : Directory.Participant) (joined : Bool)
    (now : Nat) : HumanTx (List MembershipEvent) := do
  if joined then do
    let event ← appendEvent now invite.roomId "participant_joined"
      ⟨participant.participantId, "human"⟩ (some participant.participantId)
      (some participant.displayName) (.participant participant)
    pure [event]
  else pure []

/-- The membership, use, events and session of an identity that was persisted. -/
def seatIdentity (identity : ResolvedIdentity) (request : PreparedHumanAdmission)
    (invite : HumanInvite) (room : Room) (admissionKey : String) (now : Nat) :
    HumanTx HumanAdmissionCommit := do
  let replaced ← replaceLiveSessions invite.roomId identity.participantId now
  let (participant, joined) ← joinParticipant invite identity.participantId identity.profile now
  consumeInvite invite now
  let joinedEvents ← announceJoin invite participant joined now
  require (now + sessionTtl ≤ maxTimestampMicros)
    (invalidState "Human session expiry overflowed.")
  let (_, settings) ← orReject ((← read HumanStore.rooms).lookup invite.roomId)
    (.persistence .roomMissing)
  let result := admissionResult request invite room settings identity.participantId
    identity.profile (now + sessionTtl)
  insertSession admissionKey
    (newSession request invite admissionKey identity.userId identity.participantId result now)
  pure
    { result
      sessionBearer := sessionBearer admissionKey
      events := identity.profileEvents ++ joinedEvents
      replacedSessionFingerprints := replaced
      deduplicated := false }

def commitNewAdmission (request : PreparedHumanAdmission) (invite : HumanInvite) (room : Room)
    (admissionKey : String) (now : Nat) : HumanTx HumanAdmissionDecision := do
  let avatar ← resolveAdmissionAvatar request invite now
  match ← resolveIdentity request invite admissionKey avatar with
  | none => pure (.rejected .identityConflict)
  | some identity =>
      if capacityReached (← read id) invite.roomId identity.participantId now then
        pure (.rejected .capacityReached)
      else do
        endExpiredSessions invite.roomId identity.participantId now
        let identity ← persistIdentity identity request invite avatar now
        let commit ← seatIdentity identity request invite room admissionKey now
        pure (.admitted commit)

/-- The stored session joined with the profile, membership and room it depends on. -/
def joinedSession (s : HumanStore) (admissionKey : String) :
    Option (HumanRoomSession × UserProfile × Directory.Participant × Room) := do
  let session ← s.sessions.lookup admissionKey
  let profile ← s.profiles.lookup session.userId
  if profile.participantId ≠ session.participantId then none
  let participant ← s.participant? session.roomId session.participantId
  let (room, _) ← s.rooms.lookup session.roomId
  pure (session, profile, participant, room)

def exactAdmission (request : PreparedHumanAdmission) (invite : HumanInvite)
    (admissionKey : String) (keyKind : AdmissionKeyKind) (now : Nat) :
    HumanTx (Option HumanAdmissionDecision) := do
  match joinedSession (← read id) admissionKey with
  | none => pure none
  | some (session, profile, participant, room) => do
      require (session.keyKind = keyKind ∧ session.inviteId = invite.inviteId ∧
          session.roomId = invite.roomId ∧ session.clientKind = "browser" ∧
          session.inviteScope = invite.inviteScope ∧
          session.browserCredentialFingerprint = request.browserCredentialFingerprint)
        (invalidState "Stored human admission authority is cross-bound.")
      if session.payloadHash ≠ payloadHash request.payload then
        pure (some (.rejected .idempotencyConflict))
      else do
        require (room.roomId = session.roomId ∧ participant.roomId = session.roomId ∧
            participant.participantId = session.participantId ∧
            participant.participantType = "human")
          (invalidState "Stored human admission room or participant authority is invalid.")
        let _ ← ofResult (decodeBoundProfile profile session.participantId)
        if session.state ≠ .active then pure (some (.rejected .sessionUnavailable))
        else if session.expiresAt ≤ now then do
          write fun s => { s with sessions := s.sessions.insert admissionKey session.end_ }
          pure (some (.rejected .sessionUnavailable))
        else do
          require (room.status = .active ∧ participant.status = .joined)
            (invalidState "Stored active human session has unavailable room membership authority.")
          require (session.result.status = "admitted" ∧
              session.result.requestId = session.firstRequestId ∧
              session.result.agentId = participant.participantId ∧
              session.result.meetingId = room.roomId ∧
              session.result.inviteScope = inviteScopePublic invite.inviteScope ∧
              session.result.expiresAt = session.expiresAt)
            (invalidState "Stored human admission result is cross-bound.")
          require (session.sessionFingerprint = sessionFingerprint admissionKey)
            (invalidState "Stored human session fingerprint is invalid.")
          pure (some (.admitted
            { result := session.result
              sessionBearer := sessionBearer admissionKey
              events := []
              replacedSessionFingerprints := []
              deduplicated := true }))

/-- What the current invite and room decide, before any session is looked up. -/
def inviteGate (request : PreparedHumanAdmission) (invite : HumanInvite) (room : Room)
    (now : Nat) : Option HumanAdmissionRejection :=
  if invite.revoked then some .inviteRevoked
  else if invite.expiresAt ≤ now then some .inviteExpired
  else if invite.effectiveUseLimit ≤ invite.useCount then some .inviteUseLimitReached
  else if room.status ≠ .active then some .roomUnavailable
  else if request.payload.meetingIdAssertion ≠ "" ∧
      request.payload.meetingIdAssertion ≠ invite.roomId then some .meetingMismatch
  else none

def admitHuman (request : PreparedHumanAdmission) (now : Nat) :
    HumanTx HumanAdmissionDecision := do
  match ← loadInviteAndRoom request.credential with
  | none => pure (.rejected .inviteNotFound)
  | some (invite, room) => do
      requireCredentialBinding invite request.credential
      -- a one-use retry is answered before the current state of its invite is looked at
      let replay ← if invite.isReusable then pure none
        else exactAdmission request invite request.oneUseAdmissionKey .oneUse now
      match replay with
      | some decision => pure decision
      | none =>
          match inviteGate request invite room now with
          | some rejection => pure (.rejected rejection)
          | none =>
              if invite.isReusable then do
                match ← exactAdmission request invite request.reusableAdmissionKey .reusable now with
                | some decision => pure decision
                | none =>
                    commitNewAdmission request invite room request.reusableAdmissionKey now
              else
                commitNewAdmission request invite room request.oneUseAdmissionKey now

end Transaction

end AgentsAssemble.Admission
