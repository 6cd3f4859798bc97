import Lirvena.Message.Envelope

/-!
# Notices

The decoders that project an envelope to a typed event.  Each looks at the class
and subtype first: `none` leaves the envelope to the next decoder, an error
rejects a known notice with malformed data.  The protobuf decoders of the
contents are fields of `NoticeWire`.
-/

namespace Lirvena
namespace Message

open Lib

/-- The longest user id of a notice. -/
def maxUidBytes : Nat := 128

/-- The longest tip shown in place of a recalled message. -/
def maxTipBytes : Nat := 2048

/-- The framing of group events: a big-endian group number, one byte, and a
length-prefixed body that fills the rest. -/
def splitEvent (input : List UInt8) : Option (Nat × List UInt8) :=
  if 7 ≤ input.length ∧ 7 + beNat (slice input 5 7) = input.length then
    some (beNat (slice input 0 4), input.drop 7)
  else
    none

/-! ## Wire structures -/

/-- The file that a private notice announces; its size is signed. -/
structure PrivateFileWire where
  id : String
  md5 : List UInt8
  name : String
  size : Int
  hash : String

/-- The content of a private file notice. -/
structure FileExtraWire where
  file : Option PrivateFileWire

/-- Who asks for a friendship. -/
structure FriendRequestInfoWire where
  sourceUid : String

/-- The content of a friend request. -/
structure FriendRequestWire where
  info : Option FriendRequestInfoWire

/-- A request to join a group. -/
structure JoinWire where
  groupId : Nat
  targetUid : String

/-- A member of a group invites somebody to it. -/
structure InvitationWire where
  groupId : Nat
  targetUid : String
  inviterUid : String

/-- The layer around an invitation. -/
structure InvitationInfoWire where
  invitation : Option InvitationWire

/-- The content of an invitation request; command 87 is one. -/
structure InvitationOuterWire where
  command : Nat
  info : Option InvitationInfoWire

/-- The account itself is invited to a group. -/
structure SelfInvitationWire where
  groupId : Nat
  inviterUid : String

/-- The member whose rank changes. -/
structure AdministratorMemberWire where
  memberUid : String

/-- The change of a rank: exactly one of the two is set. -/
structure AdministratorBodyWire where
  disable : Option AdministratorMemberWire
  enable : Option AdministratorMemberWire

/-- The content of an administrator notice. -/
structure AdministratorWire where
  groupId : Nat
  body : Option AdministratorBodyWire

/-- Somebody enters or leaves a group; the operator is plain or nested bytes. -/
structure MemberChangeWire where
  groupId : Nat
  memberUid : String
  primaryType : Nat
  operator : Option (List UInt8)
  secondaryType : Nat

/-- The identity within a nested operator. -/
structure OperatorIdentityWire where
  uid : Option String

/-- The nested operator of a removal of the account itself. -/
structure OperatorWire where
  identity : Option OperatorIdentityWire

/-- The message that is reacted to. -/
structure ReactionTargetWire where
  sequence : Nat

/-- The reaction itself. -/
structure ReactionDataWire where
  code : String
  count : Nat
  operatorUid : String
  kind : Nat

/-- A reaction and its target. -/
structure ReactionBodyWire where
  target : Option ReactionTargetWire
  data : Option ReactionDataWire

/-- The inner layer around a reaction. -/
structure ReactionLevelOneWire where
  data : Option ReactionBodyWire

/-- The outer layer around a reaction. -/
structure ReactionLevelZeroWire where
  data : Option ReactionLevelOneWire

/-- A group event of subtype 16, as the decoder of reactions reads it; its kind is then 35. -/
structure ReactionNoticeWire where
  groupId : Nat
  kind : Option Nat
  reaction : Option ReactionLevelZeroWire

/-- A group event of subtype 16, as the decoder of names reads it; its kind is then 12. -/
structure GroupNameNoticeWire where
  groupId : Nat
  eventParam : List UInt8
  kind : Option Nat

/-- The new name of a group. -/
structure NameWire where
  name : String

/-- A named parameter of a grey tip. -/
structure TemplateWire where
  name : String
  value : String

/-- A grey tip; business type 12 is a poke. -/
structure GeneralWire where
  businessType : Nat
  parameters : List TemplateWire

/-- The content of a group event of subtype 20. -/
structure NotifyWire where
  general : Option GeneralWire

/-- A message is made an essence of the group or no longer is. -/
structure EssenceWire where
  groupId : Nat
  sequence : Nat
  random : Nat
  operation : Nat
  senderId : Nat
  operatorId : Nat

/-- A group event of subtype 21; kind 27 is about essences. -/
structure EssenceNoticeWire where
  kind : Nat
  essence : Option EssenceWire

/-- For whom and how long it is muted; without a target it is the whole group. -/
structure GroupMuteStateWire where
  targetUid : Option String
  duration : Nat

/-- The layer around the state of a mute. -/
structure GroupMuteDataWire where
  state : Option GroupMuteStateWire

/-- A group event of subtype 12. -/
structure GroupMuteWire where
  groupId : Nat
  operatorUid : Option String
  data : Option GroupMuteDataWire

/-- The tip of a recall. -/
structure RecallTipWire where
  tip : Option String

/-- One recalled message of a group. -/
structure RecallMessageWire where
  sequence : Nat
  random : Nat
  authorUid : String

/-- The recalled messages of one notice, with what they share. -/
structure RecallWire where
  operatorUid : Option String
  messages : List RecallMessageWire
  tip : Option RecallTipWire

/-- A group event of subtype 17. -/
structure RecallNoticeWire where
  groupId : Nat
  «recall» : Option RecallWire

/-- One recalled private message. -/
structure FriendRecallInfoWire where
  fromUid : String
  clientSequence : Nat
  timestamp : Nat
  random : Nat
  tip : Option RecallTipWire

/-- A friend event of subtype 138. -/
structure FriendRecallWire where
  info : Option FriendRecallInfoWire

/-- The library functions that the notice decoders call. -/
structure NoticeWire where
  fileExtra : List UInt8 → Option FileExtraWire
  friendRequest : List UInt8 → Option FriendRequestWire
  join : List UInt8 → Option JoinWire
  invitationOuter : List UInt8 → Option InvitationOuterWire
  selfInvitation : List UInt8 → Option SelfInvitationWire
  administrator : List UInt8 → Option AdministratorWire
  memberChange : List UInt8 → Option MemberChangeWire
  operator : List UInt8 → Option OperatorWire
  reactionNotice : List UInt8 → Option ReactionNoticeWire
  groupNameNotice : List UInt8 → Option GroupNameNoticeWire
  name : List UInt8 → Option NameWire
  notify : List UInt8 → Option NotifyWire
  general : List UInt8 → Option GeneralWire
  essenceNotice : List UInt8 → Option EssenceNoticeWire
  groupMute : List UInt8 → Option GroupMuteWire
  recallNotice : List UInt8 → Option RecallNoticeWire
  friendRecall : List UInt8 → Option FriendRecallWire

/-! ## Typed events -/

/-- A file that was sent to the account, with what its download needs. -/
structure PrivateFileNotice where
  senderId : UInt32
  senderUid : String
  fileId : String
  name : String
  size : Nat
  hash : String
  deriving DecidableEq

/-- The directory of friend requests changed. -/
structure FriendRequestSignal where
  sourceUid : String
  deriving DecidableEq

/-- The directory of group requests changed. -/
inductive GroupRequestSignal where
  | join (groupId : Nat) (targetUid : String)
  | invitation (groupId : Nat) (targetUid inviterUid : String)
  | selfInvitation (groupId : Nat) (inviterUid : String)
  deriving DecidableEq

/-- How somebody entered a group. -/
inductive MemberIncreaseKind where
  | approve
  | invite
  | unknown (value : Nat)
  deriving DecidableEq

/-- How somebody left a group; `kickMe` removes the account itself. -/
inductive MemberDecreaseKind where
  | kickMe
  | disband
  | leave
  | kick
  | unknown (value : Nat)
  deriving DecidableEq

/-- A change of the members of a group or of their ranks. -/
inductive GroupNotice where
  | administrator (groupId : Nat) (memberUid : String) (enabled : Bool)
  | memberIncrease (groupId : Nat) (memberUid : String) (operatorUid : Option String)
      (kind : MemberIncreaseKind)
  | memberDecrease (groupId : Nat) (memberUid : String) (operatorUid : Option String)
      (kind : MemberDecreaseKind)
  deriving DecidableEq

/-- A reaction to a group message was added or taken back. -/
structure GroupReaction where
  groupId : Nat
  sequence : Nat
  operatorUid : String
  add : Bool
  code : String
  count : Nat
  deriving DecidableEq

/-- A group has a new name. -/
structure GroupNameChange where
  groupId : Nat
  name : String
  deriving DecidableEq

/-- Where a poke was made. -/
inductive PokeScope where
  | group (groupId : Nat)
  | friend
  deriving DecidableEq

/-- A poke between two accounts, with the texts that describe it. -/
structure PokeNotice where
  scope : PokeScope
  operatorId : Nat
  targetId : Nat
  action : String
  suffix : String
  imageUrl : String
  deriving DecidableEq

/-- A message is or is no longer an essence of the group. -/
structure GroupEssence where
  groupId : Nat
  sequence : Nat
  random : Nat
  added : Bool
  senderId : Nat
  operatorId : Nat
  deriving DecidableEq

/-- A member or, without a target, the group is muted. -/
structure GroupMute where
  groupId : Nat
  operatorUid : Option String
  targetUid : Option String
  duration : Nat
  deriving DecidableEq

/-- One recalled group message carried by an authenticated notice. -/
structure GroupRecall where
  groupId : Nat
  sequence : Nat
  random : Nat
  authorUid : String
  operatorUid : Option String
  tip : String
  deriving DecidableEq

/-- One recalled private message, by the numbers that its sender gave it. -/
structure FriendRecall where
  fromUid : String
  clientSequence : Nat
  random : Nat
  timestamp : Nat
  tip : String
  deriving DecidableEq

/-- `reject if …` inside a decoder. -/
abbrev reject (bad : Prop) [Decidable bad] : Except MessageDecodeError Unit :=
  rejectIf .rejected bad

/-- `ok_or(MessageDecodeError)?` inside a decoder. -/
abbrev required {Value : Type} (value : Option Value) : Except MessageDecodeError Value :=
  okOr .rejected value

/-- An absent or empty identifier is absent; any other has to be a bounded one. -/
def optionalUid : Option String → Except MessageDecodeError (Option String)
  | none | some "" => .ok none
  | some uid => if boundedUid maxUidBytes uid then .ok (some uid) else .error .rejected

/-- `validate_uid`: a user id within its bound. -/
def validateUid (uid : String) : Except MessageDecodeError Unit :=
  reject (boundedUid maxUidBytes uid = false)

/-- `validate(group_id, uid)`. -/
def validateIdentity (groupId : Nat) (uid : String) : Except MessageDecodeError Unit := do
  reject (groupId = 0)
  validateUid uid

section Decoders

variable (wire : NoticeWire) (envelope : MessageEnvelope)

/-- A private file has a sender, an id, a hash, a name, a digest and a size, each within its
bound. -/
def decodePrivateFileNotice : Except MessageDecodeError (Option PrivateFileNotice) :=
  if envelope.class ≠ .privateFile then .ok none else do
    let content ← required envelope.payload.content
    let extra ← required (wire.fileExtra content)
    let file ← required extra.file
    let senderUid ← required envelope.route.fromUid
    reject (file.size < 0)
    reject (envelope.route.fromUin = 0 ∨ boundedUid 128 senderUid = false ∨
      file.id = "" ∨ 4096 < file.id.utf8ByteSize ∨
      file.hash = "" ∨ 4096 < file.hash.utf8ByteSize ∨
      file.name = "" ∨ 4096 < file.name.utf8ByteSize ∨
      containsNul file.id ∨ containsNul file.hash ∨ containsNul file.name ∨
      file.md5 = [] ∨ 64 < file.md5.length ∨ file.size = 0)
    return some {
      senderId := envelope.route.fromUin
      senderUid := senderUid
      fileId := file.id
      name := file.name
      size := file.size.toNat
      hash := file.hash }

/-- A friend event of subtype 35 names who asks. -/
def decodeFriendRequestSignal : Except MessageDecodeError (Option FriendRequestSignal) :=
  if envelope.class ≠ .friendEvent ∨ envelope.subType ≠ 35 then .ok none else do
    let content ← required envelope.payload.content
    let request ← required (wire.friendRequest content)
    let info ← required request.info
    validateUid info.sourceUid
    return some { sourceUid := info.sourceUid }

/-- A join request names the group and who wants to join. -/
def decodeJoin (input : List UInt8) : Except MessageDecodeError GroupRequestSignal := do
  let value ← required (wire.join input)
  validateIdentity value.groupId value.targetUid
  return .join value.groupId value.targetUid

/-- An invitation request names the group and both accounts. -/
def decodeInvitation (input : List UInt8) :
    Except MessageDecodeError GroupRequestSignal := do
  let outer ← required (wire.invitationOuter input)
  reject (outer.command ≠ 87)
  let value ← required (outer.info.bind InvitationInfoWire.invitation)
  validateIdentity value.groupId value.targetUid
  validateUid value.inviterUid
  return .invitation value.groupId value.targetUid value.inviterUid

/-- An invitation of the account itself names the group and who invites. -/
def decodeSelfInvitation (input : List UInt8) :
    Except MessageDecodeError GroupRequestSignal := do
  let value ← required (wire.selfInvitation input)
  validateIdentity value.groupId value.inviterUid
  return .selfInvitation value.groupId value.inviterUid

/-- The class of the envelope selects one of the three requests. -/
def decodeGroupRequestSignal : Except MessageDecodeError (Option GroupRequestSignal) :=
  match envelope.class with
  | .groupJoinRequest => do
      let content ← required envelope.payload.content
      some <$> decodeJoin wire content
  | .groupInvitationRequest => do
      let content ← required envelope.payload.content
      some <$> decodeInvitation wire content
  | .groupInvite => do
      let content ← required envelope.payload.content
      some <$> decodeSelfInvitation wire content
  | _ => .ok none

/-- `String::from_utf8` and the identifier check on an operator's bytes. -/
def optionalPlainUid : Option (List UInt8) → Except MessageDecodeError (Option String)
  | none | some [] => .ok none
  | some bytes => do
      let uid ← required (String.fromUTF8? ⟨bytes.toArray⟩)
      validateUid uid
      return some uid

/-- The operator of a removal of the account itself, if the notice tells one. -/
def optionalNestedUid : Option (List UInt8) → Except MessageDecodeError (Option String)
  | none | some [] => .ok none
  | some bytes => do
      let operator ← required (wire.operator bytes)
      let uid ← required (operator.identity.bind OperatorIdentityWire.uid)
      validateUid uid
      return some uid

/-- A notice that enables and disables, or does neither, is rejected. -/
def decodeAdministrator (input : List UInt8) : Except MessageDecodeError GroupNotice := do
  let notice ← required (wire.administrator input)
  let body ← required notice.body
  match body.enable, body.disable with
  | some value, none =>
      validateIdentity notice.groupId value.memberUid
      return .administrator notice.groupId value.memberUid true
  | none, some value =>
      validateIdentity notice.groupId value.memberUid
      return .administrator notice.groupId value.memberUid false
  | _, _ => .error .rejected

/-- The number that tells how somebody entered. -/
def memberIncreaseKind : Nat → MemberIncreaseKind
  | 130 => .approve
  | 131 => .invite
  | value => .unknown value

/-- The kind of an increase stands in its second number where the first is zero. -/
def decodeIncrease (input : List UInt8) : Except MessageDecodeError GroupNotice := do
  let notice ← required (wire.memberChange input)
  validateIdentity notice.groupId notice.memberUid
  let kind := memberIncreaseKind
    (if notice.primaryType = 0 then notice.secondaryType else notice.primaryType)
  let operatorUid ← optionalPlainUid notice.operator
  return .memberIncrease notice.groupId notice.memberUid operatorUid kind

/-- The number that tells how somebody left. -/
def memberDecreaseKind : Nat → MemberDecreaseKind
  | 3 => .kickMe
  | 129 => .disband
  | 130 => .leave
  | 131 => .kick
  | value => .unknown value

/-- The kind of a decrease stands in its first number alone. -/
def decodeDecrease (input : List UInt8) : Except MessageDecodeError GroupNotice := do
  let notice ← required (wire.memberChange input)
  validateIdentity notice.groupId notice.memberUid
  -- only the removal of the account itself nests its operator
  let operatorUid ←
    if notice.primaryType = 3 then optionalNestedUid wire notice.operator
    else optionalPlainUid notice.operator
  return .memberDecrease notice.groupId notice.memberUid operatorUid
    (memberDecreaseKind notice.primaryType)

/-- The class of the envelope selects one of the three changes. -/
def decodeGroupNotice : Except MessageDecodeError (Option GroupNotice) :=
  match envelope.class with
  | .groupAdministratorChange => do
      let content ← required envelope.payload.content
      some <$> decodeAdministrator wire content
  | .groupMemberIncrease => do
      let content ← required envelope.payload.content
      some <$> decodeIncrease wire content
  | .groupMemberDecrease => do
      let content ← required envelope.payload.content
      some <$> decodeDecrease wire content
  | _ => .ok none

/-- The code of a reaction: at most ten digits with a nonzero 32-bit value. -/
def validReactionCode (code : String) : Bool :=
  code.utf8ByteSize ≤ 10 && (parseDigitsU32 code).any (· ≠ 0)

/-- A notice of subtype 16 is one of several; an undecodable one is left to the
next decoder. -/
def decodeGroupReaction : Except MessageDecodeError (Option GroupReaction) :=
  if envelope.class ≠ .groupEvent ∨ envelope.subType ≠ 16 then .ok none else
    match envelope.payload.content.bind splitEvent with
    | none => .ok none
    | some (prefixedGroup, proto) =>
        match wire.reactionNotice proto with
        | none => .ok none
        | some body =>
            if body.kind ≠ some 35 then .ok none else do
              let levelOne ← required (body.reaction.bind ReactionLevelZeroWire.data)
              let reaction ← required levelOne.data
              let target ← required reaction.target
              let data ← required reaction.data
              reject (prefixedGroup = 0 ∨ body.groupId ≠ prefixedGroup ∨
                target.sequence = 0 ∨ boundedUid maxUidBytes data.operatorUid = false ∨
                validReactionCode data.code = false)
              reject (data.kind ≠ 1 ∧ data.kind ≠ 2)
              return some {
                groupId := body.groupId
                sequence := target.sequence
                operatorUid := data.operatorUid
                add := data.kind = 1
                code := data.code
                count := data.count }

/-- A notice of subtype 16 and kind 12; an undecodable one is left to the next decoder. -/
def decodeGroupNameChange : Except MessageDecodeError (Option GroupNameChange) :=
  if envelope.class ≠ .groupEvent ∨ envelope.subType ≠ 16 then .ok none else
    match envelope.payload.content.bind splitEvent with
    | none => .ok none
    | some (prefixedGroup, proto) =>
        match wire.groupNameNotice proto with
        | none => .ok none
        | some body =>
            if body.kind ≠ some 12 then .ok none else do
              let change ← required (wire.name body.eventParam)
              reject (prefixedGroup = 0 ∨ body.groupId ≠ prefixedGroup ∨
                change.name = "" ∨ 512 < change.name.utf8ByteSize ∨
                containsNul change.name)
              return some { groupId := body.groupId, name := change.name }

/-- The parameters of a poke by name; a repeated or unsafe entry is rejected. -/
def templateMap : List (String × String) → List TemplateWire →
    Except MessageDecodeError (List (String × String))
  | entries, [] => .ok entries
  | entries, parameter :: rest =>
      if parameter.name = "" ∨ 64 < parameter.name.utf8ByteSize ∨
          2048 < parameter.value.utf8ByteSize ∨ hasControl parameter.name ∨
          containsNul parameter.value ∨ (entries.lookup parameter.name).isSome then
        .error .rejected
      else
        templateMap ((parameter.name, parameter.value) :: entries) rest

/-- A parameter that is a nonzero account number in decimal. -/
def numericParameter (parameters : List (String × String)) (name : String) :
    Except MessageDecodeError Nat :=
  required (((parameters.lookup name).bind parseDigitsU32).filter (· ≠ 0))

/-- The grey tip of a poke, from a group event of subtype 20 or a friend event of subtype 290. -/
def pokeGeneral : Except MessageDecodeError (Option (PokeScope × GeneralWire)) :=
  if envelope.class = .groupEvent ∧ envelope.subType = 20 then do
    let content ← required envelope.payload.content
    let (groupId, proto) ← required (splitEvent content)
    reject (groupId = 0)
    let body ← required (wire.notify proto)
    let general ← required body.general
    return some (.group groupId, general)
  else if envelope.class = .friendEvent ∧ envelope.subType = 290 then do
    let content ← required envelope.payload.content
    let general ← required (wire.general content)
    return some (.friend, general)
  else
    .ok none

/-- A poke tells both accounts; its texts are empty where it has none. -/
def decodePokeNotice : Except MessageDecodeError (Option PokeNotice) := do
  match ← pokeGeneral wire envelope with
  | none => return none
  | some (scope, general) =>
      reject (general.businessType ≠ 12 ∨ general.parameters.isEmpty ∨
        32 < general.parameters.length)
      let parameters ← templateMap [] general.parameters
      let operatorId ← numericParameter parameters "uin_str1"
      let targetId ← numericParameter parameters "uin_str2"
      return some {
        scope := scope
        operatorId := operatorId
        targetId := targetId
        action := ((parameters.lookup "action_str").or
          (parameters.lookup "alt_str1")).getD ""
        suffix := (parameters.lookup "suffix_str").getD ""
        imageUrl := (parameters.lookup "action_img_url").getD "" }

/-- An essence notice of another kind is left to the next decoder; one about an essence has all
its numbers. -/
def decodeGroupEssence : Except MessageDecodeError (Option GroupEssence) :=
  if envelope.class ≠ .groupEvent ∨ envelope.subType ≠ 21 then .ok none else do
    let content ← required envelope.payload.content
    let (prefixedGroup, proto) ← required (splitEvent content)
    let body ← required (wire.essenceNotice proto)
    if body.kind ≠ 27 then return none else
    let essence ← required body.essence
    reject (prefixedGroup = 0 ∨ essence.groupId ≠ prefixedGroup ∨ essence.sequence = 0 ∨
      essence.random = 0 ∨ essence.senderId = 0 ∨ essence.operatorId = 0)
    reject (essence.operation ≠ 1 ∧ essence.operation ≠ 2)
    return some {
      groupId := essence.groupId
      sequence := essence.sequence
      random := essence.random
      added := essence.operation = 1
      senderId := essence.senderId
      operatorId := essence.operatorId }

/-- A mute tells its group; the operator and the target may be absent. -/
def decodeGroupMute : Except MessageDecodeError (Option GroupMute) :=
  if envelope.class ≠ .groupEvent ∨ envelope.subType ≠ 12 then .ok none else do
    let content ← required envelope.payload.content
    let mute ← required (wire.groupMute content)
    let state ← required (mute.data.bind GroupMuteDataWire.state)
    reject (mute.groupId = 0)
    let operatorUid ← optionalUid mute.operatorUid
    let targetUid ← optionalUid state.targetUid
    return some {
      groupId := mute.groupId
      operatorUid := operatorUid
      targetUid := targetUid
      duration := state.duration }

/-- The most messages that one notice recalls. -/
def maxRecalls : Nat := 32

/-- One recalled message with what its notice says of all. -/
def groupRecall (groupId : Nat) (operatorUid : Option String) (tip : String)
    (message : RecallMessageWire) : Except MessageDecodeError GroupRecall := do
  validateUid message.authorUid
  reject (message.sequence = 0 ∨ message.random = 0)
  return {
    groupId := groupId
    sequence := message.sequence
    random := message.random
    authorUid := message.authorUid
    operatorUid := operatorUid
    tip := tip }

/-- All group recalls of one notice. -/
def decodeGroupRecalls : Except MessageDecodeError (Option (List GroupRecall)) :=
  if envelope.class ≠ .groupEvent ∨ envelope.subType ≠ 17 then .ok none else do
    let content ← required envelope.payload.content
    let (prefixedGroup, proto) ← required (splitEvent content)
    let body ← required (wire.recallNotice proto)
    reject (prefixedGroup = 0 ∨ body.groupId ≠ prefixedGroup)
    let notice ← required body.recall
    reject (notice.messages.isEmpty ∨ maxRecalls < notice.messages.length)
    let operatorUid ← optionalUid notice.operatorUid
    let tip := (notice.tip.bind RecallTipWire.tip).getD ""
    reject (maxTipBytes < tip.utf8ByteSize ∨ hasControl tip)
    some <$> notice.messages.mapM (groupRecall body.groupId operatorUid tip)

/-- A private recall has all its numbers; its tip is empty where it has none. -/
def decodeFriendRecall : Except MessageDecodeError (Option FriendRecall) :=
  if envelope.class ≠ .friendEvent ∨ envelope.subType ≠ 138 then .ok none else do
    let content ← required envelope.payload.content
    let notice ← required (wire.friendRecall content)
    let info ← required notice.info
    let tip := (info.tip.bind RecallTipWire.tip).getD ""
    reject (boundedUid maxUidBytes info.fromUid = false ∨ info.clientSequence = 0 ∨
      info.random = 0 ∨ info.timestamp = 0 ∨ maxTipBytes < tip.utf8ByteSize ∨
      hasControl tip)
    return some {
      fromUid := info.fromUid
      clientSequence := info.clientSequence
      random := info.random
      timestamp := info.timestamp
      tip := tip }

end Decoders

end Message
end Lirvena
