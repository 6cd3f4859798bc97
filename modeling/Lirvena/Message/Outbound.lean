import Lirvena.Message.RichText

/-!
# Outbound messages

The body of a `MessageSvc.PbSendMsg` request: a recipient and between 1 and 256
segments, each checked and compiled to one or two elements.  The protobuf
encoders, zlib, the keyboard parser and the parser of decimal numbers come from
libraries and are fields of `OutboundWire`.
-/

namespace Lirvena
namespace Message

open Lib

/-- The most text bytes of one message. -/
def maxTextBytes : Nat := 4500

/-- The most segments of one message. -/
def maxOutboundElements : Nat := 256

/-- The longest text that stands for a mention. -/
def maxDisplayBytes : Nat := 1024

/-- The longest message info of a medium. -/
def maxMediaMetadataBytes : Nat := 1024 * 1024

/-- The longest compatibility element of a medium. -/
def maxMediaCompatibilityBytes : Nat := 512 * 1024

/-- The longest markdown. -/
def maxMarkdownBytes : Nat := 16 * 1024

/-- The longest keyboard, as JSON. -/
def maxKeyboardBytes : Nat := 32 * 1024

/-- Address of one message recipient. -/
inductive SendTextTarget where
  | «private» (uin : UInt32) (uid : String)
  | group (groupCode : UInt32)
  deriving DecidableEq

/-- Whether a message goes to a group. -/
def SendTextTarget.isGroup : SendTextTarget → Bool
  | .group _ => true
  | .private _ _ => false

/-- One compiled outbound message element. -/
inductive OutboundSegment where
  | text (value : String)
  | mentionEveryone (display : String)
  | mention (uin : UInt32) (uid display : String)
  | face (id : UInt16)
  | animatedFace (id : UInt16)
  | markdown (content : String)
  | keyboard (content : String)
  | marketFace (emojiId : String) (packageId : Int) (key summary : String)
  | image (group : Bool) (messageInfo compatibility : List UInt8)
  | record (group : Bool) (messageInfo : List UInt8)
  | video (group : Bool) (messageInfo compatibility : List UInt8)
  | json (body : String)
  | location (latitude longitude title content : String)
  | xml (body : String) (serviceId : Int)
  | poke (kind strength : UInt32)
  | reply (group : Bool) (sequence : UInt32) (messageUid : UInt64) (senderUin : UInt32)
      (senderUid : String) (timestamp : UInt32) (elements : List (List UInt8))
  deriving DecidableEq

/-- Input for one ordinary rich-text message. -/
structure SendMessageInput where
  target : SendTextTarget
  segments : List OutboundSegment
  clientSequence : UInt32
  random : UInt32
  unixSeconds : UInt32
  deriving DecidableEq

/-- Parsed send acknowledgement. -/
structure SendTextOutcome where
  result : Int
  sequence : UInt32
  timestamp : UInt32
  deriving DecidableEq

/-! ## Wire structures -/

/-- Who may press a button. -/
structure KeyboardPermission where
  kind : Int
  specifyRoleIds : List String
  specifyUserIds : List String

/-- A button with its texts and what it does. -/
structure KeyboardButton where
  id : String
  label : String
  visitedLabel : String
  style : Int
  actionKind : Int
  permission : KeyboardPermission
  unsupportTips : String
  data : String
  reply : Option Bool
  enter : Option Bool

/-- The rows of a keyboard, each a list of buttons. -/
structure Keyboard where
  rows : List (List KeyboardButton)

/-- The reserve of a text that is a mention. -/
structure MentionExtra where
  kind : Int
  uin : UInt32
  field5 : Int
  uid : String

/-- The body of an animated face. -/
structure AnimatedFaceOut where
  stickerPackId : String
  stickerId : String
  faceId : Nat
  fieldFour : Int
  stickerType : Int
  fieldSix : String
  preview : String
  fieldNine : Int

/-- A face of the market, as it is sent. -/
structure MarketFaceOut where
  summary : String
  itemType : Int
  info : Int
  faceId : List UInt8
  packageId : Int
  subtype : Int
  key : String
  width : Int
  height : Int
  reserveField8 : Nat

/-- A text, with a reserve if it is a mention. -/
structure TextOut where
  value : String
  reserve : Option (List UInt8)
  deriving DecidableEq

/-- A compressed template of a service. -/
structure RichMessageOut where
  template : List UInt8
  serviceId : Int
  deriving DecidableEq

/-- A common element: what it is and its encoded body. -/
structure CommonOut where
  serviceType : Int
  protobuf : List UInt8
  businessType : Nat
  deriving DecidableEq

/-- The message that is replied to. -/
structure SourceOut where
  sequences : List UInt32
  senderUin : UInt64
  timestamp : UInt32
  elements : List (List UInt8)
  reserve : List UInt8
  toUin : UInt64
  deriving DecidableEq

/-- One element of a request; an element has one field, or a legacy field. -/
structure ElementOut where
  text : Option TextOut := none
  face : Option Nat := none
  notOnlineImage : Option (List UInt8) := none
  marketFace : Option (List UInt8) := none
  customFace : Option (List UInt8) := none
  richMessage : Option RichMessageOut := none
  video : Option (List UInt8) := none
  lightApp : Option (List UInt8) := none
  common : Option CommonOut := none
  source : Option SourceOut := none
  deriving DecidableEq

/-- Where a message goes, as its head says it. -/
inductive RoutingHead where
  | c2c (uin : UInt32) (uid : String)
  | group (groupCode : UInt32)
  deriving DecidableEq

/-- The body of a request. -/
structure MessageOut where
  routing : RoutingHead
  messageType : Nat
  subtype : Nat
  c2cCommand : Nat
  elements : List ElementOut
  clientSequence : UInt32
  random : UInt32
  control : Option UInt32
  deriving DecidableEq

/-- The answer to a sent message, with the numbers that it got. -/
structure SendResponse where
  result : Int
  timestamp : UInt32
  groupSequence : Option UInt32
  privateSequence : UInt32

/-- The library functions behind the encoder and the response parser. -/
structure OutboundWire where
  message : MessageOut → List UInt8
  mentionExtra : MentionExtra → List UInt8
  standardFace : Nat → List UInt8
  animatedFace : AnimatedFaceOut → List UInt8
  marketFace : MarketFaceOut → List UInt8
  markdown : String → List UInt8
  poke : UInt32 → UInt32 → List UInt8
  keyboard : Keyboard → List UInt8
  sourceReserve : UInt64 → String → List UInt8
  /-- `serde_json::from_str` at the keyboard type. -/
  parseKeyboard : String → Option Keyboard
  /-- The zlib stream of a text. -/
  deflate : String → Option (List UInt8)
  /-- The value of a text that is a finite decimal number. -/
  coordinate : String → Option Rat
  sendResponse : List UInt8 → Option SendResponse

/-! ## Checks -/

/-- The most buttons of a row. -/
def maxButtonsPerRow : Nat := 5

/-- The most roles and the most users that a permission names. -/
def maxPermissionIds : Nat := 64

/-- A text that stands for a mention. -/
def validDisplay (value : String) : Bool :=
  value ≠ "" && value.utf8ByteSize ≤ maxDisplayBytes && !containsNul value

/-- The elements of the message that is replied to, which are sent along. -/
def validReplyElements (elements : List (List UInt8)) : Bool :=
  elements ≠ [] && elements.length ≤ maxOutboundElements &&
    elements.all (fun element => element ≠ [] && element.length ≤ maxMediaMetadataBytes)

/-- A text of a keyboard, within its bound and without control characters. -/
def validKeyboardText (value : String) (maximum : Nat) (allowEmpty : Bool) : Bool :=
  (allowEmpty || value ≠ "") && value.utf8ByteSize ≤ maximum && !hasControl value

/-- All texts and permissions of a button are within their bounds. -/
def validButton (button : KeyboardButton) : Bool :=
  validKeyboardText button.id 128 false && validKeyboardText button.label 256 false &&
    validKeyboardText button.visitedLabel 256 true &&
    validKeyboardText button.unsupportTips 512 true &&
    validKeyboardText button.data 2048 true &&
    button.permission.specifyRoleIds.length ≤ maxPermissionIds &&
    button.permission.specifyUserIds.length ≤ maxPermissionIds &&
    (button.permission.specifyRoleIds ++ button.permission.specifyUserIds).all
      (validKeyboardText · 128 false)

/-- One to five rows of one to five buttons. -/
def validKeyboard (keyboard : Keyboard) : Bool :=
  1 ≤ keyboard.rows.length && keyboard.rows.length ≤ 5 &&
    keyboard.rows.all (fun buttons =>
      1 ≤ buttons.length && buttons.length ≤ maxButtonsPerRow && buttons.all validButton)

/-- The value of a hexadecimal digit. -/
def hexValue (char : Char) : Nat :=
  if char.toNat ≤ 0x39 then char.toNat - 0x30
  else if char.toNat ≤ 0x46 then char.toNat - 0x37
  else char.toNat - 0x57

/-- The bytes of pairs of digits. -/
def hexBytes : List Char → List UInt8
  | high :: low :: rest => UInt8.ofNat (hexValue high * 16 + hexValue low) :: hexBytes rest
  | _ => []

/-- The id of a market face, which is hexadecimal. -/
def decodeHex (value : String) : Except MessageDecodeError (List UInt8) := do
  require (value ≠ "" && value.utf8ByteSize ≤ 128 && value.utf8ByteSize % 2 == 0 &&
    value.toList.all isHexDigit)
  return hexBytes value.toList

section Encoders

variable (wire : OutboundWire)

/-- A coordinate within its range; the text is sent as it is. -/
def validCoordinate (value : String) (minimum maximum : Rat) : Bool :=
  value ≠ "" && value.utf8ByteSize ≤ 32 && !containsNul value &&
    (wire.coordinate value).any (fun number => minimum ≤ number && number ≤ maximum)

/-! ## Contents -/

/-- One byte 1 and a zlib stream of text. -/
def compress (input : String) : Except MessageDecodeError (List UInt8) := do
  require (input ≠ "" && input.utf8ByteSize ≤ maxRichBytes && !containsNul input)
  let compressed ← okOr .rejected (wire.deflate input)
  require (compressed.length + 1 ≤ maxRichBytes)
  return 1 :: compressed

/-- The body of a markdown element. -/
def encodeMarkdown (content : String) : Except MessageDecodeError (List UInt8) := do
  require (content ≠ "" && content.utf8ByteSize ≤ maxMarkdownBytes && !containsNul content)
  return wire.markdown content

/-- A keyboard is parsed and checked, and encoded from what was parsed. -/
def encodeKeyboard (input : String) : Except MessageDecodeError (List UInt8) := do
  require (input ≠ "" && input.utf8ByteSize ≤ maxKeyboardBytes)
  let keyboard ← okOr .rejected (wire.parseKeyboard input)
  require (validKeyboard keyboard)
  return wire.keyboard keyboard

/-- A face of the market with all its parts. -/
def encodeMarketFace (emojiId : String) (packageId : Int) (key summary : String) :
    Except MessageDecodeError (List UInt8) := do
  let faceId ← decodeHex emojiId
  require (0 < packageId && key ≠ "" && validText key (4 * 1024) && summary ≠ "" &&
    validText summary 1024)
  return wire.marketFace {
    summary := summary, itemType := 6, info := 1, faceId := faceId, packageId := packageId
    subtype := 3, key := key, width := 300, height := 300, reserveField8 := 1 }

/-- The light application of the map that shows a location. -/
def encodeLocation (latitude longitude title content : String) :
    Except MessageDecodeError String := do
  require (validCoordinate wire latitude (-90) 90)
  require (validCoordinate wire longitude (-180) 180)
  require (validText title 256)
  require (validText content 1024)
  return (Json.ofFields [("app", .string "com.tencent.map"), ("desc", .string ""),
    ("from", .integer 1),
    ("meta", .ofFields [("Location.Search", .ofFields [("address", .string content),
      ("enum_relation_type", .integer 1), ("from", .string "plusPanel"), ("id", .string ""),
      ("lat", .string latitude), ("lng", .string longitude), ("name", .string title)])]),
    ("prompt", .string ("[Location]" ++ content)), ("ver", .string "1.1.2.21"),
    ("view", .string "LocationShare")]).render

/-! ## Elements -/

/-- An element with a common part only. -/
def commonElement (serviceType : Int) (businessType : Nat) (protobuf : List UInt8) :
    ElementOut :=
  { common := some { serviceType, protobuf, businessType } }

/-- Media of the given business type, which service 48 shows. -/
def commonMediaElement (businessType : Nat) (messageInfo : List UInt8) : ElementOut :=
  commonElement 48 businessType messageInfo

/-- A mention is a text with a reserve. -/
def mentionElement (display : String) (kind : Int) (uin : UInt32) (uid : String) : ElementOut :=
  { text := some {
      value := display
      reserve := some (wire.mentionExtra { kind := kind, uin := uin, field5 := 0, uid := uid }) } }

/-- Faces from 260 on are common elements. -/
def faceElement (id : UInt16) : ElementOut :=
  if id < 260 then { face := some id.toNat }
  else commonElement 33 1 (wire.standardFace id.toNat)

/-- An animated face, always of the same pack. -/
def animatedFaceElement (id : UInt16) : ElementOut :=
  commonElement 37 1 (wire.animatedFace {
    stickerPackId := "1", stickerId := "8", faceId := id.toNat, fieldFour := 1
    stickerType := 1, fieldSix := "", preview := "", fieldNine := 1 })

/-- The legacy element stands before the modern one when QQ returned it. -/
def imageElements (group : Bool) (messageInfo compatibility : List UInt8) : List ElementOut :=
  let common := commonMediaElement (if group then 20 else 10) messageInfo
  if compatibility = [] then [common]
  else if group then [{ customFace := some compatibility }, common]
  else [{ notOnlineImage := some compatibility }, common]

/-- A video, with the compatibility element in front where there is one. -/
def videoElements (group : Bool) (messageInfo compatibility : List UInt8) : List ElementOut :=
  let common := commonMediaElement (if group then 21 else 11) messageInfo
  if compatibility = [] then [common]
  else [{ video := some compatibility }, common]

/-- The parts of a medium are within their bounds. -/
def validMedia (messageInfo compatibility : List UInt8) : Bool :=
  messageInfo ≠ [] && messageInfo.length ≤ maxMediaMetadataBytes &&
    compatibility.length ≤ maxMediaCompatibilityBytes

/-- The text bytes and the elements of one segment. -/
def compileElement (targetIsGroup : Bool) (segment : OutboundSegment) :
    Except MessageDecodeError (Nat × List ElementOut) :=
  match segment with
  | .text value => do
      require (value ≠ "")
      return (value.utf8ByteSize, [{ text := some { value := value, reserve := none } }])
  | .mentionEveryone display => do
      require (validDisplay display)
      return (display.utf8ByteSize, [mentionElement wire display 1 0 ""])
  | .mention uin uid display => do
      require (uin ≠ 0 && boundedUid 128 uid && validDisplay display)
      return (display.utf8ByteSize, [mentionElement wire display 2 uin uid])
  | .face id => return (0, [faceElement wire id])
  | .animatedFace id => do
      require (260 ≤ id)
      return (0, [animatedFaceElement wire id])
  | .markdown content => do return (0, [commonElement 45 1 (← encodeMarkdown wire content)])
  | .keyboard content => do return (0, [commonElement 46 1 (← encodeKeyboard wire content)])
  | .marketFace emojiId packageId key summary => do
      return (0, [{ marketFace := some (← encodeMarketFace wire emojiId packageId key summary) }])
  | .image group messageInfo compatibility => do
      require (validMedia messageInfo compatibility)
      return (0, imageElements group messageInfo compatibility)
  | .record group messageInfo => do
      require (validMedia messageInfo [])
      return (0, [commonMediaElement (if group then 22 else 12) messageInfo])
  | .video group messageInfo compatibility => do
      require (validMedia messageInfo compatibility)
      return (0, videoElements group messageInfo compatibility)
  | .json body => do return (0, [{ lightApp := some (← compress wire body) }])
  | .location latitude longitude title content => do
      let card ← encodeLocation wire latitude longitude title content
      return (0, [{ lightApp := some (← compress wire card) }])
  | .xml body serviceId => do
      require (0 < serviceId)
      let template ← compress wire body
      return (0, [{ richMessage := some { template := template, serviceId := serviceId } }])
  | .poke kind strength => do
      require (kind ≠ 0)
      return (0, [commonElement 2 kind.toNat (wire.poke kind strength)])
  | .reply group sequence messageUid senderUin senderUid timestamp elements => do
      require (group == targetIsGroup && sequence ≠ 0 && messageUid ≠ 0 && senderUin ≠ 0 &&
        boundedUid 128 senderUid && timestamp ≠ 0 && validReplyElements elements)
      require (timestamp.toNat < 2 ^ 31)
      let source : ElementOut := { source := some {
        sequences := [sequence], senderUin := senderUin.toUInt64, timestamp := timestamp
        elements := elements, reserve := wire.sourceReserve messageUid senderUid
        toUin := 0 } }
      return (0, if group then [source, mentionElement wire "not null" 2 0 senderUid]
        else [source])

/-- The elements of all segments; the bound of the text is on all together. -/
def compileElements (targetIsGroup : Bool) (segments : List OutboundSegment) :
    Except MessageDecodeError (List ElementOut) := do
  require (1 ≤ segments.length && segments.length ≤ maxOutboundElements)
  let produced ← segments.mapM (compileElement wire targetIsGroup)
  require ((produced.map Prod.fst).sum ≤ maxTextBytes)
  return produced.flatMap Prod.snd

/-! ## Requests and responses -/

/-- A message goes to a number and an id, or to a group. -/
def routingHead : SendTextTarget → Except MessageDecodeError RoutingHead
  | .private uin uid =>
      if uin ≠ 0 ∧ boundedUid 128 uid = true then .ok (.c2c uin uid) else .error .rejected
  | .group groupCode => if groupCode ≠ 0 then .ok (.group groupCode) else .error .rejected

/-- A private message carries the time of the request, which has to fit an `i32`. -/
def messageControl (input : SendMessageInput) : Except MessageDecodeError (Option UInt32) :=
  match input.target with
  | .group _ => .ok none
  | .private _ _ =>
      if input.unixSeconds.toNat < 2 ^ 31 then .ok (some input.unixSeconds)
      else .error .rejected

/-- The request that sends a message, once all its parts pass their checks. -/
def encodeMessage (input : SendMessageInput) : Except MessageDecodeError (List UInt8) := do
  require (1 ≤ input.segments.length && input.segments.length ≤ maxOutboundElements &&
    input.clientSequence ≠ 0 && input.random ≠ 0)
  let routing ← routingHead input.target
  let control ← messageControl input
  let elements ← compileElements wire input.target.isGroup input.segments
  return wire.message {
    routing := routing, messageType := 1, subtype := 0, c2cCommand := 0, elements := elements
    clientSequence := input.clientSequence, random := input.random, control := control }

/-- A successful response has a sequence. -/
def parseSendMessageResponse (input : List UInt8) :
    Except MessageDecodeError SendTextOutcome := do
  let response ← okOr .rejected (wire.sendResponse input)
  let sequence := response.groupSequence.getD response.privateSequence
  rejectIf .rejected (response.result = 0 ∧ sequence = 0)
  return { result := response.result, sequence := sequence, timestamp := response.timestamp }

end Encoders

/-- The recipient of an accepted request. -/
def ValidTarget : SendTextTarget → Prop
  | .private uin uid => uin ≠ 0 ∧ boundedUid 128 uid = true
  | .group groupCode => groupCode ≠ 0

theorem encodeMessage_target {wire : OutboundWire} {input : SendMessageInput}
    {body : List UInt8} (hencode : encodeMessage wire input = .ok body) :
    ValidTarget input.target := by
  obtain ⟨_, -, hencode⟩ := bind_eq_ok_iff.mp hencode
  obtain ⟨routing, hrouting, -⟩ := bind_eq_ok_iff.mp hencode
  cases htarget : input.target with
  | group groupCode =>
      rw [htarget, routingHead] at hrouting
      split at hrouting
      · next hcode => exact hcode
      · cases hrouting
  | «private» uin uid =>
      rw [htarget, routingHead] at hrouting
      split at hrouting
      · next hvalid => exact hvalid
      · cases hrouting

/-- An accepted message has a sequence. -/
theorem parseSendMessageResponse_sequence {wire : OutboundWire} {input : List UInt8}
    {outcome : SendTextOutcome} (hparse : parseSendMessageResponse wire input = .ok outcome)
    (hresult : outcome.result = 0) : outcome.sequence ≠ 0 := by
  obtain ⟨response, -, hparse⟩ := bind_eq_ok_iff.mp hparse
  obtain ⟨_, hgood, hparse⟩ := bind_eq_ok_iff.mp hparse
  cases hparse
  intro hzero
  exact rejectIf_eq_ok_iff.mp hgood ⟨hresult, hzero⟩

end Message
end Lirvena
