import Lirvena.Lib.Json
import Lirvena.Message.Envelope

/-!
# Rich text

The body of an ordinary message: a list of elements, each kept with its bytes and
projected to one segment.  An element that carries two projections, or none, is
`unsupported`; an element with a malformed part rejects the whole body.  The
protobuf decoders, zlib, the JSON parser and the XML reader come from libraries
and are fields of `RichTextWire`.
-/

namespace Lirvena
namespace Message

open Lib

/-- The longest rich-text body that is decoded. -/
def maxRichTextLen : Nat := 1024 * 1024

/-- The most elements of one body. -/
def maxElements : Nat := 512

/-- The longest encoding of one element. -/
def maxElementLen : Nat := 256 * 1024

/-- The longest text of a text element. -/
def maxTextLen : Nat := 64 * 1024

/-- The longest user id that a mention names. -/
def maxUserLen : Nat := 128

/-- The bound of a rich payload, compressed as well as inflated. -/
def maxRichBytes : Nat := 1024 * 1024

/-- The longest resource id of a forwarded message. -/
def maxResourceIdBytes : Nat := 512

/-! ## Segments -/

/-- Whom a mention is about, as far as the element says it. -/
inductive MentionTarget where
  | everyone
  | account (uin : Nat)
  | user (uid : String)
  | unresolved
  deriving DecidableEq

/-- A mention, with the text that stands for it in the message. -/
structure MentionSegment where
  display : String
  target : MentionTarget
  deriving DecidableEq

/-- The two tables that the number of a face is looked up in. -/
inductive FaceKind where
  | standard
  | animated
  deriving DecidableEq

/-- A built-in face. -/
structure FaceSegment where
  id : Nat
  kind : FaceKind
  deriving DecidableEq

/-- A face of a package from the market; its id is shown in hexadecimal. -/
structure MarketFaceSegment where
  emojiId : String
  packageId : Int
  key : String
  summary : String
  deriving DecidableEq

/-- What an element says of a media file; a digest is in upper-case hexadecimal. -/
structure MediaFile where
  uuid : Option String
  name : String
  digest : Option String
  sha1 : Option String
  remoteReference : Option String
  size : Nat
  width : Nat
  height : Nat
  durationSeconds : Nat
  deriving DecidableEq

/-- Whether a media file belongs to a direct or a group conversation. -/
inductive MediaScope where
  | unknown
  | direct
  | group
  deriving DecidableEq

/-- An image, of either the current or the compatibility elements. -/
structure ImageSegment where
  file : MediaFile
  scope : MediaScope
  summary : Option String
  subtype : Nat
  deriving DecidableEq

/-- A video; the compatibility element does not tell its scope. -/
structure VideoSegment where
  file : MediaFile
  scope : MediaScope
  deriving DecidableEq

/-- A voice message. -/
structure VoiceSegment where
  file : MediaFile
  scope : MediaScope
  deriving DecidableEq

/-- A file in the file store of a group. -/
structure GroupFileSegment where
  busId : Nat
  fileId : String
  name : String
  size : Nat
  deriving DecidableEq

/-- A shared location; the coordinates are kept as the text that was sent. -/
structure LocationSegment where
  latitude : String
  longitude : String
  title : String
  content : String
  deriving DecidableEq

/-- A rich message in XML that is no forwarded message. -/
structure XmlSegment where
  body : String
  serviceId : Int
  deriving DecidableEq

/-- A poke; its kind is never zero. -/
structure PokeSegment where
  kind : Nat
  strength : Nat
  deriving DecidableEq

/-- QQ correlation carried by an incoming reply; `decode_source` is its only
constructor and rejects the zero values. -/
structure ReplySegment where
  sequence : UInt32
  messageUid : UInt64
  sequence_ne : sequence ≠ 0
  messageUid_ne : messageUid ≠ 0
  deriving DecidableEq

/-- A forwarded message, by the id under which its content is fetched. -/
structure ForwardSegment where
  resourceId : String
  deriving DecidableEq

/-- Closed initial set of message segments. -/
inductive Segment where
  | text (text : String)
  | mention (mention : MentionSegment)
  | face (face : FaceSegment)
  | marketFace (face : MarketFaceSegment)
  | image (image : ImageSegment)
  | video (video : VideoSegment)
  | voice (voice : VoiceSegment)
  | file (file : GroupFileSegment)
  | markdown (content : String)
  | json (body : String)
  | location (location : LocationSegment)
  | xml (xml : XmlSegment)
  | poke (poke : PokeSegment)
  | reply (reply : ReplySegment)
  | forward (forward : ForwardSegment)
  | unsupported
  deriving DecidableEq

/-- One original element and its conservative projection. -/
structure RichTextElement where
  segment : Segment
  encoded : List UInt8
  deriving DecidableEq

/-- A decoded body: its elements in order, and the parts beside them, kept as bytes. -/
structure RichTextMessage where
  elements : List RichTextElement
  attributes : Option (List UInt8)
  file : Option (List UInt8)
  voice : Option (List UInt8)
  deriving DecidableEq

/-! ## Wire structures -/

/-- The protobuf message of a body, its elements still encoded. -/
structure RichTextBodyWire where
  attributes : Option (List UInt8)
  elements : List (List UInt8)
  file : Option (List UInt8)
  voice : Option (List UInt8)

/-- The protobuf message of an element, each field still encoded. -/
structure ElementWire where
  text : Option (List UInt8)
  face : Option (List UInt8)
  directImage : Option (List UInt8)
  transfer : Option (List UInt8)
  marketFace : Option (List UInt8)
  groupImage : Option (List UInt8)
  richMessage : Option (List UInt8)
  video : Option (List UInt8)
  lightApp : Option (List UInt8)
  common : Option (List UInt8)
  source : Option (List UInt8)

/-- The message that a reply refers to. -/
structure SourceMessageWire where
  sequences : List UInt32
  reserve : Option (List UInt8)

/-- The reserve of a reply, which holds the message's unique id. -/
structure SourceMessageReserveWire where
  messageUid : UInt64

/-- A rich message: a service number and a compressed template. -/
structure RichMessageWire where
  template : List UInt8
  serviceId : Option Int

/-- A light application, compressed. -/
structure LightAppWire where
  data : List UInt8

/-- The reserve of a compatibility image. -/
structure ImageReserveWire where
  subtype : Int
  summary : String

/-- The compatibility image of a private message. -/
structure DirectImageWire where
  name : String
  size : Nat
  digest : List UInt8
  height : Nat
  width : Nat
  remoteReference : String
  reserve : Option ImageReserveWire

/-- The compatibility image of a group message, whose measures are signed. -/
structure GroupImageWire where
  name : String
  digest : List UInt8
  remoteReference : String
  width : Int
  height : Int
  size : Nat
  reserve : Option ImageReserveWire

/-- The compatibility video, whose numbers are signed. -/
structure LegacyVideoWire where
  uuid : String
  digest : List UInt8
  name : String
  durationSeconds : Int
  size : Int
  thumbnailWidth : Int
  thumbnailHeight : Int
  width : Int
  height : Int

/-- A text element; a mention is a text with attributes or a reserve. -/
structure TextWire where
  text : Option String
  legacyAttributes : Option (List UInt8)
  reserve : Option (List UInt8)

/-- The compatibility face. -/
structure FaceWire where
  index : Option Int

/-- The common element, whose service and business types select its content. -/
structure CommonWire where
  serviceType : Int
  body : Option (List UInt8)
  businessType : Nat

/-- The reserve of a text that is a mention. -/
structure MentionWire where
  mentionType : Int
  account : Nat
  user : String

/-- The body of a common element of service 33. -/
structure StandardFaceWire where
  faceId : Nat

/-- The body of a common element of service 37. -/
structure AnimatedFaceWire where
  faceId : Option Int

/-- A face of the market. -/
structure MarketFaceWire where
  summary : String
  faceId : List UInt8
  packageId : Int
  key : String

/-- The description of a media file; zero and the empty string stand for no value. -/
structure MediaFileWire where
  size : Nat
  digest : String
  sha1 : String
  name : String
  width : Nat
  height : Nat
  durationSeconds : Nat

/-- A media file with its id in the store. -/
structure MediaIndexWire where
  info : Option MediaFileWire
  uuid : String

/-- Where a picture is fetched. -/
structure PictureWire where
  remoteReference : String

/-- One of the files of a media element. -/
structure MediaBodyWire where
  index : Option MediaIndexWire
  picture : Option PictureWire

/-- What a media element adds for an image. -/
structure ImageExtensionWire where
  subtype : Nat
  summary : String

/-- What a media element adds to its files. -/
structure MediaExtensionWire where
  image : Option ImageExtensionWire

/-- The body of a common element that carries media. -/
structure MediaInfoWire where
  bodies : List MediaBodyWire
  extension : Option MediaExtensionWire

/-- A transfer element: its kind and a value in a format of its own. -/
structure TransferWire where
  kind : Int
  value : List UInt8

/-- The file that a group transfer announces. -/
structure FileInfoWire where
  busId : Nat
  fileId : String
  size : Int
  name : String

/-- The inner layer of a group transfer. -/
structure FileInnerWire where
  info : Option FileInfoWire

/-- The outer layer of a group transfer. -/
structure GroupFileExtraWire where
  inner : Option FileInnerWire

/-- The body of a markdown element. -/
structure MarkdownBodyWire where
  content : String

/-- The body of a poke element. -/
structure PokeWire where
  kind : Nat
  strength : Nat

/-- The library functions that the rich-text decoder calls. -/
structure RichTextWire where
  richText : List UInt8 → Option RichTextBodyWire
  element : List UInt8 → Option ElementWire
  source : List UInt8 → Option SourceMessageWire
  sourceReserve : List UInt8 → Option SourceMessageReserveWire
  richMessage : List UInt8 → Option RichMessageWire
  lightApp : List UInt8 → Option LightAppWire
  directImage : List UInt8 → Option DirectImageWire
  groupImage : List UInt8 → Option GroupImageWire
  video : List UInt8 → Option LegacyVideoWire
  text : List UInt8 → Option TextWire
  face : List UInt8 → Option FaceWire
  common : List UInt8 → Option CommonWire
  mention : List UInt8 → Option MentionWire
  standardFace : List UInt8 → Option StandardFaceWire
  animatedFace : List UInt8 → Option AnimatedFaceWire
  marketFace : List UInt8 → Option MarketFaceWire
  mediaInfo : List UInt8 → Option MediaInfoWire
  transfer : List UInt8 → Option TransferWire
  groupFileExtra : List UInt8 → Option GroupFileExtraWire
  markdown : List UInt8 → Option MarkdownBodyWire
  poke : List UInt8 → Option PokeWire
  /-- Inflates a zlib stream and stops after the given number of bytes. -/
  inflate : Nat → List UInt8 → Option (List UInt8)
  /-- `serde_json::from_str`. -/
  json : String → Option Json
  /-- The normalized `m_resid` attribute of the first `msg` element. -/
  messageResource : String → Option String

/-! ## Shared checks -/

/-- `Err(MessageDecodeError)` when the check fails. -/
def require (good : Bool) : Except MessageDecodeError Unit :=
  rejectIf .rejected (good = false)

@[simp] theorem require_eq_ok_iff {good : Bool} : require good = .ok () ↔ good = true := by
  rw [require, rejectIf_eq_ok_iff, Bool.not_eq_false]

/-- An empty string is absent; any other has to be valid. -/
def optionalText (maximum : Nat) (value : String) :
    Except MessageDecodeError (Option String) :=
  if value = "" then .ok none else do
    require (validText value maximum)
    return some value

/-- `u32::try_from` on a signed field. -/
def nonnegative (value : Int) : Except MessageDecodeError Nat :=
  if 0 ≤ value then .ok value.toNat else .error .rejected

/-- A resource id that can be put into a request: not blank, bounded, without control characters.
-/
def validResourceId (value : String) : Bool :=
  value ≠ "" && !value.toList.all isWhitespace && value.utf8ByteSize ≤ maxResourceIdBytes &&
    !hasControl value

section Decoders

variable (wire : RichTextWire)

/-! ## Rich content -/

/-- A rich payload: one byte 1 and a zlib stream of text. -/
def decompress (input : List UInt8) : Except MessageDecodeError String :=
  match input with
  | [] => .error .rejected
  | first :: stream => do
      require (2 ≤ input.length && input.length ≤ maxRichBytes && first == 1)
      let decoded ← okOr .rejected (wire.inflate (maxRichBytes + 1) stream)
      require (decoded.length ≤ maxRichBytes)
      let text ← okOr .rejected (String.fromUTF8? ⟨decoded.toArray⟩)
      require (text ≠ "" && text.utf8ByteSize ≤ maxRichBytes && !containsNul text)
      return text

/-- A poke has a kind; its strength may be anything. -/
def decodePoke (input : List UInt8) : Except MessageDecodeError PokeSegment := do
  require (input ≠ [] && input.length ≤ maxRichBytes)
  let poke ← okOr .rejected (wire.poke input)
  require (poke.kind ≠ 0)
  return { kind := poke.kind, strength := poke.strength }

/-- Markdown of at most 16 KiB without NUL. -/
def decodeMarkdown (input : List UInt8) : Except MessageDecodeError String := do
  let body ← okOr .rejected (wire.markdown input)
  require (body.content ≠ "" && body.content.utf8ByteSize ≤ 16 * 1024 &&
    !containsNul body.content)
  return body.content

/-! ## Media -/

/-- A digest of the wire: an even number of hexadecimal digits, put into upper case. -/
def normalizedDigest (value : String) : Except MessageDecodeError (Option String) :=
  if value = "" then .ok none else do
    require (value.utf8ByteSize ≤ 128 && value.utf8ByteSize % 2 == 0 &&
      value.toList.all isHexDigit)
    return some (String.ofList (value.toList.map Char.toUpper))

/-- The file of a media body, whose parts have to be there and within their bounds. -/
def mediaFile (body : MediaBodyWire) : Except MessageDecodeError MediaFile := do
  let index ← okOr .rejected body.index
  let info ← okOr .rejected index.info
  require (validText index.uuid 256)
  require (validText info.name 1024)
  let digest ← normalizedDigest info.digest
  let sha1 ← normalizedDigest info.sha1
  let remoteReference ←
    optionalText 8192 (body.picture.elim "" PictureWire.remoteReference)
  return {
    uuid := nonempty index.uuid
    name := info.name
    digest := digest
    sha1 := sha1
    remoteReference := remoteReference
    size := info.size
    width := info.width
    height := info.height
    durationSeconds := info.durationSeconds }

/-- The first of at most eight files is the one that is shown. -/
def decodeMediaInfo (input : List UInt8) :
    Except MessageDecodeError (MediaInfoWire × MediaFile) := do
  let media ← okOr .rejected (wire.mediaInfo input)
  require (media.bodies.length ≤ 8)
  let body ← okOr .rejected media.bodies.head?
  let file ← mediaFile body
  return (media, file)

/-- An image of the given scope, with the summary and subtype of the extension, if any. -/
def decodeMediaImage (scope : MediaScope) (input : List UInt8) :
    Except MessageDecodeError (Option Segment) := do
  let (media, file) ← decodeMediaInfo wire input
  let image := media.extension.bind MediaExtensionWire.image
  let summary ← optionalText 512 (image.elim "" ImageExtensionWire.summary)
  return some (.image {
    file := file
    scope := scope
    summary := summary
    subtype := image.elim 0 ImageExtensionWire.subtype })

/-- `media_decode::decode`: the business type selects the kind and the scope. -/
def decodeMedia (businessType : Nat) (input : List UInt8) :
    Except MessageDecodeError (Option Segment) :=
  match businessType with
  | 10 => decodeMediaImage wire .direct input
  | 20 => decodeMediaImage wire .group input
  | 11 => do return some (.video ⟨(← decodeMediaInfo wire input).2, .direct⟩)
  | 21 => do return some (.video ⟨(← decodeMediaInfo wire input).2, .group⟩)
  | 12 => do return some (.voice ⟨(← decodeMediaInfo wire input).2, .direct⟩)
  | 22 => do return some (.voice ⟨(← decodeMediaInfo wire input).2, .group⟩)
  | _ => .ok none

/-- The fields of a compatibility descriptor. -/
structure LegacyMediaSpec where
  uuid : Option String
  name : String
  digest : List UInt8
  remoteReference : String
  size : Nat
  width : Nat
  height : Nat
  durationSeconds : Nat

/-- The file of a compatibility element; its digest comes as bytes. -/
def legacyMediaFile (spec : LegacyMediaSpec) : Except MessageDecodeError MediaFile := do
  require (validText spec.name 1024)
  require (spec.uuid.all (validText · 256))
  let remoteReference ← optionalText 8192 spec.remoteReference
  require (spec.digest.length ≤ 64)
  return {
    uuid := spec.uuid.bind nonempty
    name := spec.name
    digest := if spec.digest = [] then none else some (hexText upperHexDigit spec.digest)
    sha1 := none
    remoteReference := remoteReference
    size := spec.size
    width := spec.width
    height := spec.height
    durationSeconds := spec.durationSeconds }

/-- A negative subtype of a compatibility image is 0. -/
def legacySubtype (reserve : Option ImageReserveWire) : Nat :=
  reserve.elim 0 (fun value => value.subtype.toNat)

/-- The summary of a compatibility image, where the reserve has one. -/
def legacySummary (reserve : Option ImageReserveWire) :
    Except MessageDecodeError (Option String) :=
  optionalText 512 (reserve.elim "" ImageReserveWire.summary)

/-- The compatibility image of a private message has no id in the store. -/
def decodeDirectImage (input : List UInt8) : Except MessageDecodeError (Option Segment) := do
  let image ← okOr .rejected (wire.directImage input)
  let file ← legacyMediaFile {
    uuid := none
    name := image.name
    digest := image.digest
    remoteReference := image.remoteReference
    size := image.size
    width := image.width
    height := image.height
    durationSeconds := 0 }
  let summary ← legacySummary image.reserve
  return some (.image {
    file := file
    scope := .direct
    summary := summary
    subtype := legacySubtype image.reserve })

/-- The compatibility image of a group message; a negative measure rejects it. -/
def decodeGroupImage (input : List UInt8) : Except MessageDecodeError (Option Segment) := do
  let image ← okOr .rejected (wire.groupImage input)
  let width ← nonnegative image.width
  let height ← nonnegative image.height
  let file ← legacyMediaFile {
    uuid := none
    name := image.name
    digest := image.digest
    remoteReference := image.remoteReference
    size := image.size
    width := width
    height := height
    durationSeconds := 0 }
  let summary ← legacySummary image.reserve
  return some (.image {
    file := file
    scope := .group
    summary := summary
    subtype := legacySubtype image.reserve })

/-- The compatibility video, measured by its thumbnail where it has no measures itself. -/
def decodeVideo (input : List UInt8) : Except MessageDecodeError (Option Segment) := do
  let video ← okOr .rejected (wire.video input)
  let width ← nonnegative (if video.width = 0 then video.thumbnailWidth else video.width)
  let height ← nonnegative (if video.height = 0 then video.thumbnailHeight else video.height)
  let size ← nonnegative video.size
  let durationSeconds ← nonnegative video.durationSeconds
  let file ← legacyMediaFile {
    uuid := some video.uuid
    name := video.name
    digest := video.digest
    remoteReference := ""
    size := size
    width := width
    height := height
    durationSeconds := durationSeconds }
  return some (.video { file := file, scope := .unknown })

/-- The kind of a transfer element that announces a group file. -/
def groupFileType : Int := 24

/-- A group file: one byte, a big-endian length, and a body that fills the rest. -/
def decodeGroupFile (input : List UInt8) : Except MessageDecodeError (Option Segment) := do
  let transfer ← okOr .rejected (wire.transfer input)
  if transfer.kind ≠ groupFileType then return none else
  require (3 ≤ transfer.value.length &&
    3 + beNat (slice transfer.value 1 3) == transfer.value.length)
  let extra ← okOr .rejected (wire.groupFileExtra (transfer.value.drop 3))
  let info ← okOr .rejected (extra.inner.bind FileInnerWire.info)
  let size ← nonnegative info.size
  require (info.busId ≠ 0 && info.fileId ≠ "" && info.name ≠ "" && size ≠ 0 &&
    validText info.fileId 4096 && validText info.name 4096)
  return some (.file {
    busId := info.busId
    fileId := info.fileId
    name := info.name
    size := size })

/-! ## Text, faces and structured content -/

/-- A nonzero account number in the fixed bytes 7 to 10. -/
def legacyAccount (attributes : List UInt8) : Option Nat :=
  if 11 ≤ attributes.length ∧ beNat (slice attributes 7 11) ≠ 0 then
    some (beNat (slice attributes 7 11))
  else
    none

/-- The target of a mention: everyone, the account of the reserve, the account of the legacy
attributes, or the user id, whichever comes first. -/
def mentionTarget (mention : MentionWire) (legacy : Option (List UInt8)) : MentionTarget :=
  if mention.mentionType = 1 ∨ mention.user = "all" then .everyone
  else if mention.account ≠ 0 then .account mention.account
  else
    match legacy.bind legacyAccount with
    | some account => .account account
    | none => if mention.user ≠ "" then .user mention.user else .unresolved

/-- A text element without a text has no projection; one with a mention in its reserve is the
mention. -/
def decodeText (input : List UInt8) : Except MessageDecodeError (Option Segment) := do
  let body ← okOr .rejected (wire.text input)
  match body.text with
  | none => return none
  | some text =>
      require (validText text maxTextLen)
      -- reserve bytes that are no mention leave the element plain text
      match (body.reserve.bind wire.mention).filter
          (fun mention => mention.mentionType = 1 ∨ mention.mentionType = 2) with
      | none => return some (.text text)
      | some mention =>
          require (validText mention.user maxUserLen)
          return some (.mention {
            display := text
            target := mentionTarget mention body.legacyAttributes })

/-- A compatibility face with a negative number has no projection. -/
def decodeFace (input : List UInt8) : Except MessageDecodeError (Option Segment) := do
  let face ← okOr .rejected (wire.face input)
  return (face.index.filter (0 ≤ ·)).map (fun id => .face ⟨id.toNat, .standard⟩)

/-- A face of the market with all its parts; it shows no face without an id, a key or a name. -/
def decodeMarketFace (input : List UInt8) : Except MessageDecodeError (Option Segment) := do
  let face ← okOr .rejected (wire.marketFace input)
  require (face.faceId ≠ [] && face.faceId.length * 2 ≤ 128 && 0 < face.packageId &&
    face.key ≠ "" && validText face.key (4 * 1024) &&
    face.summary ≠ "" && validText face.summary 1024)
  return some (.marketFace {
    emojiId := hexText lowerHexDigit face.faceId
    packageId := face.packageId
    key := face.key
    summary := face.summary })

/-- The face of a common element; a malformed one is no face. -/
def commonFace (serviceType : Int) (body : List UInt8) : Option FaceSegment :=
  if serviceType = 33 then
    (wire.standardFace body).map (fun face => ⟨face.faceId, .standard⟩)
  else if serviceType = 37 then
    ((wire.animatedFace body).bind (fun face => face.faceId.filter (0 ≤ ·))).map
      (fun id => ⟨id.toNat, .animated⟩)
  else
    none

/-- A common element by its service type: a face, media, markdown or a poke, and none else. -/
def decodeCommon (input : List UInt8) : Except MessageDecodeError (Option Segment) := do
  let common ← okOr .rejected (wire.common input)
  match common.body with
  | none => return none
  | some body =>
      match commonFace wire common.serviceType body with
      | some face => return some (.face face)
      | none =>
          if common.serviceType = 48 then
            decodeMedia wire common.businessType body
          else if common.serviceType = 45 ∧ common.businessType = 1 then
            (fun content => some (.markdown content)) <$> decodeMarkdown wire body
          else if common.serviceType = 2 then
            (fun poke => some (.poke poke)) <$> decodePoke wire body
          else
            return none

/-- The forwarded message that an XML template names, if its id is valid. -/
def forwardFromXml (body : String) : Option String :=
  (wire.messageResource body).filter (fun resource => validResourceId resource)

/-- Service 1 is JSON and service 35 is XML, which may name a forwarded message. -/
def decodeRichMessage (input : List UInt8) : Except MessageDecodeError (Option Segment) := do
  let rich ← okOr .rejected (wire.richMessage input)
  match rich.serviceId with
  | some 1 => return some (.json (← decompress wire rich.template))
  | some 35 =>
      let body ← decompress wire rich.template
      match forwardFromXml wire body with
      | some resourceId => return some (.forward ⟨resourceId⟩)
      | none => return some (.xml ⟨body, 35⟩)
  | _ => return none

/-- A string of a JSON value within the bound. -/
def boundedString (maximum : Nat) (value : Json) : Option String :=
  value.asStr.filter (fun text => validText text maximum)

/-- The location that a light application of the map shows. -/
def LocationSegment.fromLightApp (value : Json) : Option LocationSegment := do
  let app ← (← value.get "app").asStr
  if app ≠ "com.tencent.map" then none else
  let location ← value.pointer ["meta", "Location.Search"]
  let latitude ← boundedString 32 (← location.get "lat")
  let longitude ← boundedString 32 (← location.get "lng")
  let title ← boundedString 256 (← location.get "name")
  let content ← boundedString 1024 (← location.get "address")
  return { latitude := latitude, longitude := longitude, title := title, content := content }

/-- The forwarded message that a light application names. -/
def forwardFromJsonValue (value : Json) : Option String := do
  let app ← (← value.get "app").asStr
  if app ≠ "com.tencent.multimsg" then none else
  let resource ← (← value.pointer ["meta", "detail", "resid"]).asStr
  if validResourceId resource then some resource else none

/-- A light application that is no JSON text stays an opaque body. -/
def projectLightApp (body : String) : Segment :=
  match wire.json body with
  | none => .json body
  | some value =>
      match LocationSegment.fromLightApp value with
      | some location => .location location
      | none =>
          match forwardFromJsonValue value with
          | some resourceId => .forward ⟨resourceId⟩
          | none => .json body

/-- A light application is text; what it shows is decided by its JSON. -/
def decodeLightApp (input : List UInt8) : Except MessageDecodeError (Option Segment) := do
  let app ← okOr .rejected (wire.lightApp input)
  let body ← decompress wire app.data
  return some (projectLightApp wire body)

/-- A reply to one message, with its nonzero sequence and unique id. -/
def decodeSource (input : List UInt8) : Except MessageDecodeError (Option Segment) := do
  let source ← okOr .rejected (wire.source input)
  match source.sequences with
  | [sequence] =>
      let bytes ← okOr .rejected source.reserve
      let reserve ← okOr .rejected (wire.sourceReserve bytes)
      if hsequence : sequence = 0 then .error .rejected
      else if huid : reserve.messageUid = 0 then .error .rejected
      else return some (.reply ⟨sequence, reserve.messageUid, hsequence, huid⟩)
  | _ => .error .rejected

/-! ## Elements -/

/-- The projection of one field of an element. -/
def projectField (decode : List UInt8 → Except MessageDecodeError (Option Segment)) :
    Option (List UInt8) → Except MessageDecodeError (Option Segment)
  | none => .ok none
  | some bytes => decode bytes

/-- All projections of an element, in the decoder's order. -/
def projections (element : ElementWire) : List (Except MessageDecodeError (Option Segment)) :=
  [projectField (decodeText wire) element.text,
    projectField (decodeFace wire) element.face,
    projectField (decodeMarketFace wire) element.marketFace,
    projectField (decodeCommon wire) element.common,
    projectField (decodeDirectImage wire) element.directImage,
    projectField (decodeGroupFile wire) element.transfer,
    projectField (decodeGroupImage wire) element.groupImage,
    projectField (decodeVideo wire) element.video,
    projectField (decodeRichMessage wire) element.richMessage,
    projectField (decodeLightApp wire) element.lightApp,
    projectField (decodeSource wire) element.source]

/-- The segment of an element: its only projection. -/
def onlySegment : List Segment → Segment
  | [segment] => segment
  | _ => .unsupported

/-- An element without bytes is unsupported; any other has to decode, with each of its fields. -/
def decodeElement (encoded : List UInt8) : Except MessageDecodeError RichTextElement :=
  if encoded = [] then
    .ok { segment := .unsupported, encoded := encoded }
  else do
    let element ← okOr .rejected (wire.element encoded)
    let projected ← (projections wire element).mapM id
    return { segment := onlySegment (projected.filterMap id), encoded := encoded }

/-- Decodes a bounded rich-text body while preserving every original element. -/
def decodeRichText (input : List UInt8) : Except MessageDecodeError RichTextMessage := do
  require (input ≠ [] && input.length ≤ maxRichTextLen)
  let rich ← okOr .rejected (wire.richText input)
  require (rich.elements.length ≤ maxElements &&
    rich.elements.all (fun element => element.length ≤ maxElementLen))
  let elements ← rich.elements.mapM (decodeElement wire)
  return {
    elements := elements
    attributes := rich.attributes
    file := rich.file
    voice := rich.voice }

end Decoders

end Message
end Lirvena
