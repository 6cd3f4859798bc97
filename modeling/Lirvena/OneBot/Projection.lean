import Lirvena.Message.RichText

/-!
# Projection of inbound messages

An authenticated message as the JSON of a `OneBot` message event and of the
record that `get_msg` answers with.  A message is projected when its class has a
chat and its sender a number; `projectMessageRecord_eq` gives the record, and
`recordLen` its length in bytes as a sum over the message.
-/

namespace Lirvena
namespace OneBot

open Lib
open Message

/-! ## Inbound messages -/

/-- An account that can be announced: a number and a bounded nickname without NUL. -/
def validIdentity (qqId : UInt64) (nickname : String) : Bool :=
  qqId ≠ 0 && nickname ≠ "" && nickname.utf8ByteSize ≤ 512 && !containsNul nickname

/-- The QQ identity of one authenticated account. -/
structure AccountIdentity where
  qqId : UInt64
  nickname : String
  valid : validIdentity qqId nickname = true
  deriving DecidableEq

/-- Why an event is not published. -/
inductive EventHubError where
  | invalidEvent
  deriving DecidableEq

/-- One authenticated incoming message. -/
structure InboundMessage where
  account : AccountIdentity
  messageId : UInt32
  envelope : MessageEnvelope
  richText : Option RichTextMessage
  replyIds : List (Option UInt32)
  deriving DecidableEq

/-- The elements of a decoded body; a message without a body has none. -/
def elementsOf (richText : Option RichTextMessage) : List RichTextElement :=
  richText.elim [] RichTextMessage.elements

namespace InboundMessage

/-- A message as it is received, before its replies are resolved. -/
def new (account : AccountIdentity) (messageId : UInt32) (envelope : MessageEnvelope)
    (richText : Option RichTextMessage) : InboundMessage where
  account := account
  messageId := messageId
  envelope := envelope
  richText := richText
  replyIds := []

/-- Attaches one resolved identifier, or none, for each element. -/
def withReplyIds (message : InboundMessage) (replyIds : List (Option UInt32)) :
    Except EventHubError InboundMessage := do
  rejectIf .invalidEvent (replyIds.length ≠ (elementsOf message.richText).length ∨
    some 0 ∈ replyIds)
  return { message with replyIds := replyIds }

/-- The stored message that an element replies to, if it was found. -/
def replyId (message : InboundMessage) (index : Nat) : Option UInt32 :=
  message.replyIds[index]?.join

/-- The elements of the body, each with its resolved reply. -/
def repliedElements (message : InboundMessage) : List (RichTextElement × Option UInt32) :=
  (elementsOf message.richText).zipIdx.map
    (fun indexed => (indexed.1, message.replyId indexed.2))

end InboundMessage

/-! ## Identifiers -/

/-- How numbers of accounts, groups and messages are shown. -/
inductive IdFormat where
  | string
  | number
  deriving DecidableEq

/-- A number in the configured form. -/
def IdFormat.value : IdFormat → Nat → Json
  | .string, id => .string (Json.decimalText id)
  | .number, id => .integer id

/-! ## Segments -/

/-- A segment object: its kind and its data. -/
def segmentValue (kind : String) (data : List (String × Json)) : Json :=
  .ofFields [("type", .string kind), ("data", .ofFields data)]

/-- An absent text is null. -/
def optionalString : Option String → Json
  | none => .null
  | some text => .string text

/-- Whom a mention names; one that is not resolved shows its text. -/
def mentionText (mention : MentionSegment) : String :=
  match mention.target with
  | .everyone => "all"
  | .account uin => Json.decimalText uin
  | .user uid => uid
  | .unresolved => mention.display

/-- Where the picture of a market face is found. -/
def MarketFaceSegment.assetUrl (face : MarketFaceSegment) : String :=
  "https://gxh.vip.qq.com/club/item/parcel/item/" ++
    String.ofList (face.emojiId.toList.take 2) ++ "/" ++ face.emojiId ++ "/raw300.gif"

/-- The id of a file in the store, or its name where it has none. -/
def mediaFileName (file : MediaFile) : String :=
  file.uuid.getD file.name

/-- A segment of a medium: its file and where it is fetched. -/
def mediaSegment (kind : String) (file : MediaFile) : Json :=
  segmentValue kind [("file", .string (mediaFileName file)),
    ("url", optionalString file.remoteReference)]

/-- A segment that says only how long its element is. -/
def unsupportedSegment (element : RichTextElement) : Json :=
  segmentValue "lirvena_unsupported" [("encoded_size", .integer element.encoded.length)]

/-- Two animated faces have segments of their own. -/
def faceSegment (face : FaceSegment) : Json :=
  if face.kind = .animated ∧ face.id = 358 then segmentValue "dice" []
  else if face.kind = .animated ∧ face.id = 359 then segmentValue "rps" []
  else segmentValue "face" [("id", .integer face.id)]

/-- The segment of an element; a reply shows the stored message, if it was found. -/
def segmentJson (element : RichTextElement) (replyId : Option UInt32) : Json :=
  match element.segment with
  | .text text => segmentValue "text" [("text", .string text)]
  | .mention mention => segmentValue "at" [("qq", .string (mentionText mention))]
  | .face face => faceSegment face
  | .marketFace face =>
      segmentValue "mface" [("url", .string (MarketFaceSegment.assetUrl face)),
        ("emoji_package_id", .integer face.packageId), ("emoji_id", .string face.emojiId),
        ("key", .string face.key), ("summary", .string face.summary)]
  | .image image => mediaSegment "image" image.file
  | .video video => mediaSegment "video" video.file
  | .voice voice => mediaSegment "record" voice.file
  | .file file =>
      segmentValue "file" [("file", .string file.fileId), ("name", .string file.name),
        ("size", .integer file.size)]
  | .markdown content => segmentValue "markdown" [("content", .string content)]
  | .json body => segmentValue "json" [("data", .string body)]
  | .location location =>
      segmentValue "location" [("lat", .string location.latitude),
        ("lon", .string location.longitude), ("title", .string location.title),
        ("content", .string location.content)]
  | .xml xml =>
      segmentValue "xml" [("data", .string xml.body), ("service_id", .integer xml.serviceId)]
  | .poke poke =>
      segmentValue "poke" [("type", .integer poke.kind), ("strength", .integer poke.strength),
        ("id", .integer (-1))]
  | .reply _ =>
      match replyId with
      | none => unsupportedSegment element
      | some id => segmentValue "reply" [("id", .integer id.toNat)]
  | .forward forward => segmentValue "forward" [("id", .string forward.resourceId)]
  | .unsupported => unsupportedSegment element

/-- The characters that would end a parameter of a CQ code. -/
def escapeParameterChar (char : Char) : List Char :=
  if char = '&' then "&amp;".toList
  else if char = '[' then "&#91;".toList
  else if char = ']' then "&#93;".toList
  else if char = ',' then "&#44;".toList
  else [char]

/-- A value as a parameter of a CQ code. -/
def escapeParameter (value : String) : String :=
  String.ofList (value.toList.flatMap escapeParameterChar)

/-- A segment as text; a text stands as it is. -/
def rawSegment (element : RichTextElement) (replyId : Option UInt32) : String :=
  match element.segment with
  | .text text => text
  | .mention mention => "@" ++ mention.display
  | .face face =>
      if face.kind = .animated ∧ face.id = 358 then "[CQ:dice]"
      else if face.kind = .animated ∧ face.id = 359 then "[CQ:rps]"
      else "[CQ:face,id=" ++ Json.decimalText face.id ++ "]"
  | .marketFace _ => "[CQ:mface]"
  | .image _ => "[CQ:image]"
  | .video _ => "[CQ:video]"
  | .voice _ => "[CQ:record]"
  | .file _ => "[CQ:file]"
  | .markdown _ => "[CQ:markdown]"
  | .json _ => "[CQ:json]"
  | .location location =>
      "[CQ:location,lat=" ++ location.latitude ++ ",lon=" ++ location.longitude ++ ",title=" ++
        escapeParameter location.title ++ ",content=" ++ escapeParameter location.content ++ "]"
  | .xml _ => "[CQ:xml]"
  | .poke poke =>
      "[CQ:poke,type=" ++ Json.decimalText poke.kind ++
        ",strength=" ++ Json.decimalText poke.strength ++
        "]"
  | .reply _ =>
      match replyId with
      | none => "[CQ:lirvena_unsupported]"
      | some id => "[CQ:reply,id=" ++ Json.decimalText id.toNat ++ "]"
  | .forward forward => "[CQ:forward,id=" ++ forward.resourceId ++ "]"
  | .unsupported => "[CQ:lirvena_unsupported]"

/-! ## Messages -/

/-- An event that is not shown. -/
inductive EventProjectionError where
  | rejected
  deriving DecidableEq

/-- The sender of a message, with the names that the route tells. -/
def senderFields (route : MessageRoute) (idFormat : IdFormat) : List (String × Json) :=
  let nickname := route.memberName.or route.friendName
  ("user_id", idFormat.value route.fromUin.toNat) ::
    (nickname.toList.map (fun name => ("nickname", .string name)) ++
      route.memberName.toList.map (fun name => ("card", .string name)))

/-- The same as an object. -/
def senderJson (route : MessageRoute) (idFormat : IdFormat) : Json :=
  .ofFields (senderFields route idFormat)

/-- The message type and subtype of a class; a class without a chat has none. -/
def chatTypes (envelope : MessageEnvelope) : Option (String × String) :=
  match envelope.class with
  | .private | .privateRecord | .privateFile => some ("private", "friend")
  | .group => some ("group", "normal")
  | .temporary => if envelope.route.groupUin.isSome then some ("private", "group") else none
  | _ => none

/-- A time before 1970 is shown as zero. -/
def messageTime (envelope : MessageEnvelope) : Json :=
  .integer (max envelope.timestamp 0)

/-- The event of a message; one of an unknown kind or without a sender is not shown. -/
def projectMessage (message : InboundMessage) (idFormat : IdFormat) :
    Except EventProjectionError Json := do
  let route := message.envelope.route
  let (messageType, subType) ← okOr .rejected (chatTypes message.envelope)
  rejectIf .rejected (route.fromUin = 0)
  let segments := message.repliedElements.map (fun replied => segmentJson replied.1 replied.2)
  let rawMessage := String.join
    (message.repliedElements.map (fun replied => rawSegment replied.1 replied.2))
  let fields := [("time", messageTime message.envelope),
    ("self_id", idFormat.value message.account.qqId.toNat), ("post_type", .string "message"),
    ("message_type", .string messageType), ("sub_type", .string subType),
    ("message_id", idFormat.value message.messageId.toNat),
    ("user_id", idFormat.value route.fromUin.toNat), ("message", .array segments),
    ("raw_message", .string rawMessage), ("font", .integer 0),
    ("sender", senderJson route idFormat)]
  let groupId := route.groupUin.toList.map (fun code =>
    ("group_id", idFormat.value code.toNat))
  return .ofFields (fields ++ groupId)

/-- The keys of a message that is looked up. -/
def recordKeys : List String :=
  ["time", "message_type", "message_id", "sender", "message"]

/-- The `get_msg` answer for one retained message. -/
def projectMessageRecord (message : InboundMessage) (idFormat : IdFormat) :
    Except EventProjectionError Json := do
  let event ← projectMessage message idFormat
  let kept ← recordKeys.mapM (fun key =>
    (fun value => (key, value)) <$> okOr .rejected (event.get key))
  return .ofFields (kept ++ [("real_id", idFormat.value message.messageId.toNat)])

/-! ## The record -/

/-- The message has a chat and a sender that a bot can be told about. -/
def Projectable (envelope : MessageEnvelope) : Prop :=
  (chatTypes envelope).isSome ∧ envelope.route.fromUin ≠ 0

instance (envelope : MessageEnvelope) : Decidable (Projectable envelope) :=
  inferInstanceAs (Decidable (_ ∧ _))

/-- The kind of conversation of a message, empty for one that is not shown. -/
def chatType (envelope : MessageEnvelope) : String :=
  (chatTypes envelope).elim "" Prod.fst

/-- The fields of a message that is looked up. -/
def recordFields (message : InboundMessage) (idFormat : IdFormat) : List (String × Json) :=
  [("time", messageTime message.envelope),
    ("message_type", .string (chatType message.envelope)),
    ("message_id", idFormat.value message.messageId.toNat),
    ("sender", senderJson message.envelope.route idFormat),
    ("message", .array (message.repliedElements.map (fun replied =>
      segmentJson replied.1 replied.2))),
    ("real_id", idFormat.value message.messageId.toNat)]

theorem projectMessageRecord_eq {message : InboundMessage} {idFormat : IdFormat}
    (hprojectable : Projectable message.envelope) :
    projectMessageRecord message idFormat = .ok (.ofFields (recordFields message idFormat)) := by
  obtain ⟨htypes, hsender⟩ := hprojectable
  obtain ⟨⟨messageType, subType⟩, hpair⟩ := Option.isSome_iff_exists.mp htypes
  have hchat : chatType message.envelope = messageType := by simp [chatType, hpair]
  cases hgroup : message.envelope.route.groupUin with
  | none =>
      simp [projectMessageRecord, projectMessage, recordKeys, recordFields, hpair, hchat, hgroup,
        hsender, rejectIf, Json.ofFields, Json.get, Json.lookup_insertField, okOr, bind,
        Except.bind, pure, Except.pure, Functor.map, Except.map]
  | some code =>
      simp [projectMessageRecord, projectMessage, recordKeys, recordFields, hpair, hchat, hgroup,
        hsender, rejectIf, Json.ofFields, Json.get, Json.lookup_insertField, okOr, bind,
        Except.bind, pure, Except.pure, Functor.map, Except.map]

theorem projectMessageRecord_ok_iff {message : InboundMessage} {idFormat : IdFormat} :
    (∃ record, projectMessageRecord message idFormat = .ok record) ↔
      Projectable message.envelope := by
  constructor
  · rintro ⟨record, hrecord⟩
    obtain ⟨event, hevent, -⟩ := bind_eq_ok_iff.mp hrecord
    obtain ⟨types, htypes, hevent⟩ := bind_eq_ok_iff.mp hevent
    obtain ⟨_, hsender, -⟩ := bind_eq_ok_iff.mp hevent
    rw [okOr_eq_ok_iff] at htypes
    exact ⟨by simp [htypes], rejectIf_eq_ok_iff.mp hsender⟩
  · intro hprojectable
    exact ⟨_, projectMessageRecord_eq hprojectable⟩

/-! ## The length of the record -/

/-- The bytes of a segment object around the values of its data. -/
def segmentFrame (kind : String) (keys : List String) : Nat :=
  Json.objectFrame ["type", "data"] + Json.textLen kind + Json.objectFrame keys

/-- The length of an optional text. -/
def optionalLen : Option String → Nat
  | none => 4
  | some text => Json.textLen text

/-- The length of a segment of a medium. -/
def mediaLen (kind : String) (file : MediaFile) : Nat :=
  segmentFrame kind ["file", "url"] + Json.textLen (mediaFileName file) +
    optionalLen file.remoteReference

/-- The length of a segment that is unsupported. -/
def unsupportedLen (element : RichTextElement) : Nat :=
  segmentFrame "lirvena_unsupported" ["encoded_size"] + Json.integerLen element.encoded.length

/-- The length of a segment of a face. -/
def faceLen (face : FaceSegment) : Nat :=
  if face.kind = .animated ∧ face.id = 358 then segmentFrame "dice" []
  else if face.kind = .animated ∧ face.id = 359 then segmentFrame "rps" []
  else segmentFrame "face" ["id"] + Json.integerLen face.id

/-- The bytes that one element takes in the record. -/
def segmentLen (element : RichTextElement) (replyId : Option UInt32) : Nat :=
  match element.segment with
  | .text text => segmentFrame "text" ["text"] + Json.textLen text
  | .mention mention => segmentFrame "at" ["qq"] + Json.textLen (mentionText mention)
  | .face face => faceLen face
  | .marketFace face =>
      segmentFrame "mface" ["url", "emoji_package_id", "emoji_id", "key", "summary"] +
        Json.textLen (MarketFaceSegment.assetUrl face) + Json.integerLen face.packageId +
          Json.textLen face.emojiId + Json.textLen face.key + Json.textLen face.summary
  | .image image => mediaLen "image" image.file
  | .video video => mediaLen "video" video.file
  | .voice voice => mediaLen "record" voice.file
  | .file file =>
      segmentFrame "file" ["file", "name", "size"] + Json.textLen file.fileId +
        Json.textLen file.name + Json.integerLen file.size
  | .markdown content => segmentFrame "markdown" ["content"] + Json.textLen content
  | .json body => segmentFrame "json" ["data"] + Json.textLen body
  | .location location =>
      segmentFrame "location" ["lat", "lon", "title", "content"] +
        Json.textLen location.latitude + Json.textLen location.longitude +
          Json.textLen location.title + Json.textLen location.content
  | .xml xml =>
      segmentFrame "xml" ["data", "service_id"] + Json.textLen xml.body +
        Json.integerLen xml.serviceId
  | .poke poke =>
      segmentFrame "poke" ["type", "strength", "id"] + Json.integerLen poke.kind +
        Json.integerLen poke.strength + Json.integerLen (-1)
  | .reply _ =>
      match replyId with
      | none => unsupportedLen element
      | some id => segmentFrame "reply" ["id"] + Json.integerLen id.toNat
  | .forward forward => segmentFrame "forward" ["id"] + Json.textLen forward.resourceId
  | .unsupported => unsupportedLen element

/-- The length of a sender. -/
def senderLen (route : MessageRoute) : Nat :=
  let nickname := route.memberName.or route.friendName
  Json.objectFrame
      ("user_id" :: (nickname.toList.map (fun _ => "nickname") ++
        route.memberName.toList.map (fun _ => "card"))) +
    Json.integerLen route.fromUin.toNat + (nickname.toList.map Json.textLen).sum +
      (route.memberName.toList.map Json.textLen).sum

/-- The bytes of the record of a message, with numbers as identifiers. -/
def recordLen (envelope : MessageEnvelope) (messageId : UInt32)
    (elements : List (RichTextElement × Option UInt32)) : Nat :=
  Json.objectFrame ["time", "message_type", "message_id", "sender", "message", "real_id"] +
    Json.integerLen (max envelope.timestamp 0) + Json.textLen (chatType envelope) +
      Json.integerLen messageId.toNat + senderLen envelope.route +
        (2 + (elements.map (fun replied => segmentLen replied.1 replied.2)).sum +
          (elements.length - 1)) +
        Json.integerLen messageId.toNat

theorem segmentValue_renderedLen {kind : String} {data : List (String × Json)}
    (hkeys : (data.map Prod.fst).Nodup) :
    (segmentValue kind data).renderedLen =
      segmentFrame kind (data.map Prod.fst) +
        (data.map (fun field => field.2.renderedLen)).sum := by
  rw [segmentValue, Json.renderedLen_ofFields (by simp)]
  simp only [List.map_cons, List.map_nil, List.sum_cons, List.sum_nil, segmentFrame,
    Json.renderedLen_ofFields hkeys, Json.renderedLen_string]
  omega

theorem optionalString_renderedLen (text : Option String) :
    (optionalString text).renderedLen = optionalLen text := by
  cases text with
  | none => rfl
  | some text => rfl

theorem mediaSegment_renderedLen (kind : String) (file : MediaFile) :
    (mediaSegment kind file).renderedLen = mediaLen kind file := by
  rw [mediaSegment, segmentValue_renderedLen (by simp)]
  simp [mediaLen, optionalString_renderedLen, Nat.add_assoc]

theorem unsupportedSegment_renderedLen (element : RichTextElement) :
    (unsupportedSegment element).renderedLen = unsupportedLen element := by
  rw [unsupportedSegment, segmentValue_renderedLen (by simp)]
  simp [unsupportedLen]

theorem faceSegment_renderedLen (face : FaceSegment) :
    (faceSegment face).renderedLen = faceLen face := by
  unfold faceSegment faceLen
  split
  · rw [segmentValue_renderedLen (by simp)]
    rfl
  · split
    · rw [segmentValue_renderedLen (by simp)]
      rfl
    · rw [segmentValue_renderedLen (by simp)]
      simp

/-- `segmentLen` is the length of the projected segment. -/
theorem segmentJson_renderedLen (element : RichTextElement) (replyId : Option UInt32) :
    (segmentJson element replyId).renderedLen = segmentLen element replyId := by
  unfold segmentJson segmentLen
  cases element.segment with
  | face face => exact faceSegment_renderedLen face
  | image image => exact mediaSegment_renderedLen _ _
  | video video => exact mediaSegment_renderedLen _ _
  | voice voice => exact mediaSegment_renderedLen _ _
  | unsupported => exact unsupportedSegment_renderedLen element
  | reply reply =>
      cases replyId with
      | none => exact unsupportedSegment_renderedLen element
      | some id =>
          show (segmentValue _ _).renderedLen = _
          rw [segmentValue_renderedLen (by simp)]
          simp
  | _ =>
      show (segmentValue _ _).renderedLen = _
      rw [segmentValue_renderedLen (by simp)]
      simp [Nat.add_assoc]

theorem senderJson_renderedLen (route : MessageRoute) :
    (senderJson route .number).renderedLen = senderLen route := by
  have hkeys : ((senderFields route .number).map Prod.fst).Nodup := by
    cases hmember : route.memberName <;> cases hfriend : route.friendName <;>
      simp [senderFields, hmember, hfriend]
  rw [senderJson, Json.renderedLen_ofFields hkeys]
  simp [senderFields, senderLen, IdFormat.value, Function.comp_def, Nat.add_assoc]

/-- `recordLen` is the length of the record's text. -/
theorem recordFields_renderedLen (message : InboundMessage) :
    (Json.ofFields (recordFields message .number)).renderedLen =
      recordLen message.envelope message.messageId message.repliedElements := by
  have hkeys : ((recordFields message .number).map Prod.fst).Nodup := by
    simp [recordFields]
  rw [Json.renderedLen_ofFields hkeys]
  simp only [recordFields, recordLen, messageTime, IdFormat.value, List.map_cons, List.map_nil,
    List.sum_cons, List.sum_nil, Json.renderedLen_array, senderJson_renderedLen, List.map_map,
    Function.comp_def, segmentJson_renderedLen, List.length_map, Json.renderedLen_string,
    Json.renderedLen_integer]
  omega

end OneBot
end Lirvena
