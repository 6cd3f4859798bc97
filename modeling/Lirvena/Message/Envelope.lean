import Lirvena.Lib.Bytes
import Lirvena.Lib.Result
import Lirvena.Lib.Text
import Mathlib.Data.Finset.Basic

/-!
# Message envelopes

The outer decoder of authenticated message pushes: a bounded packet, its
validated routing and metadata, and a duplicate window over the current
generation.  The protobuf decoders of the packet come from a library and are
fields of `MessageWire`, as is the digest behind the duplicate key.
-/

namespace Lirvena
namespace Message

open Lib

def maxPushLen : Nat := 1024 * 1024

def maxUidLen : Nat := 128

def maxDisplayTextLen : Nat := 512

def maxDedupEntries : Nat := 2048

/-- Rejected authenticated message push. -/
inductive MessageDecodeError where
  | rejected
  deriving DecidableEq

/-! ## Wire structures -/

structure ResponseForward where
  friendName : Option String
  deriving DecidableEq

structure ResponseGroup where
  groupUin : UInt32
  memberName : String
  groupName : String
  deriving DecidableEq

structure ResponseHead where
  fromUin : UInt32
  fromUid : Option String
  toUin : UInt32
  toUid : Option String
  forward : Option ResponseForward
  group : Option ResponseGroup
  deriving DecidableEq

structure ForwardHead where
  encodedValue : Option String
  avatar : Option String
  deriving DecidableEq

structure ContentHead where
  messageType : UInt32
  subType : Option UInt32
  random : Option Int
  sequence : Option UInt64
  timestamp : Option Int
  packageCount : Option Int
  packageIndex : Option UInt32
  divisionSequence : Option UInt32
  directMessageSequence : Option UInt32
  messageUid : Option UInt64
  forward : Option ForwardHead
  deriving DecidableEq

structure MessageBody where
  richText : Option (List UInt8)
  content : Option (List UInt8)
  encryptedContent : Option (List UInt8)
  deriving DecidableEq

structure PushBody where
  response : Option ResponseHead
  content : Option ContentHead
  body : Option MessageBody
  deriving DecidableEq

structure Push where
  message : Option PushBody
  deriving DecidableEq

/-- The library functions that the outer decoder calls. -/
structure MessageWire where
  push : List UInt8 → Option Push
  pushBody : List UInt8 → Option PushBody
  sha256 : List UInt8 → List UInt8

/-! ## Envelopes -/

/-- Closed outer classification of an authenticated message push. -/
inductive MessageClass where
  | «private»
  | group
  | temporary
  | privateRecord
  | privateFile
  | groupJoinRequest
  | groupInvitationRequest
  | groupInvite
  | groupAdministratorChange
  | groupMemberIncrease
  | groupMemberDecrease
  | friendEvent
  | groupEvent
  | unknown (value : UInt32)
  deriving DecidableEq

def MessageClass.fromWire : UInt32 → MessageClass
  | 166 => .private
  | 82 => .group
  | 141 => .temporary
  | 208 => .privateRecord
  | 529 => .privateFile
  | 84 => .groupJoinRequest
  | 525 => .groupInvitationRequest
  | 87 => .groupInvite
  | 44 => .groupAdministratorChange
  | 33 => .groupMemberIncrease
  | 34 => .groupMemberDecrease
  | 528 => .friendEvent
  | 732 => .groupEvent
  | other => .unknown other

/-- Ordinary sender, recipient and optional group routing metadata. -/
structure MessageRoute where
  fromUin : UInt32
  fromUid : Option String
  toUin : UInt32
  toUid : Option String
  groupUin : Option UInt32
  memberName : Option String
  groupName : Option String
  friendName : Option String
  deriving DecidableEq

/-- Validated outer message envelope and bounded undecoded payloads. -/
structure MessageEnvelope where
  «class» : MessageClass
  route : MessageRoute
  payload : MessageBody
  subType : UInt32
  sequence : UInt64
  random : Int
  timestamp : Int
  packageCount : Int
  packageIndex : UInt32
  divisionSequence : UInt32
  directMessageSequence : UInt32
  messageUid : UInt64
  deriving DecidableEq

/-- The number of payload bytes that a body carries. -/
def MessageBody.payloadLen (body : MessageBody) : Nat :=
  body.richText.elim 0 List.length + body.content.elim 0 List.length +
    body.encryptedContent.elim 0 List.length

def MessageEnvelope.encodedLen (envelope : MessageEnvelope) : Nat :=
  envelope.payload.payloadLen

def validText (value : String) (maximum : Nat) : Bool :=
  value.utf8ByteSize ≤ maximum && !containsNul value

def nonempty (value : String) : Option String :=
  if value = "" then none else some value

def messageRoute (response : ResponseHead) : MessageRoute where
  fromUin := response.fromUin
  fromUid := response.fromUid
  toUin := response.toUin
  toUid := response.toUid
  groupUin := (response.group.map ResponseGroup.groupUin).filter (· ≠ 0)
  memberName := response.group.bind (fun group => nonempty group.memberName)
  groupName := response.group.bind (fun group => nonempty group.groupName)
  friendName := response.forward.bind ResponseForward.friendName

def validateInput (input : List UInt8) : Except MessageDecodeError Unit :=
  rejectIf .rejected (input = [] ∨ maxPushLen < input.length)

def validResponse (response : ResponseHead) : Bool :=
  response.fromUid.all (validText · maxUidLen) &&
    response.toUid.all (validText · maxUidLen) &&
    response.forward.all (fun forward =>
      forward.friendName.all (validText · maxDisplayTextLen)) &&
    response.group.all (fun group =>
      validText group.memberName maxDisplayTextLen &&
        validText group.groupName maxDisplayTextLen)

def validateResponse (response : ResponseHead) : Except MessageDecodeError Unit :=
  rejectIf .rejected (validResponse response = false)

def validContent (content : ContentHead) : Bool :=
  content.messageType ≠ 0 &&
    content.forward.all (fun forward =>
      forward.encodedValue.all (validText · maxDisplayTextLen) &&
        forward.avatar.all (validText · maxDisplayTextLen))

def validateContent (content : ContentHead) : Except MessageDecodeError Unit :=
  rejectIf .rejected (validContent content = false)

/-! ## The duplicate window -/

structure DedupKey where
  fromUin : UInt32
  messageType : UInt32
  subType : UInt32
  sequence : UInt64
  random : Int
  timestamp : Int
  packageIndex : UInt32
  contentDigest : List UInt8
  deriving DecidableEq

def DedupKey.new (wire : MessageWire) (response : ResponseHead) (content : ContentHead)
    (body : List UInt8) : DedupKey where
  fromUin := response.fromUin
  messageType := content.messageType
  subType := content.subType.getD 0
  sequence := content.sequence.getD 0
  random := content.random.getD 0
  timestamp := content.timestamp.getD 0
  packageIndex := content.packageIndex.getD 0
  contentDigest := (wire.sha256 body).take 8

/-- Bounded current-generation outer message decoder and duplicate window. -/
structure MessageDecoder where
  seen : Finset DedupKey
  order : List DedupKey
  deriving DecidableEq

/-- Result of deduplicating and decoding one authenticated message push. -/
inductive MessageDisposition where
  | duplicate
  | new (envelope : MessageEnvelope)
  deriving DecidableEq

def emptyBody : MessageBody where
  richText := none
  content := none
  encryptedContent := none

def messageEnvelope (response : ResponseHead) (content : ContentHead)
    (payload : MessageBody) : MessageEnvelope where
  «class» := MessageClass.fromWire content.messageType
  route := messageRoute response
  payload := payload
  subType := content.subType.getD 0
  sequence := content.sequence.getD 0
  random := content.random.getD 0
  timestamp := content.timestamp.getD 0
  packageCount := content.packageCount.getD 0
  packageIndex := content.packageIndex.getD 0
  divisionSequence := content.divisionSequence.getD 0
  directMessageSequence := content.directMessageSequence.getD 0
  messageUid := content.messageUid.getD 0

/-- The part of `admitBody` before the duplicate window: the validated envelope and
its key. -/
def readEnvelope (wire : MessageWire) (body : PushBody) :
    Except MessageDecodeError (DedupKey × MessageEnvelope) := do
  let response ← okOr .rejected body.response
  let content ← okOr .rejected body.content
  validateResponse response
  validateContent content
  let payload := body.body.getD emptyBody
  return (DedupKey.new wire response content (payload.content.getD []),
    messageEnvelope response content payload)

namespace MessageDecoder

def new : MessageDecoder where
  seen := ∅
  order := []

/-- Enters a key that was not seen and expires the oldest one. -/
def remember (decoder : MessageDecoder) (key : DedupKey) :
    Except MessageDecodeError MessageDecoder :=
  let seen := insert key decoder.seen
  let order := decoder.order ++ [key]
  if maxDedupEntries < order.length then
    match order with
    | [] => .error .rejected
    | expired :: rest => .ok { seen := seen.erase expired, order := rest }
  else
    .ok { seen := seen, order := order }

/-- `MessageDecoder::admit`. -/
def admitBody (wire : MessageWire) (decoder : MessageDecoder) (body : PushBody) :
    MessageDecoder × Except MessageDecodeError MessageDisposition :=
  match readEnvelope wire body with
  | .error error => (decoder, .error error)
  | .ok (key, envelope) =>
      if key ∈ decoder.seen then
        (decoder, .ok .duplicate)
      else
        match decoder.remember key with
        | .error error => (decoder, .error error)
        | .ok next => (next, .ok (.new envelope))

/-- The body that a normal outer push carries. -/
def pushMessage (wire : MessageWire) (input : List UInt8) :
    Except MessageDecodeError PushBody := do
  validateInput input
  let push ← okOr .rejected (wire.push input)
  okOr .rejected push.message

/-- The body that a synchronization push embeds. -/
def embeddedMessage (wire : MessageWire) (input : List UInt8) :
    Except MessageDecodeError PushBody := do
  validateInput input
  okOr .rejected (wire.pushBody input)

/-- Decodes a normal outer message push. -/
def decode (wire : MessageWire) (decoder : MessageDecoder) (input : List UInt8) :
    MessageDecoder × Except MessageDecodeError MessageDisposition :=
  match pushMessage wire input with
  | .error error => (decoder, .error error)
  | .ok body => decoder.admitBody wire body

/-- Decodes a message body embedded by a synchronization push. -/
def decodeEmbedded (wire : MessageWire) (decoder : MessageDecoder) (input : List UInt8) :
    MessageDecoder × Except MessageDecodeError MessageDisposition :=
  match embeddedMessage wire input with
  | .error error => (decoder, .error error)
  | .ok body => decoder.admitBody wire body

end MessageDecoder

/-- A payload is a part of the packet it was decoded from. -/
structure MessageWire.Bounded (wire : MessageWire) : Prop where
  push_payload : ∀ input push body payload, wire.push input = some push →
    push.message = some body → body.body = some payload →
      payload.payloadLen ≤ input.length
  pushBody_payload : ∀ input body payload, wire.pushBody input = some body →
    body.body = some payload → payload.payloadLen ≤ input.length

namespace MessageDecoder

variable {wire : MessageWire} {decoder next : MessageDecoder}

theorem readEnvelope_payload {body : PushBody} {key : DedupKey}
    {envelope : MessageEnvelope} (hread : readEnvelope wire body = .ok (key, envelope)) :
    envelope.payload = body.body.getD emptyBody := by
  unfold readEnvelope at hread
  obtain ⟨response, -, hread⟩ := bind_eq_ok_iff.mp hread
  obtain ⟨content, -, hread⟩ := bind_eq_ok_iff.mp hread
  obtain ⟨_, -, hread⟩ := bind_eq_ok_iff.mp hread
  obtain ⟨_, -, hread⟩ := bind_eq_ok_iff.mp hread
  cases hread
  rfl

theorem readEnvelope_of_valid {body : PushBody} {response : ResponseHead} {content : ContentHead}
    (hresponse : body.response = some response) (hcontent : body.content = some content)
    (hvalidResponse : validResponse response = true) (hvalidContent : validContent content = true) :
    readEnvelope wire body =
      .ok (DedupKey.new wire response content ((body.body.getD emptyBody).content.getD []),
        messageEnvelope response content (body.body.getD emptyBody)) := by
  simp [readEnvelope, hresponse, hcontent, okOr, validateResponse, validateContent, rejectIf,
    hvalidResponse, hvalidContent, bind, Except.bind, pure, Except.pure]

/-- The text limits that an accepted envelope keeps. -/
theorem readEnvelope_uids {body : PushBody} {key : DedupKey} {envelope : MessageEnvelope}
    (hread : readEnvelope wire body = .ok (key, envelope)) :
    (∀ uid, envelope.route.fromUid = some uid → uid.utf8ByteSize ≤ maxUidLen) ∧
      ∀ uid, envelope.route.toUid = some uid → uid.utf8ByteSize ≤ maxUidLen := by
  unfold readEnvelope at hread
  obtain ⟨response, -, hread⟩ := bind_eq_ok_iff.mp hread
  obtain ⟨content, -, hread⟩ := bind_eq_ok_iff.mp hread
  obtain ⟨_, hvalid, hread⟩ := bind_eq_ok_iff.mp hread
  obtain ⟨_, -, hread⟩ := bind_eq_ok_iff.mp hread
  cases hread
  have hgood := rejectIf_eq_ok_iff.mp hvalid
  simp only [Bool.not_eq_false, validResponse, Bool.and_eq_true] at hgood
  obtain ⟨⟨⟨hfrom, hto⟩, -⟩, -⟩ := hgood
  constructor
  · intro uid huid
    have hroute : response.fromUid = some uid := huid
    simp only [hroute, Option.all_some, validText, Bool.and_eq_true, decide_eq_true_eq] at hfrom
    exact hfrom.1
  · intro uid huid
    have hroute : response.toUid = some uid := huid
    simp only [hroute, Option.all_some, validText, Bool.and_eq_true, decide_eq_true_eq] at hto
    exact hto.1

theorem admit_new {body : PushBody} {envelope : MessageEnvelope}
    (hadmitted : decoder.admitBody wire body = (next, .ok (.new envelope))) :
    ∃ key, readEnvelope wire body = .ok (key, envelope) := by
  unfold admitBody at hadmitted
  split at hadmitted
  · cases hadmitted
  · next key read hread =>
      split at hadmitted
      · cases hadmitted
      · split at hadmitted
        · cases hadmitted
        · cases hadmitted
          exact ⟨key, hread⟩

theorem admit_encodedLen {body : PushBody} {envelope : MessageEnvelope} {limit : Nat}
    (hadmitted : decoder.admitBody wire body = (next, .ok (.new envelope)))
    (hpayload : ∀ payload, body.body = some payload → payload.payloadLen ≤ limit) :
    envelope.encodedLen ≤ limit := by
  obtain ⟨key, hread⟩ := admit_new hadmitted
  rw [MessageEnvelope.encodedLen, readEnvelope_payload hread]
  cases hbody : body.body with
  | none => exact Nat.zero_le _
  | some payload => exact hpayload payload hbody

theorem validateInput_length {input : List UInt8} (hvalid : validateInput input = .ok ()) :
    input.length ≤ maxPushLen := by
  have hgood := rejectIf_eq_ok_iff.mp hvalid
  omega

/-- A new message does not carry more payload than the packet had bytes. -/
theorem decode_encodedLen {input : List UInt8} {envelope : MessageEnvelope}
    (hwire : wire.Bounded)
    (hdecode : decoder.decode wire input = (next, .ok (.new envelope))) :
    envelope.encodedLen ≤ input.length ∧ input.length ≤ maxPushLen := by
  unfold decode at hdecode
  split at hdecode
  · cases hdecode
  · next body hbody =>
      unfold pushMessage at hbody
      obtain ⟨_, hinput, hbody⟩ := bind_eq_ok_iff.mp hbody
      obtain ⟨push, hpush, hbody⟩ := bind_eq_ok_iff.mp hbody
      refine ⟨admit_encodedLen hdecode ?_, validateInput_length hinput⟩
      intro payload hpayload
      exact hwire.push_payload input push body payload (okOr_eq_ok_iff.mp hpush)
        (okOr_eq_ok_iff.mp hbody) hpayload

theorem decodeEmbedded_encodedLen {input : List UInt8} {envelope : MessageEnvelope}
    (hwire : wire.Bounded)
    (hdecode : decoder.decodeEmbedded wire input = (next, .ok (.new envelope))) :
    envelope.encodedLen ≤ input.length ∧ input.length ≤ maxPushLen := by
  unfold decodeEmbedded at hdecode
  split at hdecode
  · cases hdecode
  · next body hbody =>
      unfold embeddedMessage at hbody
      obtain ⟨_, hinput, hbody⟩ := bind_eq_ok_iff.mp hbody
      refine ⟨admit_encodedLen hdecode ?_, validateInput_length hinput⟩
      intro payload hpayload
      exact hwire.pushBody_payload input body payload (okOr_eq_ok_iff.mp hbody) hpayload

end MessageDecoder
end Message
end Lirvena
