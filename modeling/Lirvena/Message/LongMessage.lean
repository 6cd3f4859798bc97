import Lirvena.Message.Outbound
import Lirvena.Lib.ProtoRead

/-!
# Long messages

The entries of a merged forward are uploaded as one batch, compressed, and are
downloaded the same way.  `parseLongMessageReceive_iff` says that a response with
the payload of an upload is accepted exactly when the whole of it is within the
limit that the upload puts on the payload alone.  The protobuf decoders and gzip
come from libraries and are fields of `LongMessageWire`.
-/

namespace Lirvena
namespace Message

open Lib Lib.Protobuf

def maxMessages : Nat := 100

def maxLongMessageBytes : Nat := 1024 * 1024

def maxCompressedBytes : Nat := 8 * 1024 * 1024

def maxDecompressedBytes : Nat := 16 * 1024 * 1024

/-- Recipient used by the upload route. -/
inductive LongMessageTarget where
  | «private» (peerUid : String)
  | group (groupUin : UInt32)
  deriving DecidableEq

/-! ## Wire structures -/

/-- The recipient of a batch, by each of its names. -/
structure LongMessagePeer where
  uid : String
  groupUin : UInt32
  messageType : UInt32
  deriving DecidableEq

structure LongMessageSendRequest where
  peer : LongMessagePeer
  payload : List UInt8
  deriving DecidableEq

/-- One file of a batch; the buffer holds its messages. -/
structure MultiMessageItem where
  fileName : String
  buffer : Option (List (List UInt8))
  deriving DecidableEq

/-- The payload of a download, or the resource identifier of an upload. -/
structure LongMessageResponse where
  receive : Option (List UInt8)
  send : Option String
  deriving DecidableEq

structure LongMessageWire where
  transmit : List UInt8 → Option (List MultiMessageItem)
  response : List UInt8 → Option LongMessageResponse
  gzip : List UInt8 → Option (List UInt8)
  /-- At most so many bytes of a stream. -/
  gunzip : Nat → List UInt8 → Option (List UInt8)

def LongMessageSendRequest.fields (request : LongMessageSendRequest) : List Field :=
  varintField 1 request.peer.messageType.toNat ++
    (messageField 2 [⟨2, stringValue request.peer.uid⟩] ::
      (varintField 3 request.peer.groupUin.toNat ++ bytesField 4 request.payload))

def sendAttributes : List Field :=
  varintField 1 4 ++ [⟨2, .varint 1⟩, ⟨3, .varint 6⟩, ⟨4, .varint 0⟩]

def LongMessageSendRequest.bytes (request : LongMessageSendRequest) : List UInt8 :=
  Protobuf.encodeMessage [messageField 2 request.fields, messageField 15 sendAttributes]

/-- The download of a batch, asked for by an account under its own identity. -/
structure LongMessageReceiveRequest where
  peerUid : String
  resourceId : String
  messageType : UInt32
  deriving DecidableEq

def LongMessageReceiveRequest.fields (request : LongMessageReceiveRequest) : List Field :=
  messageField 1 [⟨2, stringValue request.peerUid⟩] ::
    (bytesField 2 (utf8Bytes request.resourceId) ++ varintField 3 request.messageType.toNat)

def receiveAttributes : List Field :=
  varintField 1 2 ++ [⟨2, .varint 0⟩, ⟨3, .varint 0⟩, ⟨4, .varint 0⟩]

def LongMessageReceiveRequest.bytes (request : LongMessageReceiveRequest) : List UInt8 :=
  Protobuf.encodeMessage [messageField 1 request.fields, messageField 15 receiveAttributes]

def bufferFields (messages : List (List UInt8)) : List Field :=
  messages.map fun message => ⟨1, .lengthDelimited message⟩

/-- The batch of an upload: one file under a fixed name. -/
def transmitFields (messages : List (List UInt8)) : List Field :=
  [messageField 2 (bytesField 1 (utf8Bytes "MultiMsg") ++
    [messageField 2 (bufferFields messages)])]

def transmitBytes (messages : List (List UInt8)) : List UInt8 :=
  Protobuf.encodeMessage (transmitFields messages)

/-! ## Batches -/

def longMessagePeer : LongMessageTarget → Except MessageDecodeError LongMessagePeer
  | .private peerUid => do
      rejectIf .rejected (boundedUid 128 peerUid = false)
      return { uid := peerUid, groupUin := 0, messageType := 1 }
  | .group groupUin => do
      rejectIf .rejected (groupUin = 0)
      return { uid := Json.decimalText groupUin.toNat, groupUin := groupUin, messageType := 3 }

def encodeLongMessageReceive (selfUid resourceId : String) :
    Except MessageDecodeError (List UInt8) := do
  rejectIf .rejected (boundedUid 128 selfUid = false ∨ validResourceId resourceId = false)
  return LongMessageReceiveRequest.bytes
    { peerUid := selfUid, resourceId := resourceId, messageType := 3 }

def validateMessages (messages : List (List UInt8)) : Except MessageDecodeError Unit := do
  rejectIf .rejected (messages = [] ∨ maxMessages < messages.length ∨
    ∃ message ∈ messages, message = [] ∨ maxLongMessageBytes < message.length)
  rejectIf .rejected (maxDecompressedBytes < (messages.map List.length).sum)

namespace LongMessageWire

variable (wire : LongMessageWire)

def compress (input : List UInt8) : Except MessageDecodeError (List UInt8) := do
  let output ← okOr .rejected (wire.gzip input)
  rejectIf .rejected (output = [] ∨ maxCompressedBytes < output.length)
  return output

/-- One byte more than the limit is read, to tell an output that is too long. -/
def decompress (input : List UInt8) : Except MessageDecodeError (List UInt8) := do
  let output ← okOr .rejected (wire.gunzip (maxDecompressedBytes + 1) input)
  rejectIf .rejected (output = [] ∨ maxDecompressedBytes < output.length)
  return output

/-- The request that `encodeLongMessageSend` writes. -/
def longMessageSend (target : LongMessageTarget) (messages : List (List UInt8)) :
    Except MessageDecodeError LongMessageSendRequest := do
  let peer ← longMessagePeer target
  validateMessages messages
  rejectIf .rejected (maxDecompressedBytes < (transmitBytes messages).length)
  let payload ← wire.compress (transmitBytes messages)
  return { peer := peer, payload := payload }

def encodeLongMessageSend (target : LongMessageTarget) (messages : List (List UInt8)) :
    Except MessageDecodeError (List UInt8) :=
  LongMessageSendRequest.bytes <$> wire.longMessageSend target messages

/-- The only file of the name. -/
def multiMessage (items : List MultiMessageItem) : Except MessageDecodeError MultiMessageItem :=
  match items.filter (·.fileName = "MultiMsg") with
  | [item] => .ok item
  | _ => .error .rejected

def parseLongMessageReceive (input : List UInt8) :
    Except MessageDecodeError (List (List UInt8)) := do
  rejectIf .rejected (input = [] ∨ maxCompressedBytes < input.length)
  let response ← okOr .rejected (wire.response input)
  let payload ← okOr .rejected response.receive
  rejectIf .rejected (payload = [] ∨ maxCompressedBytes < payload.length)
  let content ← wire.decompress payload
  let items ← okOr .rejected (wire.transmit content)
  let item ← multiMessage items
  let messages ← okOr .rejected item.buffer
  validateMessages messages
  return messages

end LongMessageWire

/-! ## Round trip -/

/-- Protobuf and gzip lose nothing. -/
structure LongMessageWire.Lossless (wire : LongMessageWire) : Prop where
  transmit : ∀ messages, (transmitBytes messages).length < u64Bound →
    wire.transmit (transmitBytes messages) =
      some [{ fileName := "MultiMsg", buffer := some messages }]
  /-- An empty string is a message of defaults. -/
  response_nil : wire.response [] = some { receive := none, send := none }
  gunzip : ∀ content stream limit, wire.gzip content = some stream → content.length ≤ limit →
    wire.gunzip limit stream = some content

/-- A download response with a payload. -/
def LongMessageWire.Carries (wire : LongMessageWire) (response payload : List UInt8) : Prop :=
  ∃ sent, wire.response response = some { receive := some payload, send := sent }

section RoundTrip

variable {wire : LongMessageWire} {target : LongMessageTarget} {messages : List (List UInt8)}
  {request : LongMessageSendRequest} {payload content response : List UInt8}

theorem transmitBytes_ne_nil (messages : List (List UInt8)) : transmitBytes messages ≠ [] := by
  intro hempty
  rw [transmitBytes, transmitFields, Protobuf.encodeMessage, List.flatMap_cons] at hempty
  have hkey := (List.append_eq_nil_iff.mp (List.append_eq_nil_iff.mp hempty).1).1
  exact (isVarint_encodeVarint _).ne_nil hkey

/-- What an uploaded batch has been checked for. -/
structure LongMessageWire.Checked (wire : LongMessageWire) (messages : List (List UInt8))
    (payload : List UInt8) : Prop where
  valid : validateMessages messages = .ok ()
  length_le : (transmitBytes messages).length ≤ maxDecompressedBytes
  compressed : wire.compress (transmitBytes messages) = .ok payload

theorem checked_of_send (hsend : wire.longMessageSend target messages = .ok request) :
    wire.Checked messages request.payload := by
  obtain ⟨peer, -, hsend⟩ := bind_eq_ok_iff.mp hsend
  obtain ⟨⟨⟩, hmessages, hsend⟩ := bind_eq_ok_iff.mp hsend
  obtain ⟨⟨⟩, hlength, hsend⟩ := bind_eq_ok_iff.mp hsend
  obtain ⟨payload, hpayload, hreturn⟩ := bind_eq_ok_iff.mp hsend
  cases hreturn
  exact ⟨hmessages, Nat.le_of_not_lt (rejectIf_eq_ok_iff.mp hlength), hpayload⟩

theorem validateMessages_length (hvalid : validateMessages messages = .ok ()) :
    ∀ message ∈ messages, message.length ≤ maxLongMessageBytes := by
  obtain ⟨⟨⟩, hchecks, -⟩ := bind_eq_ok_iff.mp hvalid
  have hchecks := rejectIf_eq_ok_iff.mp hchecks
  intro message hmessage
  by_contra hlong
  exact hchecks (.inr (.inr ⟨message, hmessage, .inr (Nat.lt_of_not_le hlong)⟩))

theorem decompress_compress_gzip (hlossless : wire.Lossless) (hcontent : content ≠ [])
    (hlength : content.length ≤ maxDecompressedBytes)
    (hcompress : wire.compress content = .ok payload) :
    wire.decompress payload = .ok content ∧ payload ≠ [] ∧
      payload.length ≤ maxCompressedBytes := by
  obtain ⟨stream, hstream, hcompress⟩ := bind_eq_ok_iff.mp hcompress
  obtain ⟨⟨⟩, hbounds, hreturn⟩ := bind_eq_ok_iff.mp hcompress
  cases hreturn
  have hbounds := rejectIf_eq_ok_iff.mp hbounds
  rw [not_or, Nat.not_lt] at hbounds
  have hinflate := hlossless.gunzip content payload (maxDecompressedBytes + 1)
    (okOr_eq_ok_iff.mp hstream) (Nat.le_succ_of_le hlength)
  refine ⟨?_, hbounds⟩
  refine bind_eq_ok_iff.mpr ⟨content, okOr_eq_ok_iff.mpr hinflate, ?_⟩
  refine bind_eq_ok_iff.mpr ⟨(), rejectIf_eq_ok_iff.mpr ?_, rfl⟩
  rw [not_or, Nat.not_lt]
  exact ⟨hcontent, hlength⟩

/-- A response that carries an uploaded batch is accepted exactly within the limit on
a response, and gives the messages back in their order. -/
theorem parseLongMessageReceive_iff (hlossless : wire.Lossless)
    (hsend : wire.longMessageSend target messages = .ok request)
    (hcarries : wire.Carries response request.payload) :
    wire.parseLongMessageReceive response = .ok messages ↔
      response.length ≤ maxCompressedBytes := by
  obtain ⟨sent, hresponse⟩ := hcarries
  obtain ⟨hmessages, hlength, hcompress⟩ := checked_of_send hsend
  obtain ⟨hcontent, hpayload⟩ := decompress_compress_gzip hlossless
    (transmitBytes_ne_nil messages) hlength hcompress
  constructor
  · intro hparse
    obtain ⟨⟨⟩, hbounds, -⟩ := bind_eq_ok_iff.mp hparse
    have hbounds := rejectIf_eq_ok_iff.mp hbounds
    rw [not_or, Nat.not_lt] at hbounds
    exact hbounds.2
  · intro hshort
    have hnonempty : response ≠ [] := by
      rintro rfl
      have hdefaults := hresponse.symm.trans hlossless.response_nil
      cases hdefaults
    have hsmall : (transmitBytes messages).length < u64Bound :=
      Nat.lt_of_le_of_lt hlength (by decide)
    refine bind_eq_ok_iff.mpr ⟨(), rejectIf_eq_ok_iff.mpr ?_, ?_⟩
    · rw [not_or, Nat.not_lt]
      exact ⟨hnonempty, hshort⟩
    refine bind_eq_ok_iff.mpr ⟨_, okOr_eq_ok_iff.mpr hresponse, ?_⟩
    refine bind_eq_ok_iff.mpr ⟨request.payload, rfl, ?_⟩
    refine bind_eq_ok_iff.mpr ⟨(), rejectIf_eq_ok_iff.mpr ?_, ?_⟩
    · rw [not_or, Nat.not_lt]
      exact hpayload
    refine bind_eq_ok_iff.mpr ⟨transmitBytes messages, hcontent, ?_⟩
    refine bind_eq_ok_iff.mpr ⟨_, okOr_eq_ok_iff.mpr (hlossless.transmit messages hsmall), ?_⟩
    refine bind_eq_ok_iff.mpr ⟨_, rfl, bind_eq_ok_iff.mpr ⟨messages, rfl, ?_⟩⟩
    exact bind_eq_ok_iff.mpr ⟨(), hmessages, rfl⟩

end RoundTrip

end Message
end Lirvena
