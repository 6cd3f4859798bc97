import Lirvena.Ceylith.Frame
import Lirvena.Lib.Bytes
import Lirvena.Lib.Result

/-!
# Highway frames

An upload frame is a marker, the lengths of a protobuf head and of a body, the
head, the body and a closing marker.  The protobuf library and the digest are
parameters: encoding asks for the bytes of a head, decoding for the head of a
response.
-/

namespace Lirvena
namespace Highway

open Lib

/-- Redacted failure raised by the bounded Highway transport. -/
inductive HighwayError where
  | invalidInput
  | malformedFrame
  | unusableSession
  | remoteRejected
  | transport
  deriving DecidableEq

def startByte : UInt8 := 0x28

def endByte : UInt8 := 0x29

def maxHeadBytes : Nat := 64 * 1024

def maxBodyBytes : Nat := 4 * 1024 * 1024

def maxSecretBytes : Nat := 8 * 1024

def maxExtensionBytes : Nat := 64 * 1024

/-! ## Heads -/

structure BaseHeadWire where
  version : UInt32
  uin : String
  command : String
  sequence : UInt32
  retryTimes : UInt32
  appId : UInt32
  dataFlag : UInt32
  commandId : UInt32
  deriving DecidableEq

structure SegmentHeadWire where
  serviceId : UInt32
  fileSize : UInt64
  offset : UInt64
  dataLength : UInt32
  returnCode : UInt32
  ticket : List UInt8
  blockMd5 : List UInt8
  fileMd5 : List UInt8
  deriving DecidableEq

structure LoginHeadWire where
  signatureType : UInt32
  signature : List UInt8
  appId : UInt32
  deriving DecidableEq

structure RequestHeadWire where
  base : Option BaseHeadWire
  segment : Option SegmentHeadWire
  extension : List UInt8
  timestamp : UInt64
  login : Option LoginHeadWire
  deriving DecidableEq

structure ResponseHeadWire where
  base : Option BaseHeadWire
  segment : Option SegmentHeadWire
  errorCode : UInt32
  allowRetry : UInt32
  extension : List UInt8
  deriving DecidableEq

/-- The protobuf library at the types of the heads, and the MD5 digest. -/
structure HighwayCodec where
  encodeRequest : RequestHeadWire → List UInt8
  decodeResponse : List UInt8 → Option ResponseHeadWire
  md5 : List UInt8 → Ceylith.FixedBytes 16

/-! ## Requests -/

/-- Inputs for one authenticated upload block. -/
structure UploadBlock where
  uin : UInt64
  sequence : UInt32
  subAppId : UInt32
  appId : UInt32
  commandId : UInt32
  fileSize : UInt64
  offset : UInt64
  ticket : List UInt8
  fileMd5 : Ceylith.FixedBytes 16
  extension : List UInt8
  body : List UInt8
  loginSignature : List UInt8
  deriving DecidableEq

def validateBlock (block : UploadBlock) : Except HighwayError Unit :=
  rejectIf .invalidInput (block.uin = 0 ∨ block.sequence = 0 ∨ block.appId = 0 ∨
    block.subAppId = 0 ∨ block.commandId = 0 ∨ block.fileSize = 0 ∨ block.body = [] ∨
    maxBodyBytes < block.body.length ∨ block.ticket = [] ∨
    maxSecretBytes < block.ticket.length ∨ block.loginSignature = [] ∨
    maxSecretBytes < block.loginSignature.length ∨
    maxExtensionBytes < block.extension.length ∨
    u64Bound ≤ block.offset.toNat + block.body.length ∨
    block.fileSize.toNat < block.offset.toNat + block.body.length)

/-- A block that is valid under some signature is valid under every one of the right length. -/
theorem validateBlock_signed {block : UploadBlock} {signature : List UInt8}
    (hvalid : validateBlock block = .ok ()) (hne : signature ≠ [])
    (hlength : signature.length ≤ maxSecretBytes) :
    validateBlock { block with loginSignature := signature } = .ok () := by
  unfold validateBlock at hvalid ⊢
  rw [rejectIf_eq_ok_iff] at hvalid ⊢
  simp only [not_or, Nat.not_lt] at hvalid ⊢
  obtain ⟨huin, hsequence, happ, hsubApp, hcommand, hsize, hbody, hbodyLength, hticket,
    hticketLength, -, -, hrest⟩ := hvalid
  exact ⟨huin, hsequence, happ, hsubApp, hcommand, hsize, hbody, hbodyLength, hticket,
    hticketLength, hne, hlength, hrest⟩

/-- `u32::try_from` of a length. -/
def u32OfLen (length : Nat) : Except HighwayError UInt32 :=
  if length < u32Bound then .ok (UInt32.ofNat length) else .error .invalidInput

def requestHead (codec : HighwayCodec) (block : UploadBlock) (dataLength : UInt32) :
    RequestHeadWire where
  base := some {
    version := 1
    uin := toString block.uin.toNat
    command := "PicUp.DataUp"
    sequence := block.sequence
    retryTimes := 0
    appId := block.subAppId
    dataFlag := 16
    commandId := block.commandId }
  segment := some {
    serviceId := 0
    fileSize := block.fileSize
    offset := block.offset
    dataLength := dataLength
    returnCode := 0
    ticket := block.ticket
    blockMd5 := (codec.md5 block.body).bytes
    fileMd5 := block.fileMd5.bytes }
  extension := block.extension
  timestamp := 0
  login := some {
    signatureType := 8
    signature := block.loginSignature
    appId := block.appId }

/-- A head and a body between the markers. -/
def frameBytes (headLen bodyLen : UInt32) (head body : List UInt8) : List UInt8 :=
  [startByte] ++ (beBytes 4 headLen.toNat ++ (beBytes 4 bodyLen.toNat ++
    (head ++ (body ++ [endByte]))))

/-- Encodes one audited upload frame. -/
def encodeUploadBlock (codec : HighwayCodec) (block : UploadBlock) :
    Except HighwayError (List UInt8) := do
  validateBlock block
  let dataLength ← u32OfLen block.body.length
  let head := codec.encodeRequest (requestHead codec block dataLength)
  rejectIf .invalidInput (maxHeadBytes < head.length)
  let headLen ← u32OfLen head.length
  let bodyLen ← u32OfLen block.body.length
  return frameBytes headLen bodyLen head block.body

/-! ## Responses -/

/-- Correlated result of one upload block. -/
structure UploadResponse where
  sequence : Option UInt32
  offset : Option UInt64
  dataLength : Option UInt32
  extension : List UInt8
  deriving DecidableEq

/-- The head of a well framed response. -/
def decodeResponseHead (codec : HighwayCodec) (input : List UInt8) :
    Except HighwayError ResponseHeadWire := do
  rejectIf .malformedFrame (input.length < 10 ∨ input.head? ≠ some startByte ∨
    input.getLast? ≠ some endByte)
  let headLen := beNat (slice input 1 5)
  let bodyLen := beNat (slice input 5 9)
  rejectIf .malformedFrame
    (headLen = 0 ∨ maxHeadBytes < headLen ∨ maxBodyBytes < bodyLen)
  rejectIf .malformedFrame (input.length ≠ 10 + headLen + bodyLen)
  okOr .malformedFrame (codec.decodeResponse (slice input 9 (9 + headLen)))

/-- Decodes one bounded Highway upload response. -/
def decodeUploadResponse (codec : HighwayCodec) (input : List UInt8) :
    Except HighwayError UploadResponse := do
  let head ← decodeResponseHead codec input
  rejectIf .remoteRejected (head.errorCode ≠ 0)
  rejectIf .remoteRejected (maxExtensionBytes < head.extension.length)
  return {
    sequence := head.base.map (·.sequence)
    offset := head.segment.map (·.offset)
    dataLength := head.segment.map (·.dataLength)
    extension := head.extension }

/-- The responses that decode: those whose head has no error code and a short extension. -/
theorem decodeUploadResponse_isOk_iff {codec : HighwayCodec} {input : List UInt8} :
    (∃ response, decodeUploadResponse codec input = .ok response) ↔
      ∃ head, decodeResponseHead codec input = .ok head ∧ head.errorCode = 0 ∧
        head.extension.length ≤ maxExtensionBytes := by
  constructor
  · rintro ⟨response, hdecode⟩
    obtain ⟨head, hhead, hdecode⟩ := bind_eq_ok_iff.mp hdecode
    obtain ⟨⟨⟩, herror, hdecode⟩ := bind_eq_ok_iff.mp hdecode
    obtain ⟨⟨⟩, hextension, -⟩ := bind_eq_ok_iff.mp hdecode
    exact ⟨head, hhead, not_not.mp (rejectIf_eq_ok_iff.mp herror),
      Nat.not_lt.mp (rejectIf_eq_ok_iff.mp hextension)⟩
  · rintro ⟨head, hhead, herror, hextension⟩
    refine ⟨_, bind_eq_ok_iff.mpr ⟨head, hhead, bind_eq_ok_iff.mpr ⟨(), ?_,
      bind_eq_ok_iff.mpr ⟨(), ?_, rfl⟩⟩⟩⟩
    · exact rejectIf_eq_ok_iff.mpr (not_not.mpr herror)
    · exact rejectIf_eq_ok_iff.mpr (Nat.not_lt.mpr hextension)

end Highway
end Lirvena
