import Lirvena.Highway.Frame
import Lirvena.Lib.Proto3
import Lirvena.Lib.Text

/-!
# The size of a request head

Everything in the head of an upload frame is bounded but its extension, so that a head
is within its limit where the extension is well below its own.  The two limits are the
same number, and the secrets of the head come on top of the extension.
-/

namespace Lirvena
namespace Highway

open Lib
open Lib.Protobuf

/-! ## The encoding of a head -/

def baseFields (base : BaseHeadWire) : List Field :=
  varintField 1 base.version.toNat ++ bytesField 2 (utf8Bytes base.uin) ++
    bytesField 3 (utf8Bytes base.command) ++ varintField 4 base.sequence.toNat ++
      varintField 5 base.retryTimes.toNat ++ varintField 6 base.appId.toNat ++
        varintField 7 base.dataFlag.toNat ++ varintField 8 base.commandId.toNat

def segmentFields (segment : SegmentHeadWire) : List Field :=
  varintField 1 segment.serviceId.toNat ++ varintField 2 segment.fileSize.toNat ++
    varintField 3 segment.offset.toNat ++ varintField 4 segment.dataLength.toNat ++
      varintField 5 segment.returnCode.toNat ++ bytesField 6 segment.ticket ++
        bytesField 8 segment.blockMd5 ++ bytesField 9 segment.fileMd5

def loginFields (login : LoginHeadWire) : List Field :=
  varintField 1 login.signatureType.toNat ++ bytesField 2 login.signature ++
    varintField 3 login.appId.toNat

def requestHeadFields (head : RequestHeadWire) : List Field :=
  (head.base.map fun base => messageField 1 (baseFields base)).toList ++
    (head.segment.map fun segment => messageField 2 (segmentFields segment)).toList ++
      bytesField 3 head.extension ++ varintField 4 head.timestamp.toNat ++
        (head.login.map fun login => messageField 5 (loginFields login)).toList

/-- `encode_to_vec` of the head of a request. -/
def encodeRequestHead (head : RequestHeadWire) : List UInt8 :=
  encodeMessage (requestHeadFields head)

/-! ## Blocks of an object -/

/-- A block of the bytes of an object that is within the limits of a frame but, it may
be, for its extension. -/
structure UploadBlock.Within (block : UploadBlock) (bytes : List UInt8) : Prop where
  account : block.uin ≠ 0 ∧ block.appId ≠ 0 ∧ block.subAppId ≠ 0
  numbers : block.sequence ≠ 0 ∧ block.commandId ≠ 0
  fileSize : block.fileSize.toNat = bytes.length
  body : block.body ≠ [] ∧ block.body.length ≤ maxBodyBytes
  inside : block.offset.toNat + block.body.length ≤ bytes.length
  ticket : block.ticket ≠ [] ∧ block.ticket.length ≤ maxSecretBytes
  loginSignature : block.loginSignature ≠ [] ∧ block.loginSignature.length ≤ maxSecretBytes

/-- The encoded head of a block. -/
def UploadBlock.head (codec : HighwayCodec) (block : UploadBlock) : List UInt8 :=
  codec.encodeRequest (requestHead codec block (UInt32.ofNat block.body.length))

theorem u32OfLen_of_lt {length : Nat} (hlength : length < u32Bound) :
    u32OfLen length = .ok (UInt32.ofNat length) :=
  if_pos hlength

theorem validateBlock_eq_ok_iff {block : UploadBlock} {bytes : List UInt8}
    (hblock : block.Within bytes) :
    validateBlock block = .ok () ↔ block.extension.length ≤ maxExtensionBytes := by
  have hbody := List.length_pos_iff.mpr hblock.body.1
  have hsize : block.fileSize ≠ 0 := by
    intro hzero
    have hfile := hblock.fileSize
    have hinside := hblock.inside
    rw [hzero] at hfile
    have hnone : (0 : UInt64).toNat = 0 := rfl
    omega
  have hword : block.fileSize.toNat < u64Bound := block.fileSize.toNat_lt
  have hinside := hblock.inside
  rw [← hblock.fileSize] at hinside
  unfold validateBlock
  rw [rejectIf_eq_ok_iff]
  simp only [hblock.account, hblock.numbers, hsize, hblock.body.1, hblock.ticket.1,
    hblock.loginSignature.1, Nat.not_lt.mpr hblock.body.2, Nat.not_lt.mpr hblock.ticket.2,
    Nat.not_lt.mpr hblock.loginSignature.2, false_or, not_or, Nat.not_lt, Nat.not_le]
  constructor
  · exact And.left
  · intro hextension
    exact ⟨hextension, by omega, hinside⟩

/-- A block is framed exactly when its extension and its head are within their limits. -/
theorem encodeUploadBlock_returns_iff {codec : HighwayCodec} {block : UploadBlock}
    {bytes : List UInt8} (hblock : block.Within bytes) :
    Returns (encodeUploadBlock codec block) ↔
      block.extension.length ≤ maxExtensionBytes ∧ (block.head codec).length ≤ maxHeadBytes := by
  have hbody : block.body.length < u32Bound :=
    Nat.lt_of_le_of_lt hblock.body.2 (by decide)
  unfold encodeUploadBlock
  rw [returns_bind_iff, u32OfLen_of_lt hbody]
  constructor
  · rintro ⟨⟨⟩, hvalid, frame, hframe⟩
    obtain ⟨dataLength, hdata, hframe⟩ := bind_eq_ok_iff.mp hframe
    obtain rfl := Except.ok.inj hdata
    obtain ⟨⟨⟩, hhead, -⟩ := bind_eq_ok_iff.mp hframe
    exact ⟨(validateBlock_eq_ok_iff hblock).mp hvalid,
      Nat.not_lt.mp (rejectIf_eq_ok_iff.mp hhead)⟩
  · rintro ⟨hextension, hhead⟩
    refine ⟨(), (validateBlock_eq_ok_iff hblock).mpr hextension, ?_⟩
    have hword : (block.head codec).length < u32Bound := Nat.lt_of_le_of_lt hhead (by decide)
    refine ⟨frameBytes (UInt32.ofNat (block.head codec).length) (UInt32.ofNat block.body.length)
      (block.head codec) block.body, bind_eq_ok_iff.mpr ⟨_, rfl, bind_eq_ok_iff.mpr ⟨(), ?_, ?_⟩⟩⟩
    · exact rejectIf_eq_ok_iff.mpr (Nat.not_lt.mpr hhead)
    · exact bind_eq_ok_iff.mpr ⟨_, u32OfLen_of_lt hword, bind_eq_ok_iff.mpr ⟨_, rfl, rfl⟩⟩

/-! ## The length of a head -/

theorem messageLen_word32_le {number : Nat} (value : UInt32) (hnumber : number < 16) :
    messageLen (varintField number value.toNat) ≤ 6 :=
  messageLen_varintField_le hnumber (Nat.lt_of_lt_of_le value.toNat_lt (by decide))

theorem messageLen_word64_le {number : Nat} (value : UInt64) (hnumber : number < 16) :
    messageLen (varintField number value.toNat) ≤ 11 :=
  messageLen_varintField_le hnumber (Nat.lt_of_lt_of_le value.toNat_lt (by decide))

/-- A constant of the head takes two bytes at most. -/
theorem messageLen_constant_le {number value : Nat} (hnumber : number < 16) (hvalue : value < 128) :
    messageLen (varintField number value) ≤ 2 :=
  messageLen_varintField_le hnumber (by simpa using hvalue)

section Block

variable (codec : HighwayCodec) {block : UploadBlock} {bytes : List UInt8} (dataLength : UInt32)

theorem messageLen_base_le (block : UploadBlock) {base : BaseHeadWire}
    (hbase : (requestHead codec block dataLength).base = some base) :
    messageLen [messageField 1 (baseFields base)] ≤ 62 := by
  cases hbase
  have huin : (utf8Bytes (toString block.uin.toNat)).length ≤ 20 :=
    toString_utf8ByteSize_le (by decide) (Nat.lt_of_lt_of_le block.uin.toNat_lt (by decide))
  have hname : messageLen (bytesField 2 (utf8Bytes (toString block.uin.toNat))) ≤ 22 :=
    messageLen_bytesField_le (by decide) huin (by decide)
  have hcommand : messageLen (bytesField 3 (utf8Bytes "PicUp.DataUp")) ≤ 14 :=
    messageLen_bytesField_le (by decide) (by decide : _ ≤ 12) (by decide)
  have hversion : messageLen (varintField 1 (1 : UInt32).toNat) ≤ 2 :=
    messageLen_constant_le (by decide) (by decide)
  have hretry : messageLen (varintField 5 (0 : UInt32).toNat) ≤ 2 :=
    messageLen_constant_le (by decide) (by decide)
  have hflag : messageLen (varintField 7 (16 : UInt32).toNat) ≤ 2 :=
    messageLen_constant_le (by decide) (by decide)
  have hsequence := messageLen_word32_le block.sequence (by decide : 4 < 16)
  have happ := messageLen_word32_le block.subAppId (by decide : 6 < 16)
  have hid := messageLen_word32_le block.commandId (by decide : 8 < 16)
  refine messageLen_messageField_le (by decide) (?_ : messageLen (baseFields _) ≤ 60) (by decide)
  simp only [baseFields, messageLen_append]
  omega

theorem messageLen_segment_le (hblock : block.Within bytes) {segment : SegmentHeadWire}
    (hsegment : (requestHead codec block dataLength).segment = some segment) :
    messageLen [messageField 2 (segmentFields segment)] ≤ 8266 := by
  cases hsegment
  have hservice : messageLen (varintField 1 (0 : UInt32).toNat) ≤ 2 :=
    messageLen_constant_le (by decide) (by decide)
  have hreturn : messageLen (varintField 5 (0 : UInt32).toNat) ≤ 2 :=
    messageLen_constant_le (by decide) (by decide)
  have hfile := messageLen_word64_le block.fileSize (by decide : 2 < 16)
  have hoffset := messageLen_word64_le block.offset (by decide : 3 < 16)
  have hlength := messageLen_word32_le dataLength (by decide : 4 < 16)
  have hticket : messageLen (bytesField 6 block.ticket) ≤ 8195 :=
    messageLen_bytesField_le (by decide) hblock.ticket.2 (by decide)
  have hdigest : ∀ {number : Nat} (digest : Ceylith.FixedBytes 16), number < 16 →
      messageLen (bytesField number digest.bytes) ≤ 18 := fun digest hnumber =>
    messageLen_bytesField_le hnumber (Nat.le_of_eq digest.length_eq) (by decide)
  have hblockDigest := hdigest (codec.md5 block.body) (by decide : 8 < 16)
  have hfileDigest := hdigest block.fileMd5 (by decide : 9 < 16)
  refine messageLen_messageField_le (by decide) (?_ : messageLen (segmentFields _) ≤ 8263)
    (by decide)
  simp only [segmentFields, messageLen_append]
  omega

theorem messageLen_login_le (hblock : block.Within bytes) {login : LoginHeadWire}
    (hlogin : (requestHead codec block dataLength).login = some login) :
    messageLen [messageField 5 (loginFields login)] ≤ 8206 := by
  cases hlogin
  have hkind : messageLen (varintField 1 (8 : UInt32).toNat) ≤ 2 :=
    messageLen_constant_le (by decide) (by decide)
  have hsignature : messageLen (bytesField 2 block.loginSignature) ≤ 8195 :=
    messageLen_bytesField_le (by decide) hblock.loginSignature.2 (by decide)
  have happ := messageLen_word32_le block.appId (by decide : 3 < 16)
  refine messageLen_messageField_le (by decide) (?_ : messageLen (loginFields _) ≤ 8203)
    (by decide)
  simp only [loginFields, messageLen_append]
  omega

/-- What a head has besides its extension. -/
theorem head_length_le (hencode : ∀ head, codec.encodeRequest head = encodeRequestHead head)
    (hblock : block.Within bytes) {limit : Nat} (hextension : block.extension.length ≤ limit)
    (hlimit : limit < 128 ^ 3) : (block.head codec).length ≤ limit + 16540 := by
  rw [UploadBlock.head, hencode]
  generalize UInt32.ofNat block.body.length = dataLength
  have hbase := messageLen_base_le codec dataLength block rfl
  have hsegment := messageLen_segment_le codec dataLength hblock rfl
  have hlogin := messageLen_login_le codec dataLength hblock rfl
  have hbytes : messageLen (bytesField 3 block.extension) ≤ 4 + limit :=
    messageLen_bytesField_le (by decide) hextension hlimit
  have htime : messageLen (varintField 4 (0 : UInt64).toNat) ≤ 2 :=
    messageLen_constant_le (by decide) (by decide)
  show messageLen ([messageField 1 _] ++ [messageField 2 _] ++ bytesField 3 block.extension ++
    varintField 4 (0 : UInt64).toNat ++ [messageField 5 _]) ≤ limit + 16540
  simp only [messageLen_append]
  omega

end Block

end Highway
end Lirvena
