import Lirvena.Envelope.TeaCodec
import Lirvena.Lib.Text
import Lirvena.Session.Runtime
import Lirvena.Wire.WireWriter

/-!
# The service envelope

The outer frame of protocol 12 names the account and carries an encrypted payload.
A flag in the frame says which key the payload is encrypted under: none, the key of
the session, or the zero key that everybody knows.
-/

namespace Lirvena
namespace Envelope

open Lib
open Session (EnvelopeError)
open Wire

def maxPacketLen : Nat := 2 * 1024 * 1024

def protocolVersion : UInt32 := 12

/-- The conversion of wire errors that `?` makes. -/
def wire {α : Type} (result : Except WireError α) : Except EnvelopeError α :=
  result.mapError fun _ => .wire

/-- The conversion of cipher errors that `?` makes. -/
def crypto {α : Type} (result : Except QqTeaError α) : Except EnvelopeError α :=
  result.mapError fun _ => .crypto

@[simp] theorem wire_eq_ok_iff {α : Type} {result : Except WireError α} {value : α} :
    wire result = .ok value ↔ result = .ok value := by
  cases result <;> simp [wire, Except.mapError]

@[simp] theorem crypto_eq_ok_iff {α : Type} {result : Except QqTeaError α} {value : α} :
    crypto result = .ok value ↔ result = .ok value := by
  cases result <;> simp [crypto, Except.mapError]

/-- The key of frames that are encrypted without a session. -/
def zeroKey : QqTeaKey where
  bytes := List.replicate 16 0
  length_eq := rfl

/-- Fields of one outer service frame. -/
structure ServiceFrameParts where
  uin : UInt32
  d2 : List UInt8
  d2Key : QqTeaKey
  sso : List UInt8

/-- Decrypted inbound service payload. -/
structure ServiceResponse where
  uin : String
  payload : List UInt8
  deriving DecidableEq

/-- `u32::to_string`. -/
def uinText (uin : UInt32) : String :=
  toString uin.toNat

/-- The flag and the key that go with a ticket. -/
def ServiceFrameParts.encryption (parts : ServiceFrameParts) : UInt8 × QqTeaKey :=
  if parts.d2 = [] then (2, zeroKey) else (1, parts.d2Key)

def putServiceBody (parts : ServiceFrameParts) (encrypted : List UInt8) (body : WireWriter) :
    Except WireError WireWriter := do
  let body ← body.putU32 protocolVersion
  let body ← body.putU8 parts.encryption.1
  let body ← body.putPrefixedBytes .u32Inclusive parts.d2
  let body ← body.putU8 0
  let body ← body.putPrefixedBytes .u32Inclusive (utf8Bytes (uinText parts.uin))
  body.putBytes encrypted

def newPacketWriter : WireWriter :=
  .new maxPacketLen (by decide)

/-- Encrypts and encodes one length-delimited service frame. -/
def encodeServiceFrame (parts : ServiceFrameParts)
    (fill : (length : Nat) → Option (Vector UInt8 length)) :
    Except EnvelopeError (List UInt8) := do
  rejectIf .invalidField (parts.sso = [])
  let encrypted ← crypto (encryptQqTea parts.sso parts.encryption.2 fill)
  let body ← wire (putServiceBody parts encrypted newPacketWriter)
  let output ← wire (newPacketWriter.putPrefixedBytes .u32Inclusive body.output)
  return output.output

/-- The payload of a frame, under the key that its flag names. -/
def openPayload (authFlag : UInt8) (d2Key : Option QqTeaKey) (encrypted : List UInt8) :
    Except EnvelopeError (List UInt8) :=
  if authFlag = 0 then
    .ok encrypted
  else if authFlag = 1 then do
    let key ← okOr .invalidField d2Key
    crypto (decryptQqTea encrypted key)
  else if authFlag = 2 then
    crypto (decryptQqTea encrypted zeroKey)
  else
    .error .unsupported

def isAsciiDigit (byte : UInt8) : Bool :=
  0x30 ≤ byte.toNat && byte.toNat ≤ 0x39

/-- Decodes one inbound service frame. -/
def decodeServiceResponse (encoded : List UInt8) (d2Key : Option QqTeaKey) :
    Except EnvelopeError ServiceResponse := do
  let (body, outer) ← wire (WireReader.readPrefixedBytes .u32Inclusive maxPacketLen encoded)
  wire (WireReader.finish outer)
  let (version, reader) ← wire (WireReader.readU32 body)
  rejectIf .unsupported (version ≠ protocolVersion)
  let (authFlag, reader) ← wire (WireReader.readU8 reader)
  let (_, reader) ← wire (WireReader.readU8 reader)
  let (uinBytes, reader) ← wire (WireReader.readPrefixedBytes .u32Inclusive 32 reader)
  rejectIf .invalidField (uinBytes = [] ∨ ¬ uinBytes.all isAsciiDigit = true)
  let uin ← okOr .invalidField (fromUtf8 uinBytes)
  let (encrypted, reader) ← wire (WireReader.readBytes reader.length reader)
  wire (WireReader.finish reader)
  let payload ← openPayload authFlag d2Key encrypted
  rejectIf .invalidField (payload = [])
  return ⟨uin, payload⟩

/-! ## The frames -/

/-- An outbound frame, with the ticket behind the flag. -/
def requestBody (parts : ServiceFrameParts) (encrypted : List UInt8) : List UInt8 :=
  beBytes 4 protocolVersion.toNat ++ ([parts.encryption.1] ++
    (LengthPrefix.u32Inclusive.encode parts.d2 ++ ([0] ++
      (LengthPrefix.u32Inclusive.encode (utf8Bytes (uinText parts.uin)) ++ encrypted))))

def requestFrame (parts : ServiceFrameParts) (encrypted : List UInt8) : List UInt8 :=
  LengthPrefix.u32Inclusive.encode (requestBody parts encrypted)

/-- What a bounded writer can hold fits four bytes of length. -/
theorem puts_field (bytes : List UInt8) :
    WireWriter.Puts maxPacketLen (WireWriter.putPrefixedBytes .u32Inclusive bytes)
      (LengthPrefix.u32Inclusive.encode bytes) := by
  refine WireWriter.puts_prefixed bytes ?_
  intro hroom
  have hmax : maxPacketLen = 2097152 := rfl
  have hroom : 4 + bytes.length ≤ maxPacketLen := hroom
  show bytes.length + 4 < 256 ^ 4
  omega

theorem puts_serviceBody (parts : ServiceFrameParts) (encrypted : List UInt8) :
    WireWriter.Puts maxPacketLen (putServiceBody parts encrypted)
      (requestBody parts encrypted) :=
  (WireWriter.puts_u32 _).andThen ((WireWriter.puts_u8 _).andThen
    ((puts_field _).andThen ((WireWriter.puts_u8 _).andThen
      ((puts_field _).andThen (WireWriter.puts_bytes _)))))

/-- A frame is written exactly when it fits a packet. -/
theorem encodeServiceFrame_eq_ok_iff {parts : ServiceFrameParts}
    {fill : (length : Nat) → Option (Vector UInt8 length)} {encoded : List UInt8} :
    encodeServiceFrame parts fill = .ok encoded ↔
      parts.sso ≠ [] ∧ ∃ encrypted,
        encryptQqTea parts.sso parts.encryption.2 fill = .ok encrypted ∧
        encoded = requestFrame parts encrypted ∧
        (requestFrame parts encrypted).length ≤ maxPacketLen := by
  unfold encodeServiceFrame newPacketWriter
  constructor
  · intro hencode
    obtain ⟨⟨⟩, hsso, hencode⟩ := bind_eq_ok_iff.mp hencode
    obtain ⟨encrypted, hencrypted, hencode⟩ := bind_eq_ok_iff.mp hencode
    obtain ⟨body, hbody, hencode⟩ := bind_eq_ok_iff.mp hencode
    obtain ⟨output, houtput, hencode⟩ := bind_eq_ok_iff.mp hencode
    cases hencode
    obtain ⟨-, rfl⟩ :=
      (puts_serviceBody parts encrypted).new_eq_ok_iff.mp (wire_eq_ok_iff.mp hbody)
    obtain ⟨hroom, rfl⟩ := (puts_field _).new_eq_ok_iff.mp (wire_eq_ok_iff.mp houtput)
    exact ⟨rejectIf_eq_ok_iff.mp hsso, encrypted, crypto_eq_ok_iff.mp hencrypted, rfl, hroom⟩
  · rintro ⟨hsso, encrypted, hencrypted, rfl, hroom⟩
    -- The body is shorter than the frame, so its own writer has room for it.
    have hbody : (requestBody parts encrypted).length ≤ maxPacketLen := by
      rw [requestFrame, LengthPrefix.encode_length] at hroom
      omega
    refine bind_eq_ok_iff.mpr ⟨(), rejectIf_eq_ok_iff.mpr hsso, ?_⟩
    refine bind_eq_ok_iff.mpr ⟨encrypted, crypto_eq_ok_iff.mpr hencrypted, ?_⟩
    refine bind_eq_ok_iff.mpr ⟨_, wire_eq_ok_iff.mpr
      ((puts_serviceBody parts encrypted).new_eq_ok_iff.mpr ⟨hbody, rfl⟩), ?_⟩
    exact bind_eq_ok_iff.mpr ⟨_, wire_eq_ok_iff.mpr
      ((puts_field _).new_eq_ok_iff.mpr ⟨hroom, rfl⟩), rfl⟩

/-- A field of at most a packet behind four bytes of length. -/
theorem declared_fits {length : Nat} (hlength : length ≤ maxPacketLen) :
    LengthPrefix.u32Inclusive.declared length < 256 ^ LengthPrefix.u32Inclusive.width := by
  have hmax : maxPacketLen = 2097152 := rfl
  show length + 4 < 256 ^ 4
  omega

theorem readField_eq_ok_iff {maximum : Nat} {unread payload rest : List UInt8}
    (hmaximum : maximum ≤ maxPacketLen) :
    WireReader.readPrefixedBytes .u32Inclusive maximum unread = .ok (payload, rest) ↔
      payload.length ≤ maximum ∧
        unread = LengthPrefix.u32Inclusive.encode payload ++ rest := by
  rw [WireReader.readPrefixedBytes_eq_ok_iff]
  constructor
  · rintro ⟨hbound, -, hunread⟩
    exact ⟨hbound, hunread⟩
  · rintro ⟨hbound, hunread⟩
    exact ⟨hbound, declared_fits (Nat.le_trans hbound hmaximum), hunread⟩

/-- All that is left is read, and nothing remains. -/
theorem readRest_eq_ok_iff {unread bytes rest : List UInt8} :
    WireReader.readBytes unread.length unread = .ok (bytes, rest) ↔
      bytes = unread ∧ rest = [] := by
  rw [WireReader.readBytes_eq_ok_iff]
  constructor
  · rintro ⟨hunread, hlength⟩
    have hrest : rest.length = 0 := by
      have hsum := congrArg List.length hunread
      rw [List.length_append] at hsum
      omega
    obtain rfl := List.length_eq_zero_iff.mp hrest
    rw [List.append_nil] at hunread
    exact ⟨hunread.symm, rfl⟩
  · rintro ⟨rfl, rfl⟩
    exact ⟨(List.append_nil _).symm, rfl⟩

/-- An inbound frame: the flag, a byte that is not read, the account and the payload. -/
def serviceBody (authFlag reserved : UInt8) (uin : String) (encrypted : List UInt8) :
    List UInt8 :=
  beBytes 4 protocolVersion.toNat ++ authFlag :: reserved ::
    (LengthPrefix.u32Inclusive.encode (utf8Bytes uin) ++ encrypted)

def serviceFrame (authFlag reserved : UInt8) (uin : String) (encrypted : List UInt8) :
    List UInt8 :=
  LengthPrefix.u32Inclusive.encode (serviceBody authFlag reserved uin encrypted)

/-- An account text that a frame may carry. -/
structure IsUin (uin : String) : Prop where
  ne_nil : utf8Bytes uin ≠ []
  digits : (utf8Bytes uin).all isAsciiDigit = true
  length_le : (utf8Bytes uin).length ≤ 32

/-- A frame that is accepted is laid out as written, and its payload is the opened one. -/
theorem serviceFrame_of_decodeServiceResponse {encoded : List UInt8}
    {d2Key : Option QqTeaKey} {response : ServiceResponse}
    (hdecode : decodeServiceResponse encoded d2Key = .ok response) :
    ∃ authFlag reserved encrypted,
      encoded = serviceFrame authFlag reserved response.uin encrypted ∧
      (serviceBody authFlag reserved response.uin encrypted).length ≤ maxPacketLen ∧
      IsUin response.uin ∧
      openPayload authFlag d2Key encrypted = .ok response.payload ∧
      response.payload ≠ [] := by
  unfold decodeServiceResponse at hdecode
  obtain ⟨⟨body, outer⟩, hbody, hdecode⟩ := bind_eq_ok_iff.mp hdecode
  obtain ⟨⟨⟩, houter, hdecode⟩ := bind_eq_ok_iff.mp hdecode
  obtain ⟨⟨version, reader⟩, hversion, hdecode⟩ := bind_eq_ok_iff.mp hdecode
  obtain ⟨⟨⟩, hsupported, hdecode⟩ := bind_eq_ok_iff.mp hdecode
  obtain ⟨⟨authFlag, reader⟩, hflag, hdecode⟩ := bind_eq_ok_iff.mp hdecode
  obtain ⟨⟨reserved, reader⟩, hreserved, hdecode⟩ := bind_eq_ok_iff.mp hdecode
  obtain ⟨⟨uinBytes, reader⟩, huinBytes, hdecode⟩ := bind_eq_ok_iff.mp hdecode
  obtain ⟨⟨⟩, hdigits, hdecode⟩ := bind_eq_ok_iff.mp hdecode
  obtain ⟨uin, huin, hdecode⟩ := bind_eq_ok_iff.mp hdecode
  obtain ⟨⟨encrypted, behind⟩, hencrypted, hdecode⟩ := bind_eq_ok_iff.mp hdecode
  obtain ⟨⟨⟩, -, hdecode⟩ := bind_eq_ok_iff.mp hdecode
  obtain ⟨payload, hpayload, hdecode⟩ := bind_eq_ok_iff.mp hdecode
  obtain ⟨⟨⟩, hempty, hdecode⟩ := bind_eq_ok_iff.mp hdecode
  cases hdecode
  -- What each read took from the frame, in the order of the wire.
  obtain ⟨hbound, hencoded⟩ :=
    (readField_eq_ok_iff (Nat.le_refl _)).mp (wire_eq_ok_iff.mp hbody)
  obtain rfl := WireReader.finish_eq_ok_iff.mp (wire_eq_ok_iff.mp houter)
  rw [List.append_nil] at hencoded
  have hversion := WireReader.readU32_eq_ok_iff.mp (wire_eq_ok_iff.mp hversion)
  have hsupported := not_not.mp (rejectIf_eq_ok_iff.mp hsupported)
  have hflag := WireReader.readU8_eq_ok_iff.mp (wire_eq_ok_iff.mp hflag)
  have hreserved := WireReader.readU8_eq_ok_iff.mp (wire_eq_ok_iff.mp hreserved)
  obtain ⟨huinLength, huinBytes⟩ :=
    (readField_eq_ok_iff (by decide)).mp (wire_eq_ok_iff.mp huinBytes)
  obtain ⟨hnil, hall⟩ := not_or.mp (rejectIf_eq_ok_iff.mp hdigits)
  have huin := fromUtf8_eq_some_iff.mp (okOr_eq_ok_iff.mp huin)
  obtain ⟨hrest, -⟩ := readRest_eq_ok_iff.mp (wire_eq_ok_iff.mp hencrypted)
  have hlayout : body = serviceBody authFlag reserved uin encrypted := by
    rw [serviceBody, hversion, hsupported, hflag, hreserved, huinBytes, huin, hrest]
  rw [← huin] at hnil hall huinLength
  refine ⟨authFlag, reserved, encrypted, ?_, ?_, ⟨hnil, not_not.mp hall, huinLength⟩,
    hpayload, rejectIf_eq_ok_iff.mp hempty⟩
  · rw [hencoded, hlayout]
    rfl
  · rw [← hlayout]
    exact hbound
/-- A frame within the bounds whose payload opens is accepted, whatever its second byte. -/
theorem decodeServiceResponse_serviceFrame {authFlag reserved : UInt8} {encrypted : List UInt8}
    {d2Key : Option QqTeaKey} {response : ServiceResponse}
    (hbound : (serviceBody authFlag reserved response.uin encrypted).length ≤ maxPacketLen)
    (huin : IsUin response.uin)
    (hpayload : openPayload authFlag d2Key encrypted = .ok response.payload)
    (hempty : response.payload ≠ []) :
    decodeServiceResponse (serviceFrame authFlag reserved response.uin encrypted) d2Key =
      .ok response := by
  unfold decodeServiceResponse
  refine bind_eq_ok_iff.mpr ⟨(serviceBody authFlag reserved response.uin encrypted, []),
    wire_eq_ok_iff.mpr ((readField_eq_ok_iff (Nat.le_refl _)).mpr
      ⟨hbound, (List.append_nil _).symm⟩), ?_⟩
  refine bind_eq_ok_iff.mpr
    ⟨(), wire_eq_ok_iff.mpr (WireReader.finish_eq_ok_iff.mpr rfl), ?_⟩
  refine bind_eq_ok_iff.mpr
    ⟨_, wire_eq_ok_iff.mpr (WireReader.readU32_eq_ok_iff.mpr rfl), ?_⟩
  refine bind_eq_ok_iff.mpr ⟨(), rejectIf_eq_ok_iff.mpr (not_not.mpr rfl), ?_⟩
  refine bind_eq_ok_iff.mpr
    ⟨_, wire_eq_ok_iff.mpr (WireReader.readU8_eq_ok_iff.mpr rfl), ?_⟩
  refine bind_eq_ok_iff.mpr
    ⟨_, wire_eq_ok_iff.mpr (WireReader.readU8_eq_ok_iff.mpr rfl), ?_⟩
  refine bind_eq_ok_iff.mpr ⟨(utf8Bytes response.uin, encrypted),
    wire_eq_ok_iff.mpr ((readField_eq_ok_iff (by decide)).mpr ⟨huin.length_le, rfl⟩), ?_⟩
  refine bind_eq_ok_iff.mpr ⟨(), rejectIf_eq_ok_iff.mpr
    (not_or.mpr ⟨huin.ne_nil, not_not.mpr huin.digits⟩), ?_⟩
  refine bind_eq_ok_iff.mpr
    ⟨response.uin, okOr_eq_ok_iff.mpr (fromUtf8_eq_some_iff.mpr rfl), ?_⟩
  refine bind_eq_ok_iff.mpr ⟨(encrypted, []),
    wire_eq_ok_iff.mpr (readRest_eq_ok_iff.mpr ⟨rfl, rfl⟩), ?_⟩
  refine bind_eq_ok_iff.mpr
    ⟨(), wire_eq_ok_iff.mpr (WireReader.finish_eq_ok_iff.mpr rfl), ?_⟩
  refine bind_eq_ok_iff.mpr ⟨response.payload, hpayload, ?_⟩
  exact bind_eq_ok_iff.mpr ⟨(), rejectIf_eq_ok_iff.mpr hempty, rfl⟩

theorem decodeServiceResponse_eq_ok_iff {encoded : List UInt8} {d2Key : Option QqTeaKey}
    {response : ServiceResponse} :
    decodeServiceResponse encoded d2Key = .ok response ↔
      ∃ authFlag reserved encrypted,
        encoded = serviceFrame authFlag reserved response.uin encrypted ∧
        (serviceBody authFlag reserved response.uin encrypted).length ≤ maxPacketLen ∧
        IsUin response.uin ∧
        openPayload authFlag d2Key encrypted = .ok response.payload ∧
        response.payload ≠ [] := by
  constructor
  · exact serviceFrame_of_decodeServiceResponse
  · rintro ⟨authFlag, reserved, encrypted, rfl, hbound, huin, hpayload, hempty⟩
    exact decodeServiceResponse_serviceFrame hbound huin hpayload hempty

end Envelope
end Lirvena
