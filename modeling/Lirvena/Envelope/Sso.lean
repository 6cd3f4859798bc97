import Lirvena.Envelope.Service

/-!
# The SSO layer

Inside the service envelope a request and its response each have a header and a
payload, both behind their lengths.  The encoder writes exactly one layout, and the
decoder accepts exactly one.
-/

namespace Lirvena
namespace Envelope

open Lib
open Session (EnvelopeError SsoResponse)
open Wire

def fixedHeaderValue : List UInt8 := [2, 0, 0, 0, 0, 0, 0, 0, 0, 0, 0, 0]

def maxCommandLen : Nat := 128

def maxVersionLen : Nat := 64

def maxResponseExtensionLen : Nat := 4 * 1024

def guidHexLen : Nat := 32

/-- Ordinary fields of one signed request. -/
structure SsoRequestParts where
  sequence : UInt32
  subAppId : UInt32
  localeId : UInt32
  tgt : List UInt8
  command : String
  deviceGuidHex : List UInt8
  clientVersion : String
  reserve : List UInt8
  payload : List UInt8

/-- `u8::is_ascii_graphic`. -/
def isAsciiGraphic (byte : UInt8) : Bool :=
  0x21 ≤ byte.toNat && byte.toNat ≤ 0x7e

/-- `u8::is_ascii_hexdigit`. -/
def isAsciiHexdigit (byte : UInt8) : Bool :=
  isAsciiDigit byte || (0x41 ≤ byte.toNat && byte.toNat ≤ 0x46) ||
    (0x61 ≤ byte.toNat && byte.toNat ≤ 0x66)

structure SsoRequestParts.Valid (parts : SsoRequestParts) : Prop where
  sequence : parts.sequence ≠ 0
  subAppId : parts.subAppId ≠ 0
  localeId : parts.localeId ≠ 0
  command_ne : utf8Bytes parts.command ≠ []
  command_le : (utf8Bytes parts.command).length ≤ maxCommandLen
  command_graphic : (utf8Bytes parts.command).all isAsciiGraphic = true
  guid_length : parts.deviceGuidHex.length = guidHexLen
  guid_hex : parts.deviceGuidHex.all isAsciiHexdigit = true
  version_ne : utf8Bytes parts.clientVersion ≠ []
  version_le : (utf8Bytes parts.clientVersion).length ≤ maxVersionLen
  version_graphic : (utf8Bytes parts.clientVersion).all isAsciiGraphic = true
  payload : parts.payload ≠ []

/-- The rejection of a request with an invalid ordinary field. -/
def validate (parts : SsoRequestParts) : Except EnvelopeError Unit :=
  rejectIf .invalidField
    (parts.sequence = 0 ∨ parts.subAppId = 0 ∨ parts.localeId = 0 ∨
      utf8Bytes parts.command = [] ∨ maxCommandLen < (utf8Bytes parts.command).length ∨
      ¬ (utf8Bytes parts.command).all isAsciiGraphic = true ∨
      parts.deviceGuidHex.length ≠ guidHexLen ∨
      ¬ parts.deviceGuidHex.all isAsciiHexdigit = true ∨
      utf8Bytes parts.clientVersion = [] ∨
      maxVersionLen < (utf8Bytes parts.clientVersion).length ∨
      ¬ (utf8Bytes parts.clientVersion).all isAsciiGraphic = true ∨ parts.payload = [])

def putSsoHeader (parts : SsoRequestParts) (header : WireWriter) :
    Except WireError WireWriter := do
  let header ← header.putU32 parts.sequence
  let header ← header.putU32 parts.subAppId
  let header ← header.putU32 parts.localeId
  let header ← header.putBytes fixedHeaderValue
  let header ← header.putPrefixedBytes .u32Inclusive parts.tgt
  let header ← header.putPrefixedBytes .u32Inclusive (utf8Bytes parts.command)
  let header ← header.putPrefixedBytes .u32Inclusive []
  let header ← header.putPrefixedBytes .u32Inclusive parts.deviceGuidHex
  let header ← header.putPrefixedBytes .u32Inclusive []
  let header ← header.putPrefixedBytes .u16Inclusive (utf8Bytes parts.clientVersion)
  header.putPrefixedBytes .u32Inclusive parts.reserve

def putSsoRequest (header payload : List UInt8) (output : WireWriter) :
    Except WireError WireWriter := do
  let output ← output.putPrefixedBytes .u32Inclusive header
  output.putPrefixedBytes .u32Inclusive payload

/-- Encodes one request without interpreting its reserve bytes. -/
def encodeSsoRequest (parts : SsoRequestParts) : Except EnvelopeError (List UInt8) := do
  validate parts
  let header ← wire (putSsoHeader parts newPacketWriter)
  let output ← wire (putSsoRequest header.output parts.payload newPacketWriter)
  return output.output

/-- A text behind its length. -/
def readText (maximum : Nat) (unread : List UInt8) :
    Except EnvelopeError (String × List UInt8) := do
  let (bytes, rest) ← wire (WireReader.readPrefixedBytes .u32Inclusive maximum unread)
  let text ← okOr .invalidField (fromUtf8 bytes)
  return (text, rest)

/-- Decodes one uncompressed inbound response. -/
def decodeSsoResponse (encoded : List UInt8) : Except EnvelopeError SsoResponse := do
  let (header, reader) ← wire (WireReader.readPrefixedBytes .u32Inclusive maxPacketLen encoded)
  let (payload, reader) ← wire (WireReader.readPrefixedBytes .u32Inclusive maxPacketLen reader)
  wire (WireReader.finish reader)
  let (sequence, header) ← wire (WireReader.readU32 header)
  let (returnCode, header) ← wire (WireReader.readI32 header)
  let (extra, header) ← readText (4 * 1024) header
  let (command, header) ← readText maxCommandLen header
  let (_, header) ← wire (WireReader.readPrefixedBytes .u32Inclusive (4 * 1024) header)
  let (compression, header) ← wire (WireReader.readI32 header)
  let (reserve, header) ← wire (WireReader.readPrefixedBytes .u32Inclusive (64 * 1024) header)
  rejectIf .invalidField (maxResponseExtensionLen < header.length)
  let (extension, header) ← wire (WireReader.readBytes header.length header)
  wire (WireReader.finish header)
  rejectIf .invalidField (sequence = 0 ∨ utf8Bytes command = [])
  rejectIf .unsupported (¬ (compression = 0 ∨ compression = 4))
  return ⟨sequence.toNat, returnCode, command, extra, reserve, extension, payload⟩

/-! ## Requests -/

theorem validate_eq_ok_iff {parts : SsoRequestParts} :
    validate parts = .ok () ↔ parts.Valid := by
  unfold validate
  rw [rejectIf_eq_ok_iff]
  simp only [not_or, not_not, Nat.not_lt, ne_eq]
  constructor
  · rintro ⟨hsequence, happ, hlocale, hcommand, hcommandLe, hcommandGraphic, hguid, hhex,
      hversion, hversionLe, hversionGraphic, hpayload⟩
    exact ⟨hsequence, happ, hlocale, hcommand, hcommandLe, hcommandGraphic, hguid, hhex,
      hversion, hversionLe, hversionGraphic, hpayload⟩
  · rintro ⟨hsequence, happ, hlocale, hcommand, hcommandLe, hcommandGraphic, hguid, hhex,
      hversion, hversionLe, hversionGraphic, hpayload⟩
    exact ⟨hsequence, happ, hlocale, hcommand, hcommandLe, hcommandGraphic, hguid, hhex,
      hversion, hversionLe, hversionGraphic, hpayload⟩

def ssoHeader (parts : SsoRequestParts) : List UInt8 :=
  beBytes 4 parts.sequence.toNat ++ (beBytes 4 parts.subAppId.toNat ++
    (beBytes 4 parts.localeId.toNat ++ (fixedHeaderValue ++
      (LengthPrefix.u32Inclusive.encode parts.tgt ++
        (LengthPrefix.u32Inclusive.encode (utf8Bytes parts.command) ++
          (LengthPrefix.u32Inclusive.encode [] ++
            (LengthPrefix.u32Inclusive.encode parts.deviceGuidHex ++
              (LengthPrefix.u32Inclusive.encode [] ++
                (LengthPrefix.u16Inclusive.encode (utf8Bytes parts.clientVersion) ++
                  LengthPrefix.u32Inclusive.encode parts.reserve)))))))))

def ssoRequest (parts : SsoRequestParts) : List UInt8 :=
  LengthPrefix.u32Inclusive.encode (ssoHeader parts) ++
    LengthPrefix.u32Inclusive.encode parts.payload

theorem SsoRequestParts.Valid.version_fits {parts : SsoRequestParts} (hvalid : parts.Valid) :
    LengthPrefix.u16Inclusive.declared (utf8Bytes parts.clientVersion).length <
      256 ^ LengthPrefix.u16Inclusive.width := by
  have hle : (utf8Bytes parts.clientVersion).length ≤ 64 := hvalid.version_le
  show (utf8Bytes parts.clientVersion).length + 2 < 256 ^ 2
  omega

theorem puts_ssoHeader {parts : SsoRequestParts} (hvalid : parts.Valid) :
    WireWriter.Puts maxPacketLen (putSsoHeader parts) (ssoHeader parts) :=
  (WireWriter.puts_u32 _).andThen ((WireWriter.puts_u32 _).andThen
    ((WireWriter.puts_u32 _).andThen ((WireWriter.puts_bytes _).andThen
      ((puts_field _).andThen ((puts_field _).andThen ((puts_field _).andThen
        ((puts_field _).andThen ((puts_field _).andThen
          ((WireWriter.puts_prefixed _ fun _ => hvalid.version_fits).andThen
            (puts_field _))))))))))

theorem puts_ssoRequest (header payload : List UInt8) :
    WireWriter.Puts maxPacketLen (putSsoRequest header payload)
      (LengthPrefix.u32Inclusive.encode header ++ LengthPrefix.u32Inclusive.encode payload) :=
  (puts_field _).andThen (puts_field _)

/-- A request is written exactly when its fields are valid and it fits a packet. -/
theorem encodeSsoRequest_eq_ok_iff {parts : SsoRequestParts} {encoded : List UInt8} :
    encodeSsoRequest parts = .ok encoded ↔
      parts.Valid ∧ (ssoRequest parts).length ≤ maxPacketLen ∧ encoded = ssoRequest parts := by
  unfold encodeSsoRequest newPacketWriter
  constructor
  · intro hencode
    obtain ⟨⟨⟩, hvalid, hencode⟩ := bind_eq_ok_iff.mp hencode
    obtain ⟨header, hheader, hencode⟩ := bind_eq_ok_iff.mp hencode
    obtain ⟨output, houtput, hencode⟩ := bind_eq_ok_iff.mp hencode
    cases hencode
    have hvalid := validate_eq_ok_iff.mp hvalid
    obtain ⟨-, rfl⟩ := (puts_ssoHeader hvalid).new_eq_ok_iff.mp (wire_eq_ok_iff.mp hheader)
    obtain ⟨hroom, rfl⟩ :=
      (puts_ssoRequest _ _).new_eq_ok_iff.mp (wire_eq_ok_iff.mp houtput)
    exact ⟨hvalid, hroom, rfl⟩
  · rintro ⟨hvalid, hroom, rfl⟩
    -- The header is shorter than the request, so its own writer has room for it.
    have hheader : (ssoHeader parts).length ≤ maxPacketLen := by
      rw [ssoRequest, List.length_append, LengthPrefix.encode_length] at hroom
      omega
    refine bind_eq_ok_iff.mpr ⟨(), validate_eq_ok_iff.mpr hvalid, ?_⟩
    refine bind_eq_ok_iff.mpr ⟨_, wire_eq_ok_iff.mpr
      ((puts_ssoHeader hvalid).new_eq_ok_iff.mpr ⟨hheader, rfl⟩), ?_⟩
    exact bind_eq_ok_iff.mpr ⟨_, wire_eq_ok_iff.mpr
      ((puts_ssoRequest _ _).new_eq_ok_iff.mpr ⟨hroom, rfl⟩), rfl⟩

/-! ## Responses -/

theorem readText_eq_ok_iff {maximum : Nat} {unread rest : List UInt8} {text : String}
    (hmaximum : maximum ≤ maxPacketLen) :
    readText maximum unread = .ok (text, rest) ↔
      (utf8Bytes text).length ≤ maximum ∧
        unread = LengthPrefix.u32Inclusive.encode (utf8Bytes text) ++ rest := by
  unfold readText
  constructor
  · intro hread
    obtain ⟨⟨bytes, behind⟩, hbytes, hread⟩ := bind_eq_ok_iff.mp hread
    obtain ⟨decoded, hdecoded, hread⟩ := bind_eq_ok_iff.mp hread
    cases hread
    obtain rfl := fromUtf8_eq_some_iff.mp (okOr_eq_ok_iff.mp hdecoded)
    exact (readField_eq_ok_iff hmaximum).mp (wire_eq_ok_iff.mp hbytes)
  · intro hunread
    refine bind_eq_ok_iff.mpr
      ⟨_, wire_eq_ok_iff.mpr ((readField_eq_ok_iff hmaximum).mpr hunread), ?_⟩
    exact bind_eq_ok_iff.mpr ⟨text, okOr_eq_ok_iff.mpr (fromUtf8_eq_some_iff.mpr rfl), rfl⟩

/-- The parts of a response header that a decoded response does not keep as they are. -/
structure ResponseWords where
  sequence : UInt32
  returnCode : UInt32
  cookie : List UInt8
  compression : UInt32

def responseHeader (words : ResponseWords) (response : SsoResponse) : List UInt8 :=
  beBytes 4 words.sequence.toNat ++ (beBytes 4 words.returnCode.toNat ++
    (LengthPrefix.u32Inclusive.encode (utf8Bytes response.extra) ++
      (LengthPrefix.u32Inclusive.encode (utf8Bytes response.command) ++
        (LengthPrefix.u32Inclusive.encode words.cookie ++
          (beBytes 4 words.compression.toNat ++
            (LengthPrefix.u32Inclusive.encode response.reserve ++ response.extension))))))

/-- A response with a sequence and a command, uncompressed and within all bounds. -/
structure WellFormed (words : ResponseWords) (response : SsoResponse) : Prop where
  sequence : words.sequence.toNat = response.sequence
  returnCode : words.returnCode.toBitVec.toInt = response.returnCode
  sequence_ne : words.sequence ≠ 0
  command_ne : utf8Bytes response.command ≠ []
  uncompressed : words.compression.toBitVec.toInt = 0 ∨ words.compression.toBitVec.toInt = 4
  extra_le : (utf8Bytes response.extra).length ≤ 4 * 1024
  command_le : (utf8Bytes response.command).length ≤ maxCommandLen
  cookie_le : words.cookie.length ≤ 4 * 1024
  reserve_le : response.reserve.length ≤ 64 * 1024
  extension_le : response.extension.length ≤ maxResponseExtensionLen
  header_le : (responseHeader words response).length ≤ maxPacketLen
  payload_le : response.payload.length ≤ maxPacketLen

/-- The bytes of a response. -/
def ssoResponse (words : ResponseWords) (response : SsoResponse) : List UInt8 :=
  LengthPrefix.u32Inclusive.encode (responseHeader words response) ++
    LengthPrefix.u32Inclusive.encode response.payload

theorem decodeSsoResponse_eq_ok {encoded : List UInt8} {response : SsoResponse}
    (hdecode : decodeSsoResponse encoded = .ok response) :
    ∃ words, WellFormed words response ∧ encoded = ssoResponse words response := by
  unfold decodeSsoResponse at hdecode
  obtain ⟨⟨header, reader⟩, hheader, hdecode⟩ := bind_eq_ok_iff.mp hdecode
  obtain ⟨⟨payload, reader⟩, hpayload, hdecode⟩ := bind_eq_ok_iff.mp hdecode
  obtain ⟨⟨⟩, hfinish, hdecode⟩ := bind_eq_ok_iff.mp hdecode
  obtain ⟨⟨sequence, behind⟩, hsequence, hdecode⟩ := bind_eq_ok_iff.mp hdecode
  obtain ⟨⟨returnCode, behind⟩, hreturn, hdecode⟩ := bind_eq_ok_iff.mp hdecode
  obtain ⟨⟨extra, behind⟩, hextra, hdecode⟩ := bind_eq_ok_iff.mp hdecode
  obtain ⟨⟨command, behind⟩, hcommand, hdecode⟩ := bind_eq_ok_iff.mp hdecode
  obtain ⟨⟨cookie, behind⟩, hcookie, hdecode⟩ := bind_eq_ok_iff.mp hdecode
  obtain ⟨⟨compression, behind⟩, hcompression, hdecode⟩ := bind_eq_ok_iff.mp hdecode
  obtain ⟨⟨reserve, behind⟩, hreserve, hdecode⟩ := bind_eq_ok_iff.mp hdecode
  obtain ⟨⟨⟩, hlong, hdecode⟩ := bind_eq_ok_iff.mp hdecode
  obtain ⟨⟨extension, rest⟩, hextension, hdecode⟩ := bind_eq_ok_iff.mp hdecode
  obtain ⟨⟨⟩, -, hdecode⟩ := bind_eq_ok_iff.mp hdecode
  obtain ⟨⟨⟩, hnames, hdecode⟩ := bind_eq_ok_iff.mp hdecode
  obtain ⟨⟨⟩, hplain, hdecode⟩ := bind_eq_ok_iff.mp hdecode
  cases hdecode
  -- Each read gives back what was in front of it, from the outer fields inwards.
  obtain ⟨hheaderLe, rfl⟩ :=
    (readField_eq_ok_iff (Nat.le_refl _)).mp (wire_eq_ok_iff.mp hheader)
  obtain ⟨hpayloadLe, rfl⟩ :=
    (readField_eq_ok_iff (Nat.le_refl _)).mp (wire_eq_ok_iff.mp hpayload)
  obtain rfl := WireReader.finish_eq_ok_iff.mp (wire_eq_ok_iff.mp hfinish)
  obtain rfl := WireReader.readU32_eq_ok_iff.mp (wire_eq_ok_iff.mp hsequence)
  obtain ⟨returnWord, rfl, rfl⟩ := WireReader.readI32_eq_ok_iff.mp (wire_eq_ok_iff.mp hreturn)
  obtain ⟨hextraLe, rfl⟩ := (readText_eq_ok_iff (by decide)).mp hextra
  obtain ⟨hcommandLe, rfl⟩ := (readText_eq_ok_iff (by decide)).mp hcommand
  obtain ⟨hcookieLe, rfl⟩ := (readField_eq_ok_iff (by decide)).mp (wire_eq_ok_iff.mp hcookie)
  obtain ⟨word, rfl, rfl⟩ := WireReader.readI32_eq_ok_iff.mp (wire_eq_ok_iff.mp hcompression)
  obtain ⟨hreserveLe, rfl⟩ := (readField_eq_ok_iff (by decide)).mp (wire_eq_ok_iff.mp hreserve)
  obtain ⟨rfl, -⟩ := readRest_eq_ok_iff.mp (wire_eq_ok_iff.mp hextension)
  obtain ⟨hsequenceNe, hcommandNe⟩ := not_or.mp (rejectIf_eq_ok_iff.mp hnames)
  refine ⟨⟨sequence, returnWord, cookie, word⟩, ⟨rfl, rfl, hsequenceNe, hcommandNe,
    not_not.mp (rejectIf_eq_ok_iff.mp hplain), hextraLe, hcommandLe, hcookieLe, hreserveLe,
    Nat.not_lt.mp (rejectIf_eq_ok_iff.mp hlong), hheaderLe, hpayloadLe⟩, ?_⟩
  rw [List.append_nil]
  rfl

theorem decodeSsoResponse_ssoResponse {words : ResponseWords} {response : SsoResponse}
    (hformed : WellFormed words response) :
    decodeSsoResponse (ssoResponse words response) = .ok response := by
  have hmax := Nat.le_refl maxPacketLen
  unfold decodeSsoResponse
  refine bind_eq_ok_iff.mpr ⟨_, wire_eq_ok_iff.mpr
    ((readField_eq_ok_iff hmax).mpr ⟨hformed.header_le, rfl⟩), ?_⟩
  refine bind_eq_ok_iff.mpr ⟨(response.payload, []), wire_eq_ok_iff.mpr
    ((readField_eq_ok_iff hmax).mpr ⟨hformed.payload_le, (List.append_nil _).symm⟩), ?_⟩
  refine bind_eq_ok_iff.mpr
    ⟨(), wire_eq_ok_iff.mpr (WireReader.finish_eq_ok_iff.mpr rfl), ?_⟩
  refine bind_eq_ok_iff.mpr
    ⟨_, wire_eq_ok_iff.mpr (WireReader.readU32_eq_ok_iff.mpr rfl), ?_⟩
  refine bind_eq_ok_iff.mpr ⟨(response.returnCode, _), wire_eq_ok_iff.mpr
    (WireReader.readI32_eq_ok_iff.mpr ⟨words.returnCode, hformed.returnCode, rfl⟩), ?_⟩
  refine bind_eq_ok_iff.mpr
    ⟨_, (readText_eq_ok_iff (by decide)).mpr ⟨hformed.extra_le, rfl⟩, ?_⟩
  refine bind_eq_ok_iff.mpr
    ⟨_, (readText_eq_ok_iff (by decide)).mpr ⟨hformed.command_le, rfl⟩, ?_⟩
  refine bind_eq_ok_iff.mpr ⟨_, wire_eq_ok_iff.mpr
    ((readField_eq_ok_iff (by decide)).mpr ⟨hformed.cookie_le, rfl⟩), ?_⟩
  refine bind_eq_ok_iff.mpr ⟨_, wire_eq_ok_iff.mpr
    (WireReader.readI32_eq_ok_iff.mpr ⟨words.compression, rfl, rfl⟩), ?_⟩
  refine bind_eq_ok_iff.mpr ⟨_, wire_eq_ok_iff.mpr
    ((readField_eq_ok_iff (by decide)).mpr ⟨hformed.reserve_le, rfl⟩), ?_⟩
  refine bind_eq_ok_iff.mpr
    ⟨(), rejectIf_eq_ok_iff.mpr (Nat.not_lt.mpr hformed.extension_le), ?_⟩
  refine bind_eq_ok_iff.mpr ⟨(response.extension, []), wire_eq_ok_iff.mpr
    (readRest_eq_ok_iff.mpr ⟨rfl, rfl⟩), ?_⟩
  refine bind_eq_ok_iff.mpr
    ⟨(), wire_eq_ok_iff.mpr (WireReader.finish_eq_ok_iff.mpr rfl), ?_⟩
  refine bind_eq_ok_iff.mpr ⟨(), rejectIf_eq_ok_iff.mpr
    (not_or.mpr ⟨hformed.sequence_ne, hformed.command_ne⟩), ?_⟩
  refine bind_eq_ok_iff.mpr
    ⟨(), rejectIf_eq_ok_iff.mpr (not_not.mpr hformed.uncompressed), ?_⟩
  -- The words of the response are what its integers are read from.
  show Except.ok (SsoResponse.mk words.sequence.toNat response.returnCode response.command
    response.extra response.reserve response.extension response.payload) = .ok response
  rw [hformed.sequence]

end Envelope
end Lirvena
