import Lirvena.Envelope.Session

/-!
# Session requests at the peer

The peer of a session takes the service envelope off, decrypts with the key of the
session and reads the header and the payload by the rules they were written by.
Nothing is lost on the way: what it reads are the fields that were encoded, and a
request that does not fit is not encoded at all.
-/

namespace Lirvena
namespace Envelope

open Lib
open Session (EnvelopeError)
open Wire

/-! ## The reader of the peer -/

/-- The header of a request, in the order in which it was written. -/
def readSsoHeader (header payload : List UInt8) : Except EnvelopeError SsoRequestParts := do
  let (sequence, header) ← wire (WireReader.readU32 header)
  let (subAppId, header) ← wire (WireReader.readU32 header)
  let (localeId, header) ← wire (WireReader.readU32 header)
  let (fixed, header) ← wire (WireReader.readBytes fixedHeaderValue.length header)
  rejectIf .invalidField (fixed ≠ fixedHeaderValue)
  let (tgt, header) ← wire (WireReader.readPrefixedBytes .u32Inclusive maxPacketLen header)
  let (command, header) ← readText maxPacketLen header
  let (_, header) ← wire (WireReader.readPrefixedBytes .u32Inclusive 0 header)
  let (deviceGuidHex, header) ←
    wire (WireReader.readPrefixedBytes .u32Inclusive maxPacketLen header)
  let (_, header) ← wire (WireReader.readPrefixedBytes .u32Inclusive 0 header)
  let (versionBytes, header) ←
    wire (WireReader.readPrefixedBytes .u16Inclusive maxPacketLen header)
  let clientVersion ← okOr .invalidField (fromUtf8 versionBytes)
  let (reserve, header) ← wire (WireReader.readPrefixedBytes .u32Inclusive maxPacketLen header)
  wire (WireReader.finish header)
  return ⟨sequence, subAppId, localeId, tgt, command, deviceGuidHex, clientVersion, reserve,
    payload⟩

def readSsoRequest (encoded : List UInt8) : Except EnvelopeError SsoRequestParts := do
  let (header, reader) ← wire (WireReader.readPrefixedBytes .u32Inclusive maxPacketLen encoded)
  let (payload, reader) ← wire (WireReader.readPrefixedBytes .u32Inclusive maxPacketLen reader)
  wire (WireReader.finish reader)
  readSsoHeader header payload

/-- What a peer reads from a request. -/
structure ReceivedRequest where
  authFlag : UInt8
  d2 : List UInt8
  uin : Nat
  sso : SsoRequestParts

def readSessionRequest (key : QqTeaKey) (encoded : List UInt8) :
    Except EnvelopeError ReceivedRequest := do
  let (body, outer) ← wire (WireReader.readPrefixedBytes .u32Inclusive maxPacketLen encoded)
  wire (WireReader.finish outer)
  let (version, reader) ← wire (WireReader.readU32 body)
  rejectIf .unsupported (version ≠ protocolVersion)
  let (authFlag, reader) ← wire (WireReader.readU8 reader)
  let (d2, reader) ← wire (WireReader.readPrefixedBytes .u32Inclusive maxPacketLen reader)
  let (reserved, reader) ← wire (WireReader.readU8 reader)
  rejectIf .invalidField (reserved ≠ 0)
  let (account, encrypted) ← readText 32 reader
  let uin ← okOr .invalidField (parseDigitsU32 account)
  let plaintext ← crypto (decryptQqTea encrypted key)
  let sso ← readSsoRequest plaintext
  return ⟨authFlag, d2, uin, sso⟩

/-! ## What the peer reads -/

/-- The fields of a header that fits a packet are read from it in their order. -/
theorem readSsoHeader_ssoHeader {parts : SsoRequestParts} (hvalid : parts.Valid)
    (hroom : (ssoHeader parts).length ≤ maxPacketLen) :
    readSsoHeader (ssoHeader parts) parts.payload = .ok parts := by
  have hmax := Nat.le_refl maxPacketLen
  -- Each field is at most as long as the header that holds it.
  have hheader : (ssoHeader parts).length =
      4 + (4 + (4 + (12 + ((4 + parts.tgt.length) + ((4 + (utf8Bytes parts.command).length) +
        (4 + ((4 + parts.deviceGuidHex.length) + (4 +
          ((2 + (utf8Bytes parts.clientVersion).length) + (4 + parts.reserve.length)))))))))) := by
    simp only [ssoHeader, List.length_append, beBytes_length, LengthPrefix.encode_length,
      LengthPrefix.width, fixedHeaderValue, List.length_cons, List.length_nil]
  have hversion : (utf8Bytes parts.clientVersion).length ≤ maxPacketLen := by omega
  unfold readSsoHeader
  refine bind_eq_ok_iff.mpr
    ⟨_, wire_eq_ok_iff.mpr (WireReader.readU32_eq_ok_iff.mpr rfl), ?_⟩
  refine bind_eq_ok_iff.mpr
    ⟨_, wire_eq_ok_iff.mpr (WireReader.readU32_eq_ok_iff.mpr rfl), ?_⟩
  refine bind_eq_ok_iff.mpr
    ⟨_, wire_eq_ok_iff.mpr (WireReader.readU32_eq_ok_iff.mpr rfl), ?_⟩
  refine bind_eq_ok_iff.mpr
    ⟨_, wire_eq_ok_iff.mpr (WireReader.readBytes_eq_ok_iff.mpr ⟨rfl, rfl⟩), ?_⟩
  refine bind_eq_ok_iff.mpr ⟨(), rejectIf_eq_ok_iff.mpr (not_not.mpr rfl), ?_⟩
  refine bind_eq_ok_iff.mpr ⟨_, wire_eq_ok_iff.mpr
    ((readField_eq_ok_iff hmax).mpr ⟨by omega, rfl⟩), ?_⟩
  refine bind_eq_ok_iff.mpr ⟨_, (readText_eq_ok_iff hmax).mpr ⟨by omega, rfl⟩, ?_⟩
  refine bind_eq_ok_iff.mpr ⟨([], _), wire_eq_ok_iff.mpr
    ((readField_eq_ok_iff (Nat.zero_le _)).mpr ⟨Nat.le_refl 0, rfl⟩), ?_⟩
  refine bind_eq_ok_iff.mpr ⟨_, wire_eq_ok_iff.mpr
    ((readField_eq_ok_iff hmax).mpr ⟨by omega, rfl⟩), ?_⟩
  refine bind_eq_ok_iff.mpr ⟨([], _), wire_eq_ok_iff.mpr
    ((readField_eq_ok_iff (Nat.zero_le _)).mpr ⟨Nat.le_refl 0, rfl⟩), ?_⟩
  refine bind_eq_ok_iff.mpr ⟨_, wire_eq_ok_iff.mpr
    (WireReader.readPrefixedBytes_eq_ok_iff.mpr ⟨hversion, hvalid.version_fits, rfl⟩), ?_⟩
  refine bind_eq_ok_iff.mpr
    ⟨parts.clientVersion, okOr_eq_ok_iff.mpr (fromUtf8_eq_some_iff.mpr rfl), ?_⟩
  refine bind_eq_ok_iff.mpr ⟨(parts.reserve, []), wire_eq_ok_iff.mpr
    ((readField_eq_ok_iff hmax).mpr ⟨by omega, (List.append_nil _).symm⟩), ?_⟩
  exact bind_eq_ok_iff.mpr
    ⟨(), wire_eq_ok_iff.mpr (WireReader.finish_eq_ok_iff.mpr rfl), rfl⟩

/-- The parts of a request that fits a packet fit it too. -/
theorem readSsoRequest_ssoRequest {parts : SsoRequestParts} (hvalid : parts.Valid)
    (hroom : (ssoRequest parts).length ≤ maxPacketLen) :
    readSsoRequest (ssoRequest parts) = .ok parts := by
  have hmax := Nat.le_refl maxPacketLen
  have hlength : (ssoRequest parts).length =
      4 + (ssoHeader parts).length + (4 + parts.payload.length) := by
    simp [ssoRequest, LengthPrefix.width]
  have hheader : (ssoHeader parts).length ≤ maxPacketLen := by omega
  have hpayload : parts.payload.length ≤ maxPacketLen := by omega
  unfold readSsoRequest
  refine bind_eq_ok_iff.mpr ⟨_, wire_eq_ok_iff.mpr
    ((readField_eq_ok_iff hmax).mpr ⟨hheader, rfl⟩), ?_⟩
  refine bind_eq_ok_iff.mpr ⟨(parts.payload, []), wire_eq_ok_iff.mpr
    ((readField_eq_ok_iff hmax).mpr ⟨hpayload, (List.append_nil _).symm⟩), ?_⟩
  refine bind_eq_ok_iff.mpr
    ⟨(), wire_eq_ok_iff.mpr (WireReader.finish_eq_ok_iff.mpr rfl), ?_⟩
  exact readSsoHeader_ssoHeader hvalid hheader

namespace SessionRequestParts

/-- The flag and the key that a request of this session goes under. -/
def encryption (parts : SessionRequestParts) : UInt8 × QqTeaKey :=
  if parts.auth.d2 = [] then (2, zeroKey) else (1, parts.auth.d2Key.getD zeroKey)

/-- The length of the frame of a request. -/
def frameLength (parts : SessionRequestParts) : Nat :=
  4 + (4 + 1 + (4 + parts.auth.d2.length) + 1 +
    (4 + (utf8Bytes (uinText parts.auth.uin)).length) +
      (paddingLen (ssoRequest parts.sso).length + (ssoRequest parts.sso).length +
        trailingZeroLen))

theorem sso_le_frameLength (parts : SessionRequestParts) :
    (ssoRequest parts.sso).length ≤ parts.frameLength := by
  unfold frameLength
  omega

theorem d2_le_frameLength (parts : SessionRequestParts) :
    parts.auth.d2.length ≤ parts.frameLength := by
  unfold frameLength
  omega

/-- What the peer should read. -/
def received (parts : SessionRequestParts) : ReceivedRequest :=
  ⟨parts.encryption.1, parts.auth.d2, parts.auth.uin.toNat, parts.sso⟩

end SessionRequestParts

theorem requestFrame_length {parts : SessionRequestParts} {encrypted : List UInt8}
    {fill : (length : Nat) → Option (Vector UInt8 length)} {key : QqTeaKey}
    (hencrypted : encryptQqTea (ssoRequest parts.sso) key fill = .ok encrypted) :
    (requestFrame (parts.service (ssoRequest parts.sso)) encrypted).length =
      parts.frameLength := by
  have hlength := encryptQqTea_length hencrypted
  simp only [requestFrame, requestBody, SessionRequestParts.frameLength,
    SessionRequestParts.service, List.length_append, LengthPrefix.encode_length, beBytes_length,
    LengthPrefix.width, List.length_cons, List.length_nil, hlength]
  omega

/-- A request is encoded exactly when its fields are valid, its frame fits a packet and
there is entropy for its padding. -/
theorem encodeSessionRequest_eq_ok_iff {parts : SessionRequestParts}
    {fill : (length : Nat) → Option (Vector UInt8 length)} {encoded : List UInt8} :
    encodeSessionRequest parts fill = .ok encoded ↔
      parts.sso.Valid ∧ parts.frameLength ≤ maxPacketLen ∧ ∃ encrypted,
        encryptQqTea (ssoRequest parts.sso) parts.encryption.2 fill = .ok encrypted ∧
        encoded = requestFrame (parts.service (ssoRequest parts.sso)) encrypted := by
  unfold encodeSessionRequest
  constructor
  · intro hencode
    obtain ⟨sso, hsso, hencode⟩ := bind_eq_ok_iff.mp hencode
    obtain ⟨hvalid, -, rfl⟩ := encodeSsoRequest_eq_ok_iff.mp hsso
    obtain ⟨-, encrypted, hencrypted, hencoded, hroom⟩ :=
      encodeServiceFrame_eq_ok_iff.mp hencode
    rw [requestFrame_length hencrypted] at hroom
    exact ⟨hvalid, hroom, encrypted, hencrypted, hencoded⟩
  · rintro ⟨hvalid, hroom, encrypted, hencrypted, rfl⟩
    have hsso := Nat.le_trans parts.sso_le_frameLength hroom
    -- An empty plaintext would be refused, but the two length fields are always there.
    have hne : ssoRequest parts.sso ≠ [] := by
      intro hnil
      have hempty := congrArg List.length hnil
      simp [ssoRequest, LengthPrefix.width] at hempty
    refine bind_eq_ok_iff.mpr ⟨_, encodeSsoRequest_eq_ok_iff.mpr ⟨hvalid, hsso, rfl⟩, ?_⟩
    refine encodeServiceFrame_eq_ok_iff.mpr ⟨hne, encrypted, hencrypted, rfl, ?_⟩
    rw [requestFrame_length hencrypted]
    exact hroom

/-- The peer reads the fields of a request from its frame. -/
theorem readSessionRequest_of_encode {parts : SessionRequestParts}
    {fill : (length : Nat) → Option (Vector UInt8 length)} {encoded : List UInt8}
    (hencode : encodeSessionRequest parts fill = .ok encoded) :
    readSessionRequest parts.encryption.2 encoded = .ok parts.received := by
  obtain ⟨hvalid, hroom, encrypted, hencrypted, rfl⟩ :=
    encodeSessionRequest_eq_ok_iff.mp hencode
  have hmax := Nat.le_refl maxPacketLen
  have hdecrypt := decryptQqTea_encryptQqTea hencrypted
  have hlength := requestFrame_length hencrypted
  have hbody : (requestBody (parts.service (ssoRequest parts.sso)) encrypted).length ≤
      maxPacketLen := by
    rw [requestFrame, LengthPrefix.encode_length] at hlength
    omega
  have hsso := Nat.le_trans parts.sso_le_frameLength hroom
  have hd2 := Nat.le_trans parts.d2_le_frameLength hroom
  -- The peer takes the fields off in the order in which they were put.
  unfold readSessionRequest
  refine bind_eq_ok_iff.mpr
    ⟨(requestBody (parts.service (ssoRequest parts.sso)) encrypted, []), wire_eq_ok_iff.mpr
      ((readField_eq_ok_iff hmax).mpr ⟨hbody, (List.append_nil _).symm⟩), ?_⟩
  refine bind_eq_ok_iff.mpr
    ⟨(), wire_eq_ok_iff.mpr (WireReader.finish_eq_ok_iff.mpr rfl), ?_⟩
  refine bind_eq_ok_iff.mpr
    ⟨_, wire_eq_ok_iff.mpr (WireReader.readU32_eq_ok_iff.mpr rfl), ?_⟩
  refine bind_eq_ok_iff.mpr ⟨(), rejectIf_eq_ok_iff.mpr (not_not.mpr rfl), ?_⟩
  refine bind_eq_ok_iff.mpr
    ⟨_, wire_eq_ok_iff.mpr (WireReader.readU8_eq_ok_iff.mpr rfl), ?_⟩
  refine bind_eq_ok_iff.mpr ⟨_, wire_eq_ok_iff.mpr
    ((readField_eq_ok_iff hmax).mpr ⟨hd2, rfl⟩), ?_⟩
  refine bind_eq_ok_iff.mpr
    ⟨_, wire_eq_ok_iff.mpr (WireReader.readU8_eq_ok_iff.mpr rfl), ?_⟩
  refine bind_eq_ok_iff.mpr ⟨(), rejectIf_eq_ok_iff.mpr (not_not.mpr rfl), ?_⟩
  refine bind_eq_ok_iff.mpr ⟨(uinText parts.auth.uin, encrypted),
    (readText_eq_ok_iff (by decide)).mpr ⟨(isUin_uinText parts.auth.uin).length_le, rfl⟩, ?_⟩
  refine bind_eq_ok_iff.mpr ⟨parts.auth.uin.toNat,
    okOr_eq_ok_iff.mpr (parseDigitsU32_toString parts.auth.uin.toNat_lt), ?_⟩
  refine bind_eq_ok_iff.mpr ⟨_, crypto_eq_ok_iff.mpr hdecrypt, ?_⟩
  exact bind_eq_ok_iff.mpr ⟨_, readSsoRequest_ssoRequest hvalid hsso, rfl⟩

/-- What is encoded is read back whole by the peer; a request is encoded exactly when
its fields are valid, its frame fits a packet and there is entropy; and a length-prefixed
field that does not fit its prefix or the writer is never put in part. -/
theorem session_request_read_back :
    (∀ (parts : SessionRequestParts) (fill : (length : Nat) → Option (Vector UInt8 length))
        (encoded : List UInt8), encodeSessionRequest parts fill = .ok encoded →
      readSessionRequest parts.encryption.2 encoded = .ok parts.received) ∧
    (∀ (parts : SessionRequestParts) (fill : (length : Nat) → Option (Vector UInt8 length)),
      (∃ encoded, encodeSessionRequest parts fill = .ok encoded) ↔
        parts.sso.Valid ∧ parts.frameLength ≤ maxPacketLen ∧
          ∃ padding, fill (paddingLen (ssoRequest parts.sso).length) = some padding) ∧
    ∀ (kind : LengthPrefix) (bytes : List UInt8) (writer next : WireWriter),
      writer.putPrefixedBytes kind bytes = .ok next ↔
        kind.declared bytes.length < 256 ^ kind.width ∧
          writer.output.length + (kind.encode bytes).length ≤ writer.maximum ∧
            next = writer.append (kind.encode bytes) := by
  refine ⟨fun _ _ _ => readSessionRequest_of_encode, ?_,
    fun _ _ _ _ => WireWriter.putPrefixedBytes_eq_ok_iff⟩
  intro parts fill
  constructor
  · rintro ⟨encoded, hencode⟩
    obtain ⟨hvalid, hroom, encrypted, hencrypted, -⟩ :=
      encodeSessionRequest_eq_ok_iff.mp hencode
    obtain ⟨-, padding, hfill, -⟩ := encryptQqTea_eq_ok_iff.mp hencrypted
    exact ⟨hvalid, hroom, padding, hfill⟩
  · rintro ⟨hvalid, hroom, padding, hfill⟩
    -- The plaintext is a part of the frame, so the cipher takes it.
    have hlimit : (ssoRequest parts.sso).length ≤ maxPlaintextLen :=
      Nat.le_trans parts.sso_le_frameLength hroom
    exact ⟨_, encodeSessionRequest_eq_ok_iff.mpr ⟨hvalid, hroom, _,
      encryptQqTea_eq_ok_iff.mpr ⟨hlimit, padding, hfill, rfl⟩, rfl⟩⟩

end Envelope
end Lirvena
