import Lirvena.Lib.Bytes
import Lirvena.Lib.Result

/-!
# The encrypted outer frame

A secure frame is a fixed header of 52 bytes followed by the ciphertext.  The
header is also the associated data of the encryption, so it is encoded once
before a payload is sealed.  `decodeSecureFrame_eq_ok_iff` says that the decoder
accepts exactly the encodings of the frames within the limits.
-/

namespace Lirvena
namespace Ceylith

open Lib

/-- Outer frame class used in redacted codec errors. -/
inductive FrameKind where
  | handshake
  | secure
  | inner
  deriving DecidableEq

/-- Length class used in redacted codec errors. -/
inductive LengthKind where
  | outerFrame
  | handshakePayload
  | ciphertext
  | innerFrame
  | field
  | collection
  deriving DecidableEq

/-- Closed codec failure that never includes payload bytes. -/
inductive CodecError where
  | truncated (needed available : Nat)
  | trailingBytes (expected actual : Nat)
  | invalidMagic (frame : FrameKind)
  | unsupportedVersion
  | invalidHandshakeStep
  | invalidFlags
  | lengthLimitExceeded (kind : LengthKind) (limit actual : Nat)
  | lengthOverflow
  | protobuf
  | invalidContract
  | unsupportedBody
  | invalidField
  deriving DecidableEq

/-- Absolute maximum accepted outer frame length. -/
def hardMaxOuterFrameLen : Nat := 2 * 1024 * 1024

def currentWireVersion : Nat := 2

def handshakeHeaderLen : Nat := 12

/-- The bytes of `CYF2`. -/
def secureFrameMagic : List UInt8 := [67, 89, 70, 50]

/-- Fixed byte length before encrypted frame ciphertext. -/
def secureFrameHeaderLen : Nat := 52

def hardMaxHandshakePayloadLen : Nat := hardMaxOuterFrameLen - handshakeHeaderLen

def hardMaxCiphertextLen : Nat := hardMaxOuterFrameLen - secureFrameHeaderLen

/-- An identifier of a fixed number of bytes. -/
structure FixedBytes (width : Nat) where
  bytes : List UInt8
  length_eq : bytes.length = width
  deriving DecidableEq

/-- `TryFrom<&[u8]>`. -/
def FixedBytes.ofBytes (width : Nat) (bytes : List UInt8) : Option (FixedBytes width) :=
  if hlength : bytes.length = width then some ⟨bytes, hlength⟩ else none

theorem FixedBytes.ofBytes_eq_some_iff {width : Nat} {bytes : List UInt8}
    {value : FixedBytes width} :
    FixedBytes.ofBytes width bytes = some value ↔ bytes = value.bytes := by
  unfold FixedBytes.ofBytes
  constructor
  · intro hvalue
    split at hvalue
    · cases hvalue
      rfl
    · cases hvalue
  · rintro rfl
    simp [value.length_eq]

/-- One authenticated secure-session identifier. -/
abbrev SessionId := FixedBytes 16

/-- Logical request identifier preserved across a carrier retry. -/
abbrev RequestId := FixedBytes 16

/-- Runtime-configurable limits that may only tighten compiled hard bounds. -/
structure WireLimits where
  handshakePayload : Nat
  ciphertext : Nat
  innerFrame : Nat
  handshakePayload_le : handshakePayload ≤ hardMaxHandshakePayloadLen
  ciphertext_le : ciphertext ≤ hardMaxCiphertextLen
  innerFrame_le : innerFrame ≤ hardMaxOuterFrameLen

def enforceLimit (kind : LengthKind) (actual limit : Nat) : Except CodecError Unit :=
  if limit < actual then .error (.lengthLimitExceeded kind limit actual) else .ok ()

def WireLimits.new (maxHandshakePayloadLen maxCiphertextLen maxInnerFrameLen : Nat) :
    Except CodecError WireLimits :=
  if hpayload : hardMaxHandshakePayloadLen < maxHandshakePayloadLen then
    .error (.lengthLimitExceeded .handshakePayload hardMaxHandshakePayloadLen
      maxHandshakePayloadLen)
  else if hciphertext : hardMaxCiphertextLen < maxCiphertextLen then
    .error (.lengthLimitExceeded .ciphertext hardMaxCiphertextLen maxCiphertextLen)
  else if hinner : hardMaxOuterFrameLen < maxInnerFrameLen then
    .error (.lengthLimitExceeded .innerFrame hardMaxOuterFrameLen maxInnerFrameLen)
  else
    .ok {
      handshakePayload := maxHandshakePayloadLen
      ciphertext := maxCiphertextLen
      innerFrame := maxInnerFrameLen
      handshakePayload_le := Nat.le_of_not_lt hpayload
      ciphertext_le := Nat.le_of_not_lt hciphertext
      innerFrame_le := Nat.le_of_not_lt hinner }

def WireLimits.default : WireLimits where
  handshakePayload := hardMaxHandshakePayloadLen
  ciphertext := 60 * 1024 + 16
  innerFrame := 60 * 1024
  handshakePayload_le := Nat.le_refl _
  ciphertext_le := by decide
  innerFrame_le := by decide

/-- One encrypted frame. -/
structure SecureFrame where
  sessionId : SessionId
  counter : UInt64
  requestId : RequestId
  ciphertext : List UInt8
  deriving DecidableEq

def SecureFrame.new (sessionId : SessionId) (counter : UInt64) (requestId : RequestId)
    (ciphertext : List UInt8) (limits : WireLimits) : Except CodecError SecureFrame := do
  enforceLimit .ciphertext ciphertext.length limits.ciphertext
  return ⟨sessionId, counter, requestId, ciphertext⟩

def validateVersion (version : Nat) : Except CodecError Unit :=
  if version = currentWireVersion then .ok () else .error .unsupportedVersion

def requireHeader (input : List UInt8) (needed : Nat) : Except CodecError Unit :=
  if input.length < needed then .error (.truncated needed input.length) else .ok ()

def requireExactLen (input : List UInt8) (expected : Nat) : Except CodecError Unit :=
  if input.length < expected then .error (.truncated expected input.length)
  else if expected < input.length then .error (.trailingBytes expected input.length)
  else .ok ()

/-- `u32::try_from`. -/
def u32OfLen (length : Nat) : Except CodecError Nat :=
  if length < u32Bound then .ok length else .error .lengthOverflow

/-- The header bytes of a frame with the given encoded length. -/
def secureFrameHeader (sessionId : SessionId) (counter : UInt64) (requestId : RequestId)
    (encodedLen : Nat) : List UInt8 :=
  secureFrameMagic ++ (beBytes 2 currentWireVersion ++ (beBytes 2 0 ++
    (sessionId.bytes ++ (beBytes 8 counter.toNat ++ (requestId.bytes ++
      beBytes 4 encodedLen)))))

/-- Encodes the fixed header used as authenticated associated data. -/
def encodeSecureFrameHeader (sessionId : SessionId) (counter : UInt64)
    (requestId : RequestId) (ciphertextLen : Nat) (limits : WireLimits) :
    Except CodecError (List UInt8) := do
  enforceLimit .ciphertext ciphertextLen limits.ciphertext
  let totalLen ← okOr .lengthOverflow (checkedAddU64 secureFrameHeaderLen ciphertextLen)
  enforceLimit .outerFrame totalLen hardMaxOuterFrameLen
  let encodedLen ← u32OfLen ciphertextLen
  return secureFrameHeader sessionId counter requestId encodedLen

def encodeSecureFrame (frame : SecureFrame) (limits : WireLimits) :
    Except CodecError (List UInt8) := do
  let header ← encodeSecureFrameHeader frame.sessionId frame.counter frame.requestId
    frame.ciphertext.length limits
  return header ++ frame.ciphertext

/-- Decodes exactly one complete encrypted frame. -/
def decodeSecureFrame (input : List UInt8) (limits : WireLimits) :
    Except CodecError SecureFrame := do
  requireHeader input secureFrameHeaderLen
  rejectIf (.invalidMagic .secure) (slice input 0 4 ≠ secureFrameMagic)
  validateVersion (beNat (slice input 4 6))
  rejectIf .invalidFlags (slice input 6 8 ≠ [0, 0])
  let sessionId ← okOr .invalidField (FixedBytes.ofBytes 16 (slice input 8 24))
  let counter := UInt64.ofNat (beNat (slice input 24 32))
  let requestId ← okOr .invalidField (FixedBytes.ofBytes 16 (slice input 32 48))
  let declared := beNat (slice input 48 52)
  enforceLimit .ciphertext declared limits.ciphertext
  let totalLen ← okOr .lengthOverflow (checkedAddU64 secureFrameHeaderLen declared)
  requireExactLen input totalLen
  SecureFrame.new sessionId counter requestId (input.drop secureFrameHeaderLen) limits

/-! ## The checks -/

@[simp] theorem enforceLimit_eq_ok_iff {kind : LengthKind} {actual limit : Nat} :
    enforceLimit kind actual limit = .ok () ↔ actual ≤ limit := by
  unfold enforceLimit
  split
  · simp; omega
  · simp; omega

@[simp] theorem validateVersion_eq_ok_iff {version : Nat} :
    validateVersion version = .ok () ↔ version = currentWireVersion := by
  simp [validateVersion]

@[simp] theorem requireHeader_eq_ok_iff {input : List UInt8} {needed : Nat} :
    requireHeader input needed = .ok () ↔ needed ≤ input.length := by
  unfold requireHeader
  split
  · simp; omega
  · simp; omega

@[simp] theorem requireExactLen_eq_ok_iff {input : List UInt8} {expected : Nat} :
    requireExactLen input expected = .ok () ↔ input.length = expected := by
  unfold requireExactLen
  split
  · simp; omega
  · split
    · simp; omega
    · simp; omega

@[simp] theorem u32OfLen_eq_ok_iff {length value : Nat} :
    u32OfLen length = .ok value ↔ length < u32Bound ∧ length = value := by
  unfold u32OfLen
  split
  · next hfits => simp [hfits]
  · next hfits => simp [hfits]

@[simp] theorem secureFrameHeader_length (sessionId : SessionId) (counter : UInt64)
    (requestId : RequestId) (encodedLen : Nat) :
    (secureFrameHeader sessionId counter requestId encodedLen).length =
      secureFrameHeaderLen := by
  simp [secureFrameHeader, secureFrameMagic, secureFrameHeaderLen, sessionId.length_eq,
    requestId.length_eq]

/-- Every length within the limits fits the outer frame and its prefix. -/
theorem WireLimits.fits {limits : WireLimits} {length : Nat}
    (hlength : length ≤ limits.ciphertext) :
    secureFrameHeaderLen + length ≤ hardMaxOuterFrameLen ∧
      secureFrameHeaderLen + length < u64Bound ∧ length < u32Bound := by
  have hbound := limits.ciphertext_le
  simp only [hardMaxCiphertextLen, hardMaxOuterFrameLen, secureFrameHeaderLen, u64Bound,
    u32Bound] at *
  omega

/-- The header encoder fails exactly when the ciphertext exceeds its limit. -/
theorem encodeSecureFrameHeader_eq_ok_iff {sessionId : SessionId} {counter : UInt64}
    {requestId : RequestId} {ciphertextLen : Nat} {limits : WireLimits}
    {header : List UInt8} :
    encodeSecureFrameHeader sessionId counter requestId ciphertextLen limits = .ok header ↔
      ciphertextLen ≤ limits.ciphertext ∧
        header = secureFrameHeader sessionId counter requestId ciphertextLen := by
  unfold encodeSecureFrameHeader
  constructor
  · intro hheader
    obtain ⟨_, hlimit, hheader⟩ := bind_eq_ok_iff.mp hheader
    obtain ⟨total, -, hheader⟩ := bind_eq_ok_iff.mp hheader
    obtain ⟨_, -, hheader⟩ := bind_eq_ok_iff.mp hheader
    obtain ⟨encodedLen, hencoded, hheader⟩ := bind_eq_ok_iff.mp hheader
    obtain ⟨-, rfl⟩ := u32OfLen_eq_ok_iff.mp hencoded
    cases hheader
    exact ⟨enforceLimit_eq_ok_iff.mp hlimit, rfl⟩
  · rintro ⟨hlimit, rfl⟩
    obtain ⟨houter, hsum, hwidth32⟩ := WireLimits.fits hlimit
    refine bind_eq_ok_iff.mpr ⟨(), enforceLimit_eq_ok_iff.mpr hlimit, ?_⟩
    refine bind_eq_ok_iff.mpr ⟨secureFrameHeaderLen + ciphertextLen, ?_, ?_⟩
    · exact okOr_eq_ok_iff.mpr (checkedAddU64_eq_some_iff.mpr ⟨hsum, rfl⟩)
    refine bind_eq_ok_iff.mpr ⟨(), enforceLimit_eq_ok_iff.mpr houter, ?_⟩
    exact bind_eq_ok_iff.mpr ⟨ciphertextLen, u32OfLen_eq_ok_iff.mpr ⟨hwidth32, rfl⟩, rfl⟩

theorem SecureFrame.new_eq_ok_iff {sessionId : SessionId} {counter : UInt64}
    {requestId : RequestId} {ciphertext : List UInt8} {limits : WireLimits}
    {frame : SecureFrame} :
    SecureFrame.new sessionId counter requestId ciphertext limits = .ok frame ↔
      ciphertext.length ≤ limits.ciphertext ∧
        frame = ⟨sessionId, counter, requestId, ciphertext⟩ := by
  unfold SecureFrame.new
  rw [bind_eq_ok_iff]
  constructor
  · rintro ⟨_, hlimit, hframe⟩
    cases hframe
    exact ⟨enforceLimit_eq_ok_iff.mp hlimit, rfl⟩
  · rintro ⟨hlimit, rfl⟩
    exact ⟨(), enforceLimit_eq_ok_iff.mpr hlimit, rfl⟩

/-- The canonical bytes of a frame. -/
def SecureFrame.bytes (frame : SecureFrame) : List UInt8 :=
  secureFrameHeader frame.sessionId frame.counter frame.requestId frame.ciphertext.length ++
    frame.ciphertext

theorem encodeSecureFrame_eq_ok_iff {frame : SecureFrame} {limits : WireLimits}
    {encoded : List UInt8} :
    encodeSecureFrame frame limits = .ok encoded ↔
      frame.ciphertext.length ≤ limits.ciphertext ∧ encoded = frame.bytes := by
  unfold encodeSecureFrame
  rw [bind_eq_ok_iff]
  constructor
  · rintro ⟨header, hheader, hencoded⟩
    obtain ⟨hlimit, rfl⟩ := encodeSecureFrameHeader_eq_ok_iff.mp hheader
    cases hencoded
    exact ⟨hlimit, rfl⟩
  · rintro ⟨hlimit, rfl⟩
    exact ⟨_, encodeSecureFrameHeader_eq_ok_iff.mpr ⟨hlimit, rfl⟩, rfl⟩

/-! ## Decoding is inverse to encoding -/

/-- The slices that the decoder reads out of the bytes of a frame. -/
theorem SecureFrame.slices (frame : SecureFrame) :
    slice frame.bytes 0 4 = secureFrameMagic ∧
      slice frame.bytes 4 6 = beBytes 2 currentWireVersion ∧
      slice frame.bytes 6 8 = beBytes 2 0 ∧
      slice frame.bytes 8 24 = frame.sessionId.bytes ∧
      slice frame.bytes 24 32 = beBytes 8 frame.counter.toNat ∧
      slice frame.bytes 32 48 = frame.requestId.bytes ∧
      slice frame.bytes 48 52 = beBytes 4 frame.ciphertext.length := by
  have hmagic : secureFrameMagic.length = 4 := rfl
  have hsession := frame.sessionId.length_eq
  have hrequest := frame.requestId.length_eq
  simp only [SecureFrame.bytes, secureFrameHeader, List.append_assoc]
  refine ⟨slice_append_left rfl, ?_, ?_, ?_, ?_, ?_, ?_⟩ <;>
    simp (disch := simp [hmagic, hsession, hrequest]) only [slice_append_right,
      slice_append_left, hmagic, hsession, hrequest, beBytes_length, Nat.reduceSub]

/-- An input is the concatenation of the slices of its header and its rest. -/
theorem append_slices (input : List UInt8) :
    slice input 0 4 ++ (slice input 4 6 ++ (slice input 6 8 ++
      (slice input 8 24 ++ (slice input 24 32 ++ (slice input 32 48 ++
        (slice input 48 52 ++ input.drop 52)))))) = input := by
  simp [slice_append_drop]

theorem SecureFrame.bytes_length (frame : SecureFrame) :
    frame.bytes.length = secureFrameHeaderLen + frame.ciphertext.length := by
  simp [SecureFrame.bytes]

/-- What the decoder accepts re-encodes to the same bytes. -/
theorem decodeSecureFrame_bytes {input : List UInt8} {limits : WireLimits}
    {frame : SecureFrame} (hdecode : decodeSecureFrame input limits = .ok frame) :
    frame.ciphertext.length ≤ limits.ciphertext ∧ input = frame.bytes := by
  unfold decodeSecureFrame at hdecode
  obtain ⟨_, hheader, hdecode⟩ := bind_eq_ok_iff.mp hdecode
  obtain ⟨_, hmagic, hdecode⟩ := bind_eq_ok_iff.mp hdecode
  obtain ⟨_, hversion, hdecode⟩ := bind_eq_ok_iff.mp hdecode
  obtain ⟨_, hflags, hdecode⟩ := bind_eq_ok_iff.mp hdecode
  obtain ⟨sessionId, hsession, hdecode⟩ := bind_eq_ok_iff.mp hdecode
  obtain ⟨requestId, hrequest, hdecode⟩ := bind_eq_ok_iff.mp hdecode
  obtain ⟨_, -, hdecode⟩ := bind_eq_ok_iff.mp hdecode
  obtain ⟨total, htotal, hdecode⟩ := bind_eq_ok_iff.mp hdecode
  obtain ⟨_, hexact, hdecode⟩ := bind_eq_ok_iff.mp hdecode
  obtain ⟨hlimit, rfl⟩ := SecureFrame.new_eq_ok_iff.mp hdecode
  refine ⟨hlimit, ?_⟩
  have hlength := requireHeader_eq_ok_iff.mp hheader
  simp only [secureFrameHeaderLen] at hlength
  have hmagic : slice input 0 4 = secureFrameMagic := by
    simpa using rejectIf_eq_ok_iff.mp hmagic
  have hflags : slice input 6 8 = [0, 0] := by
    simpa using rejectIf_eq_ok_iff.mp hflags
  have hversion : slice input 4 6 = beBytes 2 currentWireVersion :=
    slice_eq_beBytes (by omega) (validateVersion_eq_ok_iff.mp hversion)
  have hcounter : slice input 24 32 =
      beBytes 8 (UInt64.ofNat (beNat (slice input 24 32))).toNat := by
    have hbound := beNat_lt (slice input 24 32)
    rw [slice_length (show 32 ≤ input.length by omega)] at hbound
    exact slice_eq_beBytes (by omega) (UInt64.toNat_ofNat_of_lt' hbound).symm
  have hdeclared : slice input 48 52 = beBytes 4 (input.drop 52).length := by
    -- the declared length is that of the rest, as the total length is exact
    obtain ⟨-, rfl⟩ := checkedAddU64_eq_some_iff.mp (okOr_eq_ok_iff.mp htotal)
    have hexact := requireExactLen_eq_ok_iff.mp hexact
    refine slice_eq_beBytes hlength ?_
    rw [List.length_drop, hexact, secureFrameHeaderLen]
    omega
  have hsession := FixedBytes.ofBytes_eq_some_iff.mp (okOr_eq_ok_iff.mp hsession)
  have hrequest := FixedBytes.ofBytes_eq_some_iff.mp (okOr_eq_ok_iff.mp hrequest)
  calc
    input = _ := (append_slices input).symm
    _ = SecureFrame.bytes _ := by
      simp only [SecureFrame.bytes, secureFrameHeader, secureFrameHeaderLen,
        List.append_assoc, ← hmagic, ← hversion, ← hsession, ← hrequest, ← hcounter,
        ← hdeclared, hflags]
      rfl

/-- The encoding of a frame within the limits decodes to that frame. -/
theorem decodeSecureFrame_of_bytes {limits : WireLimits} {frame : SecureFrame}
    (hlimit : frame.ciphertext.length ≤ limits.ciphertext) :
    decodeSecureFrame frame.bytes limits = .ok frame := by
  obtain ⟨-, hsum, hwidth32⟩ := WireLimits.fits hlimit
  obtain ⟨hmagic, hversion, hflags, hsession, hcounter, hrequest, hdeclared⟩ := frame.slices
  have hlength := frame.bytes_length
  have hdeclared : beNat (slice frame.bytes 48 52) = frame.ciphertext.length := by
    rw [hdeclared]
    exact beNat_beBytes_of_lt hwidth32
  have hcounter : UInt64.ofNat (beNat (slice frame.bytes 24 32)) = frame.counter := by
    rw [hcounter, beNat_beBytes_of_lt frame.counter.toNat_lt, UInt64.ofNat_toNat]
  have hrest : frame.bytes.drop secureFrameHeaderLen = frame.ciphertext := by
    rw [SecureFrame.bytes, ← secureFrameHeader_length frame.sessionId frame.counter
      frame.requestId frame.ciphertext.length, List.drop_left]
  -- Every slice of the header is now known, so each check is passed in turn.
  unfold decodeSecureFrame
  refine bind_eq_ok_iff.mpr ⟨(), requireHeader_eq_ok_iff.mpr (by omega), ?_⟩
  refine bind_eq_ok_iff.mpr ⟨(), rejectIf_eq_ok_iff.mpr (by simpa using hmagic), ?_⟩
  refine bind_eq_ok_iff.mpr ⟨(), validateVersion_eq_ok_iff.mpr ?_, ?_⟩
  · rw [hversion]
    exact beNat_beBytes_of_lt (by decide)
  refine bind_eq_ok_iff.mpr ⟨(), rejectIf_eq_ok_iff.mpr (not_not.mpr hflags), ?_⟩
  refine bind_eq_ok_iff.mpr ⟨frame.sessionId, ?_, ?_⟩
  · exact okOr_eq_ok_iff.mpr (FixedBytes.ofBytes_eq_some_iff.mpr hsession)
  refine bind_eq_ok_iff.mpr ⟨frame.requestId, ?_, ?_⟩
  · exact okOr_eq_ok_iff.mpr (FixedBytes.ofBytes_eq_some_iff.mpr hrequest)
  simp only [hdeclared]
  refine bind_eq_ok_iff.mpr ⟨(), enforceLimit_eq_ok_iff.mpr hlimit, ?_⟩
  refine bind_eq_ok_iff.mpr ⟨secureFrameHeaderLen + frame.ciphertext.length, ?_, ?_⟩
  · exact okOr_eq_ok_iff.mpr (checkedAddU64_eq_some_iff.mpr ⟨hsum, rfl⟩)
  refine bind_eq_ok_iff.mpr ⟨(), requireExactLen_eq_ok_iff.mpr hlength, ?_⟩
  rw [SecureFrame.new_eq_ok_iff, hrest, hcounter]
  exact ⟨hlimit, rfl⟩

/-- The decoder accepts exactly the canonical encodings of the frames within
the limits. -/
theorem decodeSecureFrame_eq_ok_iff {input : List UInt8} {limits : WireLimits}
    {frame : SecureFrame} :
    decodeSecureFrame input limits = .ok frame ↔
      frame.ciphertext.length ≤ limits.ciphertext ∧ input = frame.bytes := by
  constructor
  · exact decodeSecureFrame_bytes
  · rintro ⟨hlimit, rfl⟩
    exact decodeSecureFrame_of_bytes hlimit

end Ceylith
end Lirvena
