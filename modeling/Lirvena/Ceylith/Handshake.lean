import Lirvena.Ceylith.Frame

/-!
# The handshake envelope

A handshake envelope is a fixed header of 12 bytes followed by an opaque
payload.  `outerFrames_canonical` says of both outer frames that their decoder
accepts exactly what their encoder writes.
-/

namespace Lirvena
namespace Ceylith

open Lib

/-- The bytes of `CYH2`. -/
def handshakeMagic : List UInt8 := [67, 89, 72, 50]

/-- Handshake direction encoded in the fixed envelope header. -/
inductive HandshakeStep where
  | clientHello
  | serverWelcome
  deriving DecidableEq

namespace HandshakeStep

def byte : HandshakeStep → UInt8
  | .clientHello => 1
  | .serverWelcome => 2

def ofByte (value : UInt8) : Except CodecError HandshakeStep :=
  if value = 1 then .ok .clientHello
  else if value = 2 then .ok .serverWelcome
  else .error .invalidHandshakeStep

theorem ofByte_eq_ok_iff {value : UInt8} {step : HandshakeStep} :
    ofByte value = .ok step ↔ value = step.byte := by
  unfold ofByte
  by_cases hhello : value = 1
  · subst hhello
    cases step <;> simp [byte]
  · by_cases hwelcome : value = 2
    · subst hwelcome
      cases step <;> simp [byte]
    · cases step <;> simp [byte, hhello, hwelcome]

end HandshakeStep

/-- One handshake envelope. -/
structure HandshakeEnvelope where
  step : HandshakeStep
  payload : List UInt8
  deriving DecidableEq

def HandshakeEnvelope.new (step : HandshakeStep) (payload : List UInt8) (limits : WireLimits) :
    Except CodecError HandshakeEnvelope := do
  enforceLimit .handshakePayload payload.length limits.handshakePayload
  return ⟨step, payload⟩

/-- The header bytes of an envelope with the given encoded length. -/
def handshakeHeader (step : HandshakeStep) (encodedLen : Nat) : List UInt8 :=
  handshakeMagic ++ (beBytes 2 currentWireVersion ++ ([step.byte] ++ ([0] ++
    beBytes 4 encodedLen)))

/-- Encodes one complete handshake envelope. -/
def encodeHandshakeEnvelope (envelope : HandshakeEnvelope) (limits : WireLimits) :
    Except CodecError (List UInt8) := do
  enforceLimit .handshakePayload envelope.payload.length limits.handshakePayload
  let totalLen ← okOr .lengthOverflow (checkedAddU64 handshakeHeaderLen envelope.payload.length)
  enforceLimit .outerFrame totalLen hardMaxOuterFrameLen
  let encodedLen ← u32OfLen envelope.payload.length
  return handshakeHeader envelope.step encodedLen ++ envelope.payload

/-- Decodes exactly one complete handshake envelope. -/
def decodeHandshakeEnvelope (input : List UInt8) (limits : WireLimits) :
    Except CodecError HandshakeEnvelope := do
  requireHeader input handshakeHeaderLen
  rejectIf (.invalidMagic .handshake) (slice input 0 4 ≠ handshakeMagic)
  validateVersion (beNat (slice input 4 6))
  let step ← HandshakeStep.ofByte (byteAt input 6)
  rejectIf .invalidFlags (byteAt input 7 ≠ 0)
  let declared := beNat (slice input 8 12)
  enforceLimit .handshakePayload declared limits.handshakePayload
  let totalLen ← okOr .lengthOverflow (checkedAddU64 handshakeHeaderLen declared)
  requireExactLen input totalLen
  HandshakeEnvelope.new step (input.drop handshakeHeaderLen) limits

/-! ## Encoding -/

/-- Every payload within the limits fits the outer frame and its prefix. -/
theorem WireLimits.handshakeFits {limits : WireLimits} {length : Nat}
    (hlength : length ≤ limits.handshakePayload) :
    handshakeHeaderLen + length ≤ hardMaxOuterFrameLen ∧
      handshakeHeaderLen + length < u64Bound ∧ length < u32Bound := by
  have hbound := limits.handshakePayload_le
  simp only [hardMaxHandshakePayloadLen, hardMaxOuterFrameLen, handshakeHeaderLen, u64Bound,
    u32Bound] at *
  omega

theorem HandshakeEnvelope.new_eq_ok_iff {step : HandshakeStep} {payload : List UInt8}
    {limits : WireLimits} {envelope : HandshakeEnvelope} :
    HandshakeEnvelope.new step payload limits = .ok envelope ↔
      payload.length ≤ limits.handshakePayload ∧ envelope = ⟨step, payload⟩ := by
  unfold HandshakeEnvelope.new
  rw [bind_eq_ok_iff]
  constructor
  · rintro ⟨_, hlimit, henvelope⟩
    cases henvelope
    exact ⟨enforceLimit_eq_ok_iff.mp hlimit, rfl⟩
  · rintro ⟨hlimit, rfl⟩
    exact ⟨(), enforceLimit_eq_ok_iff.mpr hlimit, rfl⟩

/-- The canonical bytes of an envelope. -/
def HandshakeEnvelope.bytes (envelope : HandshakeEnvelope) : List UInt8 :=
  handshakeHeader envelope.step envelope.payload.length ++ envelope.payload

@[simp] theorem handshakeHeader_length (step : HandshakeStep) (encodedLen : Nat) :
    (handshakeHeader step encodedLen).length = handshakeHeaderLen := by
  simp [handshakeHeader, handshakeMagic, handshakeHeaderLen]

theorem HandshakeEnvelope.bytes_length (envelope : HandshakeEnvelope) :
    envelope.bytes.length = handshakeHeaderLen + envelope.payload.length := by
  simp [HandshakeEnvelope.bytes]

/-- The encoder fails exactly when the payload exceeds its limit. -/
theorem encodeHandshakeEnvelope_eq_ok_iff {envelope : HandshakeEnvelope} {limits : WireLimits}
    {encoded : List UInt8} :
    encodeHandshakeEnvelope envelope limits = .ok encoded ↔
      envelope.payload.length ≤ limits.handshakePayload ∧ encoded = envelope.bytes := by
  unfold encodeHandshakeEnvelope
  constructor
  · intro hencode
    obtain ⟨_, hlimit, hencode⟩ := bind_eq_ok_iff.mp hencode
    obtain ⟨total, -, hencode⟩ := bind_eq_ok_iff.mp hencode
    obtain ⟨_, -, hencode⟩ := bind_eq_ok_iff.mp hencode
    obtain ⟨encodedLen, hencoded, hencode⟩ := bind_eq_ok_iff.mp hencode
    obtain ⟨-, rfl⟩ := u32OfLen_eq_ok_iff.mp hencoded
    cases hencode
    exact ⟨enforceLimit_eq_ok_iff.mp hlimit, rfl⟩
  · rintro ⟨hlimit, rfl⟩
    obtain ⟨houter, hsum, hwidth32⟩ := WireLimits.handshakeFits hlimit
    refine bind_eq_ok_iff.mpr ⟨(), enforceLimit_eq_ok_iff.mpr hlimit, ?_⟩
    refine bind_eq_ok_iff.mpr ⟨handshakeHeaderLen + envelope.payload.length, ?_, ?_⟩
    · exact okOr_eq_ok_iff.mpr (checkedAddU64_eq_some_iff.mpr ⟨hsum, rfl⟩)
    refine bind_eq_ok_iff.mpr ⟨(), enforceLimit_eq_ok_iff.mpr houter, ?_⟩
    exact bind_eq_ok_iff.mpr
      ⟨envelope.payload.length, u32OfLen_eq_ok_iff.mpr ⟨hwidth32, rfl⟩, rfl⟩

/-! ## Decoding is inverse to encoding -/

/-- The slices that the decoder reads out of the bytes of an envelope. -/
theorem HandshakeEnvelope.slices (envelope : HandshakeEnvelope) :
    slice envelope.bytes 0 4 = handshakeMagic ∧
      slice envelope.bytes 4 6 = beBytes 2 currentWireVersion ∧
      slice envelope.bytes 6 7 = [envelope.step.byte] ∧
      slice envelope.bytes 7 8 = [0] ∧
      slice envelope.bytes 8 12 = beBytes 4 envelope.payload.length := by
  have hmagic : handshakeMagic.length = 4 := rfl
  simp only [HandshakeEnvelope.bytes, handshakeHeader, List.append_assoc]
  refine ⟨slice_append_left rfl, ?_, ?_, ?_, ?_⟩ <;>
    simp (disch := simp [hmagic]) only [slice_append_right, slice_append_left, hmagic,
      beBytes_length, List.length_singleton, Nat.reduceSub]

/-- An input is the concatenation of the slices of its header and its rest. -/
theorem append_handshakeSlices (input : List UInt8) :
    slice input 0 4 ++ (slice input 4 6 ++ (slice input 6 7 ++ (slice input 7 8 ++
      (slice input 8 12 ++ input.drop 12)))) = input := by
  simp [slice_append_drop]

/-- What the decoder accepts re-encodes to the same bytes. -/
theorem decodeHandshakeEnvelope_bytes {input : List UInt8} {limits : WireLimits}
    {envelope : HandshakeEnvelope}
    (hdecode : decodeHandshakeEnvelope input limits = .ok envelope) :
    envelope.payload.length ≤ limits.handshakePayload ∧ input = envelope.bytes := by
  unfold decodeHandshakeEnvelope at hdecode
  obtain ⟨_, hheader, hdecode⟩ := bind_eq_ok_iff.mp hdecode
  obtain ⟨_, hmagic, hdecode⟩ := bind_eq_ok_iff.mp hdecode
  obtain ⟨_, hversion, hdecode⟩ := bind_eq_ok_iff.mp hdecode
  obtain ⟨step, hstep, hdecode⟩ := bind_eq_ok_iff.mp hdecode
  obtain ⟨_, hflags, hdecode⟩ := bind_eq_ok_iff.mp hdecode
  obtain ⟨_, -, hdecode⟩ := bind_eq_ok_iff.mp hdecode
  obtain ⟨total, htotal, hdecode⟩ := bind_eq_ok_iff.mp hdecode
  obtain ⟨_, hexact, hdecode⟩ := bind_eq_ok_iff.mp hdecode
  obtain ⟨hlimit, rfl⟩ := HandshakeEnvelope.new_eq_ok_iff.mp hdecode
  refine ⟨hlimit, ?_⟩
  have hlength := requireHeader_eq_ok_iff.mp hheader
  simp only [handshakeHeaderLen] at hlength
  -- Each check fixes the bytes of the slice that it reads.
  have hmagic : slice input 0 4 = handshakeMagic := by
    simpa using rejectIf_eq_ok_iff.mp hmagic
  have hversion : slice input 4 6 = beBytes 2 currentWireVersion :=
    slice_eq_beBytes (by omega) (validateVersion_eq_ok_iff.mp hversion)
  have hstep : slice input 6 7 = [step.byte] := by
    rw [slice_eq_byteAt (by omega), HandshakeStep.ofByte_eq_ok_iff.mp hstep]
  have hflags : slice input 7 8 = [0] := by
    have hzero : byteAt input 7 = 0 := by simpa using rejectIf_eq_ok_iff.mp hflags
    rw [slice_eq_byteAt (by omega), hzero]
  -- The input is exactly as long as the header says.
  have hdeclared : slice input 8 12 = beBytes 4 (input.drop 12).length := by
    obtain ⟨-, rfl⟩ := checkedAddU64_eq_some_iff.mp (okOr_eq_ok_iff.mp htotal)
    have hexact := requireExactLen_eq_ok_iff.mp hexact
    refine slice_eq_beBytes hlength ?_
    rw [List.length_drop, hexact, handshakeHeaderLen]
    omega
  calc
    input = _ := (append_handshakeSlices input).symm
    _ = HandshakeEnvelope.bytes _ := by
      simp only [HandshakeEnvelope.bytes, handshakeHeader, handshakeHeaderLen,
        List.append_assoc, hmagic, hversion, hstep, hflags, hdeclared]

/-- The encoding of an envelope within the limits decodes to that envelope. -/
theorem decodeHandshakeEnvelope_of_bytes {limits : WireLimits} {envelope : HandshakeEnvelope}
    (hlimit : envelope.payload.length ≤ limits.handshakePayload) :
    decodeHandshakeEnvelope envelope.bytes limits = .ok envelope := by
  obtain ⟨-, hsum, hwidth32⟩ := WireLimits.handshakeFits hlimit
  obtain ⟨hmagic, hversion, hstep, hflags, hdeclared⟩ := envelope.slices
  have hlength := envelope.bytes_length
  simp only [handshakeHeaderLen] at hlength
  have hstep : byteAt envelope.bytes 6 = envelope.step.byte := by
    rw [slice_eq_byteAt (by omega)] at hstep
    simpa using hstep
  have hflags : byteAt envelope.bytes 7 = 0 := by
    rw [slice_eq_byteAt (by omega)] at hflags
    simpa using hflags
  have hdeclared : beNat (slice envelope.bytes 8 12) = envelope.payload.length := by
    rw [hdeclared]
    exact beNat_beBytes_of_lt hwidth32
  have hrest : envelope.bytes.drop handshakeHeaderLen = envelope.payload := by
    rw [HandshakeEnvelope.bytes, ← handshakeHeader_length envelope.step envelope.payload.length,
      List.drop_left]
  -- Every slice of the header is now known, so each check is passed in turn.
  unfold decodeHandshakeEnvelope
  refine bind_eq_ok_iff.mpr ⟨(), requireHeader_eq_ok_iff.mpr (by
    unfold handshakeHeaderLen
    omega), ?_⟩
  refine bind_eq_ok_iff.mpr ⟨(), rejectIf_eq_ok_iff.mpr (not_not.mpr hmagic), ?_⟩
  refine bind_eq_ok_iff.mpr ⟨(), validateVersion_eq_ok_iff.mpr ?_, ?_⟩
  · rw [hversion]
    exact beNat_beBytes_of_lt (by decide)
  refine bind_eq_ok_iff.mpr ⟨envelope.step, HandshakeStep.ofByte_eq_ok_iff.mpr hstep, ?_⟩
  refine bind_eq_ok_iff.mpr ⟨(), rejectIf_eq_ok_iff.mpr (not_not.mpr hflags), ?_⟩
  simp only [hdeclared]
  refine bind_eq_ok_iff.mpr ⟨(), enforceLimit_eq_ok_iff.mpr hlimit, ?_⟩
  refine bind_eq_ok_iff.mpr ⟨handshakeHeaderLen + envelope.payload.length, ?_, ?_⟩
  · exact okOr_eq_ok_iff.mpr (checkedAddU64_eq_some_iff.mpr ⟨hsum, rfl⟩)
  refine bind_eq_ok_iff.mpr ⟨(), requireExactLen_eq_ok_iff.mpr hlength, ?_⟩
  rw [hrest]
  exact HandshakeEnvelope.new_eq_ok_iff.mpr ⟨hlimit, rfl⟩

/-- The decoder accepts exactly the canonical encodings of the envelopes within
the limits. -/
theorem decodeHandshakeEnvelope_eq_ok_iff {input : List UInt8} {limits : WireLimits}
    {envelope : HandshakeEnvelope} :
    decodeHandshakeEnvelope input limits = .ok envelope ↔
      envelope.payload.length ≤ limits.handshakePayload ∧ input = envelope.bytes := by
  constructor
  · exact decodeHandshakeEnvelope_bytes
  · rintro ⟨hlimit, rfl⟩
    exact decodeHandshakeEnvelope_of_bytes hlimit

/-- Under any limits the encoder takes every value within them, and the decoder
accepts an input as a value exactly when the encoder writes it. -/
theorem outerFrames_canonical (limits : WireLimits) :
    (∀ envelope, (∃ encoded, encodeHandshakeEnvelope envelope limits = .ok encoded) ↔
        envelope.payload.length ≤ limits.handshakePayload) ∧
      (∀ input envelope, decodeHandshakeEnvelope input limits = .ok envelope ↔
        encodeHandshakeEnvelope envelope limits = .ok input) ∧
      (∀ frame, (∃ encoded, encodeSecureFrame frame limits = .ok encoded) ↔
        frame.ciphertext.length ≤ limits.ciphertext) ∧
      (∀ input frame, decodeSecureFrame input limits = .ok frame ↔
        encodeSecureFrame frame limits = .ok input) := by
  refine ⟨?_, ?_, ?_, ?_⟩
  · intro envelope
    simp [encodeHandshakeEnvelope_eq_ok_iff]
  · intro input envelope
    rw [decodeHandshakeEnvelope_eq_ok_iff, encodeHandshakeEnvelope_eq_ok_iff]
  · intro frame
    simp [encodeSecureFrame_eq_ok_iff]
  · intro input frame
    rw [decodeSecureFrame_eq_ok_iff, encodeSecureFrame_eq_ok_iff]

end Ceylith
end Lirvena
