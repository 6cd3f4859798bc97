import Lirvena.Envelope.TeaBlock
import Lirvena.Lib.Result

/-!
# The QQ TEA codec

A plaintext is laid out behind a header byte and random padding and before
seven zero bytes, so that the whole is a number of blocks, and the blocks are
chained.  The decoder reads the width of the padding from the low bits of the
header.

`qqTea_inverts` says that the two directions fit: what is encrypted decrypts to
the plaintext, and whatever decrypts is the encryption of a layout that the
encoder uses for a plaintext of that length.
-/

namespace Lirvena
namespace Envelope

open Lib

/-- Redacted QQ TEA codec failure. -/
inductive QqTeaError where
  | lengthLimit
  | lengthOverflow
  | entropy
  | paddingLength
  | invalidCiphertext
  deriving DecidableEq

def blockLen : Nat := 8

def trailingZeroLen : Nat := 7

def maxPlaintextLen : Nat := 2 * 1024 * 1024

def encryptedBound : Nat := maxPlaintextLen + 16

def paddingLen (plaintextLen : Nat) : Nat :=
  10 - ((plaintextLen + 1) &&& 7)

def validatePlaintext (plaintext : List UInt8) : Except QqTeaError Unit :=
  rejectIf .lengthLimit (maxPlaintextLen < plaintext.length)

def readU64 (bytes : List UInt8) : UInt64 :=
  UInt64.ofNat (beNat bytes)

/-- `chunks_exact` at the block length, each chunk read as a word. -/
def readBlocks : List UInt8 → List UInt64
  | b0 :: b1 :: b2 :: b3 :: b4 :: b5 :: b6 :: b7 :: rest =>
      readU64 [b0, b1, b2, b3, b4, b5, b6, b7] :: readBlocks rest
  | _ => []

def writeBlocks (blocks : List UInt64) : List UInt8 :=
  blocks.flatMap (fun block => beBytes blockLen block.toNat)

/-- The loop of `encrypt_blocks`. -/
def encryptLoop (key : Vector UInt32 4) (priorEncrypted priorMixed : UInt64) :
    List UInt64 → List UInt64
  | [] => []
  | plain :: rest =>
      let mixed := plain ^^^ priorEncrypted
      let encrypted := Block.encrypt mixed key ^^^ priorMixed
      encrypted :: encryptLoop key encrypted mixed rest

/-- The loop of `decrypt_blocks`. -/
def decryptLoop (key : Vector UInt32 4) (priorDecrypted priorCiphertext : UInt64) :
    List UInt64 → List UInt64
  | [] => []
  | encrypted :: rest =>
      let decrypted := Block.decrypt (priorDecrypted ^^^ encrypted) key
      (decrypted ^^^ priorCiphertext) :: decryptLoop key decrypted encrypted rest

/-- In place: bytes behind the last whole block stay. -/
def encryptBlocks (output : List UInt8) (key : Vector UInt32 4) : List UInt8 :=
  writeBlocks (encryptLoop key 0 0 (readBlocks output)) ++
    output.drop (output.length / blockLen * blockLen)

/-- Into a zeroed buffer of the ciphertext's length. -/
def decryptBlocks (ciphertext : List UInt8) (key : Vector UInt32 4) : List UInt8 :=
  writeBlocks (decryptLoop key 0 0 (readBlocks ciphertext)) ++
    List.replicate (ciphertext.length % blockLen) 0

/-- `u8::try_from`. -/
def tryU8 (value : Nat) : Option UInt8 :=
  if value < 256 then some (UInt8.ofNat value) else none

def encryptQqTeaWithPadding (plaintext : List UInt8) (key : QqTeaKey)
    (padding : List UInt8) : Except QqTeaError (List UInt8) := do
  validatePlaintext plaintext
  let width := paddingLen plaintext.length
  rejectIf .paddingLength (padding.length ≠ width)
  let padded ← okOr .lengthOverflow (checkedAddU64 width plaintext.length)
  let outputLen ← okOr .lengthOverflow (checkedAddU64 padded trailingZeroLen)
  let header ← okOr .lengthOverflow (tryU8 (width - 3))
  let zeros := List.replicate (outputLen - padded) 0
  let output := (padding ++ plaintext ++ zeros).set 0 (header ||| 0xf8)
  return encryptBlocks output key.words

/-- The entropy source fills a buffer of the length it is given, or fails. -/
def encryptQqTea (plaintext : List UInt8) (key : QqTeaKey)
    (fill : (length : Nat) → Option (Vector UInt8 length)) :
    Except QqTeaError (List UInt8) := do
  let padding ← okOr .entropy (fill (paddingLen plaintext.length))
  encryptQqTeaWithPadding plaintext key padding.toList

def decryptQqTea (ciphertext : List UInt8) (key : QqTeaKey) :
    Except QqTeaError (List UInt8) := do
  rejectIf .invalidCiphertext (ciphertext.length < blockLen * 2 ∨
    ¬ blockLen ∣ ciphertext.length ∨ encryptedBound < ciphertext.length)
  let decoded := decryptBlocks ciphertext key.words
  let prefixLen ← okOr .lengthOverflow
    (checkedAddU64 (byteAt decoded 0 &&& 7).toNat 3)
  let payloadEnd ← okOr .invalidCiphertext
    (if decoded.length < trailingZeroLen then none
      else some (decoded.length - trailingZeroLen))
  rejectIf .invalidCiphertext (payloadEnd < prefixLen ∨
    (decoded.drop payloadEnd).any (· ≠ 0))
  return slice decoded prefixLen payloadEnd

/-! ## Blocks of a byte string -/

theorem readU64_beBytes (value : UInt64) : readU64 (beBytes blockLen value.toNat) = value := by
  have hvalue := value.toNat_lt
  rw [readU64, beNat_beBytes_of_lt (by simpa [blockLen] using hvalue), UInt64.ofNat_toNat]

theorem beBytes_readU64 {bytes : List UInt8} (hbytes : bytes.length = blockLen) :
    beBytes blockLen (readU64 bytes).toNat = bytes := by
  have hvalue := beNat_lt bytes
  rw [hbytes] at hvalue
  have hword : (readU64 bytes).toNat = beNat bytes := by
    rw [readU64, UInt64.toNat_ofNat']
    exact Nat.mod_eq_of_lt hvalue
  rw [hword, ← hbytes, beBytes_beNat]

theorem readBlocks_append {first : List UInt8} (hfirst : first.length = blockLen)
    (rest : List UInt8) : readBlocks (first ++ rest) = readU64 first :: readBlocks rest := by
  match first, hfirst with
  | [b0, b1, b2, b3, b4, b5, b6, b7], _ => rfl

theorem readBlocks_writeBlocks (blocks : List UInt64) :
    readBlocks (writeBlocks blocks) = blocks := by
  induction blocks with
  | nil => rfl
  | cons block rest ih =>
      have hfirst := readBlocks_append (beBytes_length blockLen block.toNat)
        (writeBlocks rest)
      rw [readU64_beBytes, ih] at hfirst
      exact hfirst

@[simp] theorem writeBlocks_length (blocks : List UInt64) :
    (writeBlocks blocks).length = blockLen * blocks.length := by
  induction blocks with
  | nil => rfl
  | cons block rest ih =>
      rw [writeBlocks, List.flatMap_cons, List.length_append, beBytes_length]
      change blockLen + (writeBlocks rest).length = _
      rw [ih, List.length_cons, Nat.mul_succ, Nat.add_comm]

/-- A string of whole blocks is written back as it was read. -/
theorem writeBlocks_readBlocks {bytes : List UInt8} (hwhole : blockLen ∣ bytes.length) :
    writeBlocks (readBlocks bytes) = bytes := by
  induction bytes using readBlocks.induct with
  | case1 b0 b1 b2 b3 b4 b5 b6 b7 rest ih =>
      have hrest : blockLen ∣ rest.length := by
        simp only [List.length_cons, blockLen] at hwhole ⊢
        omega
      have hhead : beBytes blockLen (readU64 [b0, b1, b2, b3, b4, b5, b6, b7]).toNat =
        [b0, b1, b2, b3, b4, b5, b6, b7] := beBytes_readU64 rfl
      rw [readBlocks, writeBlocks, List.flatMap_cons, hhead]
      exact congrArg ([b0, b1, b2, b3, b4, b5, b6, b7] ++ ·) (ih hrest)
  | case2 bytes hshort =>
      have hempty : bytes = [] := by
        rcases bytes with _ | ⟨b0, _ | ⟨b1, _ | ⟨b2, _ | ⟨b3, _ | ⟨b4, _ | ⟨b5, _ | ⟨b6,
          _ | ⟨b7, rest⟩⟩⟩⟩⟩⟩⟩⟩ <;> simp [blockLen] at hwhole ⊢
        exact (hshort _ _ _ _ _ _ _ _ _ rfl).elim
      rw [hempty]
      rfl

theorem readBlocks_length {bytes : List UInt8} (hwhole : blockLen ∣ bytes.length) :
    blockLen * (readBlocks bytes).length = bytes.length := by
  rw [← writeBlocks_length, writeBlocks_readBlocks hwhole]

/-! ## The loops are the two-sided chaining of the block cipher -/

theorem encryptLoop_eq_chainEncrypt (key : Vector UInt32 4)
    (priorEncrypted priorMixed : UInt64) (blocks : List UInt64) :
    encryptLoop key priorEncrypted priorMixed blocks =
      (Block.cipher key).chainEncrypt priorEncrypted priorMixed blocks := by
  induction blocks generalizing priorEncrypted priorMixed with
  | nil => rfl
  | cons plain rest ih =>
      rw [encryptLoop, BlockCipher.chainEncrypt, ih]
      rfl

theorem decryptLoop_eq_chainDecrypt (key : Vector UInt32 4)
    (priorDecrypted priorCiphertext : UInt64) (blocks : List UInt64) :
    decryptLoop key priorDecrypted priorCiphertext blocks =
      (Block.cipher key).chainDecrypt priorDecrypted priorCiphertext blocks := by
  induction blocks generalizing priorDecrypted priorCiphertext with
  | nil => rfl
  | cons encrypted rest ih =>
      rw [decryptLoop, BlockCipher.chainDecrypt, ih]
      rfl

section WholeBlocks

variable (key : Vector UInt32 4) {bytes : List UInt8}

theorem encryptBlocks_of_whole (hwhole : blockLen ∣ bytes.length) :
    encryptBlocks bytes key =
      writeBlocks ((Block.cipher key).chainEncrypt 0 0 (readBlocks bytes)) := by
  rw [encryptBlocks, encryptLoop_eq_chainEncrypt, Nat.div_mul_cancel hwhole,
    List.drop_length, List.append_nil]

theorem decryptBlocks_of_whole (hwhole : blockLen ∣ bytes.length) :
    decryptBlocks bytes key =
      writeBlocks ((Block.cipher key).chainDecrypt 0 0 (readBlocks bytes)) := by
  rw [decryptBlocks, decryptLoop_eq_chainDecrypt, Nat.mod_eq_zero_of_dvd hwhole,
    List.replicate_zero, List.append_nil]

theorem encryptBlocks_length (hwhole : blockLen ∣ bytes.length) :
    (encryptBlocks bytes key).length = bytes.length := by
  rw [encryptBlocks_of_whole key hwhole, writeBlocks_length,
    BlockCipher.chainEncrypt_length, readBlocks_length hwhole]

theorem decryptBlocks_length (hwhole : blockLen ∣ bytes.length) :
    (decryptBlocks bytes key).length = bytes.length := by
  rw [decryptBlocks_of_whole key hwhole, writeBlocks_length,
    BlockCipher.chainDecrypt_length, readBlocks_length hwhole]

theorem decryptBlocks_encryptBlocks (hwhole : blockLen ∣ bytes.length) :
    decryptBlocks (encryptBlocks bytes key) key = bytes := by
  have hencrypted : blockLen ∣ (encryptBlocks bytes key).length := by
    rw [encryptBlocks_length key hwhole]
    exact hwhole
  rw [decryptBlocks_of_whole key hencrypted, encryptBlocks_of_whole key hwhole,
    readBlocks_writeBlocks, BlockCipher.chainDecrypt_chainEncrypt,
    writeBlocks_readBlocks hwhole]

theorem encryptBlocks_decryptBlocks (hwhole : blockLen ∣ bytes.length) :
    encryptBlocks (decryptBlocks bytes key) key = bytes := by
  have hdecrypted : blockLen ∣ (decryptBlocks bytes key).length := by
    rw [decryptBlocks_length key hwhole]
    exact hwhole
  rw [encryptBlocks_of_whole key hdecrypted, decryptBlocks_of_whole key hwhole,
    readBlocks_writeBlocks, BlockCipher.chainEncrypt_chainDecrypt,
    writeBlocks_readBlocks hwhole]

end WholeBlocks

/-! ## The layout -/

theorem and_seven (value : Nat) : value &&& 7 = value % 8 :=
  Nat.and_two_pow_sub_one_eq_mod value 3

theorem and_seven_toNat (byte : UInt8) : (byte &&& 7).toNat = byte.toNat % 8 := by
  rw [UInt8.toNat_and]
  exact and_seven byte.toNat

/-- The padding width is the one number between 3 and 10 that completes the
layout to whole blocks. -/
theorem eq_paddingLen_iff {plaintextLen width : Nat} :
    width = paddingLen plaintextLen ↔
      3 ≤ width ∧ width ≤ 10 ∧ (width + plaintextLen + trailingZeroLen) % 8 = 0 := by
  rw [paddingLen, and_seven, trailingZeroLen]
  omega

/-- A header byte, padding, the plaintext and the zeros behind it. -/
def layout (header : UInt8) (padding plaintext : List UInt8) : List UInt8 :=
  header :: (padding ++ plaintext ++ List.replicate trailingZeroLen 0)

/-- The header is one the encoder uses for a plaintext of this length: its low
three bits and the padding give the same width. -/
structure Framed (header : UInt8) (padding plaintext : List UInt8) : Prop where
  header_eq : (header &&& 7).toNat = paddingLen plaintext.length - 3
  padding_eq : (header :: padding).length = paddingLen plaintext.length

namespace Framed

variable {header : UInt8} {padding plaintext : List UInt8}

theorem layout_length (hframed : Framed header padding plaintext) :
    (layout header padding plaintext).length =
      paddingLen plaintext.length + plaintext.length + trailingZeroLen := by
  have hwidth := hframed.padding_eq
  simp only [List.length_cons] at hwidth
  simp only [layout, List.length_cons, List.length_append, List.length_replicate]
  omega

theorem layout_whole (hframed : Framed header padding plaintext) :
    blockLen ∣ (layout header padding plaintext).length := by
  obtain ⟨-, -, hwhole⟩ := eq_paddingLen_iff.mp (rfl : paddingLen plaintext.length = _)
  rw [hframed.layout_length]
  exact Nat.dvd_of_mod_eq_zero hwhole

theorem drop_payload (hframed : Framed header padding plaintext) :
    (layout header padding plaintext).drop
        (paddingLen plaintext.length + plaintext.length) =
      List.replicate trailingZeroLen 0 := by
  have hfront : (header :: padding ++ plaintext).length =
      paddingLen plaintext.length + plaintext.length := by
    rw [List.length_append, hframed.padding_eq]
  have hcut : layout header padding plaintext =
      (header :: padding ++ plaintext) ++ List.replicate trailingZeroLen 0 := by
    simp [layout]
  rw [hcut, ← hfront, List.drop_left]

theorem slice_payload (hframed : Framed header padding plaintext) :
    slice (layout header padding plaintext) (paddingLen plaintext.length)
        (paddingLen plaintext.length + plaintext.length) = plaintext := by
  have hcut : layout header padding plaintext =
      (header :: padding) ++ (plaintext ++ List.replicate trailingZeroLen 0) := by
    simp [layout]
  rw [hcut, slice_append_right (Nat.le_of_eq hframed.padding_eq), hframed.padding_eq,
    Nat.sub_self, Nat.add_sub_cancel_left]
  exact slice_append_left rfl

end Framed

/-- A byte string that ends in the zeros and whose first byte asks for a prefix
in front of them is a layout. -/
theorem exists_layout {decoded : List UInt8} {prefixLen payloadEnd : Nat}
    (hwhole : blockLen ∣ decoded.length)
    (hfront : prefixLen = (byteAt decoded 0 &&& 7).toNat + 3)
    (hend : payloadEnd + trailingZeroLen = decoded.length)
    (hle : prefixLen ≤ payloadEnd)
    (hzeros : decoded.drop payloadEnd = List.replicate trailingZeroLen 0) :
    ∃ header padding, Framed header padding (slice decoded prefixLen payloadEnd) ∧
      decoded = layout header padding (slice decoded prefixLen payloadEnd) := by
  obtain ⟨header, tail, rfl⟩ : ∃ header tail, decoded = header :: tail := by
    cases decoded with
    | nil =>
        simp only [List.length_nil, trailingZeroLen] at hend
        omega
    | cons header tail => exact ⟨header, tail, rfl⟩
  have hheader : (header &&& 7).toNat < 8 := by
    rw [and_seven_toNat]
    omega
  have hwidth : prefixLen = (header &&& 7).toNat + 3 := hfront
  have hslice : (slice (header :: tail) prefixLen payloadEnd).length =
      payloadEnd - prefixLen := slice_length (by omega)
  -- A prefix with whole blocks behind it is the one that the payload calls for.
  have hpadding : prefixLen =
      paddingLen (slice (header :: tail) prefixLen payloadEnd).length := by
    rw [eq_paddingLen_iff, hslice]
    obtain ⟨blocks, hblocks⟩ := hwhole
    simp only [blockLen, trailingZeroLen] at hblocks hend ⊢
    omega
  have hfront : (header :: tail.take (prefixLen - 1)) = (header :: tail).take prefixLen := by
    obtain ⟨width, rfl⟩ : ∃ width, prefixLen = width + 1 := ⟨prefixLen - 1, by omega⟩
    rfl
  refine ⟨header, tail.take (prefixLen - 1), ⟨?_, ?_⟩, ?_⟩
  · omega
  · rw [← hpadding, hfront, List.length_take]
    omega
  · have hrest : slice (header :: tail) prefixLen payloadEnd ++
        List.replicate trailingZeroLen 0 = (header :: tail).drop prefixLen := by
      rw [← hzeros]
      exact slice_append_drop _ hle
    rw [layout, List.append_assoc, hrest, ← List.cons_append, hfront,
      List.take_append_drop]

/-- What decrypts is the encryption of a layout of the plaintext. -/
theorem decryptQqTea_layout {ciphertext plaintext : List UInt8} {key : QqTeaKey}
    (hok : decryptQqTea ciphertext key = .ok plaintext) :
    (blockLen * 2 ≤ ciphertext.length ∧ blockLen ∣ ciphertext.length ∧
        ciphertext.length ≤ encryptedBound) ∧
      ∃ header padding, Framed header padding plaintext ∧
        decryptBlocks ciphertext key.words = layout header padding plaintext := by
  unfold decryptQqTea at hok
  obtain ⟨⟨⟩, hwidth, hok⟩ := bind_eq_ok_iff.mp hok
  simp only [rejectIf_eq_ok_iff, not_or, not_not, Nat.not_lt] at hwidth
  obtain ⟨hshort, hwhole, hlong⟩ := hwidth
  have hlength := decryptBlocks_length key.words hwhole
  obtain ⟨prefixLen, hfront, hok⟩ := bind_eq_ok_iff.mp hok
  obtain ⟨-, hfront⟩ := checkedAddU64_eq_some_iff.mp (okOr_eq_ok_iff.mp hfront)
  obtain ⟨payloadEnd, hend, hok⟩ := bind_eq_ok_iff.mp hok
  rw [okOr_eq_ok_iff] at hend
  split at hend
  · cases hend
  next hroom =>
  cases hend
  obtain ⟨_, hlayout, hreturn⟩ := bind_eq_ok_iff.mp hok
  rw [rejectIf_eq_ok_iff, not_or] at hlayout
  cases hreturn
  refine ⟨⟨hshort, hwhole, hlong⟩, exists_layout ?_ hfront (by omega) (by omega) ?_⟩
  · rw [hlength]
    exact hwhole
  · -- The check on the trailing bytes is read as a statement about each of them.
    have hall : ∀ byte ∈ (decryptBlocks ciphertext key.words).drop
        ((decryptBlocks ciphertext key.words).length - trailingZeroLen), byte = 0 := by
      simpa using hlayout.2
    rw [List.eq_replicate_of_mem hall, List.length_drop]
    congr 1
    omega

/-- A layout of a plaintext decrypts to the plaintext. -/
theorem decryptQqTea_of_layout {ciphertext plaintext padding : List UInt8} {header : UInt8}
    {key : QqTeaKey} (hshort : blockLen * 2 ≤ ciphertext.length)
    (hwhole : blockLen ∣ ciphertext.length) (hlong : ciphertext.length ≤ encryptedBound)
    (hframed : Framed header padding plaintext)
    (hdecoded : decryptBlocks ciphertext key.words = layout header padding plaintext) :
    decryptQqTea ciphertext key = .ok plaintext := by
  obtain ⟨hlow, hhigh, -⟩ :=
    eq_paddingLen_iff.mp (rfl : paddingLen plaintext.length = _)
  have hlength := hframed.layout_length
  have hfront : (byteAt (layout header padding plaintext) 0 &&& 7).toNat + 3 =
      paddingLen plaintext.length := by
    have hheader := hframed.header_eq
    change (header &&& 7).toNat + 3 = _
    omega
  have hfits : (byteAt (layout header padding plaintext) 0 &&& 7).toNat + 3 <
      u64Bound := by
    unfold u64Bound
    omega
  have hend : (layout header padding plaintext).length - trailingZeroLen =
      paddingLen plaintext.length + plaintext.length := by
    omega
  -- None of the guards fires on a layout.
  have hroom : ¬ (layout header padding plaintext).length < trailingZeroLen := by
    omega
  have haccept : ¬ (ciphertext.length < blockLen * 2 ∨
      ¬ blockLen ∣ ciphertext.length ∨ encryptedBound < ciphertext.length) := by
    simp only [not_or, not_not, Nat.not_lt]
    exact ⟨hshort, hwhole, hlong⟩
  simp only [decryptQqTea, hdecoded, rejectIf, if_neg haccept, checkedAddU64,
    if_pos hfits, okOr, if_neg hroom, bind, Except.bind]
  rw [hfront, hend, hframed.drop_payload, hframed.slice_payload]
  have hle : ¬ paddingLen plaintext.length + plaintext.length <
      paddingLen plaintext.length := by
    omega
  simp [hle, pure, Except.pure]

/-- Exactly which ciphertexts decrypt, and to what. -/
theorem decryptQqTea_eq_ok_iff {ciphertext plaintext : List UInt8} {key : QqTeaKey} :
    decryptQqTea ciphertext key = .ok plaintext ↔
      (blockLen * 2 ≤ ciphertext.length ∧ blockLen ∣ ciphertext.length ∧
          ciphertext.length ≤ encryptedBound) ∧
        ∃ header padding, Framed header padding plaintext ∧
          decryptBlocks ciphertext key.words = layout header padding plaintext := by
  constructor
  · exact decryptQqTea_layout
  · rintro ⟨⟨hshort, hwhole, hlong⟩, header, padding, hframed, hdecoded⟩
    exact decryptQqTea_of_layout hshort hwhole hlong hframed hdecoded

/-- The header byte that the encoder writes over the first padding byte. -/
def headerByte (plaintextLen : Nat) : UInt8 :=
  UInt8.ofNat (paddingLen plaintextLen - 3) ||| 0xf8

theorem low_bits_of_header :
    ∀ value < 8, ((UInt8.ofNat value ||| 0xf8) &&& 7).toNat = value := by
  decide

theorem framed_headerByte {plaintext padding : List UInt8}
    (hpadding : padding.length = paddingLen plaintext.length) :
    Framed (headerByte plaintext.length) padding.tail plaintext := by
  obtain ⟨hlow, hhigh, -⟩ := eq_paddingLen_iff.mp (rfl : paddingLen plaintext.length = _)
  refine ⟨low_bits_of_header _ (by omega), ?_⟩
  rw [List.length_cons, List.length_tail]
  omega

/-- With padding of the width it asks for, the encoder encrypts its layout. -/
theorem encryptQqTeaWithPadding_eq_ok {plaintext padding : List UInt8} (key : QqTeaKey)
    (hlimit : plaintext.length ≤ maxPlaintextLen)
    (hpadding : padding.length = paddingLen plaintext.length) :
    encryptQqTeaWithPadding plaintext key padding =
      .ok (encryptBlocks (layout (headerByte plaintext.length) padding.tail plaintext)
        key.words) := by
  obtain ⟨hlow, hhigh, -⟩ := eq_paddingLen_iff.mp (rfl : paddingLen plaintext.length = _)
  have hmax : maxPlaintextLen = 2097152 := rfl
  have hfits : paddingLen plaintext.length + plaintext.length < u64Bound := by
    unfold u64Bound
    omega
  have hbound : paddingLen plaintext.length + plaintext.length + trailingZeroLen <
      u64Bound := by
    unfold u64Bound trailingZeroLen
    omega
  have hheader : paddingLen plaintext.length - 3 < 256 := by omega
  have hlong : ¬ maxPlaintextLen < plaintext.length := by omega
  -- The header takes the place of the first padding byte.
  have hset : (padding ++ plaintext ++ List.replicate trailingZeroLen 0).set 0
      (headerByte plaintext.length) =
      layout (headerByte plaintext.length) padding.tail plaintext := by
    cases padding with
    | nil =>
        simp only [List.length_nil] at hpadding
        omega
    | cons first rest => rfl
  simp only [encryptQqTeaWithPadding, validatePlaintext, rejectIf, if_neg hlong, hpadding,
    ne_eq, not_true_eq_false, if_false, checkedAddU64, if_pos hfits, if_pos hbound, okOr,
    tryU8, if_pos hheader, bind, Except.bind, Nat.add_sub_cancel_left, pure, Except.pure]
  exact congrArg (fun output => Except.ok (encryptBlocks output key.words)) hset

/-- What is encrypted, and when: a plaintext within the limit, under the padding that
the entropy source gives. -/
theorem encryptQqTea_eq_ok_iff {plaintext ciphertext : List UInt8} {key : QqTeaKey}
    {fill : (length : Nat) → Option (Vector UInt8 length)} :
    encryptQqTea plaintext key fill = .ok ciphertext ↔
      plaintext.length ≤ maxPlaintextLen ∧
        ∃ padding, fill (paddingLen plaintext.length) = some padding ∧
          ciphertext = encryptBlocks
            (layout (headerByte plaintext.length) padding.toList.tail plaintext) key.words := by
  unfold encryptQqTea
  rw [bind_eq_ok_iff]
  constructor
  · rintro ⟨padding, hfill, hencrypt⟩
    have hlimit : plaintext.length ≤ maxPlaintextLen := by
      obtain ⟨⟨⟩, hvalid, -⟩ := bind_eq_ok_iff.mp hencrypt
      exact Nat.not_lt.mp (rejectIf_eq_ok_iff.mp hvalid)
    rw [encryptQqTeaWithPadding_eq_ok key hlimit padding.length_toList] at hencrypt
    cases hencrypt
    exact ⟨hlimit, padding, okOr_eq_ok_iff.mp hfill, rfl⟩
  · rintro ⟨hlimit, padding, hfill, rfl⟩
    exact ⟨padding, okOr_eq_ok_iff.mpr hfill,
      encryptQqTeaWithPadding_eq_ok key hlimit padding.length_toList⟩

/-- The layout of a plaintext within the limit is within the limits of the decoder. -/
theorem layout_bounds {length : Nat} (hlimit : length ≤ maxPlaintextLen) :
    blockLen * 2 ≤ paddingLen length + length + trailingZeroLen ∧
      blockLen ∣ paddingLen length + length + trailingZeroLen ∧
        paddingLen length + length + trailingZeroLen ≤ encryptedBound := by
  obtain ⟨hlow, hhigh, hblocks⟩ := eq_paddingLen_iff.mp (rfl : paddingLen length = _)
  refine ⟨?_, Nat.dvd_of_mod_eq_zero hblocks, ?_⟩
  · unfold blockLen
    unfold trailingZeroLen at hblocks ⊢
    omega
  · unfold encryptedBound
    unfold maxPlaintextLen trailingZeroLen at *
    omega

theorem encryptQqTea_length {plaintext ciphertext : List UInt8} {key : QqTeaKey}
    {fill : (length : Nat) → Option (Vector UInt8 length)}
    (hencrypt : encryptQqTea plaintext key fill = .ok ciphertext) :
    ciphertext.length = paddingLen plaintext.length + plaintext.length + trailingZeroLen := by
  obtain ⟨-, padding, -, rfl⟩ := encryptQqTea_eq_ok_iff.mp hencrypt
  have hframed := framed_headerByte padding.length_toList
  rw [encryptBlocks_length key.words hframed.layout_whole, hframed.layout_length]

/-- A ciphertext decrypts to its plaintext. -/
theorem decryptQqTea_encryptQqTea {plaintext ciphertext : List UInt8} {key : QqTeaKey}
    {fill : (length : Nat) → Option (Vector UInt8 length)}
    (hencrypt : encryptQqTea plaintext key fill = .ok ciphertext) :
    decryptQqTea ciphertext key = .ok plaintext := by
  have hlength := encryptQqTea_length hencrypt
  obtain ⟨hlimit, padding, -, rfl⟩ := encryptQqTea_eq_ok_iff.mp hencrypt
  have hframed := framed_headerByte padding.length_toList
  refine decryptQqTea_eq_ok_iff.mpr ⟨?_, _, _, hframed, ?_⟩
  · rw [hlength]
    exact layout_bounds hlimit
  · exact decryptBlocks_encryptBlocks key.words hframed.layout_whole

/-- The two directions of the codec: what is encrypted, under any padding,
decrypts to the plaintext within the ciphertext limits; and whatever decrypts is
the chained encryption of a layout with the encoder's header bits and padding
width for a plaintext of that length. -/
theorem qqTea_inverts (key : QqTeaKey) :
    (∀ (plaintext : List UInt8) (fill : (length : Nat) → Option (Vector UInt8 length))
        (padding : Vector UInt8 (paddingLen plaintext.length)),
      plaintext.length ≤ maxPlaintextLen →
      fill (paddingLen plaintext.length) = some padding →
      ∃ ciphertext, encryptQqTea plaintext key fill = .ok ciphertext ∧
        encryptQqTeaWithPadding plaintext key padding.toList = .ok ciphertext ∧
        decryptQqTea ciphertext key = .ok plaintext ∧
        blockLen ∣ ciphertext.length ∧ 16 ≤ ciphertext.length ∧
        ciphertext.length ≤ encryptedBound) ∧
    ∀ ciphertext plaintext, decryptQqTea ciphertext key = .ok plaintext →
      ∃ header padding,
        (header &&& 7).toNat = (headerByte plaintext.length &&& 7).toNat ∧
        (header :: padding).length = paddingLen plaintext.length ∧
        ciphertext = encryptBlocks
          (header :: (padding ++ plaintext ++ List.replicate 7 0)) key.words := by
  constructor
  · intro plaintext fill padding hlimit hfill
    have hencrypt : encryptQqTea plaintext key fill = .ok _ :=
      encryptQqTea_eq_ok_iff.mpr ⟨hlimit, padding, hfill, rfl⟩
    obtain ⟨hshort, hwhole, hlong⟩ := layout_bounds hlimit
    rw [← encryptQqTea_length hencrypt] at hshort hwhole hlong
    exact ⟨_, hencrypt, encryptQqTeaWithPadding_eq_ok key hlimit padding.length_toList,
      decryptQqTea_encryptQqTea hencrypt, hwhole, hshort, hlong⟩
  · intro ciphertext plaintext hok
    obtain ⟨⟨-, hwhole, -⟩, header, padding, hframed, hdecoded⟩ :=
      decryptQqTea_eq_ok_iff.mp hok
    refine ⟨header, padding, ?_, hframed.padding_eq, ?_⟩
    · -- The header that is read has the low bits of the one that is written.
      obtain ⟨hlow, hhigh, -⟩ :=
        eq_paddingLen_iff.mp (rfl : paddingLen plaintext.length = _)
      rw [hframed.header_eq, headerByte, low_bits_of_header _ (by omega)]
    · rw [← encryptBlocks_decryptBlocks key.words hwhole, hdecoded]
      rfl

/-- The key of the test suite's golden vector. -/
def vectorKey : QqTeaKey where
  bytes := [0x00, 0x11, 0x22, 0x33, 0x44, 0x55, 0x66, 0x77, 0x88, 0x99, 0xaa, 0xbb, 0xcc,
    0xdd, 0xee, 0xff]
  length_eq := rfl

/-- A source that fills every buffer with one byte. -/
def constantFill (byte : UInt8) (length : Nat) : Option (Vector UInt8 length) :=
  some (Vector.replicate length byte)

/-- One byte of plaintext goes through both directions. -/
theorem qqTea_inverts_one_byte :
    ∃ ciphertext, encryptQqTea [0x51] vectorKey (constantFill 0x2a) = .ok ciphertext ∧
      decryptQqTea ciphertext vectorKey = .ok [0x51] ∧
      ∃ header padding, (header &&& 7).toNat = 5 ∧ (header :: padding).length = 8 ∧
        ciphertext = encryptBlocks (header :: (padding ++ [0x51] ++ List.replicate 7 0))
          vectorKey.words := by
  obtain ⟨ciphertext, hencrypt, -, hdecrypt, -⟩ :=
    (qqTea_inverts vectorKey).1 [0x51] (constantFill 0x2a) _ (by decide) rfl
  obtain ⟨header, padding, hheader, hpadding, hchained⟩ :=
    (qqTea_inverts vectorKey).2 ciphertext [0x51] hdecrypt
  exact ⟨ciphertext, hencrypt, hdecrypt, header, padding, hheader, hpadding, hchained⟩

/-- The test suite's golden vector. -/
example :
    encryptQqTeaWithPadding
        [76, 105, 114, 118, 101, 110, 97, 32, 81, 82, 32, 98, 111, 117, 110, 100, 97, 114, 121]
        vectorKey [0x10, 0x20, 0x30, 0x40, 0x50, 0x60] =
      .ok [0xad, 0xbc, 0x86, 0x9f, 0x53, 0x4e, 0x3b, 0x8b, 0x34, 0x31, 0x81, 0x31, 0x34,
        0xcb, 0xba, 0x7f, 0x02, 0x72, 0xda, 0xe5, 0x2f, 0x1c, 0xe6, 0x07, 0xc4, 0xf8, 0xfc,
        0x79, 0xd9, 0xd4, 0xfc, 0xae] := by
  decide +kernel

end Envelope
end Lirvena
