import Lirvena.Lib.Bytes
import Lirvena.Lib.Result

/-!
# The bounded reader

Big-endian values and length-prefixed fields are read from the front of a packet.
A reader is the part of its packet that is not read yet; lengths stay far below the
word size, so that the cursor of the source cannot overflow.

A field is read in one way: a read succeeds with a field exactly when the unread
part begins with the encoding of that field.
-/

namespace Lirvena
namespace Wire

open Lib

/-- Length-prefix encoding used by a bounded field. -/
inductive LengthPrefix where
  | u8Payload
  | u8Inclusive
  | u16Payload
  | u16Inclusive
  | u32Payload
  | u32Inclusive
  deriving DecidableEq

namespace LengthPrefix

def width : LengthPrefix → Nat
  | u8Payload | u8Inclusive => 1
  | u16Payload | u16Inclusive => 2
  | u32Payload | u32Inclusive => 4

def includesPrefix : LengthPrefix → Bool
  | u8Inclusive | u16Inclusive | u32Inclusive => true
  | _ => false

/-- The length that is declared for a payload. -/
def declared (kind : LengthPrefix) (payloadLen : Nat) : Nat :=
  if kind.includesPrefix then payloadLen + kind.width else payloadLen

/-- A payload behind its declared length. -/
def encode (kind : LengthPrefix) (payload : List UInt8) : List UInt8 :=
  beBytes kind.width (kind.declared payload.length) ++ payload

@[simp] theorem encode_length (kind : LengthPrefix) (payload : List UInt8) :
    (kind.encode payload).length = kind.width + payload.length := by
  rw [encode, List.length_append, beBytes_length]

end LengthPrefix

/-- Redacted bounded-wire failure. -/
inductive WireError where
  | truncated (needed available : Nat)
  | trailingBytes (remaining : Nat)
  | lengthOverflow
  | lengthLimitExceeded (limit actual : Nat)
  | invalidInclusiveLength
  deriving DecidableEq

/-! ## Reads -/

namespace WireReader

/-- Takes exactly so many bytes. -/
def readBytes (length : Nat) (unread : List UInt8) :
    Except WireError (List UInt8 × List UInt8) :=
  if unread.length < length then
    .error (.truncated length unread.length)
  else
    .ok (unread.take length, unread.drop length)

/-- A big-endian word of so many bytes. -/
def readWord (width : Nat) (unread : List UInt8) : Except WireError (Nat × List UInt8) := do
  let (bytes, rest) ← readBytes width unread
  return (beNat bytes, rest)

def readU8 (unread : List UInt8) : Except WireError (UInt8 × List UInt8) := do
  let (value, rest) ← readWord 1 unread
  return (UInt8.ofNat value, rest)

def readU16 (unread : List UInt8) : Except WireError (UInt16 × List UInt8) := do
  let (value, rest) ← readWord 2 unread
  return (UInt16.ofNat value, rest)

def readU32 (unread : List UInt8) : Except WireError (UInt32 × List UInt8) := do
  let (value, rest) ← readWord 4 unread
  return (UInt32.ofNat value, rest)

/-- `i32::from_be_bytes`, in two's complement. -/
def readI32 (unread : List UInt8) : Except WireError (Int × List UInt8) := do
  let (value, rest) ← readU32 unread
  return (value.toBitVec.toInt, rest)

/-- The length of a payload, from the length that is declared for it. -/
def payloadLength (kind : LengthPrefix) (declared : Nat) : Option Nat :=
  if kind.includesPrefix then
    if declared < kind.width then none else some (declared - kind.width)
  else
    some declared

/-- Reads a prefixed byte field and enforces a payload bound of the caller. -/
def readPrefixedBytes (kind : LengthPrefix) (maximum : Nat) (unread : List UInt8) :
    Except WireError (List UInt8 × List UInt8) := do
  let (declared, rest) ← readWord kind.width unread
  let length ← okOr .invalidInclusiveLength (payloadLength kind declared)
  rejectIf (.lengthLimitExceeded maximum length) (maximum < length)
  readBytes length rest

/-- Rejects any unconsumed bytes. -/
def finish (unread : List UInt8) : Except WireError Unit :=
  rejectIf (.trailingBytes unread.length) (unread ≠ [])

theorem readBytes_eq_ok_iff {length : Nat} {unread bytes rest : List UInt8} :
    readBytes length unread = .ok (bytes, rest) ↔
      unread = bytes ++ rest ∧ bytes.length = length := by
  unfold readBytes
  split
  · next hshort =>
      constructor
      · intro hread
        cases hread
      · rintro ⟨rfl, hlength⟩
        rw [List.length_append] at hshort
        omega
  · next hroom =>
      constructor
      · intro hread
        cases hread
        refine ⟨(List.take_append_drop length unread).symm, ?_⟩
        rw [List.length_take]
        omega
      · rintro ⟨rfl, rfl⟩
        rw [List.take_left, List.drop_left]

theorem readWord_eq_ok_iff {width value : Nat} {unread rest : List UInt8} :
    readWord width unread = .ok (value, rest) ↔
      value < 256 ^ width ∧ unread = beBytes width value ++ rest := by
  unfold readWord
  constructor
  · intro hread
    obtain ⟨⟨bytes, behind⟩, hbytes, hread⟩ := bind_eq_ok_iff.mp hread
    cases hread
    obtain ⟨rfl, rfl⟩ := readBytes_eq_ok_iff.mp hbytes
    exact ⟨beNat_lt bytes, by rw [beBytes_beNat]⟩
  · rintro ⟨hvalue, rfl⟩
    refine bind_eq_ok_iff.mpr
      ⟨_, readBytes_eq_ok_iff.mpr ⟨rfl, beBytes_length width value⟩, ?_⟩
    show Except.ok (beNat (beBytes width value), rest) = .ok (value, rest)
    rw [beNat_beBytes_of_lt hvalue]

theorem readU8_eq_ok_iff {value : UInt8} {unread rest : List UInt8} :
    readU8 unread = .ok (value, rest) ↔ unread = value :: rest := by
  unfold readU8
  constructor
  · intro hread
    obtain ⟨⟨word, behind⟩, hword, hread⟩ := bind_eq_ok_iff.mp hread
    cases hread
    obtain ⟨hvalue, rfl⟩ := readWord_eq_ok_iff.mp hword
    rfl
  · rintro rfl
    have hword : readWord 1 (value :: rest) = .ok (value.toNat, rest) := by
      refine readWord_eq_ok_iff.mpr ⟨value.toNat_lt, ?_⟩
      show value :: rest = UInt8.ofNat value.toNat :: rest
      rw [UInt8.ofNat_toNat]
    refine bind_eq_ok_iff.mpr ⟨_, hword, ?_⟩
    show Except.ok (UInt8.ofNat value.toNat, rest) = .ok (value, rest)
    rw [UInt8.ofNat_toNat]

theorem readU16_eq_ok_iff {value : UInt16} {unread rest : List UInt8} :
    readU16 unread = .ok (value, rest) ↔ unread = beBytes 2 value.toNat ++ rest := by
  unfold readU16
  constructor
  · intro hread
    obtain ⟨⟨word, behind⟩, hword, hread⟩ := bind_eq_ok_iff.mp hread
    cases hread
    obtain ⟨hvalue, rfl⟩ := readWord_eq_ok_iff.mp hword
    rw [UInt16.toNat_ofNat_of_lt' hvalue]
  · rintro rfl
    refine bind_eq_ok_iff.mpr
      ⟨(value.toNat, rest), readWord_eq_ok_iff.mpr ⟨value.toNat_lt, rfl⟩, ?_⟩
    show Except.ok (UInt16.ofNat value.toNat, rest) = .ok (value, rest)
    rw [UInt16.ofNat_toNat]

theorem readU32_eq_ok_iff {value : UInt32} {unread rest : List UInt8} :
    readU32 unread = .ok (value, rest) ↔ unread = beBytes 4 value.toNat ++ rest := by
  unfold readU32
  constructor
  · intro hread
    obtain ⟨⟨word, behind⟩, hword, hread⟩ := bind_eq_ok_iff.mp hread
    cases hread
    obtain ⟨hvalue, rfl⟩ := readWord_eq_ok_iff.mp hword
    rw [UInt32.toNat_ofNat_of_lt' hvalue]
  · rintro rfl
    refine bind_eq_ok_iff.mpr
      ⟨(value.toNat, rest), readWord_eq_ok_iff.mpr ⟨value.toNat_lt, rfl⟩, ?_⟩
    show Except.ok (UInt32.ofNat value.toNat, rest) = .ok (value, rest)
    rw [UInt32.ofNat_toNat]

theorem readI32_eq_ok_iff {value : Int} {unread rest : List UInt8} :
    readI32 unread = .ok (value, rest) ↔
      ∃ word : UInt32, word.toBitVec.toInt = value ∧ unread = beBytes 4 word.toNat ++ rest := by
  unfold readI32
  constructor
  · intro hread
    obtain ⟨⟨word, behind⟩, hword, hread⟩ := bind_eq_ok_iff.mp hread
    cases hread
    exact ⟨word, rfl, readU32_eq_ok_iff.mp hword⟩
  · rintro ⟨word, rfl, hunread⟩
    exact bind_eq_ok_iff.mpr ⟨_, readU32_eq_ok_iff.mpr hunread, rfl⟩

theorem payloadLength_eq_some_iff {kind : LengthPrefix} {declared length : Nat} :
    payloadLength kind declared = some length ↔ declared = kind.declared length := by
  unfold payloadLength LengthPrefix.declared
  by_cases hinclusive : kind.includesPrefix = true
  · rw [if_pos hinclusive, if_pos hinclusive]
    split
    · constructor
      · intro hnone
        cases hnone
      · intro hdeclared
        omega
    · rw [Option.some_inj]
      omega
  · rw [if_neg hinclusive, if_neg hinclusive, Option.some_inj]

/-- A prefixed field is read exactly where its encoding stands, if it is within the
bound and its length fits the prefix. -/
theorem readPrefixedBytes_eq_ok_iff {kind : LengthPrefix} {maximum : Nat}
    {unread payload rest : List UInt8} :
    readPrefixedBytes kind maximum unread = .ok (payload, rest) ↔
      payload.length ≤ maximum ∧ kind.declared payload.length < 256 ^ kind.width ∧
        unread = kind.encode payload ++ rest := by
  unfold readPrefixedBytes
  constructor
  · intro hread
    obtain ⟨⟨declared, behind⟩, hdeclared, hread⟩ := bind_eq_ok_iff.mp hread
    obtain ⟨length, hlength, hread⟩ := bind_eq_ok_iff.mp hread
    obtain ⟨⟨⟩, hbound, hpayload⟩ := bind_eq_ok_iff.mp hread
    obtain ⟨hfits, rfl⟩ := readWord_eq_ok_iff.mp hdeclared
    obtain rfl := payloadLength_eq_some_iff.mp (okOr_eq_ok_iff.mp hlength)
    obtain ⟨rfl, rfl⟩ := readBytes_eq_ok_iff.mp hpayload
    refine ⟨Nat.not_lt.mp (rejectIf_eq_ok_iff.mp hbound), hfits, ?_⟩
    rw [LengthPrefix.encode, List.append_assoc]
  · rintro ⟨hbound, hfits, rfl⟩
    rw [LengthPrefix.encode, List.append_assoc]
    refine bind_eq_ok_iff.mpr ⟨_, readWord_eq_ok_iff.mpr ⟨hfits, rfl⟩, ?_⟩
    refine bind_eq_ok_iff.mpr
      ⟨payload.length, okOr_eq_ok_iff.mpr (payloadLength_eq_some_iff.mpr rfl), ?_⟩
    refine bind_eq_ok_iff.mpr ⟨(), rejectIf_eq_ok_iff.mpr (Nat.not_lt.mpr hbound), ?_⟩
    exact readBytes_eq_ok_iff.mpr ⟨rfl, rfl⟩

theorem finish_eq_ok_iff {unread : List UInt8} : finish unread = .ok () ↔ unread = [] := by
  rw [finish, rejectIf_eq_ok_iff, not_not]

end WireReader

end Wire
end Lirvena
