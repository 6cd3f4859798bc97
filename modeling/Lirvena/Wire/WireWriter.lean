import Lirvena.Wire.WireReader

/-!
# The bounded writer

Every write is checked against the bound of the writer before a byte is put, so a
sequence of writes puts all of its bytes or none that count.  What a sequence puts,
and when, is told by the concatenation of what its writes put.
-/

namespace Lirvena
namespace Wire

open Lib

/-- Bounded writer for big-endian values; the bound is a machine word. -/
@[ext] structure WireWriter where
  output : List UInt8
  maximum : Nat
  maximum_lt : maximum < u64Bound

namespace WireWriter

def new (maximum : Nat) (hmaximum : maximum < u64Bound) : WireWriter :=
  ⟨[], maximum, hmaximum⟩

def append (writer : WireWriter) (bytes : List UInt8) : WireWriter :=
  ⟨writer.output ++ bytes, writer.maximum, writer.maximum_lt⟩

/-- Writes raw bytes after checked growth. -/
def putBytes (bytes : List UInt8) (writer : WireWriter) : Except WireError WireWriter := do
  let length ← okOr .lengthOverflow (checkedAddU64 writer.output.length bytes.length)
  rejectIf (.lengthLimitExceeded writer.maximum length) (writer.maximum < length)
  return writer.append bytes

def putU8 (value : UInt8) (writer : WireWriter) : Except WireError WireWriter :=
  writer.putBytes [value]

def putU16 (value : UInt16) (writer : WireWriter) : Except WireError WireWriter :=
  writer.putBytes (beBytes 2 value.toNat)

def putU32 (value : UInt32) (writer : WireWriter) : Except WireError WireWriter :=
  writer.putBytes (beBytes 4 value.toNat)

def putU64 (value : UInt64) (writer : WireWriter) : Except WireError WireWriter :=
  writer.putBytes (beBytes 8 value.toNat)

/-- `checked_add` of the prefix to the payload, where the prefix counts itself. -/
def declaredLength (kind : LengthPrefix) (payloadLen : Nat) : Option Nat :=
  if kind.includesPrefix then checkedAddU64 payloadLen kind.width else some payloadLen

/-- Writes one bounded length-prefixed byte field. -/
def putPrefixedBytes (kind : LengthPrefix) (bytes : List UInt8) (writer : WireWriter) :
    Except WireError WireWriter := do
  let declared ← okOr .lengthOverflow (declaredLength kind bytes.length)
  rejectIf (.lengthLimitExceeded (256 ^ kind.width - 1) declared) (256 ^ kind.width ≤ declared)
  let writer ← writer.putBytes (beBytes kind.width declared)
  writer.putBytes bytes

/-! ## What a sequence of writes puts -/

/-- The step puts exactly these bytes, if they fit behind what the writer has. -/
def Puts (maximum : Nat) (step : WireWriter → Except WireError WireWriter)
    (bytes : List UInt8) : Prop :=
  ∀ writer next, writer.maximum = maximum →
    (step writer = .ok next ↔
      writer.output.length + bytes.length ≤ maximum ∧ next = writer.append bytes)

theorem append_append (writer : WireWriter) (first second : List UInt8) :
    (writer.append first).append second = writer.append (first ++ second) :=
  WireWriter.ext (List.append_assoc _ _ _) rfl

variable {maximum : Nat}

theorem puts_bytes (bytes : List UInt8) : Puts maximum (putBytes bytes) bytes := by
  rintro writer next rfl
  unfold putBytes
  constructor
  · intro hput
    obtain ⟨length, hlength, hput⟩ := bind_eq_ok_iff.mp hput
    obtain ⟨⟨⟩, hbound, hput⟩ := bind_eq_ok_iff.mp hput
    cases hput
    obtain ⟨-, rfl⟩ := checkedAddU64_eq_some_iff.mp (okOr_eq_ok_iff.mp hlength)
    exact ⟨Nat.not_lt.mp (rejectIf_eq_ok_iff.mp hbound), rfl⟩
  · rintro ⟨hfits, rfl⟩
    have hword := Nat.lt_of_le_of_lt hfits writer.maximum_lt
    refine bind_eq_ok_iff.mpr
      ⟨_, okOr_eq_ok_iff.mpr (checkedAddU64_eq_some_iff.mpr ⟨hword, rfl⟩), ?_⟩
    exact bind_eq_ok_iff.mpr ⟨(), rejectIf_eq_ok_iff.mpr (Nat.not_lt.mpr hfits), rfl⟩

theorem puts_u8 (value : UInt8) : Puts maximum (putU8 value) [value] :=
  puts_bytes [value]

theorem puts_u16 (value : UInt16) : Puts maximum (putU16 value) (beBytes 2 value.toNat) :=
  puts_bytes _

theorem puts_u32 (value : UInt32) : Puts maximum (putU32 value) (beBytes 4 value.toNat) :=
  puts_bytes _

theorem puts_u64 (value : UInt64) : Puts maximum (putU64 value) (beBytes 8 value.toNat) :=
  puts_bytes _

/-- Two steps one behind the other. -/
theorem Puts.andThen {first second : WireWriter → Except WireError WireWriter}
    {front back : List UInt8} (hfirst : Puts maximum first front)
    (hsecond : Puts maximum second back) :
    Puts maximum (fun writer => first writer >>= second) (front ++ back) := by
  intro writer next hmaximum
  show (first writer >>= second) = .ok next ↔ _
  rw [bind_eq_ok_iff, List.length_append]
  constructor
  · rintro ⟨between, hfront, hback⟩
    obtain ⟨-, rfl⟩ := (hfirst writer between hmaximum).mp hfront
    obtain ⟨hfits, rfl⟩ := (hsecond (writer.append front) next hmaximum).mp hback
    refine ⟨?_, append_append writer front back⟩
    rw [append, List.length_append, Nat.add_assoc] at hfits
    exact hfits
  · rintro ⟨hfits, rfl⟩
    refine ⟨writer.append front, (hfirst writer _ hmaximum).mpr ⟨by omega, rfl⟩, ?_⟩
    refine (hsecond (writer.append front) _ hmaximum).mpr
      ⟨?_, (append_append writer front back).symm⟩
    rw [append, List.length_append]
    omega

theorem declaredLength_eq_some {kind : LengthPrefix} {payloadLen declared : Nat}
    (hdeclared : declaredLength kind payloadLen = some declared) :
    declared = kind.declared payloadLen := by
  unfold declaredLength at hdeclared
  unfold LengthPrefix.declared
  by_cases hinclusive : kind.includesPrefix = true
  · rw [if_pos hinclusive] at hdeclared ⊢
    exact (checkedAddU64_eq_some_iff.mp hdeclared).2
  · rw [if_neg hinclusive] at hdeclared ⊢
    exact (Option.some.inj hdeclared).symm

theorem declaredLength_of_lt {kind : LengthPrefix} {payloadLen : Nat}
    (hword : kind.declared payloadLen < u64Bound) :
    declaredLength kind payloadLen = some (kind.declared payloadLen) := by
  unfold declaredLength
  unfold LengthPrefix.declared at hword ⊢
  by_cases hinclusive : kind.includesPrefix = true
  · rw [if_pos hinclusive] at hword ⊢
    rw [if_pos hinclusive]
    exact checkedAddU64_eq_some_iff.mpr ⟨hword, rfl⟩
  · rw [if_neg hinclusive, if_neg hinclusive]

/-- A field is put whole or not at all: its length has to fit the prefix, and its
encoding the writer. -/
theorem putPrefixedBytes_eq_ok_iff {kind : LengthPrefix} {bytes : List UInt8}
    {writer next : WireWriter} :
    writer.putPrefixedBytes kind bytes = .ok next ↔
      kind.declared bytes.length < 256 ^ kind.width ∧
        writer.output.length + (kind.encode bytes).length ≤ writer.maximum ∧
          next = writer.append (kind.encode bytes) := by
  have hword := writer.maximum_lt
  have hlengthBytes : Puts writer.maximum
      (putBytes (beBytes kind.width (kind.declared bytes.length))) _ := puts_bytes _
  have hputs := hlengthBytes.andThen (puts_bytes bytes) writer next rfl
  unfold putPrefixedBytes
  constructor
  · intro hput
    obtain ⟨declared, hdeclared, hput⟩ := bind_eq_ok_iff.mp hput
    obtain ⟨⟨⟩, hfits, hbytes⟩ := bind_eq_ok_iff.mp hput
    obtain rfl := declaredLength_eq_some (okOr_eq_ok_iff.mp hdeclared)
    exact ⟨Nat.not_le.mp (rejectIf_eq_ok_iff.mp hfits), hputs.mp hbytes⟩
  · rintro ⟨hfits, hroom, rfl⟩
    -- A field that fits the writer has a length that the checked sum can hold.
    have hlength : kind.declared bytes.length ≤ kind.width + bytes.length := by
      unfold LengthPrefix.declared
      split <;> omega
    rw [LengthPrefix.encode_length] at hroom
    refine bind_eq_ok_iff.mpr
      ⟨_, okOr_eq_ok_iff.mpr (declaredLength_of_lt (by omega)), ?_⟩
    refine bind_eq_ok_iff.mpr ⟨(), rejectIf_eq_ok_iff.mpr (Nat.not_le.mpr hfits), ?_⟩
    refine hputs.mpr ⟨?_, rfl⟩
    rw [List.length_append, beBytes_length]
    exact hroom

/-- Where all that the writer can hold fits the prefix, only the writer decides. -/
theorem puts_prefixed {kind : LengthPrefix} (bytes : List UInt8)
    (hfits : kind.width + bytes.length ≤ maximum →
      kind.declared bytes.length < 256 ^ kind.width) :
    Puts maximum (putPrefixedBytes kind bytes) (kind.encode bytes) := by
  rintro writer next rfl
  rw [putPrefixedBytes_eq_ok_iff]
  constructor
  · exact And.right
  · rintro ⟨hroom, hnext⟩
    have hlength : (kind.encode bytes).length = kind.width + bytes.length :=
      LengthPrefix.encode_length kind bytes
    exact ⟨hfits (by omega), hroom, hnext⟩

/-- What an empty writer holds after a sequence of writes. -/
theorem Puts.new_eq_ok_iff {step : WireWriter → Except WireError WireWriter}
    {bytes : List UInt8} (hputs : Puts maximum step bytes) {hmaximum : maximum < u64Bound}
    {next : WireWriter} :
    step (new maximum hmaximum) = .ok next ↔
      bytes.length ≤ maximum ∧ next = ⟨bytes, maximum, hmaximum⟩ := by
  rw [hputs (new maximum hmaximum) next rfl]
  show 0 + bytes.length ≤ maximum ∧ next = ⟨[] ++ bytes, maximum, hmaximum⟩ ↔ _
  rw [Nat.zero_add, List.nil_append]

end WireWriter

end Wire
end Lirvena
