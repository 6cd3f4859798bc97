import Mathlib.Algebra.Group.Nat.Defs
import Mathlib.Data.List.Induction

/-!
# Byte strings

Big-endian words and fixed slices of byte strings.  `beBytes` and `beNat` are
inverse to each other on words that fit their width, and a slice of a
concatenation is a slice of the part it lies in; a fixed header is decoded by
these two facts.
-/

namespace Lirvena
namespace Lib

/-- The big-endian bytes of the low `width` bytes of a natural number. -/
def beBytes : Nat → Nat → List UInt8
  | 0, _ => []
  | width + 1, value => beBytes width (value / 256) ++ [UInt8.ofNat value]

/-- The number that a big-endian byte string denotes. -/
def beNat (bytes : List UInt8) : Nat :=
  bytes.foldl (fun value byte => value * 256 + byte.toNat) 0

/-- The bytes of an ASCII text. -/
def asciiBytes (text : String) : List UInt8 :=
  text.toList.map fun char => UInt8.ofNat char.toNat

@[simp] theorem beBytes_length (width value : Nat) :
    (beBytes width value).length = width := by
  induction width generalizing value with
  | zero => rfl
  | succ width ih => simp [beBytes, ih]

@[simp] theorem beNat_append_singleton (bytes : List UInt8) (byte : UInt8) :
    beNat (bytes ++ [byte]) = beNat bytes * 256 + byte.toNat := by
  simp [beNat]

theorem beNat_beBytes (width value : Nat) :
    beNat (beBytes width value) = value % 256 ^ width := by
  induction width generalizing value with
  | zero => simp [beBytes, beNat, Nat.mod_one]
  | succ width ih =>
      have hlow : (UInt8.ofNat value).toNat = value % 256 := UInt8.toNat_ofNat'
      rw [beBytes, beNat_append_singleton, ih, hlow, Nat.pow_succ, Nat.mul_comm (256 ^ width),
        Nat.mod_mul, Nat.mul_comm, Nat.add_comm]

theorem beNat_beBytes_of_lt {width value : Nat} (hvalue : value < 256 ^ width) :
    beNat (beBytes width value) = value := by
  rw [beNat_beBytes, Nat.mod_eq_of_lt hvalue]

theorem beNat_lt (bytes : List UInt8) : beNat bytes < 256 ^ bytes.length := by
  induction bytes using List.reverseRecOn with
  | nil => simp [beNat]
  | append_singleton bytes byte ih =>
      have hbyte := byte.toNat_lt
      rw [beNat_append_singleton, List.length_append, List.length_singleton, Nat.pow_succ]
      omega

theorem beBytes_beNat (bytes : List UInt8) :
    beBytes bytes.length (beNat bytes) = bytes := by
  induction bytes using List.reverseRecOn with
  | nil => rfl
  | append_singleton bytes byte ih =>
      have hbyte := byte.toNat_lt
      have hdiv : (beNat bytes * 256 + byte.toNat) / 256 = beNat bytes := by omega
      have hlow : UInt8.ofNat (beNat bytes * 256 + byte.toNat) = byte := by
        apply UInt8.toNat_inj.mp
        rw [UInt8.toNat_ofNat']
        omega
      rw [List.length_append, List.length_singleton, beBytes, beNat_append_singleton,
        hdiv, hlow, ih]

/-- A word of `high + low` bytes is its high word followed by its low word. -/
theorem beBytes_add (high low value : Nat) :
    beBytes (high + low) value = beBytes high (value / 256 ^ low) ++ beBytes low value := by
  induction low generalizing value with
  | zero => simp [beBytes]
  | succ low ih =>
      have hpow : value / 256 / 256 ^ low = value / 256 ^ (low + 1) := by
        rw [Nat.div_div_eq_div_mul, Nat.pow_succ, Nat.mul_comm]
      rw [← Nat.add_assoc, beBytes, ih, hpow, beBytes, List.append_assoc]

/-! ## Two's complement -/

/-- The numbers that a signed word of so many bytes holds. -/
def FitsSigned (width : Nat) (value : Int) : Prop :=
  -(256 ^ width : Nat) ≤ 2 * value ∧ 2 * value < (256 ^ width : Nat)

/-- The big-endian bytes of a signed number. -/
def signedBytes (width : Nat) (value : Int) : List UInt8 :=
  beBytes width (value % (256 ^ width : Nat)).toNat

/-- The signed number that a big-endian byte string denotes. -/
def beInt (bytes : List UInt8) : Int :=
  if 2 * beNat bytes < 256 ^ bytes.length then beNat bytes
  else beNat bytes - (256 ^ bytes.length : Nat)

@[simp] theorem signedBytes_length (width : Nat) (value : Int) :
    (signedBytes width value).length = width :=
  beBytes_length width _

theorem beInt_signedBytes {width : Nat} {value : Int} (hfits : FitsSigned width value) :
    beInt (signedBytes width value) = value := by
  obtain ⟨hlow, hhigh⟩ := hfits
  have hpos : 0 < 256 ^ width := Nat.pow_pos (by decide)
  have hword : beNat (signedBytes width value) = (value % (256 ^ width : Nat)).toNat := by
    refine beNat_beBytes_of_lt ?_
    have hmod := Int.emod_lt_of_pos value (Int.natCast_pos.mpr hpos)
    omega
  rw [beInt, hword, signedBytes_length]
  generalize 256 ^ width = bound at *
  rcases Int.lt_or_le value 0 with hnegative | hnonneg
  · have hmod : value % (bound : Int) = value + bound := by
      rw [← Int.add_emod_right, Int.emod_eq_of_lt (by omega) (by omega)]
    rw [hmod, if_neg (by omega)]
    omega
  · have hmod : value % (bound : Int) = value := Int.emod_eq_of_lt hnonneg (by omega)
    rw [hmod, if_pos (by omega)]
    omega

/-- The slice `bytes[low..high]`. -/
def slice (bytes : List UInt8) (low high : Nat) : List UInt8 :=
  (bytes.drop low).take (high - low)

theorem slice_length {bytes : List UInt8} {low high : Nat} (hhigh : high ≤ bytes.length) :
    (slice bytes low high).length = high - low := by
  simp only [slice, List.length_take, List.length_drop]
  omega

/-- A slice is the word of its width that it denotes. -/
theorem slice_eq_beBytes {bytes : List UInt8} {low high value : Nat}
    (hhigh : high ≤ bytes.length) (hvalue : beNat (slice bytes low high) = value) :
    slice bytes low high = beBytes (high - low) value := by
  rw [← hvalue, ← slice_length hhigh, beBytes_beNat]

theorem slice_append_drop (bytes : List UInt8) {low high : Nat} (hle : low ≤ high) :
    slice bytes low high ++ bytes.drop high = bytes.drop low := by
  have hdrop : bytes.drop high = (bytes.drop low).drop (high - low) := by
    rw [List.drop_drop, Nat.add_sub_cancel' hle]
  rw [slice, hdrop, List.take_append_drop]

theorem slice_append_right {first second : List UInt8} {low high : Nat}
    (hlow : first.length ≤ low) :
    slice (first ++ second) low high =
      slice second (low - first.length) (high - first.length) := by
  have hwidth : high - first.length - (low - first.length) = high - low := by omega
  simp only [slice, List.drop_append, List.drop_eq_nil_of_le hlow, List.nil_append, hwidth]

theorem slice_append_left {first second : List UInt8} {high : Nat}
    (hhigh : high = first.length) : slice (first ++ second) 0 high = first := by
  simp [slice, hhigh]

/-- A front of at most so many bytes and what is behind it. -/
theorem take_append_drop_taken (count : Nat) (bytes : List UInt8) :
    bytes.take count ++ bytes.drop (bytes.take count).length = bytes := by
  rcases Nat.le_total count bytes.length with hle | hle
  · rw [List.length_take, Nat.min_eq_left hle, List.take_append_drop]
  · rw [List.take_of_length_le hle, List.drop_length, List.append_nil]

/-- Bytes written into a buffer from an offset on. -/
def writeAt (buffer : List UInt8) (offset : Nat) (bytes : List UInt8) : List UInt8 :=
  buffer.take offset ++ bytes ++ buffer.drop (offset + bytes.length)

theorem writeAt_length {buffer bytes : List UInt8} {offset : Nat}
    (hfits : offset + bytes.length ≤ buffer.length) :
    (writeAt buffer offset bytes).length = buffer.length := by
  simp only [writeAt, List.length_append, List.length_take, List.length_drop]
  omega

theorem take_writeAt {buffer bytes : List UInt8} {offset : Nat}
    (hoffset : offset ≤ buffer.length) :
    (writeAt buffer offset bytes).take (offset + bytes.length) =
      buffer.take offset ++ bytes := by
  have hlength : (buffer.take offset ++ bytes).length = offset + bytes.length := by
    rw [List.length_append, List.length_take, Nat.min_eq_left hoffset]
  rw [writeAt, ← hlength, List.take_left]

/-- The byte at an index inside the string. -/
def byteAt (bytes : List UInt8) (index : Nat) : UInt8 :=
  bytes.getD index 0

theorem slice_eq_byteAt {bytes : List UInt8} {index : Nat} (hindex : index < bytes.length) :
    slice bytes index (index + 1) = [byteAt bytes index] := by
  have hcons : bytes.drop index = bytes[index] :: bytes.drop (index + 1) :=
    List.drop_eq_getElem_cons hindex
  have hbyte : byteAt bytes index = bytes[index] := by simp [byteAt, hindex]
  rw [slice, Nat.add_sub_cancel_left, hcons, hbyte]
  rfl

/-- The first `count` bytes and the rest. -/
def splitFront (count : Nat) (bytes : List UInt8) : Option (List UInt8 × List UInt8) :=
  if bytes.length < count then none else some (bytes.take count, bytes.drop count)

theorem splitFront_append {first : List UInt8} {count : Nat} (second : List UInt8)
    (hcount : first.length = count) :
    splitFront count (first ++ second) = some (first, second) := by
  simp [splitFront, ← hcount]

theorem splitFront_eq_some_iff {count : Nat} {bytes front rest : List UInt8} :
    splitFront count bytes = some (front, rest) ↔
      bytes = front ++ rest ∧ front.length = count := by
  constructor
  · intro hsplit
    unfold splitFront at hsplit
    split at hsplit
    · cases hsplit
    · next hcount =>
        cases hsplit
        refine ⟨(List.take_append_drop count bytes).symm, ?_⟩
        rw [List.length_take]
        omega
  · rintro ⟨rfl, hlength⟩
    exact splitFront_append rest hlength

end Lib
end Lirvena
