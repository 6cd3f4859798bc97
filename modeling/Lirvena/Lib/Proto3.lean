import Lirvena.Lib.Protobuf
import Lirvena.Lib.Result

/-!
# Fields of a proto3 message

A singular field that holds its default is not written, the numbers of a repeated
field are packed into one string, and a message is written behind its length.  The
lengths below are those of the shortest encoding: the length of a message is the
sum over its fields, and every field is bounded by the bound of its value.
-/

namespace Lirvena
namespace Lib
namespace Protobuf

def varintField (number value : Nat) : List Field :=
  if value = 0 then [] else [⟨number, .varint value⟩]

def boolField (number : Nat) (value : Bool) : List Field :=
  varintField number value.toNat

/-- The discriminant of an enumeration, in two's complement of 64 bits. -/
def enumField (number : Nat) (value : Int) : List Field :=
  varintField number (value % (u64Bound : Int)).toNat

def bytesField (number : Nat) (bytes : List UInt8) : List Field :=
  if bytes = [] then [] else [⟨number, .lengthDelimited bytes⟩]

/-- A message inside a message is written even when it has no fields. -/
def messageField (number : Nat) (fields : List Field) : Field :=
  ⟨number, .lengthDelimited (encodeMessage fields)⟩

def packedField (number : Nat) (values : List Nat) : List Field :=
  bytesField number (values.flatMap encodeVarint)

/-- The length of the shortest encoding of a message. -/
def messageLen (fields : List Field) : Nat :=
  (encodeMessage fields).length

@[simp] theorem messageLen_nil : messageLen [] = 0 := rfl

@[simp] theorem messageLen_append (first second : List Field) :
    messageLen (first ++ second) = messageLen first + messageLen second := by
  simp [messageLen, encodeMessage]

theorem messageLen_cons (field : Field) (rest : List Field) :
    messageLen (field :: rest) = field.encode.length + messageLen rest := by
  simp [messageLen, encodeMessage]

/-! ## Lengths of varints -/

/-- A number of more than `count` groups of seven bits takes more than `count`
bytes. -/
theorem lt_encodeVarint_length {count value : Nat} (hvalue : 128 ^ count ≤ value) :
    count < (encodeVarint value).length := by
  induction count generalizing value with
  | zero =>
      have hpos := List.length_pos_iff.mpr (isVarint_encodeVarint value).ne_nil
      exact hpos
  | succ count ih =>
      have hlarge : ¬ value < 128 := by
        have hone : 1 ≤ 128 ^ count := Nat.one_le_two_pow.trans (Nat.pow_le_pow_left (by decide) _)
        rw [Nat.pow_succ] at hvalue
        omega
      have hhigh : 128 ^ count ≤ value / 128 := by
        rw [Nat.le_div_iff_mul_le (by decide)]
        rwa [Nat.pow_succ] at hvalue
      rw [encodeVarint, if_neg hlarge, List.length_cons]
      exact Nat.succ_lt_succ (ih hhigh)

theorem encodeVarint_length_eq {count value : Nat} (hlow : 128 ^ count ≤ value)
    (hhigh : value < 128 ^ (count + 1)) : (encodeVarint value).length = count + 1 :=
  Nat.le_antisymm (encodeVarint_length_le hhigh) (lt_encodeVarint_length hlow)

/-- The key of a field with a small number is one byte. -/
theorem key_length {number wireType : Nat} (hnumber : number < 16) (htype : wireType < 8) :
    (encodeVarint (number * 8 + wireType)).length = 1 := by
  have hsmall : number * 8 + wireType < 128 := by omega
  rw [encodeVarint, if_pos hsmall]
  rfl

/-! ## Lengths of fields -/

section Bounds

variable {number count limit : Nat}

theorem messageLen_varintField_le {value : Nat} (hnumber : number < 16)
    (hvalue : value < 128 ^ (count + 1)) :
    messageLen (varintField number value) ≤ count + 2 := by
  unfold varintField
  split
  · exact Nat.zero_le _
  · have hlength := encodeVarint_length_le hvalue
    rw [messageLen_cons, messageLen_nil, Field.encode, List.length_append]
    simp only [WireValue.wireType, WireValue.encode, key_length hnumber (by decide : 0 < 8)]
    omega

theorem messageLen_lengthDelimited_le {bytes : List UInt8} (hnumber : number < 16)
    (hlength : bytes.length ≤ limit) (hlimit : limit < 128 ^ (count + 1)) :
    messageLen [⟨number, .lengthDelimited bytes⟩] ≤ count + 2 + limit := by
  have hhead := encodeVarint_length_le (Nat.lt_of_le_of_lt hlength hlimit)
  rw [messageLen_cons, messageLen_nil, Field.encode, List.length_append]
  simp only [WireValue.wireType, WireValue.encode, List.length_append,
    key_length hnumber (by decide : 2 < 8)]
  omega

theorem messageLen_bytesField_le {bytes : List UInt8} (hnumber : number < 16)
    (hlength : bytes.length ≤ limit) (hlimit : limit < 128 ^ (count + 1)) :
    messageLen (bytesField number bytes) ≤ count + 2 + limit := by
  unfold bytesField
  split
  · exact Nat.zero_le _
  · exact messageLen_lengthDelimited_le hnumber hlength hlimit

theorem messageLen_messageField_le {fields : List Field} (hnumber : number < 16)
    (hlength : messageLen fields ≤ limit) (hlimit : limit < 128 ^ (count + 1)) :
    messageLen [messageField number fields] ≤ count + 2 + limit :=
  messageLen_lengthDelimited_le hnumber hlength hlimit

theorem flatMap_encodeVarint_length_le {width : Nat} {values : List Nat}
    (hvalues : ∀ value ∈ values, value < 128 ^ (width + 1)) :
    (values.flatMap encodeVarint).length ≤ (width + 1) * values.length := by
  induction values with
  | nil => exact Nat.zero_le _
  | cons value rest ih =>
      obtain ⟨hvalue, hrest⟩ := List.forall_mem_cons.mp hvalues
      have hfirst := encodeVarint_length_le hvalue
      have hothers := ih hrest
      rw [List.flatMap_cons, List.length_append, List.length_cons, Nat.mul_succ]
      omega

theorem messageLen_packedField_le {width : Nat} {values : List Nat} (hnumber : number < 16)
    (hvalues : ∀ value ∈ values, value < 128 ^ (width + 1))
    (hlength : (width + 1) * values.length ≤ limit) (hlimit : limit < 128 ^ (count + 1)) :
    messageLen (packedField number values) ≤ count + 2 + limit :=
  messageLen_bytesField_le hnumber
    (Nat.le_trans (flatMap_encodeVarint_length_le hvalues) hlength) hlimit

theorem messageLen_varintField_eq {value : Nat} (hnumber : number < 16)
    (hlow : 128 ^ count ≤ value) (hhigh : value < 128 ^ (count + 1)) :
    messageLen (varintField number value) = count + 2 := by
  have hpos : 0 < 128 ^ count := Nat.pow_pos (by decide)
  have hvalue : value ≠ 0 := by omega
  rw [varintField, if_neg hvalue, messageLen_cons, messageLen_nil, Field.encode,
    List.length_append]
  simp only [WireValue.wireType, WireValue.encode, key_length hnumber (by decide : 0 < 8),
    encodeVarint_length_eq hlow hhigh]
  omega

theorem messageLen_lengthDelimited_eq {bytes : List UInt8} (hnumber : number < 16)
    (hlow : 128 ^ count ≤ bytes.length) (hhigh : bytes.length < 128 ^ (count + 1)) :
    messageLen [⟨number, .lengthDelimited bytes⟩] = count + 2 + bytes.length := by
  rw [messageLen_cons, messageLen_nil, Field.encode, List.length_append]
  simp only [WireValue.wireType, WireValue.encode, List.length_append,
    key_length hnumber (by decide : 2 < 8), encodeVarint_length_eq hlow hhigh]
  omega

theorem messageLen_bytesField_eq {bytes : List UInt8} (hnumber : number < 16)
    (hlow : 128 ^ count ≤ bytes.length) (hhigh : bytes.length < 128 ^ (count + 1)) :
    messageLen (bytesField number bytes) = count + 2 + bytes.length := by
  have hpos : 0 < 128 ^ count := Nat.pow_pos (by decide)
  have hnil : bytes ≠ [] := by
    rintro rfl
    exact absurd hlow (Nat.not_le_of_lt hpos)
  rw [bytesField, if_neg hnil]
  exact messageLen_lengthDelimited_eq hnumber hlow hhigh

end Bounds

end Protobuf
end Lib
end Lirvena
