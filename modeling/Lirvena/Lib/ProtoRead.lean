import Lirvena.Lib.Proto3
import Lirvena.Lib.Text

/-!
# Reading the fields of a proto3 message

A reader takes the values under a field number, in their order, and refuses a
message that has one of another wire type there.  The last value of a singular
field counts, a singular field that is missing has its default, and fields under
other numbers are skipped.

A message whose encoding is short enough fits the wire format, so that a reader is
given the fields that were written.
-/

namespace Lirvena
namespace Lib
namespace Protobuf

/-! ## Values -/

def WireValue.asVarint : WireValue → Option Nat
  | .varint value => some value
  | _ => none

def WireValue.asBytes : WireValue → Option (List UInt8)
  | .lengthDelimited bytes => some bytes
  | _ => none

/-- A string is a length-delimited value in UTF-8. -/
def WireValue.asString (value : WireValue) : Option String :=
  value.asBytes.bind fromUtf8

/-- The low 32 bits of a varint. -/
def WireValue.asUInt32 (value : WireValue) : Option Nat :=
  value.asVarint.map (· % 4294967296)

/-- The low 32 bits of a varint, in two's complement. -/
def WireValue.asInt32 (value : WireValue) : Option Int :=
  value.asUInt32.map fun low : Nat =>
    if low < 2147483648 then (low : Int) else (low : Int) - 4294967296

/-- An `int32` is written as a varint of 64 bits. -/
def int32Value (value : Int) : WireValue :=
  .varint (value % (u64Bound : Int)).toNat

def stringValue (text : String) : WireValue :=
  .lengthDelimited (utf8Bytes text)

/-- A number that an `int32` holds. -/
def FitsInt32 (value : Int) : Prop :=
  -2147483648 ≤ value ∧ value < 2147483648

@[simp] theorem asBytes_lengthDelimited (bytes : List UInt8) :
    (WireValue.lengthDelimited bytes).asBytes = some bytes := rfl

@[simp] theorem asString_stringValue (text : String) : (stringValue text).asString = some text :=
  fromUtf8_eq_some_iff.mpr rfl

@[simp] theorem asUInt32_varint {value : Nat} (hvalue : value < 4294967296) :
    (WireValue.varint value).asUInt32 = some value :=
  congrArg some (Nat.mod_eq_of_lt hvalue)

theorem asInt32_int32Value {value : Int} (hfits : FitsInt32 value) :
    (int32Value value).asInt32 = some value := by
  obtain ⟨hlow, hhigh⟩ := hfits
  have hbound : (u64Bound : Int) = 18446744073709551616 := by decide
  have hcases : ∀ low : Nat, low = (value % (u64Bound : Int)).toNat % 4294967296 →
      (if low < 2147483648 then (low : Int) else (low : Int) - 4294967296) = value := by
    intro low hlow
    rw [hbound] at hlow
    split <;> omega
  rw [int32Value, WireValue.asInt32, WireValue.asUInt32, WireValue.asVarint, Option.map_some,
    Option.map_some, hcases _ rfl]

/-! ## Fields -/

def valuesOf (number : Nat) (fields : List Field) : List WireValue :=
  fields.filterMap fun field => if field.number = number then some field.value else none

@[simp] theorem valuesOf_nil (number : Nat) : valuesOf number [] = [] := rfl

@[simp] theorem valuesOf_cons (number : Nat) (field : Field) (rest : List Field) :
    valuesOf number (field :: rest) =
      if field.number = number then field.value :: valuesOf number rest
      else valuesOf number rest := by
  unfold valuesOf
  rw [List.filterMap_cons]
  split <;> simp_all

@[simp] theorem valuesOf_append (number : Nat) (first second : List Field) :
    valuesOf number (first ++ second) = valuesOf number first ++ valuesOf number second :=
  List.filterMap_append

section Readers

variable {α : Type*} (read : WireValue → Option α)

def repeatedField (number : Nat) (fields : List Field) : Option (List α) :=
  (valuesOf number fields).mapM read

def optionalField (number : Nat) (fields : List Field) : Option (Option α) :=
  (repeatedField read number fields).map List.getLast?

def singularField (default : α) (number : Nat) (fields : List Field) : Option α :=
  (optionalField read number fields).map (Option.getD · default)

variable {read}

theorem optionalField_none {number : Nat} {fields : List Field}
    (hvalues : valuesOf number fields = []) : optionalField read number fields = some none := by
  simp [optionalField, repeatedField, hvalues]

theorem optionalField_some {number : Nat} {fields : List Field} {value : WireValue} {content : α}
    (hvalues : valuesOf number fields = [value]) (hread : read value = some content) :
    optionalField read number fields = some (some content) := by
  simp [optionalField, repeatedField, hvalues, hread]

theorem singularField_none {default : α} {number : Nat} {fields : List Field}
    (hvalues : valuesOf number fields = []) :
    singularField read default number fields = some default := by
  rw [singularField, optionalField_none hvalues]
  rfl

theorem singularField_some {default : α} {number : Nat} {fields : List Field} {value : WireValue}
    {content : α} (hvalues : valuesOf number fields = [value]) (hread : read value = some content) :
    singularField read default number fields = some content := by
  rw [singularField, optionalField_some hvalues hread]
  rfl

end Readers

theorem repeatedField_bytes {number : Nat} {fields : List Field} {items : List (List UInt8)}
    (hvalues : valuesOf number fields = items.map WireValue.lengthDelimited) :
    repeatedField WireValue.asBytes number fields = some items := by
  rw [repeatedField, hvalues]
  clear hvalues
  induction items with
  | nil => rfl
  | cons item rest ih =>
      rw [List.map_cons, List.mapM_cons, ih]
      rfl

/-! ## Fields that are not written with their default -/

section Defaults

variable {number other : Nat}

@[simp] theorem valuesOf_varintField_ne (value : Nat) (hother : other ≠ number) :
    valuesOf number (varintField other value) = [] := by
  unfold varintField
  split <;> simp [hother]

@[simp] theorem valuesOf_enumField_ne (value : Int) (hother : other ≠ number) :
    valuesOf number (enumField other value) = [] :=
  valuesOf_varintField_ne _ hother

@[simp] theorem valuesOf_bytesField_ne (bytes : List UInt8) (hother : other ≠ number) :
    valuesOf number (bytesField other bytes) = [] := by
  unfold bytesField
  split <;> simp [hother]

variable {fields : List Field}

theorem singularField_uint32 {value : Nat} (hvalue : value < 4294967296)
    (hvalues : valuesOf number fields = valuesOf number (varintField number value)) :
    singularField WireValue.asUInt32 0 number fields = some value := by
  unfold varintField at hvalues
  split at hvalues
  · next hzero =>
      rw [hzero]
      exact singularField_none hvalues
  · have hwritten : valuesOf number fields = [.varint value] := by
      rw [hvalues, valuesOf_cons, if_pos rfl]
      rfl
    exact singularField_some hwritten (asUInt32_varint hvalue)

theorem singularField_int32 {value : Int} (hfits : FitsInt32 value)
    (hvalues : valuesOf number fields = valuesOf number (enumField number value)) :
    singularField WireValue.asInt32 0 number fields = some value := by
  unfold enumField varintField at hvalues
  split at hvalues
  · next hzero =>
      obtain ⟨hlow, hhigh⟩ := hfits
      have hbound : (u64Bound : Int) = 18446744073709551616 := by decide
      rw [hbound] at hzero
      have hvalue : value = 0 := by omega
      rw [hvalue]
      exact singularField_none hvalues
  · have hwritten : valuesOf number fields = [int32Value value] := by
      rw [hvalues, valuesOf_cons, if_pos rfl]
      rfl
    exact singularField_some hwritten (asInt32_int32Value hfits)

/-- A number that is not the default is there. -/
theorem optionalField_int32 {value : Int} (hfits : FitsInt32 value) (hvalue : value ≠ 0)
    (hvalues : valuesOf number fields = valuesOf number (enumField number value)) :
    optionalField WireValue.asInt32 number fields = some (some value) := by
  obtain ⟨hlow, hhigh⟩ := hfits
  have hbound : (u64Bound : Int) = 18446744073709551616 := by decide
  have hwritten : (value % (u64Bound : Int)).toNat ≠ 0 := by
    rw [hbound]
    omega
  rw [enumField, varintField, if_neg hwritten, valuesOf_cons, if_pos rfl] at hvalues
  exact optionalField_some hvalues (asInt32_int32Value ⟨hlow, hhigh⟩)

theorem singularField_bytes {bytes : List UInt8}
    (hvalues : valuesOf number fields = valuesOf number (bytesField number bytes)) :
    singularField WireValue.asBytes [] number fields = some bytes := by
  unfold bytesField at hvalues
  split at hvalues
  · next hempty =>
      rw [hempty]
      exact singularField_none hvalues
  · have hwritten : valuesOf number fields = [.lengthDelimited bytes] := by
      rw [hvalues, valuesOf_cons, if_pos rfl]
      rfl
    exact singularField_some hwritten rfl

theorem singularField_string {text : String}
    (hvalues : valuesOf number fields = valuesOf number (bytesField number (utf8Bytes text))) :
    singularField WireValue.asString "" number fields = some text := by
  unfold bytesField at hvalues
  split at hvalues
  · next hempty =>
      have htext : text = "" :=
        Option.some.inj
          ((fromUtf8_eq_some_iff.mpr hempty).symm.trans (fromUtf8_eq_some_iff.mpr rfl))
      rw [htext]
      exact singularField_none hvalues
  · have hwritten : valuesOf number fields = [stringValue text] := by
      rw [hvalues, valuesOf_cons, if_pos rfl]
      rfl
    exact singularField_some hwritten (asString_stringValue text)

end Defaults

/-! ## Written fields -/

/-- A field that can be written, whatever the length of its bytes. -/
def Field.Writable (field : Field) : Prop :=
  field.number < 2 ^ 61 ∧
    match field.value with
    | .varint value => value < 2 ^ 64
    | .fixed64 bytes => bytes.length = 8
    | .lengthDelimited _ => True
    | .fixed32 bytes => bytes.length = 4

def Writable (fields : List Field) : Prop :=
  ∀ field ∈ fields, field.Writable

section Written

variable {number : Nat} {first second : List Field}

theorem writable_nil : Writable [] :=
  fun _ hmem => absurd hmem List.not_mem_nil

theorem Writable.append (hfirst : Writable first) (hsecond : Writable second) :
    Writable (first ++ second) :=
  List.forall_mem_append.mpr ⟨hfirst, hsecond⟩

theorem Writable.cons {field : Field} (hfield : field.Writable) (hsecond : Writable second) :
    Writable (field :: second) :=
  List.forall_mem_cons.mpr ⟨hfield, hsecond⟩

theorem writable_varint {value : Nat} (hnumber : number < 2 ^ 61) (hvalue : value < 2 ^ 64) :
    Field.Writable ⟨number, .varint value⟩ :=
  ⟨hnumber, hvalue⟩

theorem writable_bytes (hnumber : number < 2 ^ 61) (bytes : List UInt8) :
    Field.Writable ⟨number, .lengthDelimited bytes⟩ :=
  ⟨hnumber, trivial⟩

theorem writable_int32 (hnumber : number < 2 ^ 61) (value : Int) :
    Field.Writable ⟨number, int32Value value⟩ := by
  have hbound : (u64Bound : Int) = 18446744073709551616 := by decide
  refine writable_varint hnumber ?_
  rw [hbound]
  omega

theorem writable_varintField {value : Nat} (hnumber : number < 2 ^ 61) (hvalue : value < 2 ^ 64) :
    Writable (varintField number value) := by
  unfold varintField
  split
  · exact writable_nil
  · exact writable_nil.cons (writable_varint hnumber hvalue)

theorem writable_enumField (hnumber : number < 2 ^ 61) (value : Int) :
    Writable (enumField number value) := by
  have hbound : (u64Bound : Int) = 18446744073709551616 := by decide
  refine writable_varintField hnumber ?_
  rw [hbound]
  omega

theorem writable_bytesField (hnumber : number < 2 ^ 61) (bytes : List UInt8) :
    Writable (bytesField number bytes) := by
  unfold bytesField
  split
  · exact writable_nil
  · exact writable_nil.cons (writable_bytes hnumber bytes)

theorem length_le_encodeMessage {bytes : List UInt8} {fields : List Field}
    (hmem : ⟨number, .lengthDelimited bytes⟩ ∈ fields) :
    bytes.length ≤ (encodeMessage fields).length := by
  have hfield : (Field.encode ⟨number, .lengthDelimited bytes⟩).length ≤
      (encodeMessage fields).length :=
    (List.sublist_flatten_of_mem (List.mem_map_of_mem hmem)).length_le
  rw [Field.encode, WireValue.encode, List.length_append, List.length_append] at hfield
  omega

/-- A message inside a message is no longer than it. -/
theorem messageField_length_lt (number : Nat) {inner fields : List Field}
    (hmem : messageField number inner ∈ fields)
    (hlength : (encodeMessage fields).length < u64Bound) :
    (encodeMessage inner).length < u64Bound :=
  Nat.lt_of_le_of_lt (length_le_encodeMessage hmem) hlength

/-- What is written is read, where the message is no longer than a length can say. -/
theorem messageReads_of_writable {fields : List Field} (hwritable : Writable fields)
    (hlength : (encodeMessage fields).length < u64Bound) :
    MessageReads (encodeMessage fields) fields := by
  refine messageReads_encodeMessage fun field hfield => ?_
  obtain ⟨hnumber, hvalue⟩ := hwritable field hfield
  obtain ⟨number, value⟩ := field
  refine ⟨hnumber, ?_⟩
  cases value with
  | varint value => exact hvalue
  | fixed64 bytes => exact hvalue
  | lengthDelimited bytes => exact Nat.lt_of_le_of_lt (length_le_encodeMessage hfield) hlength
  | fixed32 bytes => exact hvalue

/-- A decoder that reads the fields of a message. -/
def DecodesBy {α : Type*} (decode : List UInt8 → Option α) (read : List Field → Option α) : Prop :=
  ∀ bytes fields, MessageReads bytes fields → decode bytes = read fields

theorem DecodesBy.encodeMessage {α : Type*} {decode : List UInt8 → Option α}
    {read : List Field → Option α} (hdecode : DecodesBy decode read) {fields : List Field}
    (hwritable : Writable fields) (hlength : (encodeMessage fields).length < u64Bound) :
    decode (encodeMessage fields) = read fields :=
  hdecode _ _ (messageReads_of_writable hwritable hlength)

end Written

/-! ## Room -/

/-- Ten bytes for the key of a field, ten for its number or its length, and its bytes. -/
def Field.room (field : Field) : Nat :=
  match field.value with
  | .lengthDelimited bytes => 20 + bytes.length
  | _ => 20

def roomFor (fields : List Field) : Nat :=
  (fields.map Field.room).sum

@[simp] theorem roomFor_nil : roomFor [] = 0 := rfl

@[simp] theorem roomFor_cons (field : Field) (rest : List Field) :
    roomFor (field :: rest) = field.room + roomFor rest := by
  simp [roomFor]

@[simp] theorem roomFor_append (first second : List Field) :
    roomFor (first ++ second) = roomFor first + roomFor second := by
  simp [roomFor]

theorem roomFor_varintField_le (number value : Nat) : roomFor (varintField number value) ≤ 20 := by
  unfold varintField
  split <;> simp [Field.room]

theorem roomFor_enumField_le (number : Nat) (value : Int) : roomFor (enumField number value) ≤ 20 :=
  roomFor_varintField_le number _

theorem roomFor_bytesField_le (number : Nat) (bytes : List UInt8) :
    roomFor (bytesField number bytes) ≤ 20 + bytes.length := by
  unfold bytesField
  split <;> simp [Field.room]

theorem Field.encode_length_le {field : Field} (hwritable : field.Writable)
    (hroom : field.room < u64Bound) : field.encode.length ≤ field.room := by
  obtain ⟨number, value⟩ := field
  obtain ⟨hnumber, hvalue⟩ := hwritable
  have hnumber : number < 2 ^ 61 := hnumber
  have htype := value.wireType_lt
  have hkey : (encodeVarint (number * 8 + value.wireType)).length ≤ 10 :=
    encodeVarint_length_le (Nat.lt_trans (by omega) (by decide : 2 ^ 64 < 128 ^ (9 + 1)))
  rw [Field.encode, List.length_append]
  cases value with
  | varint value =>
      have hlength : (encodeVarint value).length ≤ 10 :=
        encodeVarint_length_le (Nat.lt_of_lt_of_le hvalue (by decide))
      simp only [WireValue.encode, Field.room]
      omega
  | fixed64 bytes =>
      have hlength : bytes.length = 8 := hvalue
      simp only [WireValue.encode, Field.room]
      omega
  | lengthDelimited bytes =>
      have hbytes : bytes.length < 2 ^ 64 := Nat.lt_of_le_of_lt (Nat.le_add_left _ 20) hroom
      have hlength : (encodeVarint bytes.length).length ≤ 10 :=
        encodeVarint_length_le (Nat.lt_of_lt_of_le hbytes (by decide))
      simp only [WireValue.encode, Field.room, List.length_append]
      omega
  | fixed32 bytes =>
      have hlength : bytes.length = 4 := hvalue
      simp only [WireValue.encode, Field.room]
      omega

/-- A message takes no more than the room for its fields. -/
theorem encodeMessage_length_le {fields : List Field} (hwritable : Writable fields)
    (hroom : roomFor fields < u64Bound) : (encodeMessage fields).length ≤ roomFor fields := by
  induction fields with
  | nil => exact Nat.le_refl _
  | cons field rest ih =>
      obtain ⟨hfield, hrest⟩ := List.forall_mem_cons.mp hwritable
      rw [roomFor_cons] at hroom ⊢
      have hfirst := Field.encode_length_le hfield (by omega)
      have hothers := ih hrest (by omega)
      rw [encodeMessage, List.flatMap_cons, List.length_append]
      exact Nat.add_le_add hfirst hothers

end Protobuf
end Lib
end Lirvena
