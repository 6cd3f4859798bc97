import Lirvena.Lib.Grammar
import Mathlib.Algebra.Order.Group.Nat

/-!
# The protobuf wire format

A message is a string of fields.  A field is a key, a base-128 varint of the
field number and the wire type, followed by a value of that wire type: a varint,
a fixed number of bytes, or a length and so many bytes.  Groups are not covered.

A varint may be longer than its value needs, so a message has many encodings;
`messageReads_unique` says that a string still has one reading at most, and
`Field.encode` is the shortest encoding of a field.
-/

namespace Lirvena
namespace Lib
namespace Protobuf

/-! ## Varints -/

/-- Seven bits in each byte, the low ones first; every byte but the last has its
high bit set. -/
inductive IsVarint : List UInt8 → Nat → Prop where
  | last {byte : UInt8} (hbyte : byte.toNat < 128) : IsVarint [byte] byte.toNat
  | more {byte : UInt8} {bytes : List UInt8} {high : Nat} (hbyte : 128 ≤ byte.toNat)
      (hhigh : IsVarint bytes high) :
      IsVarint (byte :: bytes) (byte.toNat % 128 + 128 * high)

/-- A varint of at most ten bytes with a value of 64 bits. -/
structure Varint64 (bytes : List UInt8) (value : Nat) : Prop where
  isVarint : IsVarint bytes value
  length_le : bytes.length ≤ 10
  value_lt : value < 2 ^ 64

theorem IsVarint.ne_nil {bytes : List UInt8} {value : Nat} (hvarint : IsVarint bytes value) :
    bytes ≠ [] := by
  cases hvarint <;> exact List.cons_ne_nil _ _

theorem isVarint_prefixFree : PrefixFree IsVarint := by
  intro first second rest tail value other hfirst hsecond heq
  induction hfirst generalizing second other with
  | last hbyte =>
      cases hsecond with
      | last hother =>
          obtain ⟨rfl, -⟩ := List.cons.inj heq
          exact ⟨rfl, rfl⟩
      | more hother hhigh =>
          obtain ⟨rfl, -⟩ := List.cons.inj heq
          exact absurd hbyte (Nat.not_lt_of_le hother)
  | more hbyte hhigh ih =>
      cases hsecond with
      | last hother =>
          obtain ⟨rfl, -⟩ := List.cons.inj heq
          exact absurd hother (Nat.not_lt_of_le hbyte)
      | more hother hlast =>
          obtain ⟨rfl, htail⟩ := List.cons.inj heq
          obtain ⟨rfl, rfl⟩ := ih hlast htail
          exact ⟨rfl, rfl⟩

theorem varint64_prefixFree : PrefixFree Varint64 := by
  intro first second rest tail value other hfirst hsecond heq
  exact isVarint_prefixFree hfirst.isVarint hsecond.isVarint heq

/-- The shortest varint of a number. -/
def encodeVarint (value : Nat) : List UInt8 :=
  if value < 128 then [UInt8.ofNat value]
  else UInt8.ofNat (value % 128 + 128) :: encodeVarint (value / 128)

theorem isVarint_encodeVarint (value : Nat) : IsVarint (encodeVarint value) value := by
  induction value using encodeVarint.induct with
  | case1 value hvalue =>
      have hbyte : (UInt8.ofNat value).toNat = value := by
        rw [UInt8.toNat_ofNat']
        omega
      have hlast : IsVarint [UInt8.ofNat value] (UInt8.ofNat value).toNat :=
        .last (by omega)
      rw [encodeVarint, if_pos hvalue]
      rw [hbyte] at hlast
      exact hlast
  | case2 value hvalue ih =>
      have hbyte : (UInt8.ofNat (value % 128 + 128)).toNat = value % 128 + 128 := by
        rw [UInt8.toNat_ofNat']
        omega
      have hmore : IsVarint (UInt8.ofNat (value % 128 + 128) :: encodeVarint (value / 128))
          ((UInt8.ofNat (value % 128 + 128)).toNat % 128 + 128 * (value / 128)) :=
        .more (by omega) ih
      have hvalue' : (value % 128 + 128) % 128 + 128 * (value / 128) = value := by omega
      rw [encodeVarint, if_neg hvalue]
      rw [hbyte, hvalue'] at hmore
      exact hmore

theorem encodeVarint_length_le {count value : Nat} (hvalue : value < 128 ^ (count + 1)) :
    (encodeVarint value).length ≤ count + 1 := by
  induction count generalizing value with
  | zero =>
      have hsmall : value < 128 := by simpa using hvalue
      rw [encodeVarint, if_pos hsmall]
      exact Nat.le_refl _
  | succ count ih =>
      rw [encodeVarint]
      split
      · exact Nat.succ_le_succ (Nat.zero_le _)
      · have hhigh : value / 128 < 128 ^ (count + 1) := by
          rw [Nat.div_lt_iff_lt_mul (by decide)]
          rwa [Nat.pow_succ] at hvalue
        exact Nat.succ_le_succ (ih hhigh)

theorem varint64_encodeVarint {value : Nat} (hvalue : value < 2 ^ 64) :
    Varint64 (encodeVarint value) value where
  isVarint := isVarint_encodeVarint value
  length_le := encodeVarint_length_le (lt_of_lt_of_le hvalue (by decide))
  value_lt := hvalue

/-! ## Fields -/

inductive WireValue where
  | varint (value : Nat)
  | fixed64 (bytes : List UInt8)
  | lengthDelimited (bytes : List UInt8)
  | fixed32 (bytes : List UInt8)
  deriving DecidableEq

def WireValue.wireType : WireValue → Nat
  | .varint _ => 0
  | .fixed64 _ => 1
  | .lengthDelimited _ => 2
  | .fixed32 _ => 5

structure Field where
  number : Nat
  value : WireValue
  deriving DecidableEq

/-- The value of a wire type. -/
inductive ValueReads : Nat → List UInt8 → WireValue → Prop where
  | varint {bytes : List UInt8} {value : Nat} (hvalue : Varint64 bytes value) :
      ValueReads 0 bytes (.varint value)
  | fixed64 {bytes : List UInt8} (hlength : bytes.length = 8) :
      ValueReads 1 bytes (.fixed64 bytes)
  | lengthDelimited {head bytes : List UInt8} (hlength : Varint64 head bytes.length) :
      ValueReads 2 (head ++ bytes) (.lengthDelimited bytes)
  | fixed32 {bytes : List UInt8} (hlength : bytes.length = 4) :
      ValueReads 5 bytes (.fixed32 bytes)

/-- A key of a field number and a wire type, and a value of that type. -/
def FieldReads (bytes : List UInt8) (field : Field) : Prop :=
  ∃ pair : Nat × WireValue, Then Varint64 (fun key => ValueReads (key % 8)) bytes pair ∧
    Field.mk (pair.1 / 8) pair.2 = field

/-- The fields of a message. -/
def MessageReads : List UInt8 → List Field → Prop :=
  Many FieldReads

theorem ValueReads.wireType_eq {wireType : Nat} {bytes : List UInt8} {value : WireValue}
    (hvalue : ValueReads wireType bytes value) : wireType = value.wireType := by
  cases hvalue <;> rfl

theorem valueReads_prefixFree (wireType : Nat) : PrefixFree (ValueReads wireType) := by
  intro first second rest tail value other hfirst hsecond heq
  cases hfirst with
  | varint hvalue =>
      cases hsecond with
      | varint hother =>
          obtain ⟨rfl, rfl⟩ := varint64_prefixFree hvalue hother heq
          exact ⟨rfl, rfl⟩
  | fixed64 hlength =>
      cases hsecond with
      | fixed64 hother =>
          obtain ⟨rfl, -⟩ := List.append_inj heq (hlength.trans hother.symm)
          exact ⟨rfl, rfl⟩
  | lengthDelimited hlength =>
      cases hsecond with
      | lengthDelimited hother =>
          rw [List.append_assoc, List.append_assoc] at heq
          -- The two lengths are the same varint, and they fix where the payload ends.
          obtain ⟨rfl, hsame⟩ := varint64_prefixFree hlength hother heq
          obtain ⟨rfl, -⟩ := List.append_inj (List.append_cancel_left heq) hsame
          exact ⟨rfl, rfl⟩
  | fixed32 hlength =>
      cases hsecond with
      | fixed32 hother =>
          obtain ⟨rfl, -⟩ := List.append_inj heq (hlength.trans hother.symm)
          exact ⟨rfl, rfl⟩

theorem fieldReads_prefixFree : PrefixFree FieldReads :=
  (varint64_prefixFree.andThen fun key => valueReads_prefixFree (key % 8)).image _

theorem FieldReads.ne_nil {bytes : List UInt8} {field : Field}
    (hfield : FieldReads bytes field) : bytes ≠ [] := by
  obtain ⟨pair, hpair, -⟩ := hfield
  cases hpair with
  | intro hkey hvalue =>
      intro hnil
      exact hkey.isVarint.ne_nil (List.append_eq_nil_iff.mp hnil).1

/-- A string is the encoding of one list of fields at most. -/
theorem messageReads_unique {bytes : List UInt8} {fields others : List Field}
    (hfields : MessageReads bytes fields) (hothers : MessageReads bytes others) :
    fields = others :=
  fieldReads_prefixFree.many_unique (fun _ hempty => hempty.ne_nil rfl) hfields hothers

/-! ## The shortest encoding -/

def WireValue.encode : WireValue → List UInt8
  | .varint value => encodeVarint value
  | .fixed64 bytes => bytes
  | .lengthDelimited bytes => encodeVarint bytes.length ++ bytes
  | .fixed32 bytes => bytes

/-- A value that its wire type can hold. -/
def WireValue.Fits : WireValue → Prop
  | .varint value => value < 2 ^ 64
  | .fixed64 bytes => bytes.length = 8
  | .lengthDelimited bytes => bytes.length < 2 ^ 64
  | .fixed32 bytes => bytes.length = 4

def Field.encode (field : Field) : List UInt8 :=
  encodeVarint (field.number * 8 + field.value.wireType) ++ field.value.encode

structure Field.Fits (field : Field) : Prop where
  number_lt : field.number < 2 ^ 61
  value : field.value.Fits

def encodeMessage (fields : List Field) : List UInt8 :=
  fields.flatMap Field.encode

theorem WireValue.wireType_lt (value : WireValue) : value.wireType < 8 := by
  cases value <;> simp [wireType]

theorem WireValue.Fits.reads {value : WireValue} (hfits : value.Fits) :
    ValueReads value.wireType value.encode value := by
  cases value with
  | varint value => exact .varint (varint64_encodeVarint hfits)
  | fixed64 bytes => exact .fixed64 hfits
  | lengthDelimited bytes => exact .lengthDelimited (varint64_encodeVarint hfits)
  | fixed32 bytes => exact .fixed32 hfits

theorem Field.Fits.reads {field : Field} (hfits : field.Fits) :
    FieldReads field.encode field := by
  have htype := field.value.wireType_lt
  have hnumber := hfits.number_lt
  have hkey : field.number * 8 + field.value.wireType < 2 ^ 64 := by omega
  have hmod : (field.number * 8 + field.value.wireType) % 8 = field.value.wireType := by omega
  have hdiv : (field.number * 8 + field.value.wireType) / 8 = field.number := by omega
  refine ⟨(_, field.value), .intro (varint64_encodeVarint hkey) ?_, ?_⟩
  · rw [hmod]
    exact hfits.value.reads
  · rw [hdiv]

theorem messageReads_encodeMessage {fields : List Field}
    (hfits : ∀ field ∈ fields, field.Fits) : MessageReads (encodeMessage fields) fields := by
  induction fields with
  | nil => exact .nil
  | cons field rest ih =>
      have hrest := ih fun other hother => hfits other (List.mem_cons_of_mem _ hother)
      exact .cons (hfits field List.mem_cons_self).reads hrest

end Protobuf
end Lib
end Lirvena
