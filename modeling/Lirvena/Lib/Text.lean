import Mathlib.Algebra.Group.Nat.Defs
import Mathlib.Data.List.Basic

/-!
# Bounded text

The checks that validators make on remote text.  The length of a string is the
length of its UTF-8 encoding.
-/

namespace Lirvena
namespace Lib

/-- The members of a list are looked at one by one, also where the type could be gone
through instead. -/
instance (priority := high) decidableForallMem {α : Type} (holds : α → Prop)
    [DecidablePred holds] (items : List α) : Decidable (∀ item ∈ items, holds item) :=
  List.decidableBAll holds items

/-- `char::is_control`: the Unicode category `Cc`. -/
def isControl (char : Char) : Bool :=
  char.toNat ≤ 0x1f || (0x7f ≤ char.toNat && char.toNat ≤ 0x9f)

def hasControl (text : String) : Bool :=
  text.toList.any isControl

def containsNul (text : String) : Bool :=
  text.toList.any (fun char => char.toNat == 0)

/-- A non-empty string without control characters and at most the given length. -/
def boundedUid (maximum : Nat) (uid : String) : Bool :=
  uid ≠ "" && uid.utf8ByteSize ≤ maximum && !hasControl uid

/-- `char::is_whitespace`: the Unicode property `White_Space`. -/
def isWhitespace (char : Char) : Bool :=
  (0x09 ≤ char.toNat && char.toNat ≤ 0x0d) || char.toNat == 0x20 || char.toNat == 0x85 ||
    char.toNat == 0xa0 || char.toNat == 0x1680 ||
    (0x2000 ≤ char.toNat && char.toNat ≤ 0x200a) || char.toNat == 0x2028 ||
    char.toNat == 0x2029 || char.toNat == 0x202f || char.toNat == 0x205f ||
    char.toNat == 0x3000

def lowerHexDigit (value : Nat) : Char :=
  if value < 10 then Char.ofNat (0x30 + value) else Char.ofNat (0x57 + value)

def upperHexDigit (value : Nat) : Char :=
  if value < 10 then Char.ofNat (0x30 + value) else Char.ofNat (0x37 + value)

/-- Two digits a byte. -/
def hexText (digit : Nat → Char) (bytes : List UInt8) : String :=
  String.ofList (bytes.flatMap (fun byte => [digit (byte.toNat / 16), digit (byte.toNat % 16)]))

/-- `u8::is_ascii_hexdigit`. -/
def isHexDigit (char : Char) : Bool :=
  (0x30 ≤ char.toNat && char.toNat ≤ 0x39) || (0x41 ≤ char.toNat && char.toNat ≤ 0x46) ||
    (0x61 ≤ char.toNat && char.toNat ≤ 0x66)

def isDigit (char : Char) : Bool :=
  0x30 ≤ char.toNat && char.toNat ≤ 0x39

/-- The value of a string of decimal digits. -/
def decimalValue (digits : List Char) : Nat :=
  digits.foldl (fun value digit => value * 10 + (digit.toNat - 0x30)) 0

/-- `str::parse::<u32>` on a string of decimal digits. -/
def parseDigitsU32 (text : String) : Option Nat :=
  if text ≠ "" && text.toList.all isDigit && decimalValue text.toList < 2 ^ 32 then
    some (decimalValue text.toList)
  else
    none

/-- `str::parse::<u64>` on a string of decimal digits. -/
def parseDigitsU64 (text : String) : Option Nat :=
  if text ≠ "" && text.toList.all isDigit && decimalValue text.toList < 2 ^ 64 then
    some (decimalValue text.toList)
  else
    none

/-- `str::trim`. -/
def trim (text : String) : String :=
  String.ofList
    ((text.toList.dropWhile isWhitespace).reverse.dropWhile isWhitespace).reverse

/-- `str::strip_prefix`, or the whole text where it does not begin so. -/
def withoutFront (front text : String) : String :=
  if front.toList.isPrefixOf text.toList then
    String.ofList (text.toList.drop front.toList.length)
  else
    text

/-- `str::strip_suffix`, or the whole text where it does not end so. -/
def withoutEnd (ending text : String) : String :=
  if ending.toList.isSuffixOf text.toList then
    String.ofList (text.toList.take (text.toList.length - ending.toList.length))
  else
    text

theorem withoutEnd_append (text ending : String) :
    withoutEnd ending (text ++ ending) = text := by
  have hending : ending.toList.isSuffixOf (text ++ ending).toList = true := by
    rw [String.toList_append, List.isSuffixOf_iff_suffix]
    exact List.suffix_append _ _
  rw [withoutEnd, if_pos hending, String.toList_append, List.length_append,
    Nat.add_sub_cancel, List.take_left, String.ofList_toList]

/-! ## UTF-8 -/

/-- `str::as_bytes`. -/
def utf8Bytes (text : String) : List UInt8 :=
  text.toByteArray.data.toList

/-- `str::from_utf8`. -/
def fromUtf8 (bytes : List UInt8) : Option String :=
  String.fromUTF8? ⟨bytes.toArray⟩

@[simp] theorem utf8Bytes_length (text : String) :
    (utf8Bytes text).length = text.utf8ByteSize :=
  rfl

/-- UTF-8 is read in one way, and only what a text is written as. -/
theorem fromUtf8_eq_some_iff {bytes : List UInt8} {text : String} :
    fromUtf8 bytes = some text ↔ utf8Bytes text = bytes := by
  unfold fromUtf8 String.fromUTF8?
  split
  · next hvalid =>
      rw [Option.some_inj, String.fromUTF8, ← String.toByteArray_inj]
      constructor
      · intro heq
        rw [utf8Bytes, ← heq]
      · rintro rfl
        rfl
  · next hinvalid =>
      constructor
      · intro hnone
        cases hnone
      · rintro rfl
        exact absurd text.isValidUTF8 hinvalid

/-! ## Decimal numbers -/

theorem utf8Bytes_eq_flatMap (text : String) :
    utf8Bytes text = text.toList.flatMap String.utf8EncodeChar := by
  rw [utf8Bytes, ← String.utf8Encode_toList]
  simp [List.utf8Encode]

theorem digit_bounds {char : Char} (hdigit : char.isDigit = true) :
    48 ≤ char.toNat ∧ char.toNat ≤ 57 := by
  simpa [Char.isDigit, UInt32.le_iff_toNat_le] using hdigit

theorem isDigit_of_isDigit {char : Char} (hdigit : char.isDigit = true) : isDigit char = true := by
  simpa [isDigit] using digit_bounds hdigit

/-- The bytes of a decimal number are its digits. -/
theorem utf8Bytes_toString (value : Nat) :
    utf8Bytes (toString value) =
      (Nat.toDigits 10 value).map fun digit => UInt8.ofNat digit.toNat := by
  rw [utf8Bytes_eq_flatMap, Nat.toString_eq_ofList_toDigits, String.toList_ofList,
    List.map_eq_flatMap]
  refine List.flatMap_congr fun digit hdigit => ?_
  obtain ⟨-, hascii⟩ :=
    digit_bounds (Nat.isDigit_of_mem_toDigits (by decide) (by decide) hdigit)
  have hsmall : digit.val.toNat ≤ 127 := Nat.le_trans hascii (by decide)
  exact if_pos hsmall

theorem toString_utf8ByteSize_le {count value : Nat} (hcount : 0 < count)
    (hvalue : value < 10 ^ count) : (toString value).utf8ByteSize ≤ count := by
  rw [← utf8Bytes_length, utf8Bytes_toString, List.length_map]
  exact (Nat.length_toDigits_le_iff (by decide) hcount).mpr hvalue

theorem decimalValue_toDigits (value : Nat) : decimalValue (Nat.toDigits 10 value) = value := by
  have hvalue : Nat.ofDigitChars 10 (Nat.toDigits 10 value) 0 = value :=
    Nat.ofDigitChars_ten_toDigits
  rw [Nat.ofDigitChars_eq_foldl] at hvalue
  simp only [Nat.mul_comm 10] at hvalue
  exact hvalue

theorem parseDigitsU32_toString {value : Nat} (hvalue : value < 2 ^ 32) :
    parseDigitsU32 (toString value) = some value := by
  have hall : (Nat.toDigits 10 value).all isDigit = true := by
    rw [List.all_eq_true]
    intro digit hdigit
    exact isDigit_of_isDigit (Nat.isDigit_of_mem_toDigits (by decide) (by decide) hdigit)
  have hne : toString value ≠ "" := Nat.repr_ne_empty
  unfold parseDigitsU32
  rw [Nat.toString_eq_ofList_toDigits] at hne ⊢
  rw [String.toList_ofList, decimalValue_toDigits]
  simpa [hall, hne] using hvalue
end Lib
end Lirvena
