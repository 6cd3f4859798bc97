import Lirvena.Lib.TextSlice
import Lirvena.Lib.Text

/-!
# Hexadecimal pairs

Bytes are written as pairs of lower-case digits and read back, pair by pair, by the
integer parser of the standard library.  Its grammar is wider than what is written:
a digit may be an upper-case letter, and the first of the two characters may be a
plus sign.  A text that is accepted is the written one exactly when every character
of it is a lower-case digit, and differs from it in letter case at most exactly when
no character of it is a plus sign.
-/

namespace Lirvena
namespace Lib

open Json

/-- The value of a hexadecimal digit of either case. -/
def hexDigitValue (char : Char) : Option Nat :=
  if 0x30 ≤ char.toNat ∧ char.toNat ≤ 0x39 then some (char.toNat - 0x30)
  else if 0x41 ≤ char.toNat ∧ char.toNat ≤ 0x46 then some (char.toNat - 0x37)
  else if 0x61 ≤ char.toNat ∧ char.toNat ≤ 0x66 then some (char.toNat - 0x57)
  else none

/-- The digits of a byte, each with the check for overflow. -/
def hexByte (digits : List Char) : Option Nat :=
  digits.foldlM (fun value digit => do
    let digit ← hexDigitValue digit
    if value * 16 + digit < 256 then some (value * 16 + digit) else none) 0

/-- `u8::from_str_radix` with radix 16: a leading plus sign is allowed before digits. -/
def fromStrRadix16 : List Char → Option UInt8
  | [] => none
  | ['+'] => none
  | '+' :: digits => UInt8.ofNat <$> hexByte digits
  | digits => UInt8.ofNat <$> hexByte digits

/-- A byte as it is written by `{byte:02x}`. -/
def hexPair (byte : UInt8) : List Char :=
  [lowerHexDigit (byte.toNat / 16), lowerHexDigit (byte.toNat % 16)]

def isLowerHexDigit (char : Char) : Bool :=
  (0x30 ≤ char.toNat && char.toNat ≤ 0x39) || (0x61 ≤ char.toNat && char.toNat ≤ 0x66)

/-! ## One digit -/

theorem lowerHexDigit_spec {value : Nat} (hvalue : value < 16) :
    hexDigitValue (lowerHexDigit value) = some value ∧
      isLowerHexDigit (lowerHexDigit value) = true ∧ (lowerHexDigit value).utf8Size = 1 ∧
        lowerHexDigit value ≠ '+' := by
  have hlisted : ∀ value < 16, hexDigitValue (lowerHexDigit value) = some value ∧
      isLowerHexDigit (lowerHexDigit value) = true ∧ (lowerHexDigit value).utf8Size = 1 ∧
        lowerHexDigit value ≠ '+' := by
    decide
  exact hlisted value hvalue

/-- What holds of every ASCII code holds of every ASCII character. -/
theorem forall_ascii (good : Char → Prop) (hlisted : ∀ code < 128, good (Char.ofNat code))
    {char : Char} (hcode : char.toNat < 128) : good char := by
  have hchar := hlisted char.toNat hcode
  rwa [Char.ofNat_toNat] at hchar

theorem toLower_of_isLowerHexDigit {char : Char} (hlower : isLowerHexDigit char = true) :
    char.toLower = char := by
  have hcode : char.toNat < 128 := by
    simp only [isLowerHexDigit, Bool.or_eq_true, Bool.and_eq_true, decide_eq_true_eq] at hlower
    omega
  exact forall_ascii (fun char => isLowerHexDigit char = true → char.toLower = char)
    (by decide) hcode hlower

/-- A character that has a value is a digit, and its lower-case form is the digit that
is written for the value. -/
theorem hexDigitValue_eq_some {char : Char} {value : Nat}
    (hvalue : hexDigitValue char = some value) :
    value < 16 ∧ lowerHexDigit value = char.toLower ∧ char.utf8Size = 1 ∧ char ≠ '+' := by
  have hcode : char.toNat < 128 := by
    unfold hexDigitValue at hvalue
    split at hvalue
    · omega
    · split at hvalue
      · omega
      · split at hvalue
        · omega
        · cases hvalue
  exact forall_ascii
    (fun char => ∀ value ∈ hexDigitValue char,
      value < 16 ∧ lowerHexDigit value = char.toLower ∧ char.utf8Size = 1 ∧ char ≠ '+')
    (by decide) hcode value hvalue

/-! ## One pair -/

theorem hexByte_one {digit : Char} : hexByte [digit] = hexDigitValue digit := by
  cases hdigit : hexDigitValue digit with
  | none => simp [hexByte, hdigit]
  | some value =>
      have hsmall : value < 256 := by
        have hvalue := (hexDigitValue_eq_some hdigit).1
        omega
      simp [hexByte, hdigit, hsmall]

theorem hexByte_two_eq_some_iff {first second : Char} {value : Nat} :
    hexByte [first, second] = some value ↔
      ∃ high low, hexDigitValue first = some high ∧ hexDigitValue second = some low ∧
        value = high * 16 + low := by
  cases hfirst : hexDigitValue first with
  | none => simp [hexByte, hfirst]
  | some high =>
      cases hsecond : hexDigitValue second with
      | none => simp [hexByte, hfirst, hsecond]
      | some low =>
          have hhigh := (hexDigitValue_eq_some hfirst).1
          have hlow := (hexDigitValue_eq_some hsecond).1
          have hfirstFits : high < 256 := by omega
          have hbothFit : high * 16 + low < 256 := by omega
          simp [hexByte, hfirst, hsecond, hfirstFits, hbothFit, eq_comm]

theorem fromStrRadix16_of_ne_plus {first : Char} {rest : List Char} (hfirst : first ≠ '+') :
    fromStrRadix16 (first :: rest) = UInt8.ofNat <$> hexByte (first :: rest) := by
  unfold fromStrRadix16
  split
  · next heq => cases heq
  · next heq => cases heq; exact absurd rfl hfirst
  · next heq => cases heq; exact absurd rfl hfirst
  · rfl

theorem fromStrRadix16_plus (second : Char) :
    fromStrRadix16 ['+', second] = UInt8.ofNat <$> hexDigitValue second := by
  rw [← hexByte_one]
  rfl

/-- What is written for a byte is read as the byte. -/
theorem fromStrRadix16_hexPair (byte : UInt8) :
    fromStrRadix16 (hexPair byte) = some byte := by
  have hbyte := byte.toNat_lt
  obtain ⟨hhigh, -, -, hplus⟩ := lowerHexDigit_spec (show byte.toNat / 16 < 16 by omega)
  obtain ⟨hlow, -⟩ := lowerHexDigit_spec (show byte.toNat % 16 < 16 by omega)
  have hboth : hexByte (hexPair byte) = some byte.toNat :=
    hexByte_two_eq_some_iff.mpr ⟨_, _, hhigh, hlow, by omega⟩
  rw [hexPair, fromStrRadix16_of_ne_plus hplus, ← hexPair, hboth]
  simp

theorem utf8Len_hexPair (byte : UInt8) : utf8Len (hexPair byte) = 2 := by
  have hbyte := byte.toNat_lt
  obtain ⟨-, -, hhigh, -⟩ := lowerHexDigit_spec (show byte.toNat / 16 < 16 by omega)
  obtain ⟨-, -, hlow, -⟩ := lowerHexDigit_spec (show byte.toNat % 16 < 16 by omega)
  rw [hexPair, utf8Len_cons, utf8Len_cons, utf8Len_nil, hhigh, hlow]

/-- A slice of two bytes that is accepted as a byte. -/
def ReadsByte (pair : List Char) (byte : UInt8) : Prop :=
  utf8Len pair = 2 ∧ fromStrRadix16 pair = some byte

theorem readsByte_hexPair (byte : UInt8) : ReadsByte (hexPair byte) byte :=
  ⟨utf8Len_hexPair byte, fromStrRadix16_hexPair byte⟩

/-- An accepted slice is two digits, or a plus sign and a digit. -/
theorem ReadsByte.cases {pair : List Char} {byte : UInt8} (hreads : ReadsByte pair byte) :
    ∃ first second, pair = [first, second] ∧
      second.toLower = lowerHexDigit (byte.toNat % 16) ∧ second ≠ '+' ∧
        (first = '+' ∨ first ≠ '+' ∧ first.toLower = lowerHexDigit (byte.toNat / 16)) := by
  obtain ⟨hlength, hread⟩ := hreads
  rcases pair with _ | ⟨first, _ | ⟨second, rest⟩⟩
  · cases hread
  · -- A character of two bytes is no digit.
    rw [utf8Len_cons, utf8Len_nil] at hlength
    have hfirst : first ≠ '+' := by
      rintro rfl
      cases hread
    rw [fromStrRadix16_of_ne_plus hfirst, hexByte_one, Option.map_eq_map,
      Option.map_eq_some_iff] at hread
    obtain ⟨value, hvalue, -⟩ := hread
    have hone := (hexDigitValue_eq_some hvalue).2.2.1
    omega
  · rw [utf8Len_cons, utf8Len_cons] at hlength
    have hfirstPos := first.utf8Size_pos
    have hsecondPos := second.utf8Size_pos
    have hrest : rest = [] := by
      rcases rest with _ | ⟨third, others⟩
      · rfl
      · have hthirdPos := third.utf8Size_pos
        rw [utf8Len_cons] at hlength
        omega
    rw [hrest] at hread ⊢
    refine ⟨first, second, rfl, ?_⟩
    by_cases hplus : first = '+'
    · rw [hplus, fromStrRadix16_plus, Option.map_eq_map, Option.map_eq_some_iff] at hread
      obtain ⟨low, hlow, rfl⟩ := hread
      obtain ⟨hsmall, hdigit, -, hne⟩ := hexDigitValue_eq_some hlow
      have hbyte : (UInt8.ofNat low).toNat % 16 = low := by
        rw [UInt8.toNat_ofNat']
        omega
      rw [hbyte]
      exact ⟨hdigit.symm, hne, Or.inl hplus⟩
    · rw [fromStrRadix16_of_ne_plus hplus, Option.map_eq_map, Option.map_eq_some_iff] at hread
      obtain ⟨value, hvalue, rfl⟩ := hread
      obtain ⟨high, low, hhigh, hlow, rfl⟩ := hexByte_two_eq_some_iff.mp hvalue
      obtain ⟨hhighSmall, hhighDigit, -⟩ := hexDigitValue_eq_some hhigh
      obtain ⟨hlowSmall, hlowDigit, -, hne⟩ := hexDigitValue_eq_some hlow
      have hbyte : (UInt8.ofNat (high * 16 + low)).toNat = high * 16 + low := by
        rw [UInt8.toNat_ofNat']
        omega
      have hdiv : (high * 16 + low) / 16 = high := by omega
      have hmod : (high * 16 + low) % 16 = low := by omega
      rw [hbyte, hdiv, hmod]
      exact ⟨hlowDigit.symm, hne, Or.inr ⟨hplus, hhighDigit.symm⟩⟩

theorem isHexDigit_of_hexDigitValue {char : Char} {value : Nat}
    (hvalue : hexDigitValue char = some value) : isHexDigit char = true := by
  unfold hexDigitValue at hvalue
  simp only [isHexDigit, Bool.or_eq_true, Bool.and_eq_true, decide_eq_true_eq]
  split at hvalue
  · omega
  · split at hvalue
    · omega
    · split at hvalue
      · omega
      · cases hvalue

/-- The characters of an accepted slice: digits, but the first may be a plus sign. -/
theorem ReadsByte.digits {first second : Char} {byte : UInt8}
    (hreads : ReadsByte [first, second] byte) :
    (first = '+' ∨ isHexDigit first = true) ∧ isHexDigit second = true := by
  have hread := hreads.2
  by_cases hplus : first = '+'
  · rw [hplus, fromStrRadix16_plus, Option.map_eq_map, Option.map_eq_some_iff] at hread
    obtain ⟨low, hlow, -⟩ := hread
    exact ⟨.inl hplus, isHexDigit_of_hexDigitValue hlow⟩
  · rw [fromStrRadix16_of_ne_plus hplus, Option.map_eq_map, Option.map_eq_some_iff] at hread
    obtain ⟨value, hvalue, -⟩ := hread
    obtain ⟨high, low, hhigh, hlow, -⟩ := hexByte_two_eq_some_iff.mp hvalue
    exact ⟨.inr (isHexDigit_of_hexDigitValue hhigh), isHexDigit_of_hexDigitValue hlow⟩

/-- The written form of an accepted pair differs from it in case at most exactly when
it has no sign. -/
theorem ReadsByte.toLower_iff {first second : Char} {byte : UInt8}
    (hreads : ReadsByte [first, second] byte) :
    hexPair byte = [first.toLower, second.toLower] ↔ first ≠ '+' ∧ second ≠ '+' := by
  have hbyte := byte.toNat_lt
  obtain ⟨first, second, hpair, hlow, hsecond, hhigh⟩ := hreads.cases
  obtain ⟨rfl, rfl⟩ : _ = first ∧ _ = second := by simpa using hpair
  obtain ⟨-, -, -, hplus⟩ := lowerHexDigit_spec (show byte.toNat / 16 < 16 by omega)
  rw [hexPair, hlow]
  constructor
  · intro hsame
    refine ⟨?_, hsecond⟩
    rintro rfl
    have hdigit : lowerHexDigit (byte.toNat / 16) = '+' := by simpa using hsame
    exact hplus hdigit
  · rintro ⟨hfirst, -⟩
    rcases hhigh with heq | ⟨-, heq⟩
    · exact absurd heq hfirst
    · rw [heq]

/-- An accepted pair is the written one exactly when both characters are lower-case
digits. -/
theorem ReadsByte.canonical_iff {first second : Char} {byte : UInt8}
    (hreads : ReadsByte [first, second] byte) :
    hexPair byte = [first, second] ↔
      isLowerHexDigit first = true ∧ isLowerHexDigit second = true := by
  have hbyte := byte.toNat_lt
  constructor
  · intro hsame
    obtain ⟨-, hhigh, -⟩ := lowerHexDigit_spec (show byte.toNat / 16 < 16 by omega)
    obtain ⟨-, hlow, -⟩ := lowerHexDigit_spec (show byte.toNat % 16 < 16 by omega)
    rw [hexPair] at hsame
    obtain ⟨hfirst, hsecond⟩ : lowerHexDigit (byte.toNat / 16) = first ∧
        lowerHexDigit (byte.toNat % 16) = second := by simpa using hsame
    rw [hfirst] at hhigh
    rw [hsecond] at hlow
    exact ⟨hhigh, hlow⟩
  · rintro ⟨hfirst, hsecond⟩
    have hsigns : first ≠ '+' ∧ second ≠ '+' := by
      refine ⟨?_, ?_⟩ <;>
      · rintro rfl
        contradiction
    have hlower := hreads.toLower_iff.mpr hsigns
    rw [toLower_of_isLowerHexDigit hfirst, toLower_of_isLowerHexDigit hsecond] at hlower
    exact hlower

/-! ## Texts of pairs -/

theorem forall₂_readsByte_hexPair (bytes : List UInt8) :
    List.Forall₂ ReadsByte (bytes.map hexPair) bytes := by
  induction bytes with
  | nil => exact List.Forall₂.nil
  | cons byte rest ih => exact List.Forall₂.cons (readsByte_hexPair byte) ih

/-- A fact about how each accepted pair is written, carried to the whole text. -/
theorem flatMap_hexPair_eq_iff {spelled : Char → Char} {good : Char → Prop}
    (hpair : ∀ {first second byte}, ReadsByte [first, second] byte →
      (hexPair byte = [spelled first, spelled second] ↔ good first ∧ good second))
    {pairs : List (List Char)} {bytes : List UInt8}
    (hreads : List.Forall₂ ReadsByte pairs bytes) :
    bytes.flatMap hexPair = pairs.flatten.map spelled ↔ ∀ char ∈ pairs.flatten, good char := by
  induction hreads with
  | nil => simp
  | @cons pair byte pairs bytes hfirst _ ih =>
      obtain ⟨first, second, rfl, -⟩ := hfirst.cases
      have hhead := hpair hfirst
      have hlength : (hexPair byte).length = ([first, second].map spelled).length := rfl
      rw [List.flatMap_cons, List.flatten_cons, List.map_append, List.forall_mem_append, ← ih]
      constructor
      · intro hsame
        obtain ⟨hbyte, hrest⟩ := List.append_inj hsame hlength
        exact ⟨by simpa using hhead.mp hbyte, hrest⟩
      · rintro ⟨hgood, hrest⟩
        have hbyte := hhead.mpr (by simpa using hgood)
        rw [hbyte, hrest]
        rfl

/-- The written bytes of an accepted text are the text itself exactly when all of it
is lower-case digits. -/
theorem hexPairs_canonical_iff {pairs : List (List Char)} {bytes : List UInt8}
    (hreads : List.Forall₂ ReadsByte pairs bytes) :
    bytes.flatMap hexPair = pairs.flatten ↔
      ∀ char ∈ pairs.flatten, isLowerHexDigit char = true := by
  have hall : bytes.flatMap hexPair = pairs.flatten.map id ↔ _ :=
    flatMap_hexPair_eq_iff ReadsByte.canonical_iff hreads
  rwa [List.map_id] at hall

/-- The written bytes of an accepted text differ from it in letter case at most exactly
when it has no plus sign. -/
theorem hexPairs_toLower_iff {pairs : List (List Char)} {bytes : List UInt8}
    (hreads : List.Forall₂ ReadsByte pairs bytes) :
    bytes.flatMap hexPair = pairs.flatten.map Char.toLower ↔
      ∀ char ∈ pairs.flatten, char ≠ '+' :=
  flatMap_hexPair_eq_iff ReadsByte.toLower_iff hreads

end Lib
end Lirvena
