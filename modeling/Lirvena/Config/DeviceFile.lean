import Lirvena.Domain.Device
import Lirvena.Lib.HexPairs
import Lirvena.Lib.Separated
import Mathlib.Tactic.IntervalCases

/-!
# The device file

A device file holds the stable identifiers as texts in hexadecimal pairs, the texts of
the portrait and the power.  Every profile that is built from a portrait is read back
from its file.  A file that is accepted is written again as it was, but for the case of
digits, exactly when neither of its identifiers has a plus sign, which the integer
parser of the standard library takes in front of a digit.
-/

namespace Lirvena
namespace Config

open Domain
open Lib

inductive DeviceFileError where
  | invalid
  deriving DecidableEq

def deviceSchemaVersion : UInt16 := 4

inductive PowerFile where
  | desktop
  | portable (percent : UInt8) (charging : Bool)
  deriving DecidableEq

structure DeviceFile extends PortraitText where
  schemaVersion : UInt16
  guid : String
  macAddress : String
  power : PowerFile
  deriving DecidableEq

/-- `serde_json` for device files: a reader, and the pretty writer. -/
structure DeviceJson where
  fromSlice : List UInt8 → Option DeviceFile
  toVecPretty : DeviceFile → Option (List UInt8)

/-- What the writer makes of a file is read back, also with a line feed behind it. -/
def DeviceJson.ReadsBack (json : DeviceJson) (file : DeviceFile) : Prop :=
  ∃ bytes, json.toVecPretty file = some bytes ∧ json.fromSlice (bytes ++ [0x0a]) = some file

/-! ## Identifiers -/

/-- `from_utf8` and `from_str_radix` on one pair. -/
def parsePair (pair : List UInt8) : Except DeviceFileError UInt8 := do
  let text ← okOr .invalid (fromUtf8 pair)
  okOr .invalid (fromStrRadix16 text.toList)

/-- `chunks_exact(2)`. -/
def chunksExact2 : List UInt8 → List (List UInt8)
  | first :: second :: rest => [first, second] :: chunksExact2 rest
  | _ => []

def parseHex (count : Nat) (hexadecimal : List UInt8) :
    Except DeviceFileError (Vector UInt8 count) := do
  rejectIf .invalid (hexadecimal.length ≠ count * 2)
  let parsed ← (chunksExact2 hexadecimal).mapM parsePair
  -- there is a pair for each byte of the array, so the array is always filled
  if hcount : parsed.length = count then return ⟨parsed.toArray, hcount⟩ else .error .invalid

/-- An identifier of so many bytes, with separators at the given indices of its text. -/
def parseSeparated (length : Nat) (separator : UInt8) (indices : List Nat) (count : Nat)
    (value : String) : Except DeviceFileError (Vector UInt8 count) := do
  rejectIf .invalid (value.utf8ByteSize ≠ length ∨
    ¬ ∀ index ∈ indices, (utf8Bytes value)[index]? = some separator)
  parseHex count ((utf8Bytes value).filter (· ≠ separator))

/-- The first three groups of a GUID are stored with their bytes reversed. -/
def canonicalToWireGuid (value : Vector UInt8 16) : Vector UInt8 16 :=
  #v[value[3], value[2], value[1], value[0], value[5], value[4], value[7], value[6], value[8],
    value[9], value[10], value[11], value[12], value[13], value[14], value[15]]

def wireToCanonicalGuid (value : Vector UInt8 16) : Vector UInt8 16 :=
  canonicalToWireGuid value

def parseGuid (value : String) : Except DeviceFileError (Vector UInt8 16) := do
  let canonical ← parseSeparated 36 0x2d [8, 13, 18, 23] 16 value
  return canonicalToWireGuid canonical

def parseMac (value : String) : Except DeviceFileError (Vector UInt8 6) :=
  parseSeparated 17 0x3a [2, 5, 8, 11, 14] 6 value

/-- The digits between separators in a GUID and in a MAC address. -/
def guidGroups : List Nat := [8, 4, 4, 4]

def macGroups : List Nat := [2, 2, 2, 2, 2]

def formatGuid (value : Vector UInt8 16) : String :=
  String.ofList
    (separate '-' guidGroups ((wireToCanonicalGuid value).toList.flatMap hexPair))

def formatMac (value : Vector UInt8 6) : String :=
  String.ofList (separate ':' macGroups (value.toList.flatMap hexPair))

/-! ## Files -/

def PowerFile.into : PowerFile → DevicePower
  | .desktop => .desktop
  | .portable percent charging => .portable percent charging

def PowerFile.ofPower : DevicePower → PowerFile
  | .desktop => .desktop
  | .portable percent charging => .portable percent charging

def profileResult {α : Type} (result : Except DeviceProfileError α) : Except DeviceFileError α :=
  result.mapError fun _ => .invalid

namespace DeviceFile

def intoProfile (file : DeviceFile) : Except DeviceFileError DeviceProfile := do
  rejectIf .invalid (file.schemaVersion ≠ deviceSchemaVersion)
  let portrait ← profileResult (DevicePortrait.new file.toPortraitText)
  let guid ← parseGuid file.guid
  let macAddress ← parseMac file.macAddress
  profileResult (DeviceProfile.fromPortrait guid macAddress portrait file.power.into)

def fromProfile (profile : DeviceProfile) : DeviceFile where
  toPortraitText := profile.portrait.text
  schemaVersion := deviceSchemaVersion
  guid := formatGuid profile.guid
  macAddress := formatMac profile.macAddress
  power := .ofPower profile.power

end DeviceFile

def decode (json : DeviceJson) (bytes : List UInt8) : Except DeviceFileError DeviceProfile := do
  let file ← okOr .invalid (json.fromSlice bytes)
  file.intoProfile

def encode (json : DeviceJson) (profile : DeviceProfile) :
    Except DeviceFileError (List UInt8) := do
  let encoded ← okOr .invalid (json.toVecPretty (.fromProfile profile))
  return encoded ++ [0x0a]

/-! ## Pairs of bytes -/

theorem parsePair_eq_ok_iff {first second byte : UInt8} :
    parsePair [first, second] = .ok byte ↔
      ∃ pair : List Char, pair.flatMap String.utf8EncodeChar = [first, second] ∧
        ReadsByte pair byte := by
  unfold parsePair
  constructor
  · intro hparse
    obtain ⟨text, htext, hbyte⟩ := bind_eq_ok_iff.mp hparse
    have hbytes := fromUtf8_eq_some_iff.mp (okOr_eq_ok_iff.mp htext)
    have hlength : (utf8Bytes text).length = 2 := congrArg List.length hbytes
    rw [utf8Bytes_length, ← Json.utf8Len_toList] at hlength
    rw [utf8Bytes_eq_flatMap] at hbytes
    exact ⟨text.toList, hbytes, hlength, okOr_eq_ok_iff.mp hbyte⟩
  · rintro ⟨pair, hbytes, -, hread⟩
    have htext : utf8Bytes (String.ofList pair) = [first, second] := by
      rw [utf8Bytes_eq_flatMap, String.toList_ofList, hbytes]
    refine bind_eq_ok_iff.mpr
      ⟨String.ofList pair, okOr_eq_ok_iff.mpr (fromUtf8_eq_some_iff.mpr htext), ?_⟩
    rw [String.toList_ofList]
    exact okOr_eq_ok_iff.mpr hread

theorem encoded_pair_length {pair : List Char} {byte : UInt8} (hreads : ReadsByte pair byte) :
    (pair.flatMap String.utf8EncodeChar).length = 2 := by
  have hlength := hreads.1
  rw [← Json.utf8ByteSize_ofList, ← utf8Bytes_length, utf8Bytes_eq_flatMap,
    String.toList_ofList] at hlength
  exact hlength

/-- Pairs of bytes are accepted exactly when they are the pairs of a text that are. -/
theorem parsePairs_iff {count : Nat} {hexadecimal bytes : List UInt8}
    (hlength : hexadecimal.length = count * 2) :
    List.Forall₂ (fun pair byte => parsePair pair = .ok byte) (chunksExact2 hexadecimal) bytes ↔
      ∃ pairs : List (List Char), hexadecimal = pairs.flatten.flatMap String.utf8EncodeChar ∧
        List.Forall₂ ReadsByte pairs bytes := by
  induction count generalizing hexadecimal bytes with
  | zero =>
      obtain rfl := List.eq_nil_of_length_eq_zero hlength
      constructor
      · intro hpairs
        cases hpairs
        exact ⟨[], rfl, .nil⟩
      · rintro ⟨pairs, hnone, hreads⟩
        cases hreads with
        | nil => exact .nil
        | @cons pair byte rest others hread hothers =>
            have hpair := encoded_pair_length hread
            rw [List.flatten_cons, List.flatMap_append] at hnone
            rw [(List.append_eq_nil_iff.mp hnone.symm).1] at hpair
            cases hpair
  | succ count ih =>
      obtain ⟨first, second, rest, rfl⟩ : ∃ first second rest,
          hexadecimal = first :: second :: rest := by
        match hexadecimal, hlength with
        | first :: second :: rest, _ => exact ⟨first, second, rest, rfl⟩
        | [_], hlength => simp at hlength; omega
        | [], hlength => simp at hlength
      have hrest : rest.length = count * 2 := by
        simp only [List.length_cons] at hlength
        omega
      constructor
      · intro hpairs
        cases hpairs with
        | cons hfirst hothers =>
            obtain ⟨pair, hpair, hread⟩ := parsePair_eq_ok_iff.mp hfirst
            obtain ⟨pairs, rfl, hreads⟩ := (ih hrest).mp hothers
            refine ⟨pair :: pairs, ?_, .cons hread hreads⟩
            rw [List.flatten_cons, List.flatMap_append, hpair]
            rfl
      · rintro ⟨pairs, htext, hreads⟩
        cases hreads with
        | nil => cases htext
        | @cons pair byte others bytes hread hreads =>
            have hpair := encoded_pair_length hread
            rw [List.flatten_cons, List.flatMap_append] at htext
            obtain ⟨hfront, hback⟩ := List.append_inj
              (show [first, second] ++ rest = _ from htext) hpair.symm
            exact .cons (parsePair_eq_ok_iff.mpr ⟨pair, hfront.symm, hread⟩)
              ((ih hrest).mpr ⟨others, hback, hreads⟩)

theorem encoded_length {pairs : List (List Char)} {bytes : List UInt8}
    (hreads : List.Forall₂ ReadsByte pairs bytes) :
    (pairs.flatten.flatMap String.utf8EncodeChar).length = bytes.length * 2 := by
  induction hreads with
  | nil => rfl
  | cons hread _ ih =>
      rw [List.flatten_cons, List.flatMap_append, List.length_append,
        encoded_pair_length hread, ih, List.length_cons]
      omega

theorem parseHex_eq_ok_iff {count : Nat} {hexadecimal : List UInt8} {array : Vector UInt8 count} :
    parseHex count hexadecimal = .ok array ↔
      ∃ pairs : List (List Char), hexadecimal = pairs.flatten.flatMap String.utf8EncodeChar ∧
        List.Forall₂ ReadsByte pairs array.toList := by
  unfold parseHex
  constructor
  · intro hparse
    obtain ⟨⟨⟩, hlength, hparse⟩ := bind_eq_ok_iff.mp hparse
    obtain ⟨parsed, hparsed, hparse⟩ := bind_eq_ok_iff.mp hparse
    split at hparse
    · cases hparse
      exact (parsePairs_iff (not_not.mp (rejectIf_eq_ok_iff.mp hlength))).mp
        (mapM_eq_ok_iff_forall₂.mp hparsed)
    · cases hparse
  · rintro ⟨pairs, rfl, hreads⟩
    have hlength := encoded_length hreads
    rw [Vector.length_toList] at hlength
    have hparsed := mapM_eq_ok_iff_forall₂.mpr ((parsePairs_iff hlength).mpr ⟨pairs, rfl, hreads⟩)
    refine bind_eq_ok_iff.mpr ⟨(), rejectIf_eq_ok_iff.mpr (not_not.mpr hlength), ?_⟩
    refine bind_eq_ok_iff.mpr ⟨array.toList, hparsed, ?_⟩
    rw [dif_pos Vector.length_toList]
    rfl

/-! ## Separated texts -/

theorem sign_or_digit {pairs : List (List Char)} {bytes : List UInt8}
    (hreads : List.Forall₂ ReadsByte pairs bytes) :
    ∀ char ∈ pairs.flatten, char = '+' ∨ isHexDigit char = true := by
  induction hreads with
  | nil => nofun
  | @cons pair byte pairs bytes hread _ ih =>
      obtain ⟨first, second, rfl, -⟩ := hread.cases
      obtain ⟨hfirst, hsecond⟩ := hread.digits
      rw [List.flatten_cons, List.forall_mem_append]
      refine ⟨?_, ih⟩
      intro char hchar
      simp only [List.mem_cons, List.not_mem_nil, or_false] at hchar
      rcases hchar with rfl | rfl
      · exact hfirst
      · exact .inr hsecond

theorem ascii_of_sign_or_digit {char : Char} (hchar : char = '+' ∨ isHexDigit char = true) :
    char.toNat < 128 := by
  rcases hchar with rfl | hdigit
  · decide
  · simp only [isHexDigit, Bool.or_eq_true, Bool.and_eq_true, decide_eq_true_eq] at hdigit
    omega

def asciiByte (char : Char) : UInt8 :=
  UInt8.ofNat char.toNat

theorem encode_ascii {chars : List Char} (hascii : ∀ char ∈ chars, char.toNat < 128) :
    chars.flatMap String.utf8EncodeChar = chars.map asciiByte := by
  rw [List.map_eq_flatMap]
  refine List.flatMap_congr fun char hchar => ?_
  exact if_pos (Nat.le_of_lt_succ (hascii char hchar))

theorem asciiByte_inj {first second : Char} (hfirst : first.toNat < 128)
    (hsecond : second.toNat < 128) (hsame : asciiByte first = asciiByte second) :
    first = second := by
  have hcode := congrArg UInt8.toNat hsame
  rw [asciiByte, asciiByte, UInt8.toNat_ofNat', UInt8.toNat_ofNat'] at hcode
  exact Char.toNat_inj.mp (by omega)

theorem utf8Bytes_inj {first second : String} (hsame : utf8Bytes first = utf8Bytes second) :
    first = second :=
  Option.some.inj ((fromUtf8_eq_some_iff.mpr rfl).symm.trans (fromUtf8_eq_some_iff.mpr hsame.symm))

/-- A text is accepted exactly when it is accepted pairs with separators between groups
of them. -/
theorem parseSeparated_eq_ok_iff {length count : Nat} {separator : Char} {indices groups : List Nat}
    {value : String} {array : Vector UInt8 count}
    (hseparator : separator.toNat < 128 ∧ separator ≠ '+' ∧ isHexDigit separator = false)
    (hlength : length = count * 2 + groups.length) (hgroups : groups.sum ≤ count * 2)
    (hindices : ∀ text : List UInt8,
      (∀ index ∈ indices, text[index]? = some (asciiByte separator)) ↔
        SeparatedAt (asciiByte separator) groups text) :
    parseSeparated length (asciiByte separator) indices count value = .ok array ↔
      ∃ pairs : List (List Char), value.toList = separate separator groups pairs.flatten ∧
        List.Forall₂ ReadsByte pairs array.toList := by
  -- the bytes of accepted pairs in their groups
  have hbytes : ∀ {pairs : List (List Char)}, List.Forall₂ ReadsByte pairs array.toList →
      utf8Bytes (String.ofList (separate separator groups pairs.flatten)) =
        separate (asciiByte separator) groups (pairs.flatten.flatMap String.utf8EncodeChar) := by
    intro pairs hreads
    have hdigits : ∀ char ∈ pairs.flatten, char.toNat < 128 :=
      fun char hchar => ascii_of_sign_or_digit (sign_or_digit hreads char hchar)
    rw [utf8Bytes_eq_flatMap, String.toList_ofList, encode_ascii hdigits, ← map_separate]
    refine encode_ascii fun char hchar => ?_
    rcases mem_separate hchar with rfl | hdigit
    · exact hseparator.1
    · exact hdigits char hdigit
  unfold parseSeparated
  constructor
  · intro hparse
    obtain ⟨⟨⟩, hchecked, hparse⟩ := bind_eq_ok_iff.mp hparse
    obtain ⟨hsize, hplaces⟩ := not_or.mp (rejectIf_eq_ok_iff.mp hchecked)
    obtain ⟨pairs, hfilter, hreads⟩ := parseHex_eq_ok_iff.mp hparse
    refine ⟨pairs, ?_, hreads⟩
    have hcount : (utf8Bytes value).count (asciiByte separator) = groups.length := by
      have hsum := count_add_length_filter (asciiByte separator) (utf8Bytes value)
      rw [hfilter, encoded_length hreads, Vector.length_toList, utf8Bytes_length] at hsum
      omega
    have htext := ((hindices _).mp (not_not.mp hplaces)).eq_separate hcount
    rw [hfilter, ← hbytes hreads] at htext
    rw [utf8Bytes_inj htext, String.toList_ofList]
  · rintro ⟨pairs, htext, hreads⟩
    have hencoded := encoded_length hreads
    rw [Vector.length_toList] at hencoded
    have hfree : asciiByte separator ∉ pairs.flatten.flatMap String.utf8EncodeChar := by
      intro hfound
      have hdigits := sign_or_digit hreads
      rw [encode_ascii fun char hchar => ascii_of_sign_or_digit (hdigits char hchar)] at hfound
      obtain ⟨char, hchar, hsame⟩ := List.mem_map.mp hfound
      obtain rfl := asciiByte_inj (ascii_of_sign_or_digit (hdigits char hchar)) hseparator.1 hsame
      rcases hdigits char hchar with hsign | hdigit
      · exact hseparator.2.1 hsign
      · rw [hseparator.2.2] at hdigit
        cases hdigit
    have hvalue : utf8Bytes value = separate (asciiByte separator) groups
        (pairs.flatten.flatMap String.utf8EncodeChar) := by
      rw [← hbytes hreads, ← htext, String.ofList_toList]
    have hsize : value.utf8ByteSize = length := by
      rw [← utf8Bytes_length, hvalue, separate_length, hencoded, hlength]
    have hplaces := (hindices _).mpr (separatedAt_separate (asciiByte separator)
      (hencoded.symm ▸ hgroups : groups.sum ≤ (pairs.flatten.flatMap _).length))
    rw [← hvalue] at hplaces
    refine bind_eq_ok_iff.mpr
      ⟨(), rejectIf_eq_ok_iff.mpr ?_, parseHex_eq_ok_iff.mpr ⟨pairs, ?_, hreads⟩⟩
    · exact not_or.mpr ⟨not_not.mpr hsize, not_not.mpr hplaces⟩
    · rw [hvalue, filter_separate groups hfree]

theorem canonicalToWireGuid_involutive (value : Vector UInt8 16) :
    canonicalToWireGuid (wireToCanonicalGuid value) = value := by
  refine Vector.ext fun index hindex => ?_
  unfold wireToCanonicalGuid canonicalToWireGuid
  interval_cases index <;> rfl

theorem parseGuid_eq_ok_iff {value : String} {guid : Vector UInt8 16} :
    parseGuid value = .ok guid ↔
      ∃ pairs : List (List Char), value.toList = separate '-' guidGroups pairs.flatten ∧
        List.Forall₂ ReadsByte pairs (wireToCanonicalGuid guid).toList := by
  have hplaces : ∀ text : List UInt8,
      (∀ index ∈ [8, 13, 18, 23], text[index]? = some (asciiByte '-')) ↔
        SeparatedAt (asciiByte '-') guidGroups text := by
    intro text
    simp [guidGroups, SeparatedAt]
  have hparse : ∀ canonical : Vector UInt8 16, parseSeparated 36 0x2d [8, 13, 18, 23] 16 value =
      .ok canonical ↔ _ := fun canonical =>
    parseSeparated_eq_ok_iff (by decide) (by decide) (by decide) hplaces
  unfold parseGuid
  constructor
  · intro hguid
    obtain ⟨canonical, hcanonical, hguid⟩ := bind_eq_ok_iff.mp hguid
    cases hguid
    obtain ⟨pairs, htext, hreads⟩ := (hparse canonical).mp hcanonical
    refine ⟨pairs, htext, ?_⟩
    have hsame : wireToCanonicalGuid (canonicalToWireGuid canonical) = canonical :=
      canonicalToWireGuid_involutive canonical
    rwa [hsame]
  · intro hpairs
    refine bind_eq_ok_iff.mpr ⟨_, (hparse _).mpr hpairs, ?_⟩
    exact congrArg Except.ok (canonicalToWireGuid_involutive guid)

theorem parseMac_eq_ok_iff {value : String} {macAddress : Vector UInt8 6} :
    parseMac value = .ok macAddress ↔
      ∃ pairs : List (List Char), value.toList = separate ':' macGroups pairs.flatten ∧
        List.Forall₂ ReadsByte pairs macAddress.toList := by
  have hplaces : ∀ text : List UInt8,
      (∀ index ∈ [2, 5, 8, 11, 14], text[index]? = some (asciiByte ':')) ↔
        SeparatedAt (asciiByte ':') macGroups text := by
    intro text
    simp [macGroups, SeparatedAt]
  exact parseSeparated_eq_ok_iff (by decide) (by decide) (by decide) hplaces

/-! ## What is written -/

/-- Digits in their groups, and nothing else. -/
def HexText (separator : Char) (groups : List Nat) (count : Nat) (value : String) : Prop :=
  ∃ digits : List Char, digits.length = count * 2 ∧ (∀ digit ∈ digits, isHexDigit digit = true) ∧
    value.toList = separate separator groups digits

def lowerCase (value : String) : String :=
  String.ofList (value.toList.map Char.toLower)

theorem HexText.no_sign {separator : Char} {groups : List Nat} {count : Nat} {value : String}
    (hseparator : separator ≠ '+') (htext : HexText separator groups count value) :
    '+' ∉ value.toList := by
  obtain ⟨digits, -, hdigits, hvalue⟩ := htext
  rw [hvalue]
  intro hsign
  rcases mem_separate hsign with hsame | hdigit
  · exact hseparator hsame.symm
  · exact absurd (hdigits '+' hdigit) (by decide)

/-- An accepted text without a sign is digits in their groups, and is written in lower
case. -/
theorem written_of_no_sign {separator : Char} {groups : List Nat} {value : String}
    {pairs : List (List Char)} {bytes : List UInt8} (hlower : separator.toLower = separator)
    (hvalue : value.toList = separate separator groups pairs.flatten)
    (hreads : List.Forall₂ ReadsByte pairs bytes) (hsign : '+' ∉ value.toList) :
    HexText separator groups bytes.length value ∧
      String.ofList (separate separator groups (bytes.flatMap hexPair)) = lowerCase value := by
  have hfree : ∀ char ∈ pairs.flatten, char ≠ '+' := by
    rintro char hchar rfl
    rw [hvalue] at hsign
    exact hsign (mem_separate_of_mem separator groups hchar)
  have hdigits : ∀ char ∈ pairs.flatten, isHexDigit char = true := fun char hchar =>
    (sign_or_digit hreads char hchar).resolve_left (hfree char hchar)
  refine ⟨⟨pairs.flatten, ?_, hdigits, hvalue⟩, ?_⟩
  · have hlength := encoded_length hreads
    rw [encode_ascii fun char hchar => ascii_of_sign_or_digit (.inr (hdigits char hchar)),
      List.length_map] at hlength
    exact hlength
  · rw [(hexPairs_toLower_iff hreads).mpr hfree, lowerCase, hvalue, map_separate, hlower]

/-- The written bytes are accepted. -/
theorem separate_hexPairs (separator : Char) (groups : List Nat) (bytes : List UInt8) :
    ∃ pairs : List (List Char),
      (String.ofList (separate separator groups (bytes.flatMap hexPair))).toList =
        separate separator groups pairs.flatten ∧ List.Forall₂ ReadsByte pairs bytes := by
  refine ⟨bytes.map hexPair, ?_, forall₂_readsByte_hexPair bytes⟩
  rw [String.toList_ofList, List.flatMap_def]

theorem parseGuid_formatGuid (guid : Vector UInt8 16) : parseGuid (formatGuid guid) = .ok guid :=
  parseGuid_eq_ok_iff.mpr (separate_hexPairs '-' guidGroups _)

theorem parseMac_formatMac (macAddress : Vector UInt8 6) :
    parseMac (formatMac macAddress) = .ok macAddress :=
  parseMac_eq_ok_iff.mpr (separate_hexPairs ':' macGroups _)

/-! ## What is read back -/

theorem into_ofPower (power : DevicePower) : (PowerFile.ofPower power).into = power := by
  cases power <;> rfl

theorem ofPower_into (power : PowerFile) : PowerFile.ofPower power.into = power := by
  cases power <;> rfl

theorem profileResult_eq_ok_iff {α : Type} {result : Except DeviceProfileError α} {value : α} :
    profileResult result = .ok value ↔ result = .ok value :=
  mapError_eq_ok_iff

namespace DeviceFile

/-- A file is accepted exactly for a profile with its texts, its power and what its
identifiers are read as. -/
theorem intoProfile_eq_ok_iff {file : DeviceFile} {profile : DeviceProfile} :
    file.intoProfile = .ok profile ↔
      file.schemaVersion = deviceSchemaVersion ∧ parseGuid file.guid = .ok profile.guid ∧
        parseMac file.macAddress = .ok profile.macAddress ∧ profile.Derived ∧
          profile.portrait.text = file.toPortraitText ∧ profile.power = file.power.into := by
  unfold intoProfile
  constructor
  · intro hfile
    obtain ⟨⟨⟩, hversion, hfile⟩ := bind_eq_ok_iff.mp hfile
    obtain ⟨portrait, hportrait, hfile⟩ := bind_eq_ok_iff.mp hfile
    obtain ⟨guid, hguid, hfile⟩ := bind_eq_ok_iff.mp hfile
    obtain ⟨macAddress, hmac, hfile⟩ := bind_eq_ok_iff.mp hfile
    obtain ⟨hderived, rfl, rfl, rfl, hpower⟩ :=
      DeviceProfile.fromPortrait_eq_ok_iff.mp (profileResult_eq_ok_iff.mp hfile)
    have htext := DevicePortrait.new_eq_ok_iff.mp (profileResult_eq_ok_iff.mp hportrait)
    exact ⟨not_not.mp (rejectIf_eq_ok_iff.mp hversion), hguid, hmac, hderived, htext, hpower⟩
  · rintro ⟨hversion, hguid, hmac, hderived, htext, hpower⟩
    have hportrait := DevicePortrait.new_eq_ok_iff.mpr htext
    have hprofile := DeviceProfile.fromPortrait_eq_ok_iff.mpr ⟨hderived, rfl, rfl, rfl, hpower⟩
    refine bind_eq_ok_iff.mpr ⟨(), rejectIf_eq_ok_iff.mpr (not_not.mpr hversion), ?_⟩
    refine bind_eq_ok_iff.mpr ⟨_, profileResult_eq_ok_iff.mpr hportrait, ?_⟩
    refine bind_eq_ok_iff.mpr ⟨_, hguid, bind_eq_ok_iff.mpr ⟨_, hmac, ?_⟩⟩
    exact profileResult_eq_ok_iff.mpr hprofile

/-- The file of a profile that was built from a portrait is a file of this profile. -/
theorem intoProfile_fromProfile {profile : DeviceProfile} (hderived : profile.Derived) :
    (fromProfile profile).intoProfile = .ok profile :=
  intoProfile_eq_ok_iff.mpr ⟨rfl, parseGuid_formatGuid _, parseMac_formatMac _, hderived, rfl,
    (into_ofPower _).symm⟩

/-- The identifiers are digits in their groups, and the file is written again as it was
but for their case. -/
structure Faithful (file : DeviceFile) (profile : DeviceProfile) : Prop where
  guid : HexText '-' guidGroups 16 file.guid
  macAddress : HexText ':' macGroups 6 file.macAddress
  rewritten : fromProfile profile =
    { file with guid := lowerCase file.guid, macAddress := lowerCase file.macAddress }

theorem faithful_iff {file : DeviceFile} {profile : DeviceProfile}
    (haccepted : file.intoProfile = .ok profile) :
    file.Faithful profile ↔ '+' ∉ file.guid.toList ∧ '+' ∉ file.macAddress.toList := by
  obtain ⟨hversion, hguid, hmac, -, htext, hpower⟩ := intoProfile_eq_ok_iff.mp haccepted
  constructor
  · intro hfaithful
    exact ⟨hfaithful.guid.no_sign (by decide), hfaithful.macAddress.no_sign (by decide)⟩
  · rintro ⟨hguidSign, hmacSign⟩
    obtain ⟨guidPairs, hguidText, hguidReads⟩ := parseGuid_eq_ok_iff.mp hguid
    obtain ⟨macPairs, hmacText, hmacReads⟩ := parseMac_eq_ok_iff.mp hmac
    obtain ⟨hguidHex, hguidWritten⟩ :=
      written_of_no_sign (by decide) hguidText hguidReads hguidSign
    obtain ⟨hmacHex, hmacWritten⟩ := written_of_no_sign (by decide) hmacText hmacReads hmacSign
    rw [Vector.length_toList] at hguidHex hmacHex
    refine ⟨hguidHex, hmacHex, ?_⟩
    rw [← hguidWritten, ← hmacWritten]
    obtain ⟨text, version, guid, macAddress, power⟩ := file
    obtain rfl : deviceSchemaVersion = version := hversion.symm
    obtain rfl : profile.portrait.text = text := htext
    unfold fromProfile
    rw [hpower, ofPower_into]
    rfl

end DeviceFile

/-- Profiles that are built from portraits are read back from their files, and a file
that is accepted has proper identifiers, and is written again as it was but for their
case, exactly when they have no plus sign. -/
theorem device_file_faithful_iff (json : DeviceJson) :
    (∀ guid macAddress portrait power profile,
      DeviceProfile.fromPortrait guid macAddress portrait power = .ok profile →
        json.ReadsBack (.fromProfile profile) →
          ∃ bytes, encode json profile = .ok bytes ∧ decode json bytes = .ok profile) ∧
    ∀ bytes file profile, json.fromSlice bytes = some file → decode json bytes = .ok profile →
      (file.Faithful profile ↔ '+' ∉ file.guid.toList ∧ '+' ∉ file.macAddress.toList) := by
  constructor
  · rintro guid macAddress portrait power profile hbuilt ⟨encoded, hencoded, hread⟩
    have hderived := (DeviceProfile.fromPortrait_eq_ok_iff.mp hbuilt).1
    refine ⟨encoded ++ [0x0a], bind_eq_ok_iff.mpr ⟨encoded, okOr_eq_ok_iff.mpr hencoded, rfl⟩, ?_⟩
    exact bind_eq_ok_iff.mpr
      ⟨_, okOr_eq_ok_iff.mpr hread, DeviceFile.intoProfile_fromProfile hderived⟩
  · intro bytes file profile hfile hdecode
    obtain ⟨other, hother, haccepted⟩ := bind_eq_ok_iff.mp hdecode
    obtain rfl : file = other :=
      Option.some.inj (hfile.symm.trans (okOr_eq_ok_iff.mp hother))
    exact DeviceFile.faithful_iff haccepted

/-- The reader and the writer on one file and its text. -/
def DeviceJson.single (file : DeviceFile) (text : String) : DeviceJson where
  fromSlice bytes := if bytes = utf8Bytes text ++ [0x0a] then some file else none
  toVecPretty other := if other = file then some (utf8Bytes text) else none

theorem DeviceJson.single_fromSlice (file : DeviceFile) (text : String) :
    (DeviceJson.single file text).fromSlice (utf8Bytes text ++ [0x0a]) = some file :=
  if_pos rfl

theorem DeviceJson.single_readsBack (file : DeviceFile) (text : String) :
    (DeviceJson.single file text).ReadsBack file :=
  ⟨utf8Bytes text, if_pos rfl, single_fromSlice file text⟩

def officePortrait : PortraitText where
  archetype := "uos-m720q"
  profileCategory := "domestic-enterprise"
  hostname := "uos-office-42"
  deviceName := "ThinkCentre M720q"
  hardwareModel := "Lenovo ThinkCentre M720q"
  osRelease := "Linux 4.19.0-amd64-desktop x86_64"
  distro := "UOS Desktop 20 Professional"
  desktopEnvironment := "DDE"
  sessionType := "x11"
  loginName := "office"
  networkInterface := "enp1s0"
  rootFilesystemBytes := "255852544000"
  memoryTotalKib := "7864320"
  timezone := "Asia/Shanghai"

/-- A file in which the last pair of the GUID is a parameter. -/
def officeFile (pair : String) : DeviceFile where
  toPortraitText := officePortrait
  schemaVersion := 4
  guid := "00112233-4455-6677-8899-aabbccddee" ++ pair
  macAddress := "02:11:22:33:44:55"
  power := .desktop

def officeProfile : DeviceProfile where
  guid := #v[0x33, 0x22, 0x11, 0x00, 0x55, 0x44, 0x77, 0x66, 0x88, 0x99, 0xaa, 0xbb, 0xcc, 0xdd,
    0xee, 0x0f]
  macAddress := #v[0x02, 0x11, 0x22, 0x33, 0x44, 0x55]
  deviceName := "uos-office-42"
  model := "Lenovo ThinkCentre M720q"
  systemKernel := "Linux 4.19.0-amd64-desktop"
  kernelVersion := "4.19.0-amd64-desktop"
  power := .desktop
  portrait := ⟨officePortrait, by decide⟩
  identity := by decide

theorem officeProfile_derived : officeProfile.Derived :=
  ⟨rfl, rfl, by decide, by decide⟩

/-- Both spellings of the last pair are read as the same byte. -/
theorem intoProfile_officeFile {pair : String} (hpair : pair = "0f" ∨ pair = "+f") :
    (officeFile pair).intoProfile = .ok officeProfile := by
  refine DeviceFile.intoProfile_eq_ok_iff.mpr
    ⟨rfl, ?_, by rfl, officeProfile_derived, rfl, rfl⟩
  rcases hpair with rfl | rfl <;> rfl

theorem decode_single {file : DeviceFile} {profile : DeviceProfile} (text : String)
    (haccepted : file.intoProfile = .ok profile) :
    decode (.single file text) (utf8Bytes text ++ [0x0a]) = .ok profile :=
  bind_eq_ok_iff.mpr
    ⟨file, okOr_eq_ok_iff.mpr (DeviceJson.single_fromSlice file text), haccepted⟩

/-- `serde_json`'s text of the file. -/
def officeText (pair : String) : String :=
  "\x7b\n  \"schema_version\": 4,\n  \"guid\": \"00112233-4455-6677-8899-aabbccddee" ++ pair ++
  "\",\n  \"mac_address\": \"02:11:22:33:44:55\",\n  \"archetype\": \"uos-m720q\",\n" ++
  "  \"profile_category\": \"domestic-enterprise\",\n  \"hostname\": \"uos-office-42\",\n" ++
  "  \"device_name\": \"ThinkCentre M720q\",\n" ++
  "  \"hardware_model\": \"Lenovo ThinkCentre M720q\",\n" ++
  "  \"os_release\": \"Linux 4.19.0-amd64-desktop x86_64\",\n" ++
  "  \"distro\": \"UOS Desktop 20 Professional\",\n  \"desktop_environment\": \"DDE\",\n" ++
  "  \"session_type\": \"x11\",\n  \"login_name\": \"office\",\n" ++
  "  \"network_interface\": \"enp1s0\",\n  \"root_filesystem_bytes\": \"255852544000\",\n" ++
  "  \"memory_total_kib\": \"7864320\",\n  \"timezone\": \"Asia/Shanghai\",\n" ++
  "  \"power\": \x7b\n    \"kind\": \"desktop\"\n  \x7d\n\x7d"

/-- The profile of an office machine is read back, and its file has no sign. -/
theorem office_profile_read_back :
    (∃ bytes, encode (.single (officeFile "0f") (officeText "0f")) officeProfile = .ok bytes ∧
      decode (.single (officeFile "0f") (officeText "0f")) bytes = .ok officeProfile) ∧
    (officeFile "0f").Faithful officeProfile := by
  have hlaw := device_file_faithful_iff (.single (officeFile "0f") (officeText "0f"))
  have hbuilt := DeviceProfile.fromPortrait_eq_ok_iff.mpr
    ⟨officeProfile_derived, rfl, rfl, rfl, rfl⟩
  have hfile : DeviceFile.fromProfile officeProfile = officeFile "0f" := by decide
  have hdecode := decode_single (officeText "0f") (intoProfile_officeFile (.inl rfl))
  refine ⟨hlaw.1 _ _ _ _ _ hbuilt (hfile ▸ DeviceJson.single_readsBack _ _), ?_⟩
  exact (hlaw.2 _ _ _ (DeviceJson.single_fromSlice _ _) hdecode).mpr (by decide)

/-- A GUID with a sign in it is accepted, and written as another text. -/
theorem signed_identifier_accepted :
    decode (.single (officeFile "+f") (officeText "+f")) (utf8Bytes (officeText "+f") ++ [0x0a]) =
        .ok officeProfile ∧
      '+' ∈ (officeFile "+f").guid.toList ∧
        (DeviceFile.fromProfile officeProfile).guid ≠ lowerCase (officeFile "+f").guid :=
  ⟨decode_single _ (intoProfile_officeFile (.inr rfl)), by decide, by decide⟩

end Config
end Lirvena
