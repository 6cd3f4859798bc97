import Lirvena.OneBot.RequestFlag

/-!
# The canonical flags of requests

A flag is the version prefix of its kind followed by the bytes of the reference as
pairs of lower-case digits.  Every reference is read back from its flag.  The parsers
accept more than the flags that are written: a flag that is accepted is the one that
is written for its reference exactly when all of it, after the prefix, is lower-case
digits.
-/

namespace Lirvena
namespace OneBot

open Lib
open Lib.Json

/-- The prefix, then two digits for each byte. -/
def flagText (front : List Char) (bytes : List UInt8) : String :=
  String.ofList (front ++ bytes.flatMap hexPair)

/-- What follows the prefix is lower-case digits. -/
def CanonicalDigits (front : List Char) (flag : String) : Prop :=
  ∀ char ∈ flag.toList.drop front.length, isLowerHexDigit char = true

instance (front : List Char) (flag : String) : Decidable (CanonicalDigits front flag) :=
  inferInstanceAs (Decidable (∀ char ∈ _, isLowerHexDigit char = true))

/-! ## Prefix and pairs -/

theorem stripPrefix_eq_some_iff {front text rest : List Char} :
    stripPrefix front text = some rest ↔ text = front ++ rest := by
  unfold stripPrefix
  constructor
  · intro hstrip
    split at hstrip
    · next hprefix =>
        obtain ⟨tail, rfl⟩ := List.isPrefixOf_iff_prefix.mp hprefix
        rw [List.drop_left, Option.some_inj] at hstrip
        rw [hstrip]
    · cases hstrip
  · rintro rfl
    rw [if_pos (List.isPrefixOf_iff_prefix.mpr (List.prefix_append front rest)),
      List.drop_left]

theorem stripPrefix_flagText (front : List Char) (bytes : List UInt8) :
    stripPrefix front (flagText front bytes).toList = some (bytes.flatMap hexPair) := by
  rw [stripPrefix_eq_some_iff, flagText, String.toList_ofList]

theorem utf8Len_hexPairs (bytes : List UInt8) :
    utf8Len (bytes.flatMap hexPair) = 2 * bytes.length := by
  induction bytes with
  | nil => rfl
  | cons byte rest ih =>
      rw [List.flatMap_cons, utf8Len_append, utf8Len_hexPair, ih, List.length_cons]
      omega

/-- The whole text is read as bytes exactly when it is made of accepted pairs. -/
theorem readBytes_eq_ok_iff {text : List Char} {count : Nat} {bytes : List UInt8}
    (hlength : utf8Len text = 2 * count) :
    readPairs fromStrRadix16 EventHubError.invalidEvent text count 0 = some (.ok bytes) ↔
      ∃ pairs, text = pairs.flatten ∧ List.Forall₂ ReadsByte pairs bytes :=
  readPairs_eq_ok_iff [] hlength

/-- Written bytes are read back. -/
theorem readBytes_hexPairs (bytes : List UInt8) :
    readPairs fromStrRadix16 EventHubError.invalidEvent (bytes.flatMap hexPair) bytes.length 0 =
      some (.ok bytes) := by
  have hlength := utf8Len_hexPairs bytes
  rw [readBytes_eq_ok_iff hlength]
  exact ⟨bytes.map hexPair, by rw [List.flatMap_def], forall₂_readsByte_hexPair bytes⟩

/-- A text of accepted pairs has two bytes for each byte that is read. -/
theorem utf8Len_flatten {pairs : List (List Char)} {bytes : List UInt8}
    (hreads : List.Forall₂ ReadsByte pairs bytes) :
    utf8Len pairs.flatten = 2 * bytes.length := by
  induction hreads with
  | nil => rfl
  | cons hfirst _ ih =>
      rw [List.flatten_cons, utf8Len_append, hfirst.1, ih, List.length_cons]
      omega

/-- A flag whose pairs are accepted is the written one exactly when it is canonical. -/
theorem flagText_eq_iff {front text : List Char} {flag : String} {pairs : List (List Char)}
    {bytes : List UInt8} (hflag : stripPrefix front flag.toList = some text)
    (htext : text = pairs.flatten) (hreads : List.Forall₂ ReadsByte pairs bytes) :
    flagText front bytes = flag ↔ CanonicalDigits front flag := by
  have hsplit := stripPrefix_eq_some_iff.mp hflag
  rw [CanonicalDigits, hsplit, List.drop_left, htext, ← hexPairs_canonical_iff hreads,
    ← String.toList_inj, flagText, String.toList_ofList, hsplit, htext,
    List.append_right_inj]

/-! ## Group requests -/

namespace GroupRequestReference

def bytes (reference : GroupRequestReference) : List UInt8 :=
  beBytes 8 reference.sequence.toNat ++ beBytes 4 reference.eventType.toNat ++
    beBytes 4 reference.groupId.toNat

/-- Returns the canonical opaque flag. -/
def flag (reference : GroupRequestReference) : String :=
  flagText groupFlagPrefix reference.bytes

theorem bytes_length (reference : GroupRequestReference) : reference.bytes.length = 16 := by
  simp [bytes]

theorem new_eq_ok_iff {sequence : UInt64} {eventType groupId : UInt32}
    {reference : GroupRequestReference} :
    new sequence eventType groupId = .ok reference ↔
      reference.sequence = sequence ∧ reference.eventType = eventType ∧
        reference.groupId = groupId := by
  unfold new
  split
  · next hvalid =>
      constructor
      · intro hnew
        cases hnew
        exact ⟨rfl, rfl, rfl⟩
      · rintro ⟨rfl, rfl, rfl⟩
        rfl
  · next hinvalid =>
      constructor
      · intro hnew
        cases hnew
      · rintro ⟨rfl, rfl, rfl⟩
        exact absurd reference.valid hinvalid

/-- The three words are read from exactly the bytes that they are written as. -/
theorem ofBytes_eq_ok_iff {bytes : List UInt8} (hlength : bytes.length = 16)
    {reference : GroupRequestReference} :
    ofBytes bytes = .ok reference ↔ reference.bytes = bytes := by
  rw [ofBytes, new_eq_ok_iff, GroupRequestReference.bytes]
  constructor
  · rintro ⟨hsequence, heventType, hgroupId⟩
    have hfirst : (bytes.take 8).length = 8 := by
      rw [List.length_take]
      omega
    have hsecond : ((bytes.take 12).drop 8).length = 4 := by
      rw [List.length_drop, List.length_take]
      omega
    have hthird : (bytes.drop 12).length = 4 := by
      rw [List.length_drop]
      omega
    have hsequenceBytes := beBytes_beNat (bytes.take 8)
    have heventBytes := beBytes_beNat ((bytes.take 12).drop 8)
    have hgroupBytes := beBytes_beNat (bytes.drop 12)
    have hsequenceLt := beNat_lt (bytes.take 8)
    have heventLt := beNat_lt ((bytes.take 12).drop 8)
    have hgroupLt := beNat_lt (bytes.drop 12)
    rw [hfirst] at hsequenceBytes hsequenceLt
    rw [hsecond] at heventBytes heventLt
    rw [hthird] at hgroupBytes hgroupLt
    rw [hsequence, heventType, hgroupId, UInt64.toNat_ofNat_of_lt' hsequenceLt,
      UInt32.toNat_ofNat_of_lt' heventLt, UInt32.toNat_ofNat_of_lt' hgroupLt, hsequenceBytes,
      heventBytes, hgroupBytes]
    have hfront : bytes.take 8 ++ (bytes.take 12).drop 8 = bytes.take 12 := by
      have htake : (bytes.take 12).take 8 = bytes.take 8 := by rw [List.take_take]; rfl
      rw [← htake, List.take_append_drop]
    rw [hfront, List.take_append_drop]
  · rintro rfl
    have hfirst := beBytes_length 8 reference.sequence.toNat
    have hfront : (beBytes 8 reference.sequence.toNat ++
        beBytes 4 reference.eventType.toNat).length = 12 := by simp
    refine ⟨?_, ?_, ?_⟩
    · rw [List.append_assoc, List.take_left' hfirst, beNat_beBytes_of_lt
        reference.sequence.toNat_lt, UInt64.ofNat_toNat]
    · rw [List.take_left' hfront, List.drop_left' hfirst, beNat_beBytes_of_lt
        reference.eventType.toNat_lt, UInt32.ofNat_toNat]
    · rw [List.drop_left' hfront, beNat_beBytes_of_lt reference.groupId.toNat_lt,
        UInt32.ofNat_toNat]

theorem parse_flag (reference : GroupRequestReference) :
    parse reference.flag = some (.ok reference) := by
  have hlength : utf8Len (reference.bytes.flatMap hexPair) = flagHexBytes := by
    rw [utf8Len_hexPairs, bytes_length]
    rfl
  have hread := readBytes_hexPairs reference.bytes
  rw [bytes_length] at hread
  have hbytes := (ofBytes_eq_ok_iff reference.bytes_length).mpr rfl
  rw [parse, flag, stripPrefix_flagText]
  simp only [if_neg (not_not.mpr hlength), hread]
  exact congrArg some hbytes

/-- An accepted flag is the one that is written exactly when it is canonical. -/
theorem flag_eq_iff {flag : String} {reference : GroupRequestReference}
    (hparse : parse flag = some (.ok reference)) :
    reference.flag = flag ↔ CanonicalDigits groupFlagPrefix flag := by
  unfold parse at hparse
  split at hparse
  · cases hparse
  · next hex hprefix =>
      split at hparse
      · cases hparse
      · next hcount =>
          have hlength : utf8Len hex = 2 * 16 := not_not.mp hcount
          obtain ⟨read, hread, hparse⟩ := Option.bind_eq_some_iff.mp hparse
          cases read with
          | error failure => cases hparse
          | ok bytes =>
              obtain ⟨pairs, htext, hreads⟩ := (readBytes_eq_ok_iff hlength).mp hread
              have hsixteen : bytes.length = 16 := by
                have htotal := utf8Len_flatten hreads
                rw [← htext] at htotal
                omega
              have hbytes := (ofBytes_eq_ok_iff hsixteen).mp (Option.some.inj hparse)
              rw [GroupRequestReference.flag, hbytes]
              exact flagText_eq_iff hprefix htext hreads

end GroupRequestReference

/-! ## Friend requests -/

namespace FriendRequestReference

/-- Returns the canonical opaque flag. -/
def flag (reference : FriendRequestReference) : String :=
  flagText friendFlagPrefix (utf8Bytes reference.sourceUid)

theorem new_eq_ok_iff {sourceUid : String} {reference : FriendRequestReference} :
    new sourceUid = .ok reference ↔ reference.sourceUid = sourceUid := by
  unfold new
  split
  · next hvalid =>
      constructor
      · intro hnew
        cases hnew
        rfl
      · rintro rfl
        rfl
  · next hinvalid =>
      constructor
      · intro hnew
        cases hnew
      · rintro rfl
        exact absurd reference.valid hinvalid

theorem ofBytes_eq_ok_iff {bytes : List UInt8} {reference : FriendRequestReference} :
    ofBytes bytes = .ok reference ↔ utf8Bytes reference.sourceUid = bytes := by
  rw [ofBytes, bind_eq_ok_iff]
  constructor
  · rintro ⟨sourceUid, htext, hnew⟩
    rw [new_eq_ok_iff.mp hnew]
    exact fromUtf8_eq_some_iff.mp (okOr_eq_ok_iff.mp htext)
  · intro hbytes
    exact ⟨reference.sourceUid, okOr_eq_ok_iff.mpr (fromUtf8_eq_some_iff.mpr hbytes),
      new_eq_ok_iff.mpr rfl⟩

/-- The bytes of a valid UID are between one and the maximum. -/
theorem sourceUid_bounds (reference : FriendRequestReference) :
    0 < (utf8Bytes reference.sourceUid).length ∧
      (utf8Bytes reference.sourceUid).length ≤ maxUidBytes := by
  have hvalid := reference.valid
  simp only [validFriendUid, boundedUid, Bool.and_eq_true, decide_eq_true_eq] at hvalid
  obtain ⟨⟨hne, hshort⟩, -⟩ := hvalid
  rw [utf8Bytes_length]
  refine ⟨Nat.pos_of_ne_zero ?_, hshort⟩
  intro hzero
  exact hne (String.utf8ByteSize_eq_zero_iff.mp hzero)

theorem parse_flag (reference : FriendRequestReference) :
    parse reference.flag = some (.ok reference) := by
  obtain ⟨hpos, hshort⟩ := reference.sourceUid_bounds
  have hlength := utf8Len_hexPairs (utf8Bytes reference.sourceUid)
  have hread := readBytes_hexPairs (utf8Bytes reference.sourceUid)
  have hbytes := ofBytes_eq_ok_iff.mpr (show utf8Bytes reference.sourceUid = _ from rfl)
  have hgood : ¬ ((utf8Bytes reference.sourceUid).flatMap hexPair = [] ∨
      utf8Len ((utf8Bytes reference.sourceUid).flatMap hexPair) % 2 ≠ 0 ∨
        utf8Len ((utf8Bytes reference.sourceUid).flatMap hexPair) > maxUidBytes * 2) := by
    rw [← utf8Len_eq_zero_iff, hlength]
    omega
  have hhalf : utf8Len ((utf8Bytes reference.sourceUid).flatMap hexPair) / 2 =
      (utf8Bytes reference.sourceUid).length := by
    rw [hlength]
    omega
  rw [parse, flag, stripPrefix_flagText]
  simp only [if_neg hgood, hhalf, hread]
  exact congrArg some hbytes

/-- An accepted flag is the one that is written exactly when it is canonical. -/
theorem flag_eq_iff {flag : String} {reference : FriendRequestReference}
    (hparse : parse flag = some (.ok reference)) :
    reference.flag = flag ↔ CanonicalDigits friendFlagPrefix flag := by
  unfold parse at hparse
  split at hparse
  · cases hparse
  · next encoded hprefix =>
      split at hparse
      · cases hparse
      · next hgood =>
          have hlength : utf8Len encoded = 2 * (utf8Len encoded / 2) := by omega
          obtain ⟨read, hread, hparse⟩ := Option.bind_eq_some_iff.mp hparse
          cases read with
          | error failure => cases hparse
          | ok bytes =>
              obtain ⟨pairs, htext, hreads⟩ := (readBytes_eq_ok_iff hlength).mp hread
              have hbytes := ofBytes_eq_ok_iff.mp (Option.some.inj hparse)
              rw [FriendRequestReference.flag, hbytes]
              exact flagText_eq_iff hprefix htext hreads

end FriendRequestReference

/-- Every reference is read back from its flag, and an accepted flag is the flag of its
reference exactly when all of it after the prefix is lower-case digits. -/
theorem flags_canonical_iff (flag : String) :
    (∀ reference : GroupRequestReference,
        GroupRequestReference.parse reference.flag = some (.ok reference)) ∧
      (∀ reference : FriendRequestReference,
        FriendRequestReference.parse reference.flag = some (.ok reference)) ∧
      (∀ reference, GroupRequestReference.parse flag = some (.ok reference) →
        (reference.flag = flag ↔ CanonicalDigits groupFlagPrefix flag)) ∧
      (∀ reference, FriendRequestReference.parse flag = some (.ok reference) →
        (reference.flag = flag ↔ CanonicalDigits friendFlagPrefix flag)) :=
  ⟨GroupRequestReference.parse_flag, FriendRequestReference.parse_flag,
    fun _ => GroupRequestReference.flag_eq_iff,
    fun _ => FriendRequestReference.flag_eq_iff⟩

/-- A plus sign and an upper-case letter are read as well, and the flag of the reference
is another text. -/
theorem signs_and_capitals_accepted :
    (∃ reference, GroupRequestReference.parse "lr1_00000000000000+A0000000100000001" =
        some (.ok reference) ∧
      reference.flag ≠ "lr1_00000000000000+A0000000100000001") ∧
      ∃ reference, FriendRequestReference.parse "lf1_4A" = some (.ok reference) ∧
        reference.flag ≠ "lf1_4A" :=
  ⟨⟨⟨10, 1, 1, by decide⟩, by decide +kernel, by decide +kernel⟩,
    ⟨⟨"J", by decide +kernel⟩, by decide +kernel, by decide +kernel⟩⟩

end OneBot
end Lirvena
