import Lirvena.Lib.Bytes
import Lirvena.Lib.HexPairs
import Lirvena.OneBot.Projection

/-!
# The flags of requests

A group request and a friend request are answered by a flag that comes back from
the `OneBot` client as any text.  Both parsers check the length of the flag in
bytes and then slice it two bytes at a time; a slice that does not end on a
character boundary panics, which is no value and no error.
-/

namespace Lirvena
namespace OneBot

open Lib
open Lib.Json

/-- `str::strip_prefix` -/
def stripPrefix (front text : List Char) : Option (List Char) :=
  if front.isPrefixOf text then some (text.drop front.length) else none

/-! ## Group requests -/

def groupFlagPrefix : List Char := "lr1_".toList

def flagHexBytes : Nat := 32

def validGroupReference (sequence : UInt64) (eventType groupId : UInt32) : Bool :=
  sequence ≠ 0 && groupId ≠ 0 && (eventType = 1 || eventType = 2 || eventType = 22)

/-- Versioned opaque reference used to answer one group request. -/
structure GroupRequestReference where
  sequence : UInt64
  eventType : UInt32
  groupId : UInt32
  valid : validGroupReference sequence eventType groupId = true
  deriving DecidableEq

namespace GroupRequestReference

def new (sequence : UInt64) (eventType groupId : UInt32) :
    Except EventHubError GroupRequestReference :=
  if hvalid : validGroupReference sequence eventType groupId = true then
    .ok ⟨sequence, eventType, groupId, hvalid⟩
  else
    .error .invalidEvent

/-- The three words of a flag's bytes. -/
def ofBytes (bytes : List UInt8) : Except EventHubError GroupRequestReference :=
  new (UInt64.ofNat (beNat (bytes.take 8)))
    (UInt32.ofNat (beNat ((bytes.take 12).drop 8)))
    (UInt32.ofNat (beNat (bytes.drop 12)))

/-- Parses the canonical flag; nothing where a slice panics. -/
def parse (flag : String) : Option (Except EventHubError GroupRequestReference) :=
  match stripPrefix groupFlagPrefix flag.toList with
  | none => some (.error .invalidEvent)
  | some hex =>
      if utf8Len hex ≠ flagHexBytes then some (.error .invalidEvent)
      else do
        let bytes ← readPairs fromStrRadix16 EventHubError.invalidEvent hex 16 0
        return bytes >>= ofBytes

end GroupRequestReference

/-! ## Friend requests -/

def friendFlagPrefix : List Char := "lf1_".toList

def maxUidBytes : Nat := 128

/-- `validate_uid` accepts the UID. -/
def validFriendUid (uid : String) : Bool :=
  boundedUid maxUidBytes uid

/-- Versioned opaque reference used to answer one friend request. -/
structure FriendRequestReference where
  sourceUid : String
  valid : validFriendUid sourceUid = true
  deriving DecidableEq

namespace FriendRequestReference

def new (sourceUid : String) : Except EventHubError FriendRequestReference :=
  if hvalid : validFriendUid sourceUid = true then .ok ⟨sourceUid, hvalid⟩
  else .error .invalidEvent

def ofBytes (bytes : List UInt8) : Except EventHubError FriendRequestReference := do
  let sourceUid ← okOr .invalidEvent (fromUtf8 bytes)
  new sourceUid

/-- Parses the canonical flag; nothing where a slice panics. -/
def parse (flag : String) : Option (Except EventHubError FriendRequestReference) :=
  match stripPrefix friendFlagPrefix flag.toList with
  | none => some (.error .invalidEvent)
  | some encoded =>
      if encoded = [] ∨ utf8Len encoded % 2 ≠ 0 ∨ utf8Len encoded > maxUidBytes * 2 then
        some (.error .invalidEvent)
      else do
        let bytes ← readPairs fromStrRadix16 EventHubError.invalidEvent encoded
          (utf8Len encoded / 2) 0
        return bytes >>= ofBytes

end FriendRequestReference

/-! ## When a parser returns -/

/-- The text after a prefix, where it has a length that is sliced, can be read in
pairs. -/
def Sliceable (front : List Char) (sliced : Nat → Prop) (flag : String) : Prop :=
  ∀ text, stripPrefix front flag.toList = some text → sliced (utf8Len text) →
    pairable fromStrRadix16 text = true

theorem utf8Len_eq_zero_iff {text : List Char} : utf8Len text = 0 ↔ text = [] := by
  cases text with
  | nil => simp
  | cons char rest =>
      have hpos := char.utf8Size_pos
      rw [utf8Len_cons]
      simp
      omega

theorem GroupRequestReference.parse_isSome_iff (flag : String) :
    (GroupRequestReference.parse flag).isSome = true ↔
      Sliceable groupFlagPrefix (fun length => length = flagHexBytes) flag := by
  unfold GroupRequestReference.parse Sliceable
  cases stripPrefix groupFlagPrefix flag.toList with
  | none => simp
  | some hex =>
      simp only [Option.some.injEq, forall_eq']
      by_cases hlength : utf8Len hex = flagHexBytes
      · have hpairs := readPairs_start_isSome fromStrRadix16 EventHubError.invalidEvent
          (show utf8Len hex = 2 * 16 from hlength)
        rw [if_neg (not_not.mpr hlength), ← hpairs]
        cases readPairs fromStrRadix16 EventHubError.invalidEvent hex 16 0 <;> simp [hlength]
      · rw [if_pos hlength]
        simp [hlength]

theorem FriendRequestReference.parse_isSome_iff (flag : String) :
    (FriendRequestReference.parse flag).isSome = true ↔
      Sliceable friendFlagPrefix
        (fun length => 0 < length ∧ length % 2 = 0 ∧ length ≤ maxUidBytes * 2) flag := by
  unfold FriendRequestReference.parse Sliceable
  cases stripPrefix friendFlagPrefix flag.toList with
  | none => simp
  | some encoded =>
      simp only [Option.some.injEq, forall_eq']
      have hempty : utf8Len encoded = 0 ↔ encoded = [] := utf8Len_eq_zero_iff
      by_cases hbad : encoded = [] ∨ utf8Len encoded % 2 ≠ 0 ∨
          utf8Len encoded > maxUidBytes * 2
      · rw [if_pos hbad]
        rw [← hempty] at hbad
        constructor
        · intro _ hsliced
          omega
        · intro _
          rfl
      · have hsliced : 0 < utf8Len encoded ∧ utf8Len encoded % 2 = 0 ∧
            utf8Len encoded ≤ maxUidBytes * 2 := by
          rw [← hempty] at hbad
          omega
        have hpairs := readPairs_start_isSome fromStrRadix16 EventHubError.invalidEvent
          (show utf8Len encoded = 2 * (utf8Len encoded / 2) by omega)
        rw [if_neg hbad, ← hpairs]
        cases readPairs fromStrRadix16 EventHubError.invalidEvent encoded
          (utf8Len encoded / 2) 0 <;> simp [hsliced]

/-- Both parsers return a value or an error exactly on the flags whose text after the
prefix, where its length is one that is sliced, can be read in pairs. -/
theorem request_flags_return_iff (flag : String) :
    ((GroupRequestReference.parse flag).isSome = true ∧
        (FriendRequestReference.parse flag).isSome = true) ↔
      (Sliceable groupFlagPrefix (fun length => length = flagHexBytes) flag ∧
        Sliceable friendFlagPrefix
          (fun length => 0 < length ∧ length % 2 = 0 ∧ length ≤ maxUidBytes * 2) flag) :=
  and_congr (GroupRequestReference.parse_isSome_iff flag)
    (FriendRequestReference.parse_isSome_iff flag)

/-- A character of three bytes across the end of a pair. -/
theorem wide_character_panics :
    GroupRequestReference.parse "lr1_a€0000000000000000000000000000" = none ∧
      FriendRequestReference.parse "lf1_€0" = none := by
  decide

end OneBot
end Lirvena
