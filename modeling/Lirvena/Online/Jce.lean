import Lirvena.Lib.Bytes
import Lirvena.Lib.Text
import Lirvena.Online.InfoSync

/-!
# JCE fields

A field is a head, which holds a tag and a kind, and a body of that kind.  The
writer chooses the kind: an integer is put into the narrowest word that holds it,
and a short string behind a one-byte length.  The reader takes a body by the kind
of its head.

A writer only grows at its end, so an operation of the writer is the bytes it
pushes; a reader is the part of its input that is not read yet.
-/

namespace Lirvena
namespace Online
namespace Jce

open Lib

/-! ## Kinds -/

namespace Kind

/-- An integer of one byte. -/
@[match_pattern] abbrev byte : UInt8 := 0

/-- An integer of two bytes. -/
@[match_pattern] abbrev short : UInt8 := 1

/-- An integer of four bytes. -/
@[match_pattern] abbrev int : UInt8 := 2

/-- An integer of eight bytes. -/
@[match_pattern] abbrev long : UInt8 := 3

/-- A float; the source skips it without a name. -/
@[match_pattern] abbrev float : UInt8 := 4

/-- A double; the source skips it without a name. -/
@[match_pattern] abbrev double : UInt8 := 5

/-- A string behind a length of one byte. -/
@[match_pattern] abbrev stringOne : UInt8 := 6

/-- A string behind a length of four bytes. -/
@[match_pattern] abbrev stringFour : UInt8 := 7

/-- A count, and a key and a value for each. -/
@[match_pattern] abbrev map : UInt8 := 8

/-- A count, and a field for each. -/
@[match_pattern] abbrev list : UInt8 := 9

/-- Fields up to the end of the struct. -/
@[match_pattern] abbrev structBegin : UInt8 := 10

/-- The end of a struct, which has no body. -/
@[match_pattern] abbrev structEnd : UInt8 := 11

/-- The integer zero, which has no body. -/
@[match_pattern] abbrev zero : UInt8 := 12

/-- A byte string behind a head and a length. -/
@[match_pattern] abbrev simpleList : UInt8 := 13

end Kind

/-- The longest string or byte string that is read. -/
def maxValueLen : Nat := 1024 * 1024

/-- The deepest nesting that is skipped. -/
def maxDepth : Nat := 24

/-- The tag of a field and the kind of its body. -/
structure Head where
  tag : UInt8
  kind : UInt8
  deriving DecidableEq

instance (width : Nat) (value : Int) : Decidable (FitsSigned width value) :=
  inferInstanceAs (Decidable (_ ∧ _))

/-! ## The writer -/

namespace Writer

/-- A tag of 15 or more takes a byte of its own. -/
def head (tag kind : UInt8) : List UInt8 :=
  if tag < 15 then [(tag <<< 4) ||| kind] else [0xf0 ||| kind, tag]

/-- The narrowest form of an integer. -/
def integer (tag : UInt8) (value : Int64) : List UInt8 :=
  if value = 0 then head tag Kind.zero
  else if FitsSigned 1 value.toInt then head tag Kind.byte ++ signedBytes 1 value.toInt
  else if FitsSigned 2 value.toInt then head tag Kind.short ++ signedBytes 2 value.toInt
  else if FitsSigned 4 value.toInt then head tag Kind.int ++ signedBytes 4 value.toInt
  else head tag Kind.long ++ signedBytes 8 value.toInt

/-- `i64::try_from` of a length. -/
def lengthInteger (length : Nat) : Except OnlinePacketError Int64 :=
  if length < i64Bound then .ok (Int64.ofNat length) else .error .rejected

/-- A string behind the shortest length that holds it. -/
def string (tag : UInt8) (value : String) : Except OnlinePacketError (List UInt8) :=
  if value.utf8ByteSize < 256 then
    .ok (head tag Kind.stringOne ++ [UInt8.ofNat value.utf8ByteSize] ++ utf8Bytes value)
  else if value.utf8ByteSize < u32Bound then
    .ok (head tag Kind.stringFour ++ beBytes 4 value.utf8ByteSize ++ utf8Bytes value)
  else .error .rejected

/-- A byte string, which the reader calls a simple list. -/
def bytes (tag : UInt8) (value : List UInt8) : Except OnlinePacketError (List UInt8) := do
  let length ← lengthInteger value.length
  return head tag Kind.simpleList ++ head 0 Kind.byte ++ integer 0 length ++ value

/-- A map without entries. -/
def emptyMap (tag : UInt8) : List UInt8 :=
  head tag Kind.map ++ integer 0 0

/-- A list of integers, each under the tag zero. -/
def integerList (tag : UInt8) (values : List Int64) : Except OnlinePacketError (List UInt8) := do
  let length ← lengthInteger values.length
  return head tag Kind.list ++ integer 0 length ++ values.flatMap (integer 0)

end Writer

/-! ## The reader -/

namespace Reader

/-- Takes off so many bytes. -/
def take (length : Nat) (unread : List UInt8) :
    Except OnlinePacketError (List UInt8 × List UInt8) :=
  okOr .rejected (splitFront length unread)

/-- Takes off one byte. -/
def byte : List UInt8 → Except OnlinePacketError (UInt8 × List UInt8)
  | [] => .error .rejected
  | value :: rest => .ok (value, rest)

/-- Takes off a head of one or two bytes. -/
def head (unread : List UInt8) : Except OnlinePacketError (Head × List UInt8) := do
  let (raw, rest) ← byte unread
  if raw >>> 4 = 15 then
    let (tag, rest) ← byte rest
    return (⟨tag, raw &&& 0x0f⟩, rest)
  else return (⟨raw >>> 4, raw &&& 0x0f⟩, rest)

/-- A signed big-endian word. -/
def word (width : Nat) (unread : List UInt8) :
    Except OnlinePacketError (Int64 × List UInt8) := do
  let (bytes, rest) ← take width unread
  return (Int64.ofInt (beInt bytes), rest)

/-- An integer of any width, zero included. -/
def integer (kind : UInt8) (unread : List UInt8) :
    Except OnlinePacketError (Int64 × List UInt8) :=
  match kind with
  | Kind.zero => .ok (0, unread)
  | Kind.byte => word 1 unread
  | Kind.short => word 2 unread
  | Kind.int => word 4 unread
  | Kind.long => word 8 unread
  | _ => .error .rejected

/-- The length before the bytes of a string. -/
def stringLength (kind : UInt8) (unread : List UInt8) :
    Except OnlinePacketError (Nat × List UInt8) :=
  match kind with
  | Kind.stringOne => do
      let (length, rest) ← byte unread
      return (length.toNat, rest)
  | Kind.stringFour => do
      let (length, rest) ← take 4 unread
      return (beNat length, rest)
  | _ => .error .rejected

/-- The bytes of a string, within the bound. -/
def stringBytes (kind : UInt8) (unread : List UInt8) :
    Except OnlinePacketError (List UInt8 × List UInt8) := do
  let (length, rest) ← stringLength kind unread
  rejectIf .rejected (maxValueLen < length)
  take length rest

/-- A string, which has to be UTF-8. -/
def string (kind : UInt8) (unread : List UInt8) :
    Except OnlinePacketError (String × List UInt8) := do
  let (bytes, rest) ← stringBytes kind unread
  let value ← okOr .rejected (fromUtf8 bytes)
  return (value, rest)

/-- `usize::try_from`. -/
def count (value : Int64) : Except OnlinePacketError Nat :=
  if 0 ≤ value.toInt then .ok value.toInt.toNat else .error .rejected

/-- The count in front of a collection: an integer field that is not negative. -/
def collectionCount (maximum : Nat) (unread : List UInt8) :
    Except OnlinePacketError (Nat × List UInt8) := do
  let (head, rest) ← head unread
  let (value, rest) ← integer head.kind rest
  let count ← count value
  rejectIf .rejected (maximum < count)
  return (count, rest)

/-- A byte string: the kind of its bytes, a count and the bytes. -/
def simpleList (unread : List UInt8) : Except OnlinePacketError (List UInt8 × List UInt8) := do
  let (head, rest) ← head unread
  rejectIf .rejected (head.kind ≠ Kind.byte)
  let (length, rest) ← collectionCount maxValueLen rest
  take length rest

/-- Bytes are read from a string as well. -/
def bytes (kind : UInt8) (unread : List UInt8) :
    Except OnlinePacketError (List UInt8 × List UInt8) :=
  if kind ≠ Kind.simpleList then stringBytes kind unread else simpleList unread

/-- So many integers, each behind its head. -/
def integers : Nat → List UInt8 → Except OnlinePacketError (List Int64 × List UInt8)
  | 0, unread => .ok ([], unread)
  | count + 1, unread => do
      let (head, rest) ← head unread
      let (value, rest) ← integer head.kind rest
      let (values, rest) ← integers count rest
      return (value :: values, rest)

/-- A list of at most so many integers, whatever tags they have. -/
def integerList (kind : UInt8) (maximum : Nat) (unread : List UInt8) :
    Except OnlinePacketError (List Int64 × List UInt8) :=
  if kind ≠ Kind.list then .error .rejected
  else do
    let (count, rest) ← collectionCount maximum unread
    integers count rest

end Reader

/-! ## Values under tags -/

/-- What the writer writes as one field. -/
inductive Value where
  | integer (value : Int64)
  | string (value : String)
  | bytes (value : List UInt8)
  | integerList (values : List Int64)
  deriving DecidableEq

/-- The read that a value of some sort is taken with. -/
inductive Shape where
  | integer
  | string
  | bytes
  | integerList (maximum : Nat)
  deriving DecidableEq

/-- Writes a value as its own function does. -/
def Writer.value (tag : UInt8) : Value → Except OnlinePacketError (List UInt8)
  | .integer value => .ok (Writer.integer tag value)
  | .string value => Writer.string tag value
  | .bytes value => Writer.bytes tag value
  | .integerList values => Writer.integerList tag values

/-- Values written one after another. -/
def Writer.fields : List (UInt8 × Value) → Except OnlinePacketError (List UInt8)
  | [] => .ok []
  | (tag, value) :: rest => do
      let written ← Writer.value tag value
      let others ← Writer.fields rest
      return written ++ others

/-- Reads a value of the shape as its own function does. -/
def Reader.value (kind : UInt8) (unread : List UInt8) :
    Shape → Except OnlinePacketError (Value × List UInt8)
  | .integer => do
      let (value, rest) ← Reader.integer kind unread
      return (.integer value, rest)
  | .string => do
      let (value, rest) ← Reader.string kind unread
      return (.string value, rest)
  | .bytes => do
      let (value, rest) ← Reader.bytes kind unread
      return (.bytes value, rest)
  | .integerList maximum => do
      let (values, rest) ← Reader.integerList kind maximum unread
      return (.integerList values, rest)

/-- Values read one after another, each by its shape. -/
def Reader.fields : List Shape → List UInt8 →
    Except OnlinePacketError (List (UInt8 × Value) × List UInt8)
  | [], unread => .ok ([], unread)
  | shape :: shapes, unread => do
      let (head, rest) ← Reader.head unread
      let (value, rest) ← Reader.value head.kind rest shape
      let (values, rest) ← Reader.fields shapes rest
      return ((head.tag, value) :: values, rest)

/-- A value of the shape, within the bounds of the reader. -/
def Shape.Takes : Shape → Value → Prop
  | .integer, .integer _ => True
  | .string, .string value => value.utf8ByteSize ≤ maxValueLen
  | .bytes, .bytes value => value.length ≤ maxValueLen
  | .integerList maximum, .integerList values => values.length ≤ maximum
  | _, _ => False

/-! ## What is written is read back -/

theorem nibbles : ∀ high low : Fin 16,
    (UInt8.ofNat high <<< 4 ||| UInt8.ofNat low) >>> 4 = UInt8.ofNat high ∧
      (UInt8.ofNat high <<< 4 ||| UInt8.ofNat low) &&& 0x0f = UInt8.ofNat low := by
  decide

/-- The two nibbles of the first byte of a head. -/
theorem nibbles_of_lt {high low : UInt8} (hhigh : high < 16) (hlow : low < 16) :
    (high <<< 4 ||| low) >>> 4 = high ∧ (high <<< 4 ||| low) &&& 0x0f = low := by
  have hboth := nibbles ⟨high.toNat, hhigh⟩ ⟨low.toNat, hlow⟩
  simpa using hboth

theorem fitsSigned_eight (value : Int64) : FitsSigned 8 value.toInt := by
  have hlow := value.le_toInt
  have hhigh := value.toInt_lt
  unfold FitsSigned
  omega

namespace Reader

variable {rest : List UInt8}

@[simp] theorem head_write {tag kind : UInt8} (hkind : kind < 16) :
    head (Writer.head tag kind ++ rest) = .ok (⟨tag, kind⟩, rest) := by
  unfold Writer.head
  split
  · next htag =>
      have htag' : tag < 16 := UInt8.lt_trans htag (by decide)
      obtain ⟨hhigh, hlow⟩ := nibbles_of_lt htag' hkind
      have hshort : tag ≠ 15 := fun heq => absurd htag (by rw [heq]; decide)
      simp [head, byte, bind, Except.bind, pure, Except.pure, hhigh, hlow, hshort]
  · obtain ⟨hhigh, hlow⟩ := nibbles_of_lt (show (15 : UInt8) < 16 by decide) hkind
    have hraw : (15 : UInt8) <<< 4 = 0xf0 := by decide
    rw [hraw] at hhigh hlow
    simp [head, byte, bind, Except.bind, pure, Except.pure, hhigh, hlow]

theorem take_append (front : List UInt8) : take front.length (front ++ rest) = .ok (front, rest) :=
  okOr_eq_ok_iff.mpr (splitFront_append rest rfl)

theorem word_write {width : Nat} {value : Int64} (hfits : FitsSigned width value.toInt) :
    word width (signedBytes width value.toInt ++ rest) = .ok (value, rest) := by
  have htake : take (signedBytes width value.toInt).length
      (signedBytes width value.toInt ++ rest) = .ok (signedBytes width value.toInt, rest) :=
    take_append _
  rw [signedBytes_length] at htake
  simp [word, htake, bind, Except.bind, pure, Except.pure, beInt_signedBytes hfits]

/-- An integer is read back behind its head, in whatever form it was written. -/
theorem integer_write (tag : UInt8) (value : Int64) :
    ∃ kind body, Writer.integer tag value = Writer.head tag kind ++ body ∧ kind < 16 ∧
      ∀ rest, integer kind (body ++ rest) = .ok (value, rest) := by
  unfold Writer.integer
  split
  · next hzero => exact ⟨Kind.zero, [], by simp, by decide, fun rest => by rw [hzero]; rfl⟩
  split
  · next hfits => exact ⟨Kind.byte, _, rfl, by decide, fun rest => word_write hfits⟩
  split
  · next hfits => exact ⟨Kind.short, _, rfl, by decide, fun rest => word_write hfits⟩
  split
  · next hfits => exact ⟨Kind.int, _, rfl, by decide, fun rest => word_write hfits⟩
  · exact ⟨Kind.long, _, rfl, by decide, fun rest => word_write (fitsSigned_eight value)⟩

theorem collectionCount_write {length maximum : Nat} {value : Int64}
    (hwrite : Writer.lengthInteger length = .ok value) (hfits : length ≤ maximum) :
    collectionCount maximum (Writer.integer 0 value ++ rest) = .ok (length, rest) := by
  unfold Writer.lengthInteger at hwrite
  split at hwrite
  · next hbound =>
      cases hwrite
      obtain ⟨kind, body, hwritten, hkind, hread⟩ := integer_write 0 (Int64.ofNat length)
      have hcount : count (Int64.ofNat length) = .ok length := by
        simp [count, Int64.toInt_ofNat_of_lt hbound]
      rw [hwritten, List.append_assoc]
      simp [collectionCount, head_write hkind, hread, hcount, rejectIf, Nat.not_lt.mpr hfits, bind,
        Except.bind, pure, Except.pure]
  · cases hwrite

theorem integers_write (values : List Int64) :
    integers values.length (values.flatMap (Writer.integer 0) ++ rest) = .ok (values, rest) := by
  induction values with
  | nil => rfl
  | cons value values ih =>
      obtain ⟨kind, body, hwritten, hkind, hread⟩ := integer_write 0 value
      rw [List.flatMap_cons, hwritten, List.append_assoc, List.append_assoc]
      simp [integers, head_write hkind, hread, ih, bind, Except.bind, pure, Except.pure]

/-- A text is read back from its bytes behind their length. -/
theorem string_write (tag : UInt8) {text : String} {written : List UInt8}
    (hwrite : Writer.string tag text = .ok written) (hfits : text.utf8ByteSize ≤ maxValueLen) :
    ∃ kind body, written = Writer.head tag kind ++ body ∧ kind < 16 ∧
      ∀ rest, string kind (body ++ rest) = .ok (text, rest) := by
  have hread : fromUtf8 (utf8Bytes text) = some text := fromUtf8_eq_some_iff.mpr rfl
  have htake (rest : List UInt8) :
      take text.utf8ByteSize (utf8Bytes text ++ rest) = .ok (utf8Bytes text, rest) := by
    rw [← utf8Bytes_length]
    exact take_append (utf8Bytes text)
  have hstring {kind : UInt8} {unread rest : List UInt8} (hlength : stringLength kind unread =
      .ok (text.utf8ByteSize, utf8Bytes text ++ rest)) : string kind unread = .ok (text, rest) := by
    simp [string, stringBytes, hlength, rejectIf, Nat.not_lt.mpr hfits, htake, hread, okOr, bind,
      Except.bind, pure, Except.pure]
  unfold Writer.string at hwrite
  by_cases hshort : text.utf8ByteSize < 256
  · rw [if_pos hshort] at hwrite
    cases hwrite
    refine ⟨Kind.stringOne, UInt8.ofNat text.utf8ByteSize :: utf8Bytes text, by simp, by decide,
      fun rest => hstring ?_⟩
    have hlength : (UInt8.ofNat text.utf8ByteSize).toNat = text.utf8ByteSize :=
      UInt8.toNat_ofNat_of_lt' hshort
    simp only [stringLength, byte, hlength, bind, Except.bind, pure, Except.pure,
      List.cons_append]
    rfl
  · have hword : text.utf8ByteSize < u32Bound :=
      Nat.lt_of_le_of_lt hfits (by decide)
    rw [if_neg hshort, if_pos hword] at hwrite
    cases hwrite
    refine ⟨Kind.stringFour, beBytes 4 text.utf8ByteSize ++ utf8Bytes text, by simp, by decide,
      fun rest => hstring ?_⟩
    have hfour : take (beBytes 4 text.utf8ByteSize).length
        (beBytes 4 text.utf8ByteSize ++ (utf8Bytes text ++ rest)) =
          .ok (beBytes 4 text.utf8ByteSize, utf8Bytes text ++ rest) := take_append _
    rw [beBytes_length] at hfour
    have hnumber : beNat (beBytes 4 text.utf8ByteSize) = text.utf8ByteSize :=
      beNat_beBytes_of_lt hword
    simp only [stringLength, List.append_assoc, hfour, hnumber, bind, Except.bind, pure,
      Except.pure]
    rfl

/-- A byte string is read back from the simple list it was written as. -/
theorem bytes_write (tag : UInt8) {value written : List UInt8}
    (hwrite : Writer.bytes tag value = .ok written) (hfits : value.length ≤ maxValueLen) :
    ∃ kind body, written = Writer.head tag kind ++ body ∧ kind < 16 ∧
      ∀ rest, bytes kind (body ++ rest) = .ok (value, rest) := by
  obtain ⟨length, hlength, hreturn⟩ := bind_eq_ok_iff.mp hwrite
  cases hreturn
  refine ⟨Kind.simpleList, Writer.head 0 Kind.byte ++ (Writer.integer 0 length ++ value),
    by simp only [List.append_assoc], by decide, fun rest => ?_⟩
  simp [bytes, simpleList, head_write, Kind.byte, rejectIf, collectionCount_write hlength hfits,
    take_append, bind, Except.bind]

theorem integerList_body {values : List Int64} {length : Int64} {maximum : Nat}
    (hlength : Writer.lengthInteger values.length = .ok length) (hfits : values.length ≤ maximum) :
    integerList Kind.list maximum
      (Writer.integer 0 length ++ (values.flatMap (Writer.integer 0) ++ rest)) =
        .ok (values, rest) := by
  simp [integerList, collectionCount_write hlength hfits, integers_write, bind, Except.bind]

theorem integerList_write (tag : UInt8) {values : List Int64} {written : List UInt8}
    {maximum : Nat} (hwrite : Writer.integerList tag values = .ok written)
    (hfits : values.length ≤ maximum) :
    ∃ kind body, written = Writer.head tag kind ++ body ∧ kind < 16 ∧
      ∀ rest, integerList kind maximum (body ++ rest) = .ok (values, rest) := by
  obtain ⟨length, hlength, hreturn⟩ := bind_eq_ok_iff.mp hwrite
  cases hreturn
  refine ⟨Kind.list, Writer.integer 0 length ++ values.flatMap (Writer.integer 0),
    by simp only [List.append_assoc], by decide, fun rest => ?_⟩
  rw [List.append_assoc]
  exact integerList_body hlength hfits

theorem value_write (tag : UInt8) {shape : Shape} {value : Value} {written : List UInt8}
    (htakes : shape.Takes value) (hwrite : Writer.value tag value = .ok written) :
    ∃ kind body, written = Writer.head tag kind ++ body ∧ kind < 16 ∧
      ∀ rest, Reader.value kind (body ++ rest) shape = .ok (value, rest) := by
  have hsort {α : Type} {read : List UInt8 → Except OnlinePacketError (α × List UInt8)}
      {body rest : List UInt8} {result : α} (make : α → Value)
      (hread : read (body ++ rest) = .ok (result, rest)) :
      (do let (result, rest) ← read (body ++ rest); return (make result, rest)) =
        (.ok (make result, rest) : Except OnlinePacketError (Value × List UInt8)) :=
    bind_eq_ok_iff.mpr ⟨_, hread, rfl⟩
  cases shape <;> cases value <;> try exact htakes.elim
  case integer.integer value =>
    cases hwrite
    obtain ⟨kind, body, hwritten, hkind, hread⟩ := integer_write tag value
    exact ⟨kind, body, hwritten, hkind, fun rest => hsort .integer (hread rest)⟩
  case string.string value =>
    obtain ⟨kind, body, hwritten, hkind, hread⟩ := string_write tag hwrite htakes
    exact ⟨kind, body, hwritten, hkind, fun rest => hsort .string (hread rest)⟩
  case bytes.bytes value =>
    obtain ⟨kind, body, hwritten, hkind, hread⟩ := bytes_write tag hwrite htakes
    exact ⟨kind, body, hwritten, hkind, fun rest => hsort .bytes (hread rest)⟩
  case integerList.integerList maximum values =>
    obtain ⟨kind, body, hwritten, hkind, hread⟩ := integerList_write tag hwrite htakes
    exact ⟨kind, body, hwritten, hkind, fun rest => hsort .integerList (hread rest)⟩

/-- Values of the shapes of a reader are read back, under the tags and in the order
they were written in, and nothing else is taken. -/
theorem fields_write {shapes : List Shape} {fields : List (UInt8 × Value)}
    (htakes : List.Forall₂ (fun shape field => shape.Takes field.2) shapes fields)
    {written : List UInt8} (hwrite : Writer.fields fields = .ok written) :
    Reader.fields shapes (written ++ rest) = .ok (fields, rest) := by
  induction htakes generalizing written with
  | nil =>
      cases hwrite
      rfl
  | @cons shape field shapes fields htake _ ih =>
      obtain ⟨front, hfront, hwrite⟩ := bind_eq_ok_iff.mp hwrite
      obtain ⟨others, hothers, hreturn⟩ := bind_eq_ok_iff.mp hwrite
      cases hreturn
      obtain ⟨kind, body, rfl, hkind, hread⟩ := value_write field.1 htake hfront
      rw [List.append_assoc, List.append_assoc]
      simp [Reader.fields, head_write hkind, hread, ih hothers, bind, Except.bind, pure,
        Except.pure]

end Reader

end Jce
end Online
end Lirvena
