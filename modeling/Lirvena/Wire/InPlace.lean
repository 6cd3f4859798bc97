import Lirvena.Wire.WireWriter

/-!
# Reading and writing in place

The reader with its cursor and the writer with its contents, kept also when a call
fails.  A write of plain bytes that fails leaves the writer as it was; a prefixed field
is two such writes, so that a body without room leaves its prefix behind.
-/

namespace Lirvena
namespace Wire
namespace InPlace

open Lib

/-! ## The writer -/

def putBytes (bytes : List UInt8) (writer : WireWriter) : WireWriter × Except WireError Unit :=
  match checkedAddU64 writer.output.length bytes.length with
  | none => (writer, .error .lengthOverflow)
  | some length =>
      if writer.maximum < length then
        (writer, .error (.lengthLimitExceeded writer.maximum length))
      else
        (writer.append bytes, .ok ())

/-- The prefix is put before the body is checked. -/
def putPrefixedBytes (kind : LengthPrefix) (bytes : List UInt8) (writer : WireWriter) :
    WireWriter × Except WireError Unit :=
  match WireWriter.declaredLength kind bytes.length with
  | none => (writer, .error .lengthOverflow)
  | some declared =>
      if 256 ^ kind.width ≤ declared then
        (writer, .error (.lengthLimitExceeded (256 ^ kind.width - 1) declared))
      else
        match putBytes (beBytes kind.width declared) writer with
        | (next, .error error) => (next, .error error)
        | (next, .ok ()) => putBytes bytes next

/-- The writer that a successful call leaves. -/
def written : WireWriter × Except WireError Unit → Except WireError WireWriter
  | (next, .ok ()) => .ok next
  | (_, .error error) => .error error

theorem written_putBytes (bytes : List UInt8) (writer : WireWriter) :
    written (putBytes bytes writer) = writer.putBytes bytes := by
  unfold putBytes WireWriter.putBytes
  cases checkedAddU64 writer.output.length bytes.length with
  | none => rfl
  | some length =>
      show written (if writer.maximum < length then _ else _) =
        (rejectIf _ (writer.maximum < length) >>= fun _ => .ok (writer.append bytes))
      unfold rejectIf
      split
      · rfl
      · rfl

/-- The calls in place and the calls of the writer that only counts when it succeeds. -/
theorem written_putPrefixedBytes (kind : LengthPrefix) (bytes : List UInt8)
    (writer : WireWriter) :
    written (putPrefixedBytes kind bytes writer) = writer.putPrefixedBytes kind bytes := by
  unfold putPrefixedBytes WireWriter.putPrefixedBytes
  cases WireWriter.declaredLength kind bytes.length with
  | none => rfl
  | some declared =>
      show written (if 256 ^ kind.width ≤ declared then _ else _) =
        (rejectIf _ (256 ^ kind.width ≤ declared) >>= fun _ =>
          writer.putBytes (beBytes kind.width declared) >>= fun next => next.putBytes bytes)
      unfold rejectIf
      split
      · rfl
      · rw [← written_putBytes]
        match putBytes (beBytes kind.width declared) writer with
        | (next, .error error) => rfl
        | (next, .ok ()) => exact written_putBytes bytes next

/-- Plain bytes are put or the writer is as it was. -/
theorem putBytes_cases (bytes : List UInt8) (writer : WireWriter) :
    (writer.output.length + bytes.length ≤ writer.maximum ∧
        putBytes bytes writer = (writer.append bytes, .ok ())) ∨
      (writer.maximum < writer.output.length + bytes.length ∧
        ∃ error, putBytes bytes writer = (writer, .error error)) := by
  have hword := writer.maximum_lt
  unfold putBytes
  by_cases hfits : writer.output.length + bytes.length ≤ writer.maximum
  · have hsum : checkedAddU64 writer.output.length bytes.length =
        some (writer.output.length + bytes.length) :=
      checkedAddU64_eq_some_iff.mpr ⟨by omega, rfl⟩
    rw [hsum]
    exact .inl ⟨hfits, if_neg (by omega)⟩
  · right
    refine ⟨by omega, ?_⟩
    split
    · exact ⟨_, rfl⟩
    · next length hsum =>
        obtain ⟨-, rfl⟩ := checkedAddU64_eq_some_iff.mp hsum
        exact ⟨_, if_pos (by omega)⟩

/-- The prefix fits and the body behind it does not. -/
def LosesBody (kind : LengthPrefix) (bytes : List UInt8) (writer : WireWriter) : Prop :=
  kind.declared bytes.length < 256 ^ kind.width ∧
    writer.output.length + kind.width ≤ writer.maximum ∧
    writer.maximum < writer.output.length + kind.width + bytes.length

theorem pow_width_le (kind : LengthPrefix) : 256 ^ kind.width ≤ u64Bound := by
  cases kind <;> decide

/-- A prefixed field is put whole, is refused whole, or loses its body. -/
theorem putPrefixedBytes_cases (kind : LengthPrefix) (bytes : List UInt8) (writer : WireWriter) :
    (putPrefixedBytes kind bytes writer = (writer.append (kind.encode bytes), .ok ()) ∧
        ¬ LosesBody kind bytes writer) ∨
      ((∃ error, putPrefixedBytes kind bytes writer = (writer, .error error)) ∧
        ¬ LosesBody kind bytes writer) ∨
      ((∃ error, putPrefixedBytes kind bytes writer =
          (writer.append (beBytes kind.width (kind.declared bytes.length)), .error error)) ∧
        LosesBody kind bytes writer) := by
  have hwidth := pow_width_le kind
  cases hdeclared : WireWriter.declaredLength kind bytes.length with
  | none =>
      refine .inr (.inl ⟨⟨.lengthOverflow, by simp [putPrefixedBytes, hdeclared]⟩, ?_⟩)
      rintro ⟨hfits, -, -⟩
      rw [WireWriter.declaredLength_of_lt (by omega)] at hdeclared
      cases hdeclared
  | some declared =>
      obtain rfl := WireWriter.declaredLength_eq_some hdeclared
      by_cases hlarge : 256 ^ kind.width ≤ kind.declared bytes.length
      · refine .inr (.inl ⟨⟨.lengthLimitExceeded (256 ^ kind.width - 1)
          (kind.declared bytes.length), ?_⟩, ?_⟩)
        · simp only [putPrefixedBytes, hdeclared, if_pos hlarge]
        · rintro ⟨hfits, -, -⟩
          omega
      · have hcall : putPrefixedBytes kind bytes writer =
            match putBytes (beBytes kind.width (kind.declared bytes.length)) writer with
            | (next, .error error) => (next, .error error)
            | (next, .ok ()) => putBytes bytes next := by
          simp only [putPrefixedBytes, hdeclared, if_neg hlarge]
        rw [hcall]
        rcases putBytes_cases (beBytes kind.width (kind.declared bytes.length)) writer with
          ⟨hroom, hput⟩ | ⟨hfull, error, hput⟩
        · rw [beBytes_length] at hroom
          rw [hput]
          rcases putBytes_cases bytes
              (writer.append (beBytes kind.width (kind.declared bytes.length))) with
            ⟨hbody, hput⟩ | ⟨hbody, error, hput⟩
          · left
            refine ⟨?_, ?_⟩
            · show putBytes bytes _ = _
              rw [hput, WireWriter.append_append, LengthPrefix.encode]
            · rintro ⟨-, -, hlost⟩
              simp only [WireWriter.append, List.length_append, beBytes_length] at hbody
              omega
          · right
            right
            simp only [WireWriter.append, List.length_append, beBytes_length] at hbody
            exact ⟨⟨error, hput⟩, by omega, hroom, hbody⟩
        · rw [beBytes_length] at hfull
          right
          left
          refine ⟨⟨error, by rw [hput]⟩, ?_⟩
          rintro ⟨-, hroom, -⟩
          omega

/-! ## The reader -/

/-- Forward-only bounded reader with its cursor; the packet is no longer than a machine
word can say. -/
@[ext] structure Reader where
  input : List UInt8
  cursor : Nat
  cursor_le : cursor ≤ input.length
  input_lt : input.length < u64Bound

def Reader.remaining (reader : Reader) : Nat :=
  reader.input.length - reader.cursor

/-- Borrows exactly so many bytes; the cursor moves only when they are there. -/
def readBytes (length : Nat) (reader : Reader) : Reader × Except WireError (List UInt8) :=
  match checkedAddU64 reader.cursor length with
  | none => (reader, .error .lengthOverflow)
  | some last =>
      if hlast : last ≤ reader.input.length then
        ({ reader with cursor := last, cursor_le := hlast },
          .ok (slice reader.input reader.cursor last))
      else
        (reader, .error (.truncated length reader.remaining))

/-- The prefix is consumed also when the field is rejected. -/
def readPrefixedBytes (kind : LengthPrefix) (maximum : Nat) (reader : Reader) :
    Reader × Except WireError (List UInt8) :=
  match readBytes kind.width reader with
  | (next, .error error) => (next, .error error)
  | (next, .ok declared) =>
      match WireReader.payloadLength kind (beNat declared) with
      | none => (next, .error .invalidInclusiveLength)
      | some length =>
          if maximum < length then
            (next, .error (.lengthLimitExceeded maximum length))
          else
            readBytes length next

/-- Bytes that are there are read, and others are refused without a move. -/
theorem readBytes_cases (length : Nat) (reader : Reader) :
    (∃ next, readBytes length reader =
        (next, .ok (slice reader.input reader.cursor (reader.cursor + length))) ∧
          next.input = reader.input ∧ next.cursor = reader.cursor + length) ∨
      (reader.input.length < reader.cursor + length ∧
        ∃ error, readBytes length reader = (reader, .error error)) := by
  have hword := reader.input_lt
  unfold readBytes
  split
  · next hsum =>
      right
      refine ⟨?_, _, rfl⟩
      by_contra hroom
      have hsome := checkedAddU64_eq_some_iff.mpr
        (show reader.cursor + length < u64Bound ∧ _ from ⟨by omega, rfl⟩)
      rw [hsum] at hsome
      cases hsome
  · next last hsum =>
      obtain ⟨-, rfl⟩ := checkedAddU64_eq_some_iff.mp hsum
      split
      · exact .inl ⟨_, rfl, rfl, rfl⟩
      · next hshort => exact .inr ⟨by omega, _, rfl⟩

/-- A field that was read stands at the cursor, and the cursor is behind it. -/
theorem readPrefixedBytes_sound {kind : LengthPrefix} {maximum : Nat} {reader next : Reader}
    {payload : List UInt8} (hread : readPrefixedBytes kind maximum reader = (next, .ok payload)) :
    next.cursor = reader.cursor + kind.width + payload.length ∧ next.input = reader.input ∧
      beNat (slice reader.input reader.cursor (reader.cursor + kind.width)) =
        kind.declared payload.length := by
  unfold readPrefixedBytes at hread
  rcases readBytes_cases kind.width reader with ⟨between, hlead, hinput, hcursor⟩ |
    ⟨-, error, hlead⟩
  · simp only [hlead] at hread
    split at hread
    · cases hread
    · next length hlength =>
        split at hread
        · cases hread
        · rcases readBytes_cases length between with ⟨last, hbody, hlast, hend⟩ |
            ⟨-, error, hbody⟩
          · rw [hbody] at hread
            cases hread
            have hinside := next.cursor_le
            rw [hlast, hend] at hinside
            rw [slice_length hinside, hend, hlast, hinput, hcursor]
            have hdeclared := WireReader.payloadLength_eq_some_iff.mp hlength
            have hsame : reader.cursor + kind.width + length - (reader.cursor + kind.width) =
                length := by
              omega
            rw [hsame]
            exact ⟨rfl, rfl, hdeclared⟩
          · rw [hbody] at hread
            cases hread
  · simp only [hlead] at hread
    cases hread

/-- A call never changes the packet and never moves back. -/
theorem readPrefixedBytes_frame (kind : LengthPrefix) (maximum : Nat) (reader : Reader) :
    (readPrefixedBytes kind maximum reader).1.input = reader.input ∧
      reader.cursor ≤ (readPrefixedBytes kind maximum reader).1.cursor := by
  unfold readPrefixedBytes
  rcases readBytes_cases kind.width reader with ⟨between, hlead, hinput, hcursor⟩ |
    ⟨-, error, hlead⟩
  · have hback : reader.cursor ≤ between.cursor := by omega
    simp only [hlead]
    split
    · exact ⟨hinput, hback⟩
    · next length hlength =>
        split
        · exact ⟨hinput, hback⟩
        · rcases readBytes_cases length between with ⟨last, hbody, hlast, hend⟩ |
            ⟨-, error, hbody⟩
          · rw [hbody]
            exact ⟨hlast.trans hinput, show reader.cursor ≤ last.cursor by omega⟩
          · rw [hbody]
            exact ⟨hinput, hback⟩
  · rw [hlead]
    exact ⟨rfl, Nat.le_refl _⟩

theorem readBytes_layout {before bytes after : List UInt8} (reader : Reader)
    (hinput : reader.input = before ++ (bytes ++ after)) (hcursor : reader.cursor = before.length) :
    ∃ next, readBytes bytes.length reader = (next, .ok bytes) ∧ next.input = reader.input ∧
      next.cursor = before.length + bytes.length := by
  rcases readBytes_cases bytes.length reader with ⟨next, hread, hnext, hend⟩ | ⟨hshort, -⟩
  · refine ⟨next, ?_, hnext, by omega⟩
    rw [hread, hinput, hcursor]
    simp [slice]
  · rw [hinput, hcursor, List.length_append, List.length_append] at hshort
    omega

/-- A field behind other bytes is read whole, and the cursor is left behind it. -/
theorem readPrefixedBytes_layout {kind : LengthPrefix} {maximum : Nat}
    {payload before after : List UInt8} (reader : Reader)
    (hinput : reader.input = before ++ (kind.encode payload ++ after))
    (hcursor : reader.cursor = before.length) (hlength : payload.length ≤ maximum)
    (hfits : kind.declared payload.length < 256 ^ kind.width) :
    ∃ next, readPrefixedBytes kind maximum reader = (next, .ok payload) ∧
      next.input = reader.input ∧
      next.cursor = before.length + (kind.encode payload).length := by
  rw [LengthPrefix.encode, List.append_assoc] at hinput
  obtain ⟨between, hlead, hbetween, hmiddle⟩ := readBytes_layout reader hinput hcursor
  have hrest : between.input =
      (before ++ beBytes kind.width (kind.declared payload.length)) ++ (payload ++ after) := by
    rw [hbetween, hinput, List.append_assoc]
  obtain ⟨next, hbody, hnext, hend⟩ := readBytes_layout between hrest
    (by rw [hmiddle, List.length_append])
  rw [beBytes_length] at hlead
  refine ⟨next, ?_, hnext.trans hbetween, ?_⟩
  · have hpayload : WireReader.payloadLength kind (kind.declared payload.length) =
        some payload.length :=
      WireReader.payloadLength_eq_some_iff.mpr rfl
    simp only [readPrefixedBytes, hlead, beNat_beBytes_of_lt hfits, hpayload,
      if_neg (Nat.not_lt.mpr hlength), hbody]
  · rw [hend, LengthPrefix.encode_length, List.length_append, beBytes_length, Nat.add_assoc]

/-- What the cursor has not passed. -/
def Reader.unread (reader : Reader) : List UInt8 :=
  reader.input.drop reader.cursor

theorem readBytes_unread {length : Nat} {reader next : Reader} {bytes : List UInt8}
    (hread : readBytes length reader = (next, .ok bytes)) :
    WireReader.readBytes length reader.unread = .ok (bytes, next.unread) := by
  rcases readBytes_cases length reader with ⟨last, hlast, hinput, hcursor⟩ | ⟨-, error, herror⟩
  · rw [hlast] at hread
    cases hread
    have hinside := next.cursor_le
    rw [hinput, hcursor] at hinside
    refine WireReader.readBytes_eq_ok_iff.mpr ⟨?_, ?_⟩
    · rw [Reader.unread, Reader.unread, hinput, hcursor, slice_append_drop _ (Nat.le_add_right _ _)]
    · rw [slice_length hinside]
      omega
  · rw [herror] at hread
    cases hread

/-- A field that is read in place is the one that is taken from the front of the unread
bytes. -/
theorem readPrefixedBytes_unread {kind : LengthPrefix} {maximum : Nat} {reader next : Reader}
    {payload : List UInt8} (hread : readPrefixedBytes kind maximum reader = (next, .ok payload)) :
    WireReader.readPrefixedBytes kind maximum reader.unread = .ok (payload, next.unread) := by
  unfold readPrefixedBytes at hread
  match hlead : readBytes kind.width reader with
  | (between, .error error) =>
      simp only [hlead] at hread
      cases hread
  | (between, .ok declared) =>
      simp only [hlead] at hread
      split at hread
      · cases hread
      · next length hlength =>
          split at hread
          · cases hread
          · next hbound =>
              have hword : WireReader.readWord kind.width reader.unread =
                  .ok (beNat declared, between.unread) :=
                bind_eq_ok_iff.mpr ⟨_, readBytes_unread hlead, rfl⟩
              refine bind_eq_ok_iff.mpr ⟨_, hword, ?_⟩
              refine bind_eq_ok_iff.mpr ⟨length, okOr_eq_ok_iff.mpr hlength, ?_⟩
              refine bind_eq_ok_iff.mpr ⟨(), rejectIf_eq_ok_iff.mpr hbound, ?_⟩
              exact readBytes_unread hread

/-! ## A field written and read again -/

/-- The call is refused, and the cursor stays in the packet. -/
def Refused (reader : Reader) (result : Reader × Except WireError (List UInt8)) : Prop :=
  (∃ error, result.2 = .error error) ∧ result.1.input = reader.input ∧
    result.1.cursor ≤ reader.input.length

/-- A field written behind what the writer holds is read back, a bad inclusive length is
refused, and a write that fails changes nothing. -/
structure FieldLaw (kind : LengthPrefix) (body : List UInt8) (writer : WireWriter) : Prop where
  reads_back : ∀ next, putPrefixedBytes kind body writer = (next, .ok ()) →
    ∀ (reader : Reader) (maximum : Nat) (after : List UInt8), body.length ≤ maximum →
      reader.input = next.output ++ after → reader.cursor = writer.output.length →
        ∃ left, readPrefixedBytes kind maximum reader = (left, .ok body) ∧
          left.input = reader.input ∧ left.cursor = next.output.length
  refuses : kind.includesPrefix = true → ∀ (reader : Reader) (maximum : Nat),
    reader.cursor + kind.width ≤ reader.input.length →
      beNat (slice reader.input reader.cursor (reader.cursor + kind.width)) < kind.width ∨
        reader.remaining <
          beNat (slice reader.input reader.cursor (reader.cursor + kind.width)) →
        Refused reader (readPrefixedBytes kind maximum reader)
  unchanged : ∀ error, (putPrefixedBytes kind body writer).2 = .error error →
    (putPrefixedBytes kind body writer).1 = writer

theorem refused_of_inclusive {kind : LengthPrefix} (hkind : kind.includesPrefix = true)
    (reader : Reader) (maximum : Nat)
    (hdeclared : beNat (slice reader.input reader.cursor (reader.cursor + kind.width)) <
        kind.width ∨
      reader.remaining <
        beNat (slice reader.input reader.cursor (reader.cursor + kind.width))) :
    Refused reader (readPrefixedBytes kind maximum reader) := by
  obtain ⟨hinput, -⟩ := readPrefixedBytes_frame kind maximum reader
  have hinside := (readPrefixedBytes kind maximum reader).1.cursor_le
  rw [hinput] at hinside
  refine ⟨?_, hinput, hinside⟩
  match hread : readPrefixedBytes kind maximum reader with
  | (next, .error error) => exact ⟨error, rfl⟩
  | (next, .ok payload) =>
      -- an accepted length counts its own prefix and stays in the packet
      obtain ⟨hcursor, hnext, hlength⟩ := readPrefixedBytes_sound hread
      have hend := next.cursor_le
      rw [hnext] at hend
      simp only [LengthPrefix.declared, hkind, if_true] at hlength
      unfold Reader.remaining at hdeclared
      omega

theorem reads_back_of_put {kind : LengthPrefix} {body : List UInt8} {writer next : WireWriter}
    (hput : putPrefixedBytes kind body writer = (next, .ok ())) {reader : Reader} {maximum : Nat}
    {after : List UInt8} (hlength : body.length ≤ maximum)
    (hinput : reader.input = next.output ++ after)
    (hcursor : reader.cursor = writer.output.length) :
    ∃ left, readPrefixedBytes kind maximum reader = (left, .ok body) ∧
      left.input = reader.input ∧ left.cursor = next.output.length := by
  have hwritten : writer.putPrefixedBytes kind body = .ok next := by
    rw [← written_putPrefixedBytes, hput]
    rfl
  obtain ⟨hfits, -, rfl⟩ := WireWriter.putPrefixedBytes_eq_ok_iff.mp hwritten
  rw [WireWriter.append, List.append_assoc] at hinput
  obtain ⟨left, hread, hleft, hend⟩ :=
    readPrefixedBytes_layout reader hinput hcursor hlength hfits
  refine ⟨left, hread, hleft, ?_⟩
  rw [hend, WireWriter.append, List.length_append]

/-- The three laws hold of a field and a writer unless the writer has room for the prefix
and not for the body. -/
theorem fieldLaw_iff (kind : LengthPrefix) (body : List UInt8) (writer : WireWriter) :
    FieldLaw kind body writer ↔ ¬ LosesBody kind body writer := by
  constructor
  · intro hlaw hloses
    rcases putPrefixedBytes_cases kind body writer with
      ⟨-, hkept⟩ | ⟨-, hkept⟩ | ⟨⟨error, hput⟩, -⟩
    · exact hkept hloses
    · exact hkept hloses
    · have hsame := hlaw.unchanged error (by rw [hput])
      rw [hput] at hsame
      have hlength := congrArg (fun kept => kept.output.length) hsame
      simp only [WireWriter.append, List.length_append, beBytes_length] at hlength
      have hwidth : 0 < kind.width := by cases kind <;> decide
      omega
  · intro hkept
    refine ⟨?_, ?_, ?_⟩
    · intro next hput reader maximum after hlength hinput hcursor
      exact reads_back_of_put hput hlength hinput hcursor
    · intro hkind reader maximum _ hdeclared
      exact refused_of_inclusive hkind reader maximum hdeclared
    · intro error herror
      rcases putPrefixedBytes_cases kind body writer with
        ⟨hput, -⟩ | ⟨⟨_, hput⟩, -⟩ | ⟨-, hloses⟩
      · rw [hput] at herror
        cases herror
      · rw [hput]
      · exact absurd hloses hkept

/-! ## A prefix without its body -/

/-- An empty writer for two bytes. -/
def smallWriter : WireWriter :=
  .new 2 (by decide)

/-- The prefix of a body of two bytes is left behind. -/
theorem short_writer_keeps_prefix :
    (putPrefixedBytes .u8Payload [1, 2] smallWriter).2 = .error (.lengthLimitExceeded 2 3) ∧
      (putPrefixedBytes .u8Payload [1, 2] smallWriter).1.output = [2] ∧
      ¬ FieldLaw .u8Payload [1, 2] smallWriter := by
  refine ⟨by decide, by decide, ?_⟩
  intro hlaw
  have hsame := hlaw.unchanged (.lengthLimitExceeded 2 3) (by decide)
  exact absurd (congrArg WireWriter.output hsame) (by decide)

end InPlace
end Wire
end Lirvena
