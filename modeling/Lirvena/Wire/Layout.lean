import Lirvena.Lib.Encoding
import Lirvena.Lib.Text
import Lirvena.Wire.Fixed
import Lirvena.Wire.WireWriter

/-!
# Layouts of fields

What the writer puts for a field, the reader takes from the front again, and the rest stays.
Fields of one kind are repeated as often as a count says.  Errors of the wire become the one
error of a manifest, and a manifest is accepted only if its value is encoded to it again.
-/

namespace Lirvena
namespace Wire

open Lib

variable {ε δ α β : Type}

/-- `map_err(|_| error)`. -/
def orReject (error : ε) (result : Except δ α) : Except ε α :=
  result.mapError fun _ => error

@[simp] theorem orReject_ok (error : ε) (value : α) :
    orReject error (.ok value : Except δ α) = .ok value :=
  rfl

@[simp] theorem orReject_eq_ok_iff {error : ε} {result : Except δ α} {value : α} :
    orReject error result = .ok value ↔ result = .ok value :=
  mapError_eq_ok_iff

theorem ok_bind (value : α) (next : α → Except ε β) :
    (Except.ok value >>= next) = next value :=
  rfl

/-! ## Fields -/

section Fields

variable (rest : List UInt8)

theorem readBytes_layout (bytes : List UInt8) :
    WireReader.readBytes bytes.length (bytes ++ rest) = .ok (bytes, rest) :=
  WireReader.readBytes_eq_ok_iff.mpr ⟨rfl, rfl⟩

theorem readU8_layout (value : UInt8) :
    WireReader.readU8 ([value] ++ rest) = .ok (value, rest) :=
  WireReader.readU8_eq_ok_iff.mpr rfl

theorem readU16_layout (value : UInt16) :
    WireReader.readU16 (beBytes 2 value.toNat ++ rest) = .ok (value, rest) :=
  WireReader.readU16_eq_ok_iff.mpr rfl

theorem readU32_layout (value : UInt32) :
    WireReader.readU32 (beBytes 4 value.toNat ++ rest) = .ok (value, rest) :=
  WireReader.readU32_eq_ok_iff.mpr rfl

theorem readPrefixed_layout {kind : LengthPrefix} {maximum : Nat} {payload : List UInt8}
    (hlength : payload.length ≤ maximum)
    (hfits : kind.declared payload.length < 256 ^ kind.width) :
    WireReader.readPrefixedBytes kind maximum (kind.encode payload ++ rest) =
      .ok (payload, rest) :=
  WireReader.readPrefixedBytes_eq_ok_iff.mpr ⟨hlength, hfits, rfl⟩

theorem fromUtf8_utf8Bytes (text : String) : fromUtf8 (utf8Bytes text) = some text :=
  fromUtf8_eq_some_iff.mpr rfl

/-- Reads a prefixed text. -/
def readText (error : ε) (kind : LengthPrefix) (maximum : Nat) (unread : List UInt8) :
    Except ε (String × List UInt8) := do
  let (bytes, unread) ← orReject error (WireReader.readPrefixedBytes kind maximum unread)
  let text ← okOr error (fromUtf8 bytes)
  return (text, unread)

/-- The layout of a prefixed text. -/
def textLayout (kind : LengthPrefix) (text : String) : List UInt8 :=
  kind.encode (utf8Bytes text)

theorem readText_layout {error : ε} {kind : LengthPrefix} {maximum : Nat} {text : String}
    (hlength : text.utf8ByteSize ≤ maximum)
    (hfits : kind.declared text.utf8ByteSize < 256 ^ kind.width) :
    readText error kind maximum (textLayout kind text ++ rest) = .ok (text, rest) := by
  have hread : WireReader.readPrefixedBytes kind maximum (kind.encode (utf8Bytes text) ++ rest) =
      .ok (utf8Bytes text, rest) :=
    readPrefixed_layout rest hlength hfits
  simp only [readText, textLayout, hread, orReject_ok, ok_bind, fromUtf8_utf8Bytes, okOr]
  rfl

/-! ## Heads -/

/-- Puts the words that every manifest of a kind begins with. -/
def putHead (magic : List UInt8) (version : UInt16) (writer : WireWriter) :
    Except WireError WireWriter := do
  let writer ← writer.putBytes magic
  writer.putU16 version

def readHead (error : ε) (magic : List UInt8) (version : UInt16) (unread : List UInt8) :
    Except ε (List UInt8) := do
  let (front, unread) ← orReject error (WireReader.readBytes magic.length unread)
  rejectIf error (front ≠ magic)
  let (found, unread) ← orReject error (WireReader.readU16 unread)
  rejectIf error (found ≠ version)
  return unread

def headLayout (magic : List UInt8) (version : UInt16) : List UInt8 :=
  magic ++ beBytes 2 version.toNat

theorem puts_head {maximum : Nat} (magic : List UInt8) (version : UInt16) :
    WireWriter.Puts maximum (putHead magic version) (headLayout magic version) :=
  (WireWriter.puts_bytes magic).andThen (WireWriter.puts_u16 version)

theorem readHead_layout (error : ε) (magic : List UInt8) (version : UInt16) :
    readHead error magic version (headLayout magic version ++ rest) = .ok rest := by
  have hmagic : ∀ behind, WireReader.readBytes magic.length (magic ++ behind) =
      .ok (magic, behind) :=
    fun behind => readBytes_layout behind magic
  have hversion := readU16_layout rest version
  simp [readHead, headLayout, List.append_assoc, hmagic, hversion, ok_bind, rejectIf]

/-! ## Optional fields -/

/-- Puts a field behind a flag, or the flag that there is none. -/
def putOptional (put : α → WireWriter → Except WireError WireWriter) (value : Option α)
    (writer : WireWriter) : Except WireError WireWriter :=
  match value with
  | some value => do
      let writer ← writer.putU8 1
      put value writer
  | none => writer.putU8 0

def readOptional (error : ε) (read : List UInt8 → Except ε (α × List UInt8))
    (unread : List UInt8) : Except ε (Option α × List UInt8) := do
  let (flag, unread) ← orReject error (WireReader.readU8 unread)
  if flag = 0 then
    return (none, unread)
  else if flag = 1 then
    let (value, unread) ← read unread
    return (some value, unread)
  else
    .error error

def optionalLayout (layout : α → List UInt8) : Option α → List UInt8
  | some value => [1] ++ layout value
  | none => [0]

theorem puts_optional {maximum : Nat} {put : α → WireWriter → Except WireError WireWriter}
    {layout : α → List UInt8} {value : Option α}
    (hput : ∀ found, value = some found → WireWriter.Puts maximum (put found) (layout found)) :
    WireWriter.Puts maximum (putOptional put value) (optionalLayout layout value) := by
  cases value with
  | none => exact WireWriter.puts_u8 0
  | some found => exact (WireWriter.puts_u8 1).andThen (hput found rfl)

theorem readOptional_layout {error : ε} {read : List UInt8 → Except ε (α × List UInt8)}
    {layout : α → List UInt8} {value : Option α}
    (hread : ∀ found, value = some found → read (layout found ++ rest) = .ok (found, rest)) :
    readOptional error read (optionalLayout layout value ++ rest) = .ok (value, rest) := by
  cases value with
  | none =>
      simp only [readOptional, optionalLayout, readU8_layout, orReject_ok, ok_bind, if_true]
      rfl
  | some found =>
      have hflag : ¬ (1 : UInt8) = 0 := by decide
      simp only [readOptional, optionalLayout, List.append_assoc, readU8_layout, orReject_ok,
        ok_bind, if_neg hflag, if_true, hread found rfl]
      rfl

end Fields

/-! ## Repeated fields -/

/-- Reads so many fields one behind the other. -/
def readMany (read : List UInt8 → Except ε (α × List UInt8)) :
    Nat → List UInt8 → Except ε (List α × List UInt8)
  | 0, unread => .ok ([], unread)
  | count + 1, unread => do
      let (value, unread) ← read unread
      let (values, unread) ← readMany read count unread
      return (value :: values, unread)

theorem readMany_layout {read : List UInt8 → Except ε (α × List UInt8)}
    {layout : α → List UInt8} {values : List α}
    (hread : ∀ value ∈ values, ∀ rest, read (layout value ++ rest) = .ok (value, rest))
    (rest : List UInt8) :
    readMany read values.length (values.flatMap layout ++ rest) = .ok (values, rest) := by
  induction values with
  | nil => rfl
  | cons value values ih =>
      obtain ⟨hvalue, hvalues⟩ := List.forall_mem_cons.mp hread
      rw [List.flatMap_cons, List.append_assoc, List.length_cons, readMany, hvalue, ok_bind]
      dsimp only
      rw [ih hvalues]
      rfl

/-- Puts fields one behind the other. -/
def putMany (put : α → WireWriter → Except WireError WireWriter) (values : List α)
    (writer : WireWriter) : Except WireError WireWriter :=
  values.foldlM (fun writer value => put value writer) writer

/-- Fields behind others. -/
theorem puts_thenMany {maximum : Nat} {first : WireWriter → Except WireError WireWriter}
    {front : List UInt8} (hfirst : WireWriter.Puts maximum first front)
    {put : α → WireWriter → Except WireError WireWriter} {layout : α → List UInt8}
    {values : List α}
    (hput : ∀ value ∈ values, WireWriter.Puts maximum (put value) (layout value)) :
    WireWriter.Puts maximum (fun writer => first writer >>= putMany put values)
      (front ++ values.flatMap layout) := by
  induction values generalizing first front with
  | nil =>
      have hsame : (fun writer => first writer >>= putMany put []) = first := by
        funext writer
        exact bind_pure (first writer)
      rw [hsame, List.flatMap_nil, List.append_nil]
      exact hfirst
  | cons value values ih =>
      obtain ⟨hvalue, hvalues⟩ := List.forall_mem_cons.mp hput
      have hrest := ih (hfirst.andThen hvalue) hvalues
      have hsame : (fun writer => first writer >>= putMany put (value :: values)) =
          fun writer => (first writer >>= put value) >>= putMany put values := by
        funext writer
        rw [bind_assoc]
        rfl
      rw [hsame, List.flatMap_cons, ← List.append_assoc]
      exact hrest

/-- A packet that is put in two parts. -/
theorem puts_twice {maximum : Nat} (hmaximum : maximum < u64Bound)
    {first second : WireWriter → Except WireError WireWriter} {front back : List UInt8}
    (hfirst : WireWriter.Puts maximum first front)
    (hsecond : WireWriter.Puts maximum second back) {bytes : List UInt8} :
    (∃ between, first (.new maximum hmaximum) = .ok between ∧
      ∃ writer, second between = .ok writer ∧ writer.output = bytes) ↔
        bytes = front ++ back ∧ bytes.length ≤ maximum := by
  have hboth : ∀ writer, (first (.new maximum hmaximum) >>= second) = .ok writer ↔
      (front ++ back).length ≤ maximum ∧ writer = ⟨front ++ back, maximum, hmaximum⟩ :=
    fun writer => (hfirst.andThen hsecond).new_eq_ok_iff
  constructor
  · rintro ⟨between, hbetween, writer, hwriter, rfl⟩
    obtain ⟨hroom, rfl⟩ := (hboth writer).mp (bind_eq_ok_iff.mpr ⟨between, hbetween, hwriter⟩)
    exact ⟨rfl, hroom⟩
  · rintro ⟨rfl, hroom⟩
    obtain ⟨between, hbetween, hwriter⟩ := bind_eq_ok_iff.mp ((hboth _).mpr ⟨hroom, rfl⟩)
    exact ⟨between, hbetween, _, hwriter, rfl⟩

/-! ## Canonical packets -/

/-- Reads a value and refuses it if the encoder writes anything else for it. -/
def readCanonical (error : ε) (encode : α → Except ε (List UInt8))
    (read : List UInt8 → Except ε α) (bytes : List UInt8) : Except ε α := do
  let value ← read bytes
  let encoded ← encode value
  rejectIf error (encoded ≠ bytes)
  return value

/-- A reader that takes back what is encoded loses nothing. -/
theorem lossless_readCanonical {error : ε} {encode : α → Except ε (List UInt8)}
    {read : List UInt8 → Except ε α}
    (hread : ∀ value bytes, encode value = .ok bytes → read bytes = .ok value) :
    Lossless encode (readCanonical error encode read) := by
  intro value bytes
  simp only [readCanonical, bind_eq_ok_iff]
  constructor
  · intro hencode
    exact ⟨value, hread value bytes hencode, bytes, hencode, (),
      rejectIf_eq_ok_iff.mpr (not_not.mpr rfl), rfl⟩
  · rintro ⟨found, -, encoded, hencoded, same, hsame, hreturn⟩
    cases hreturn
    rw [hencoded, not_not.mp (rejectIf_eq_ok_iff.mp hsame)]

end Wire
end Lirvena
