import Lirvena.Wire.WireReader

/-!
# Fixed words of a packet

A packet has words that are the same in every packet, and its content ends with a closing
byte.  The readers here refuse any other word; their errors are the caller's.
-/

namespace Lirvena
namespace Wire

open Lib

variable {ε : Type} (wireError wrong : ε)

/-- Reads a word and refuses every value but one. -/
def readFixed (width expected : Nat) (unread : List UInt8) : Except ε (List UInt8) := do
  let (value, unread) ← (WireReader.readWord width unread).mapError fun _ => wireError
  rejectIf wrong (value ≠ expected)
  return unread

/-- Reads all but the last byte, which must be the closing one. -/
def readEnclosed (closing : UInt8) (unread : List UInt8) : Except ε (List UInt8) := do
  rejectIf wrong (unread.length = 0)
  let (content, unread) ←
    (WireReader.readBytes (unread.length - 1) unread).mapError fun _ => wireError
  let unread ← readFixed wireError wrong 1 closing.toNat unread
  (WireReader.finish unread).mapError fun _ => wireError
  return content

theorem beBytes_one (value : UInt8) : beBytes 1 value.toNat = [value] := by
  simp [beBytes]

variable {wireError wrong}

theorem readFixed_eq_ok_iff {width expected : Nat} {unread rest : List UInt8} :
    readFixed wireError wrong width expected unread = .ok rest ↔
      expected < 256 ^ width ∧ unread = beBytes width expected ++ rest := by
  simp only [readFixed, bind_eq_ok_iff, mapError_eq_ok_iff]
  constructor
  · rintro ⟨⟨value, behind⟩, hword, checked, hvalue, hreturn⟩
    obtain rfl := not_not.mp (rejectIf_eq_ok_iff.mp hvalue)
    cases hreturn
    exact WireReader.readWord_eq_ok_iff.mp hword
  · intro hword
    exact ⟨(expected, rest), WireReader.readWord_eq_ok_iff.mpr hword, (),
      rejectIf_eq_ok_iff.mpr (not_not.mpr rfl), rfl⟩

theorem readEnclosed_eq_ok_iff {closing : UInt8} {unread content : List UInt8} :
    readEnclosed wireError wrong closing unread = .ok content ↔ unread = content ++ [closing] := by
  simp only [readEnclosed, bind_eq_ok_iff, mapError_eq_ok_iff, readFixed_eq_ok_iff, beBytes_one]
  constructor
  · rintro ⟨checked, hlong, ⟨front, behind⟩, hbytes, last, ⟨-, hlast⟩, finished, hfinish, hreturn⟩
    obtain ⟨hunread, -⟩ := WireReader.readBytes_eq_ok_iff.mp hbytes
    obtain rfl := WireReader.finish_eq_ok_iff.mp hfinish
    cases hreturn
    rw [hunread]
    exact congrArg (front ++ ·) hlast
  · rintro rfl
    refine ⟨(), rejectIf_eq_ok_iff.mpr (by simp), (content, [closing]), ?_, [],
      ⟨by simpa using closing.toNat_lt, rfl⟩, (), WireReader.finish_eq_ok_iff.mpr rfl, rfl⟩
    exact WireReader.readBytes_eq_ok_iff.mpr ⟨rfl, by simp⟩

end Wire
end Lirvena
