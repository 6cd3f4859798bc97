import Lirvena.Wire.Fixed

/-!
# Collections of tagged values

A collection is the number of its entries and then the entries, each a tag and a body
behind its length.  A reader gives it a bound on the number and on the bodies and
refuses a tag that comes twice; `readTlvs_eq_ok_iff` says which bytes it takes.
-/

namespace Lirvena
namespace Wire

open Lib

/-- A tagged value. -/
structure Tlv where
  tag : UInt16
  body : List UInt8
  deriving DecidableEq

def Tlv.encode (tlv : Tlv) : List UInt8 :=
  beBytes 2 tlv.tag.toNat ++ LengthPrefix.u16Payload.encode tlv.body

def encodeTlvs (tlvs : List Tlv) : List UInt8 :=
  beBytes 2 tlvs.length ++ tlvs.flatMap Tlv.encode

/-- The body under a tag. -/
def tlvBody (tlvs : List Tlv) (tag : UInt16) : Option (List UInt8) :=
  (tlvs.find? fun tlv => tlv.tag = tag).map Tlv.body

section Reader

variable {ε : Type} (wireError repeated : ε) (early : Bool) (maximum : Nat)

/-- The loop over the entries.  A repeated tag is refused before its body is read, or
after. -/
def readEntries : Nat → List UInt16 → List UInt8 → Except ε (List Tlv × List UInt8)
  | 0, _, unread => .ok ([], unread)
  | count + 1, seen, unread => do
      let (tag, unread) ← (WireReader.readWord 2 unread).mapError fun _ => wireError
      let tag := UInt16.ofNat tag
      rejectIf repeated (early = true ∧ tag ∈ seen)
      let (body, unread) ←
        (WireReader.readPrefixedBytes .u16Payload maximum unread).mapError fun _ => wireError
      rejectIf repeated (early = false ∧ tag ∈ seen)
      let (others, unread) ← readEntries count (tag :: seen) unread
      return (⟨tag, body⟩ :: others, unread)

def readTlvs (badCount : ε) (maxCount : Nat) (unread : List UInt8) :
    Except ε (List Tlv × List UInt8) := do
  let (count, unread) ← (WireReader.readWord 2 unread).mapError fun _ => wireError
  rejectIf badCount (count = 0 ∨ maxCount < count)
  readEntries wireError repeated early maximum count [] unread

end Reader

/-- The collections that a reader with the given bounds takes. -/
structure Collection (maxCount maximum : Nat) (tlvs : List Tlv) : Prop where
  nonempty : tlvs ≠ []
  few : tlvs.length ≤ maxCount
  tags_nodup : (tlvs.map Tlv.tag).Nodup
  short : ∀ tlv ∈ tlvs, tlv.body.length ≤ maximum

theorem readEntries_eq_ok_iff {ε : Type} {wireError repeated : ε} {early : Bool} {maximum : Nat}
    (hmaximum : maximum < 65536) {count : Nat} {seen : List UInt16} {unread rest : List UInt8}
    {tlvs : List Tlv} :
    readEntries wireError repeated early maximum count seen unread = .ok (tlvs, rest) ↔
      tlvs.length = count ∧ (tlvs.map Tlv.tag).Nodup ∧
        (∀ tlv ∈ tlvs, tlv.tag ∉ seen ∧ tlv.body.length ≤ maximum) ∧
          unread = tlvs.flatMap Tlv.encode ++ rest := by
  induction count generalizing seen unread tlvs with
  | zero =>
      constructor
      · intro hread
        cases hread
        simp
      · rintro ⟨hlength, -, -, hunread⟩
        obtain rfl := List.length_eq_zero_iff.mp hlength
        subst hunread
        rfl
  | succ count ih =>
      simp only [readEntries, bind_eq_ok_iff, mapError_eq_ok_iff]
      constructor
      · rintro ⟨⟨number, behind⟩, htag, checked, hfirst, ⟨body, after⟩, hbody, checked', hsecond,
          ⟨others, last⟩, hothers, hreturn⟩
        obtain ⟨hnumber, rfl⟩ := WireReader.readWord_eq_ok_iff.mp htag
        obtain ⟨hshort, -, rfl⟩ := WireReader.readPrefixedBytes_eq_ok_iff.mp hbody
        cases hreturn
        obtain ⟨hlength, hnodup, hall, rfl⟩ := ih.mp hothers
        have hfirst := rejectIf_eq_ok_iff.mp hfirst
        have hsecond := rejectIf_eq_ok_iff.mp hsecond
        have hword : (UInt16.ofNat number).toNat = number :=
          UInt16.toNat_ofNat_of_lt' (by simpa using hnumber)
        have hnew : UInt16.ofNat number ∉ seen := by
          cases early
          · simpa using hsecond
          · simpa using hfirst
        refine ⟨by simp [hlength], ?_, ?_, ?_⟩
        · refine List.nodup_cons.mpr ⟨?_, hnodup⟩
          intro hmem
          obtain ⟨tlv, htlv, hsame⟩ := List.mem_map.mp hmem
          exact (hall tlv htlv).1 (List.mem_cons.mpr (.inl hsame))
        · intro tlv htlv
          rcases List.mem_cons.mp htlv with rfl | hother
          · exact ⟨hnew, hshort⟩
          · exact ⟨fun hseen => (hall tlv hother).1 (List.mem_cons_of_mem _ hseen),
              (hall tlv hother).2⟩
        · simp [Tlv.encode, hword]
      · rintro ⟨hlength, hnodup, hall, rfl⟩
        cases tlvs with
        | nil => simp at hlength
        | cons tlv others =>
            obtain ⟨hnew, hshort⟩ := hall tlv List.mem_cons_self
            have hword : UInt16.ofNat tlv.tag.toNat = tlv.tag := UInt16.ofNat_toNat
            have hfits : LengthPrefix.u16Payload.declared tlv.body.length <
                256 ^ LengthPrefix.u16Payload.width := by
              simp only [LengthPrefix.declared, LengthPrefix.includesPrefix, LengthPrefix.width]
              simp
              omega
            refine ⟨(tlv.tag.toNat, LengthPrefix.u16Payload.encode tlv.body ++
              (others.flatMap Tlv.encode ++ rest)), ?_, (), ?_, (tlv.body,
              others.flatMap Tlv.encode ++ rest), ?_, (), ?_, (others, rest), ?_, ?_⟩
            · refine WireReader.readWord_eq_ok_iff.mpr ⟨by simpa using tlv.tag.toNat_lt, ?_⟩
              simp [Tlv.encode]
            · exact rejectIf_eq_ok_iff.mpr (by simp [hword, hnew])
            · exact WireReader.readPrefixedBytes_eq_ok_iff.mpr ⟨hshort, hfits, rfl⟩
            · exact rejectIf_eq_ok_iff.mpr (by simp [hword, hnew])
            · refine ih.mpr ⟨by simpa using hlength, (List.nodup_cons.mp hnodup).2, ?_, rfl⟩
              intro other hother
              refine ⟨?_, (hall other (List.mem_cons_of_mem _ hother)).2⟩
              rw [hword, List.mem_cons, not_or]
              refine ⟨?_, (hall other (List.mem_cons_of_mem _ hother)).1⟩
              intro hsame
              exact (List.nodup_cons.mp hnodup).1 (hsame ▸ List.mem_map_of_mem hother)
            · simp [hword, pure, Except.pure]

/-- A collection is read exactly where its encoding stands, if it is within the bounds. -/
theorem readTlvs_eq_ok_iff {ε : Type} {wireError repeated badCount : ε} {early : Bool}
    {maximum maxCount : Nat} (hmaximum : maximum < 65536) (hcount : maxCount < 65536)
    {unread rest : List UInt8} {tlvs : List Tlv} :
    readTlvs wireError repeated early maximum badCount maxCount unread = .ok (tlvs, rest) ↔
      Collection maxCount maximum tlvs ∧ unread = encodeTlvs tlvs ++ rest := by
  simp only [readTlvs, bind_eq_ok_iff, mapError_eq_ok_iff]
  constructor
  · rintro ⟨⟨count, behind⟩, hword, checked, hbounds, hentries⟩
    obtain ⟨-, rfl⟩ := WireReader.readWord_eq_ok_iff.mp hword
    obtain ⟨hlength, hnodup, hall, rfl⟩ := (readEntries_eq_ok_iff hmaximum).mp hentries
    have hbounds := rejectIf_eq_ok_iff.mp hbounds
    refine ⟨⟨?_, by omega, hnodup, fun tlv htlv => (hall tlv htlv).2⟩, ?_⟩
    · rintro rfl
      simp at hlength
      omega
    · simp [encodeTlvs, hlength]
  · rintro ⟨hcollection, rfl⟩
    have hpos := List.length_pos_iff.mpr hcollection.nonempty
    have hfew := hcollection.few
    refine ⟨(tlvs.length, tlvs.flatMap Tlv.encode ++ rest), ?_, (), ?_, ?_⟩
    · refine WireReader.readWord_eq_ok_iff.mpr ⟨by omega, ?_⟩
      simp [encodeTlvs]
    · exact rejectIf_eq_ok_iff.mpr (by omega)
    · refine (readEntries_eq_ok_iff hmaximum).mpr ⟨rfl, hcollection.tags_nodup, ?_, rfl⟩
      intro tlv htlv
      exact ⟨List.not_mem_nil, hcollection.short tlv htlv⟩

end Wire
end Lirvena
