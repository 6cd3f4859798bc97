import Lirvena.Ceylith.WireScan

/-!
# What the scanner accepts

The scanner goes over the fields of a message and keeps two flags.  It accepts a
string exactly when the string is a message and its fields are expected: one
contract field, one body field of a known number, and no other field with a
number in the body range.
-/

namespace Lirvena
namespace Ceylith

open Lib Lib.Protobuf

variable {input : List UInt8} {position next : Nat}

/-! ## The loop -/

theorem readVarint_lt {value : Nat} (hread : readVarint input position = .ok (value, next)) :
    position < next := by
  obtain ⟨bytes, hvarint, hconsumes⟩ := readVarint_eq_ok_iff.mp hread
  have hpos := List.length_pos_iff.mpr hvarint.isVarint.ne_nil
  have hnext := hconsumes.next_eq
  omega

theorem skipWidth_le {width : Nat} (hskip : skipWidth input position width = .ok next) :
    position ≤ next := by
  obtain ⟨stop, hstop, hskip⟩ := bind_eq_ok_iff.mp hskip
  obtain ⟨⟨⟩, -, hskip⟩ := bind_eq_ok_iff.mp hskip
  obtain ⟨-, rfl⟩ := checkedAddU64_eq_some_iff.mp (okOr_eq_ok_iff.mp hstop)
  cases hskip
  exact Nat.le_add_right _ _

theorem skipValue_le {wireType : Nat} (hskip : skipValue input position wireType = .ok next) :
    position ≤ next := by
  unfold skipValue at hskip
  split at hskip
  · obtain ⟨⟨value, stop⟩, hread, rfl⟩ := map_eq_ok_iff.mp hskip
    exact (readVarint_lt hread).le
  · exact skipWidth_le hskip
  · obtain ⟨⟨width, middle⟩, hread, hskip⟩ := bind_eq_ok_iff.mp hskip
    exact (readVarint_lt hread).le.trans (skipWidth_le hskip)
  · exact skipWidth_le hskip
  · cases hskip

/-- Every field takes at least one byte. -/
theorem scanField_lt {scan after : Scan} (hscan : scanField input scan = .ok after) :
    scan.position < after.position := by
  obtain ⟨⟨key, middle⟩, hread, hscan⟩ := bind_eq_ok_iff.mp hscan
  obtain ⟨⟨⟩, -, hscan⟩ := bind_eq_ok_iff.mp hscan
  refine (readVarint_lt hread).trans_le ?_
  unfold scanTagged at hscan
  split at hscan
  · obtain ⟨⟨⟩, -, hscan⟩ := bind_eq_ok_iff.mp hscan
    obtain ⟨⟨contract, stop⟩, hcontract, hscan⟩ := bind_eq_ok_iff.mp hscan
    obtain ⟨⟨⟩, -, hscan⟩ := bind_eq_ok_iff.mp hscan
    cases hscan
    exact (readVarint_lt hcontract).le
  · obtain ⟨⟨⟩, -, hscan⟩ := bind_eq_ok_iff.mp hscan
    obtain ⟨stop, hskip, hscan⟩ := bind_eq_ok_iff.mp hscan
    cases hscan
    exact skipValue_le hskip

def scanFrom (input : List UInt8) (scan : Scan) : Except CodecError Unit :=
  if _hroom : scan.position < input.length then
    match _hfield : scanField input scan with
    | .error error => .error error
    | .ok after => scanFrom input after
  else do
    rejectIf .invalidContract (scan.contractSeen = false)
    rejectIf .unsupportedBody (scan.bodySeen = false)
termination_by input.length - scan.position
decreasing_by
  have hlt := scanField_lt _hfield
  omega

def validateTopLevel (input : List UInt8) : Except CodecError Unit :=
  scanFrom input ⟨0, false, false⟩

/-! ## The fields -/

/-- The fields that remain behind the flags of a scan. -/
structure Expected (scan : Scan) (fields : List Field) : Prop where
  numbered : ∀ field ∈ fields, field.number ≠ 0
  contract : fields.filter (·.number = 1) = if scan.contractSeen then [] else [contractField]
  body : if scan.bodySeen then fields.filter (InBodyRange ·.number) = []
    else ∃ tag payload, knownBodyTag tag = true ∧
      fields.filter (InBodyRange ·.number) = [⟨tag, .lengthDelimited payload⟩]

theorem expected_nil_iff {scan : Scan} :
    Expected scan [] ↔ scan.contractSeen = true ∧ scan.bodySeen = true := by
  constructor
  · rintro ⟨-, hcontract, hbody⟩
    refine ⟨?_, ?_⟩
    · by_contra hseen
      rw [if_neg hseen] at hcontract
      cases hcontract
    · by_contra hseen
      rw [if_neg hseen] at hbody
      obtain ⟨tag, payload, -, hnone⟩ := hbody
      cases hnone
  · rintro ⟨hcontract, hbody⟩
    refine ⟨?_, ?_, ?_⟩
    · intro field hfield
      cases hfield
    · rw [if_pos hcontract]
      rfl
    · rw [if_pos hbody]
      rfl

theorem not_inBodyRange_one : ¬ InBodyRange 1 := by
  decide

theorem InBodyRange.ne_one {number : Nat} (hrange : InBodyRange number) : number ≠ 1 := by
  rintro rfl
  exact not_inBodyRange_one hrange

/-- The first of the expected fields is admitted. -/
theorem Expected.admits {scan : Scan} {field : Field} {rest : List Field}
    (hexpected : Expected scan (field :: rest)) :
    ∃ after, Admits scan field after ∧ Expected after rest := by
  obtain ⟨hnumbered, hcontract, hbody⟩ := hexpected
  have hrest : ∀ other ∈ rest, other.number ≠ 0 := fun other hother =>
    hnumbered other (List.mem_cons_of_mem _ hother)
  -- A field is the contract, a body or neither, and each case moves one flag.
  by_cases hone : field.number = 1
  · have hrange : ¬ InBodyRange field.number := by
      rw [hone]
      exact not_inBodyRange_one
    rw [List.filter_cons_of_pos (by simpa using hone)] at hcontract
    rw [List.filter_cons_of_neg (by simpa using hrange)] at hbody
    by_cases hseen : scan.contractSeen = true
    · rw [if_pos hseen] at hcontract
      cases hcontract
    · rw [if_neg hseen] at hcontract
      obtain ⟨hfield, hnone⟩ := List.cons.inj hcontract
      exact ⟨⟨0, true, scan.bodySeen⟩, .contract (by simpa using hseen) hfield,
        hrest, hnone, hbody⟩
  · rw [List.filter_cons_of_neg (by simpa using hone)] at hcontract
    by_cases hrange : InBodyRange field.number
    · rw [List.filter_cons_of_pos (by simpa using hrange)] at hbody
      by_cases hseen : scan.bodySeen = true
      · rw [if_pos hseen] at hbody
        cases hbody
      · rw [if_neg hseen] at hbody
        obtain ⟨tag, payload, hknown, hfields⟩ := hbody
        obtain ⟨rfl, hnone⟩ := List.cons.inj hfields
        exact ⟨⟨0, scan.contractSeen, true⟩, .body hrange hknown (by simpa using hseen) rfl,
          hrest, hcontract, hnone⟩
    · rw [List.filter_cons_of_neg (by simpa using hrange)] at hbody
      exact ⟨⟨0, scan.contractSeen, scan.bodySeen⟩,
        .other (hnumbered field List.mem_cons_self) hone hrange, hrest, hcontract, hbody⟩

/-- An admitted field is expected in front of the fields expected behind it. -/
theorem Admits.expected {scan after : Scan} {field : Field} {rest : List Field}
    (hadmits : Admits scan field after) (hexpected : Expected after rest) :
    Expected scan (field :: rest) := by
  have hnumber := hadmits.number_ne_zero
  obtain ⟨hnumbered, hcontract, hbody⟩ := hexpected
  refine ⟨?_, ?_, ?_⟩
  · intro other hother
    rcases List.mem_cons.mp hother with rfl | hrest
    · exact hnumber
    · exact hnumbered other hrest
  · cases hadmits with
    | contract hseen hfield =>
        subst hfield
        rw [List.filter_cons_of_pos (by decide), hcontract, hseen]
        rfl
    | body hrange =>
        rw [List.filter_cons_of_neg (by simpa using hrange.ne_one)]
        exact hcontract
    | other _ hone =>
        rw [List.filter_cons_of_neg (by simpa using hone)]
        exact hcontract
  · cases hadmits with
    | contract hseen hfield =>
        subst hfield
        rw [List.filter_cons_of_neg (by decide)]
        exact hbody
    -- The body is the only one, since the flag is set for all that follows.
    | @body _ payload hrange hknown hseen hvalue =>
        rw [List.filter_cons_of_pos (by simpa using hrange), hseen, if_neg Bool.false_ne_true]
        rw [if_pos rfl] at hbody
        refine ⟨field.number, payload, hknown, ?_⟩
        rw [hbody, ← hvalue]
    | other _ _ hrange =>
        rw [List.filter_cons_of_neg (by simpa using hrange)]
        exact hbody

/-- The position behind a field does not decide what is admitted. -/
theorem Admits.moved {scan after : Scan} {field : Field} (hadmits : Admits scan field after)
    (position : Nat) : Admits scan field { after with position := position } := by
  cases hadmits with
  | contract hseen hfield => exact .contract hseen hfield
  | body hrange hknown hseen hvalue => exact .body hrange hknown hseen hvalue
  | other hzero hone hrange => exact .other hzero hone hrange

theorem Expected.moved {scan : Scan} {fields : List Field} (hexpected : Expected scan fields)
    (position : Nat) : Expected { scan with position := position } fields :=
  ⟨hexpected.numbered, hexpected.contract, hexpected.body⟩

/-- An expected message in front of the scanner that is not at its end begins
with a field that the scanner admits. -/
theorem Expected.scanField_eq_ok {scan : Scan} {fields : List Field}
    (hinput : input.length < u64Bound) (hroom : scan.position < input.length)
    (hreads : MessageReads (input.drop scan.position) fields)
    (hexpected : Expected scan fields) :
    ∃ after rest, scanField input scan = .ok after ∧
      MessageReads (input.drop after.position) rest ∧ Expected after rest := by
  rcases hreads.nil_or_cons with ⟨hnil, -⟩ | ⟨bytes, more, field, rest, hdrop, rfl, hfield, hrest⟩
  · have hlength := congrArg List.length hnil
    rw [List.length_drop, List.length_nil] at hlength
    omega
  · obtain ⟨after, hadmits, hbehind⟩ := hexpected.admits
    -- what is admitted does not depend on where the field ends
    let stop := scan.position + bytes.length
    have hconsumes : Consumes input scan.position stop bytes :=
      ⟨by rw [hdrop]; exact List.prefix_append bytes more, rfl⟩
    have hmore : more = input.drop stop := by
      rw [hconsumes.drop_eq] at hdrop
      exact (List.append_cancel_left hdrop).symm
    refine ⟨{ after with position := stop }, rest, ?_, ?_, hbehind.moved stop⟩
    · exact (scanField_eq_ok_iff hinput hroom.le).mpr
        ⟨bytes, field, hfield, hconsumes, hadmits.moved stop⟩
    · rw [← hmore]
      exact hrest

/-- The loop accepts exactly the expected fields. -/
theorem scanFrom_eq_ok_iff (hinput : input.length < u64Bound) (scan : Scan)
    (hposition : scan.position ≤ input.length) :
    scanFrom input scan = .ok () ↔
      ∃ fields, MessageReads (input.drop scan.position) fields ∧ Expected scan fields := by
  -- the recursion is on the position, which every field moves
  induction scan using scanFrom.induct input with
  | case1 scan hroom error hfield =>
      rw [scanFrom, dif_pos hroom]
      split
      · constructor
        · intro hscan
          cases hscan
        · rintro ⟨fields, hreads, hexpected⟩
          obtain ⟨after, rest, hok, -⟩ := hexpected.scanField_eq_ok hinput hroom hreads
          rw [hfield] at hok
          cases hok
      · next other hok =>
          rw [hfield] at hok
          cases hok
  | case2 scan hroom after hfield ih =>
      obtain ⟨bytes, field, hreads, hconsumes, hadmits⟩ :=
        (scanField_eq_ok_iff hinput hposition).mp hfield
      have hafter := ih (hconsumes.next_le hposition)
      rw [scanFrom, dif_pos hroom]
      split
      · next error hbad =>
          rw [hfield] at hbad
          cases hbad
      · next other hok =>
          obtain rfl : after = other := Except.ok.inj (hfield.symm.trans hok)
          rw [hafter]
          constructor
          · rintro ⟨rest, hrest, hbehind⟩
            refine ⟨field :: rest, ?_, hadmits.expected hbehind⟩
            rw [hconsumes.drop_eq]
            exact .cons hreads hrest
          · rintro ⟨fields, hall, hexpected⟩
            obtain ⟨same, rest, hsame, hrest, hbehind⟩ :=
              hexpected.scanField_eq_ok hinput hroom hall
            obtain rfl : after = same := Except.ok.inj (hfield.symm.trans hsame)
            exact ⟨rest, hrest, hbehind⟩
  | case3 scan hroom =>
      have hend : input.drop scan.position = [] := List.drop_eq_nil_of_le (Nat.not_lt.mp hroom)
      -- at the end both flags must be set
      rw [scanFrom, dif_neg hroom, hend]
      constructor
      · intro hscan
        obtain ⟨⟨⟩, hcontract, hbody⟩ := bind_eq_ok_iff.mp hscan
        have hcontract := rejectIf_eq_ok_iff.mp hcontract
        have hbody := rejectIf_eq_ok_iff.mp hbody
        exact ⟨[], .nil, expected_nil_iff.mpr ⟨by simpa using hcontract, by simpa using hbody⟩⟩
      · rintro ⟨fields, hreads, hexpected⟩
        rcases hreads.nil_or_cons with ⟨-, rfl⟩ | ⟨bytes, more, field, rest, hnil, -, hfield, -⟩
        · obtain ⟨hcontract, hbody⟩ := expected_nil_iff.mp hexpected
          exact bind_eq_ok_iff.mpr ⟨(), rejectIf_eq_ok_iff.mpr (by simp [hcontract]),
            rejectIf_eq_ok_iff.mpr (by simp [hbody])⟩
        · exact absurd (List.append_eq_nil_iff.mp hnil.symm).1 hfield.ne_nil

/-- The scanner accepts exactly the messages with the expected fields. -/
theorem validateTopLevel_eq_ok_iff (hinput : input.length < u64Bound) :
    validateTopLevel input = .ok () ↔
      ∃ fields, MessageReads input fields ∧ Expected ⟨0, false, false⟩ fields :=
  scanFrom_eq_ok_iff hinput ⟨0, false, false⟩ (Nat.zero_le _)

end Ceylith
end Lirvena
