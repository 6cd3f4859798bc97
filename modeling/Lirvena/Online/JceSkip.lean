import Lirvena.Lib.Grammar
import Lirvena.Online.Jce

/-!
# Skipping JCE fields

A reader that does not know a field skips its body.  Bodies nest: a map and a list
hold so many fields, a struct holds fields up to its end, and each of them is
skipped one level deeper, down to a limit.

`Body` is the grammar of what can be skipped: the fields that nest no deeper than
a number of levels.  The typed reads and `skip` are then compared body by body.
-/

namespace Lirvena
namespace Online
namespace Jce

open Lib

namespace Reader

/-! ## Skips -/

def advance (length : Nat) (unread : List UInt8) : Except OnlinePacketError (List UInt8) := do
  let (_, rest) ← take length unread
  return rest

/-- The bound of `skip_collection`. -/
def maxSkippedCount : Nat := 1000000

/-- The fields of a collection: a pair has a key and a value. -/
def fieldCount (pairs : Bool) (count : Nat) : Except OnlinePacketError Nat :=
  if pairs then okOr .rejected (checkedMulU64 count 2) else .ok count

section Nested

-- how the bodies of nested fields are skipped
variable (body : UInt8 → List UInt8 → Except OnlinePacketError (List UInt8))

def skipFields : Nat → List UInt8 → Except OnlinePacketError (List UInt8)
  | 0, unread => .ok unread
  | count + 1, unread => do
      let (head, rest) ← head unread
      let rest ← body head.kind rest
      skipFields count rest

def skipCollection (pairs : Bool) (unread : List UInt8) :
    Except OnlinePacketError (List UInt8) := do
  let (count, rest) ← collectionCount maxSkippedCount unread
  let count ← fieldCount pairs count
  skipFields body count rest

/-- The fields of a struct up to its end.  Each round reads a head at least, so that
after a round for every unread byte nothing is left. -/
def skipStruct : Nat → List UInt8 → Except OnlinePacketError (List UInt8)
  | 0, _ => .error .rejected
  | rounds + 1, unread =>
      if unread = [] then .error .rejected
      else do
        let (head, rest) ← head unread
        if head.kind = Kind.structEnd then .ok rest
        else do
          let rest ← body head.kind rest
          skipStruct rounds rest

end Nested

/-- A body that nests no deeper than so many levels. -/
def skipLevels : Nat → UInt8 → List UInt8 → Except OnlinePacketError (List UInt8)
  | 0, _, _ => .error .rejected
  | levels + 1, kind, unread =>
      match kind with
      | Kind.zero | Kind.structEnd => .ok unread
      | Kind.byte => advance 1 unread
      | Kind.short => advance 2 unread
      | Kind.int | Kind.float => advance 4 unread
      | Kind.long | Kind.double => advance 8 unread
      | Kind.stringOne | Kind.stringFour => do
          let (_, rest) ← stringBytes kind unread
          return rest
      | Kind.simpleList => do
          let (head, rest) ← head unread
          rejectIf .rejected (head.kind ≠ Kind.byte)
          let (count, rest) ← collectionCount maxValueLen rest
          advance count rest
      | Kind.map => skipCollection (skipLevels levels) true unread
      | Kind.list => skipCollection (skipLevels levels) false unread
      | Kind.structBegin => skipStruct (skipLevels levels) unread.length unread
      | _ => .error .rejected

/-- Nothing is skipped below the limit of depth. -/
def skip (kind : UInt8) (depth : Nat) (unread : List UInt8) :
    Except OnlinePacketError (List UInt8) :=
  skipLevels (maxDepth + 1 - depth) kind unread

/-! ## Local reads -/

theorem local_byte : Local byte := by
  intro unread value rest hread
  cases unread with
  | nil => cases hread
  | cons first others =>
      cases hread
      exact ⟨[_], rfl, fun tail => rfl⟩

theorem local_take (length : Nat) : Local (take length) := by
  intro unread bytes rest hread
  obtain ⟨rfl, hlength⟩ := splitFront_eq_some_iff.mp (okOr_eq_ok_iff.mp hread)
  exact ⟨bytes, rfl, fun tail => okOr_eq_ok_iff.mpr (splitFront_append tail hlength)⟩

theorem local_head : Local head := by
  unfold head
  refine local_byte.bind fun raw => Local.ite ?_ (Local.pure _)
  exact local_byte.bind fun tag => Local.pure _

theorem local_word (width : Nat) : Local (word width) := by
  unfold word
  exact (local_take width).bind fun bytes => Local.pure _

theorem local_integer (kind : UInt8) : Local (integer kind) := by
  unfold integer
  split
  · exact Local.pure _
  · exact local_word 1
  · exact local_word 2
  · exact local_word 4
  · exact local_word 8
  · exact Local.error _

theorem local_collectionCount (maximum : Nat) : Local (collectionCount maximum) := by
  unfold collectionCount
  refine local_head.bind fun head => (local_integer head.kind).bind fun value => ?_
  exact Local.after fun count => Local.after fun _ => Local.pure _

theorem local_stringBytes (kind : UInt8) : Local (stringBytes kind) := by
  unfold stringBytes
  refine Local.bind ?_ fun length => Local.after fun _ => local_take length
  unfold stringLength
  split
  · exact local_byte.bind fun length => Local.pure _
  · exact (local_take 4).bind fun length => Local.pure _
  · exact Local.error _

theorem local_simpleList : Local simpleList := by
  unfold simpleList
  exact local_head.bind fun head => Local.after fun _ =>
    (local_collectionCount maxValueLen).bind fun length => local_take length

/-! ## What can be skipped -/

section Grammar

variable (body : UInt8 → List UInt8 → Prop)

/-- So many fields, each a head and a body of its kind. -/
inductive Fields : Nat → List UInt8 → Prop where
  | nil : Fields 0 []
  | cons {count : Nat} {first front rest : List UInt8} {found : Head}
      (hhead : head first = .ok (found, [])) (hbody : body found.kind front)
      (hrest : Fields count rest) : Fields (count + 1) (first ++ (front ++ rest))

/-- The fields of a struct and its end. -/
inductive StructFields : List UInt8 → Prop where
  | finish {last : List UInt8} {found : Head} (hhead : head last = .ok (found, []))
      (hkind : found.kind = Kind.structEnd) : StructFields last
  | field {first front rest : List UInt8} {found : Head} (hhead : head first = .ok (found, []))
      (hkind : found.kind ≠ Kind.structEnd) (hbody : body found.kind front)
      (hrest : StructFields rest) : StructFields (first ++ (front ++ rest))

/-- The bodies by their kind, given those of nested fields. -/
inductive BodyOver : UInt8 → List UInt8 → Prop where
  | zero : BodyOver Kind.zero []
  | structEnd : BodyOver Kind.structEnd []
  | byte {bytes : List UInt8} (hlength : bytes.length = 1) : BodyOver Kind.byte bytes
  | short {bytes : List UInt8} (hlength : bytes.length = 2) : BodyOver Kind.short bytes
  | int {bytes : List UInt8} (hlength : bytes.length = 4) : BodyOver Kind.int bytes
  | float {bytes : List UInt8} (hlength : bytes.length = 4) : BodyOver Kind.float bytes
  | long {bytes : List UInt8} (hlength : bytes.length = 8) : BodyOver Kind.long bytes
  | double {bytes : List UInt8} (hlength : bytes.length = 8) : BodyOver Kind.double bytes
  | stringOne {bytes text : List UInt8}
      (hread : stringBytes Kind.stringOne bytes = .ok (text, [])) :
      BodyOver Kind.stringOne bytes
  | stringFour {bytes text : List UInt8}
      (hread : stringBytes Kind.stringFour bytes = .ok (text, [])) : BodyOver Kind.stringFour bytes
  | simpleList {bytes value : List UInt8} (hread : simpleList bytes = .ok (value, [])) :
      BodyOver Kind.simpleList bytes
  | map {front fields : List UInt8} {count : Nat}
      (hcount : collectionCount maxSkippedCount front = .ok (count, []))
      (hfields : Fields body (count * 2) fields) : BodyOver Kind.map (front ++ fields)
  | list {front fields : List UInt8} {count : Nat}
      (hcount : collectionCount maxSkippedCount front = .ok (count, []))
      (hfields : Fields body count fields) : BodyOver Kind.list (front ++ fields)
  | struct {fields : List UInt8} (hfields : StructFields body fields) :
      BodyOver Kind.structBegin fields

end Grammar

/-- The bodies that nest no deeper than so many levels. -/
def Body : Nat → UInt8 → List UInt8 → Prop
  | 0 => fun _ _ => False
  | levels + 1 => BodyOver (Body levels)

section Nested

variable {skipBody : UInt8 → List UInt8 → Except OnlinePacketError (List UInt8)}
  {body : UInt8 → List UInt8 → Prop}

/-- A skip of bodies takes off exactly the bodies of a grammar. -/
def Skips (skipBody : UInt8 → List UInt8 → Except OnlinePacketError (List UInt8))
    (body : UInt8 → List UInt8 → Prop) : Prop :=
  ∀ kind unread rest, skipBody kind unread = .ok rest ↔
    ∃ front, unread = front ++ rest ∧ body kind front

theorem skipFields_eq_ok_iff (hskips : Skips skipBody body) {count : Nat}
    {unread rest : List UInt8} :
    skipFields skipBody count unread = .ok rest ↔
      ∃ fields, unread = fields ++ rest ∧ Fields body count fields := by
  induction count generalizing unread with
  | zero =>
      constructor
      · intro hskip
        cases hskip
        exact ⟨[], rfl, .nil⟩
      · rintro ⟨fields, rfl, hfields⟩
        cases hfields
        rfl
  | succ count ih =>
      constructor
      · intro hskip
        obtain ⟨⟨found, behind⟩, hhead, hnested⟩ := bind_eq_ok_iff.mp hskip
        obtain ⟨after, hbody, hothers⟩ := bind_eq_ok_iff.mp hnested
        obtain ⟨first, rfl, hfirst⟩ := local_head.whole hhead
        obtain ⟨front, rfl, hfront⟩ := (hskips _ _ _).mp hbody
        obtain ⟨fields, rfl, hfields⟩ := ih.mp hothers
        exact ⟨first ++ (front ++ fields), by simp only [List.append_assoc],
          .cons hfirst hfront hfields⟩
      · rintro ⟨_, rfl, hfields⟩
        cases hfields with
        | @cons count first front fields found hhead hbody hrest =>
            rw [List.append_assoc, List.append_assoc]
            refine bind_eq_ok_iff.mpr ⟨_, local_head.append hhead _, ?_⟩
            refine bind_eq_ok_iff.mpr ⟨_, (hskips _ _ _).mpr ⟨front, rfl, hbody⟩, ?_⟩
            exact ih.mpr ⟨fields, rfl, hrest⟩

theorem head_ne_nil {unread rest : List UInt8} {found : Head}
    (hread : head unread = .ok (found, rest)) : unread ≠ [] := by
  rintro rfl
  cases hread

theorem StructFields.ne_nil {fields : List UInt8} (hfields : StructFields body fields) :
    fields ≠ [] := by
  cases hfields with
  | finish hhead hkind => exact head_ne_nil hhead
  | field hhead hkind hbody hrest =>
      intro hnil
      exact head_ne_nil hhead (List.append_eq_nil_iff.mp hnil).1

theorem skipStruct_eq_ok_iff (hskips : Skips skipBody body) {rounds : Nat}
    {unread rest : List UInt8} (hrounds : unread.length ≤ rounds) :
    skipStruct skipBody rounds unread = .ok rest ↔
      ∃ fields, unread = fields ++ rest ∧ StructFields body fields := by
  induction rounds generalizing unread with
  | zero =>
      -- Nothing is left to read, and a struct has an end at least.
      obtain rfl := List.length_eq_zero_iff.mp (Nat.le_zero.mp hrounds)
      constructor
      · intro hskip
        cases hskip
      · rintro ⟨fields, hnil, hfields⟩
        exact absurd (List.append_eq_nil_iff.mp hnil.symm).1 hfields.ne_nil
  | succ rounds ih =>
      constructor
      · intro hskip
        unfold skipStruct at hskip
        split at hskip
        · cases hskip
        obtain ⟨⟨found, behind⟩, hhead, hnested⟩ := bind_eq_ok_iff.mp hskip
        obtain ⟨first, rfl, hfirst⟩ := local_head.whole hhead
        dsimp only at hnested
        split at hnested
        · next hend =>
            cases hnested
            exact ⟨first, rfl, .finish hfirst hend⟩
        · next hend =>
            obtain ⟨after, hbody, hothers⟩ := bind_eq_ok_iff.mp hnested
            obtain ⟨front, rfl, hfront⟩ := (hskips _ _ _).mp hbody
            have hfewer : after.length ≤ rounds := by
              have hpos := List.length_pos_iff.mpr (head_ne_nil hfirst)
              simp only [List.length_append] at hrounds
              omega
            obtain ⟨fields, rfl, hfields⟩ := (ih hfewer).mp hothers
            exact ⟨first ++ (front ++ fields), by simp only [List.append_assoc],
              .field hfirst hend hfront hfields⟩
      · rintro ⟨fields, rfl, hfields⟩
        unfold skipStruct
        rw [if_neg fun hnil => hfields.ne_nil (List.append_eq_nil_iff.mp hnil).1]
        cases hfields with
        | @finish _ found hhead hend =>
            refine bind_eq_ok_iff.mpr ⟨_, local_head.append hhead _, ?_⟩
            exact if_pos hend
        | @field first front others found hhead hend hbody hothers =>
            have hfewer : (others ++ rest).length ≤ rounds := by
              have hpos := List.length_pos_iff.mpr (head_ne_nil hhead)
              simp only [List.length_append] at hrounds ⊢
              omega
            rw [List.append_assoc, List.append_assoc]
            refine bind_eq_ok_iff.mpr ⟨_, local_head.append hhead _, ?_⟩
            refine (if_neg hend).trans (bind_eq_ok_iff.mpr ⟨others ++ rest, ?_, ?_⟩)
            · exact (hskips _ _ _).mpr ⟨front, rfl, hbody⟩
            · exact (ih hfewer).mpr ⟨others, rfl, hothers⟩

theorem collectionCount_le {maximum count : Nat} {unread rest : List UInt8}
    (hread : collectionCount maximum unread = .ok (count, rest)) : count ≤ maximum := by
  obtain ⟨found, -, hread⟩ := bind_eq_ok_iff.mp hread
  obtain ⟨value, -, hread⟩ := bind_eq_ok_iff.mp hread
  obtain ⟨number, -, hread⟩ := bind_eq_ok_iff.mp hread
  obtain ⟨⟨⟩, hbound, hreturn⟩ := bind_eq_ok_iff.mp hread
  cases hreturn
  exact Nat.not_lt.mp (rejectIf_eq_ok_iff.mp hbound)

/-- Twice a count that is in bounds is no overflow. -/
theorem fieldCount_eq_ok_iff {pairs : Bool} {count total : Nat}
    (hcount : count ≤ maxSkippedCount) :
    fieldCount pairs count = .ok total ↔ total = if pairs then count * 2 else count := by
  cases pairs with
  | false => simp [fieldCount, eq_comm]
  | true =>
      have hfits : count * 2 < u64Bound := by
        unfold maxSkippedCount at hcount
        unfold u64Bound
        omega
      simp [fieldCount, okOr_eq_ok_iff, checkedMulU64_eq_some_iff, hfits]

theorem skipCollection_eq_ok_iff (hskips : Skips skipBody body) {pairs : Bool}
    {unread rest : List UInt8} :
    skipCollection skipBody pairs unread = .ok rest ↔
      ∃ count front fields, unread = front ++ (fields ++ rest) ∧
        collectionCount maxSkippedCount front = .ok (count, []) ∧
        Fields body (if pairs then count * 2 else count) fields := by
  constructor
  · intro hskip
    obtain ⟨⟨count, behind⟩, hcount, htotal⟩ := bind_eq_ok_iff.mp hskip
    obtain ⟨total, hpairs, hfields⟩ := bind_eq_ok_iff.mp htotal
    obtain rfl := (fieldCount_eq_ok_iff (collectionCount_le hcount)).mp hpairs
    obtain ⟨front, rfl, hfront⟩ := (local_collectionCount _).whole hcount
    obtain ⟨fields, rfl, hall⟩ := (skipFields_eq_ok_iff hskips).mp hfields
    exact ⟨count, front, fields, rfl, hfront, hall⟩
  · rintro ⟨count, front, fields, rfl, hfront, hall⟩
    refine bind_eq_ok_iff.mpr ⟨_, (local_collectionCount _).append hfront _, ?_⟩
    refine bind_eq_ok_iff.mpr ⟨_, (fieldCount_eq_ok_iff (collectionCount_le hfront)).mpr rfl, ?_⟩
    exact (skipFields_eq_ok_iff hskips).mpr ⟨fields, rfl, hall⟩

theorem advance_eq_ok_iff {length : Nat} {unread rest : List UInt8} :
    advance length unread = .ok rest ↔ ∃ bytes, take length unread = .ok (bytes, rest) := by
  constructor
  · intro hadvance
    obtain ⟨⟨bytes, behind⟩, htake, hreturn⟩ := bind_eq_ok_iff.mp hadvance
    cases hreturn
    exact ⟨bytes, htake⟩
  · rintro ⟨bytes, htake⟩
    exact bind_eq_ok_iff.mpr ⟨_, htake, rfl⟩

end Nested

/-! ## A skip and the read of its kind -/

section Agreement

variable {levels : Nat} {unread rest : List UInt8}

theorem skipLevels_string {kind : UInt8} (hkind : kind = Kind.stringOne ∨ kind = Kind.stringFour) :
    skipLevels (levels + 1) kind unread = .ok rest ↔
      ∃ text, stringBytes kind unread = .ok (text, rest) := by
  have hskip : skipLevels (levels + 1) kind unread = do
      let (_, rest) ← stringBytes kind unread
      return rest := by
    rcases hkind with rfl | rfl <;> rfl
  rw [hskip]
  constructor
  · intro hread
    obtain ⟨⟨text, behind⟩, htext, hreturn⟩ := bind_eq_ok_iff.mp hread
    cases hreturn
    exact ⟨text, htext⟩
  · rintro ⟨text, htext⟩
    exact bind_eq_ok_iff.mpr ⟨_, htext, rfl⟩

theorem skipLevels_simpleList :
    skipLevels (levels + 1) Kind.simpleList unread = .ok rest ↔
      ∃ value, simpleList unread = .ok (value, rest) := by
  constructor
  · intro hskip
    obtain ⟨found, hhead, hskip⟩ := bind_eq_ok_iff.mp (show _ = _ from hskip)
    obtain ⟨⟨⟩, hkind, hskip⟩ := bind_eq_ok_iff.mp hskip
    obtain ⟨count, hcount, hskip⟩ := bind_eq_ok_iff.mp hskip
    obtain ⟨value, hvalue⟩ := advance_eq_ok_iff.mp hskip
    refine ⟨value, bind_eq_ok_iff.mpr ⟨found, hhead, ?_⟩⟩
    exact bind_eq_ok_iff.mpr ⟨(), hkind, bind_eq_ok_iff.mpr ⟨count, hcount, hvalue⟩⟩
  · rintro ⟨value, hread⟩
    obtain ⟨found, hhead, hread⟩ := bind_eq_ok_iff.mp hread
    obtain ⟨⟨⟩, hkind, hread⟩ := bind_eq_ok_iff.mp hread
    obtain ⟨count, hcount, hvalue⟩ := bind_eq_ok_iff.mp hread
    refine bind_eq_ok_iff.mpr ⟨found, hhead, bind_eq_ok_iff.mpr ⟨(), hkind, ?_⟩⟩
    exact bind_eq_ok_iff.mpr ⟨count, hcount, advance_eq_ok_iff.mpr ⟨value, hvalue⟩⟩

/-- An integer is taken in the width of its kind. -/
theorem skipLevels_integer {kind : UInt8} {value : Int64}
    (hread : integer kind unread = .ok (value, rest)) :
    skipLevels (levels + 1) kind unread = .ok rest := by
  have hword {width : Nat} (hword : word width unread = .ok (value, rest)) :
      advance width unread = .ok rest := by
    obtain ⟨⟨bytes, behind⟩, htake, hreturn⟩ := bind_eq_ok_iff.mp hword
    cases hreturn
    exact advance_eq_ok_iff.mpr ⟨bytes, htake⟩
  unfold integer at hread
  split at hread
  · cases hread
    rfl
  · exact hword hread
  · exact hword hread
  · exact hword hread
  · exact hword hread
  · cases hread

/-- The kinds of integers. -/
def integerKinds : List UInt8 := [Kind.zero, Kind.byte, Kind.short, Kind.int, Kind.long]

theorem integer_of_skipLevels {kind : UInt8} (hkind : kind ∈ integerKinds)
    (hskip : skipLevels (levels + 1) kind unread = .ok rest) :
    ∃ value, integer kind unread = .ok (value, rest) := by
  have hword {width : Nat} (hadvance : advance width unread = .ok rest) :
      ∃ value, word width unread = .ok (value, rest) := by
    obtain ⟨bytes, htake⟩ := advance_eq_ok_iff.mp hadvance
    exact ⟨_, bind_eq_ok_iff.mpr ⟨_, htake, rfl⟩⟩
  simp only [integerKinds, List.mem_cons, List.not_mem_nil, or_false] at hkind
  rcases hkind with rfl | rfl | rfl | rfl | rfl
  · cases hskip
    exact ⟨0, rfl⟩
  · exact hword hskip
  · exact hword hskip
  · exact hword hskip
  · exact hword hskip

/-- The integers of a list are skipped one by one. -/
theorem skipFields_integers {count : Nat} {unread : List UInt8} {values : List Int64}
    (hread : integers count unread = .ok (values, rest)) :
    values.length = count ∧
      skipFields (skipLevels (levels + 1)) count unread = .ok rest := by
  induction count generalizing unread values with
  | zero =>
      cases hread
      exact ⟨rfl, rfl⟩
  | succ count ih =>
      obtain ⟨found, hhead, hnested⟩ := bind_eq_ok_iff.mp hread
      obtain ⟨⟨value, behind⟩, hvalue, hothers⟩ := bind_eq_ok_iff.mp hnested
      obtain ⟨⟨others, after⟩, hrest, hreturn⟩ := bind_eq_ok_iff.mp hothers
      cases hreturn
      obtain ⟨hlength, hskip⟩ := ih hrest
      refine ⟨congrArg Nat.succ hlength, bind_eq_ok_iff.mpr ⟨found, hhead, ?_⟩⟩
      exact bind_eq_ok_iff.mpr ⟨behind, skipLevels_integer hvalue, hskip⟩

/-- A count within two bounds is read under either. -/
theorem collectionCount_of_le {maximum bound count : Nat}
    (hread : collectionCount maximum unread = .ok (count, rest)) (hbound : count ≤ bound) :
    collectionCount bound unread = .ok (count, rest) := by
  obtain ⟨found, hhead, hbehind⟩ := bind_eq_ok_iff.mp hread
  obtain ⟨value, hvalue, hchecks⟩ := bind_eq_ok_iff.mp hbehind
  obtain ⟨number, hnumber, hreject⟩ := bind_eq_ok_iff.mp hchecks
  obtain ⟨⟨⟩, -, hreturn⟩ := bind_eq_ok_iff.mp hreject
  cases hreturn
  refine bind_eq_ok_iff.mpr ⟨found, hhead, bind_eq_ok_iff.mpr ⟨value, hvalue, ?_⟩⟩
  refine bind_eq_ok_iff.mpr ⟨_, hnumber, bind_eq_ok_iff.mpr ⟨(), ?_, rfl⟩⟩
  exact rejectIf_eq_ok_iff.mpr (Nat.not_lt.mpr hbound)

/-- Every bound under which a count is read gives the same count. -/
theorem collectionCount_unique {first second count other : Nat} {behind : List UInt8}
    (hread : collectionCount first unread = .ok (count, rest))
    (hother : collectionCount second unread = .ok (other, behind)) :
    count = other ∧ rest = behind := by
  have hwide := collectionCount_of_le hread (Nat.le_max_left count other)
  rw [collectionCount_of_le hother (Nat.le_max_right count other)] at hwide
  cases hwide
  exact ⟨rfl, rfl⟩

theorem integerList_eq_ok {kind : UInt8} {maximum : Nat} {values : List Int64}
    (hread : integerList kind maximum unread = .ok (values, rest)) :
    kind = Kind.list ∧ ∃ behind, collectionCount maximum unread = .ok (values.length, behind) ∧
      integers values.length behind = .ok (values, rest) := by
  unfold integerList at hread
  split at hread
  · cases hread
  · next hkind =>
      obtain ⟨⟨count, behind⟩, hcount, hvalues⟩ := bind_eq_ok_iff.mp hread
      obtain ⟨rfl, -⟩ : values.length = count ∧
          skipFields (skipLevels 1) count behind = .ok rest := skipFields_integers hvalues
      exact ⟨not_not.mp hkind, behind, hcount, hvalues⟩

/-- A list of integers is skipped as far as `skip` goes: so many values, and where
there are any, one level more. -/
theorem skipLevels_integerList_iff {kind : UInt8} {maximum : Nat} {values : List Int64}
    (hread : integerList kind maximum unread = .ok (values, rest)) :
    skipLevels (levels + 1) kind unread = .ok rest ↔
      values.length ≤ maxSkippedCount ∧ (values = [] ∨ 0 < levels) := by
  obtain ⟨rfl, behind, hcount, hvalues⟩ := integerList_eq_ok hread
  constructor
  · intro hskip
    obtain ⟨⟨count, after⟩, hsame, htotal⟩ := bind_eq_ok_iff.mp
      (show skipCollection (skipLevels levels) false unread = .ok rest from hskip)
    obtain ⟨rfl, rfl⟩ := collectionCount_unique hcount hsame
    refine ⟨collectionCount_le hsame, ?_⟩
    obtain ⟨total, htotal, hfields⟩ := bind_eq_ok_iff.mp htotal
    obtain rfl := (fieldCount_eq_ok_iff (collectionCount_le hsame)).mp htotal
    cases values with
    | nil => exact .inl rfl
    | cons value values =>
        -- The first value is skipped one level deeper.
        refine .inr (Nat.pos_of_ne_zero ?_)
        rintro rfl
        obtain ⟨found, -, hbody⟩ := bind_eq_ok_iff.mp hfields
        obtain ⟨middle, hskipped, -⟩ := bind_eq_ok_iff.mp hbody
        cases hskipped
  · rintro ⟨hbound, hlevels⟩
    have hfields : skipFields (skipLevels levels) values.length behind = .ok rest := by
      rcases hlevels with rfl | hlevels
      · cases hvalues
        rfl
      · obtain ⟨fewer, rfl⟩ := Nat.exists_eq_add_one_of_ne_zero (Nat.ne_of_gt hlevels)
        exact (skipFields_integers hvalues).2
    refine bind_eq_ok_iff.mpr ⟨_, collectionCount_of_le hcount hbound, ?_⟩
    exact bind_eq_ok_iff.mpr ⟨_, (fieldCount_eq_ok_iff hbound).mpr rfl, hfields⟩

end Agreement

theorem skipLevels_skips (levels : Nat) : Skips (skipLevels levels) (Body levels) := by
  induction levels with
  | zero =>
      intro kind unread rest
      constructor
      · intro hskip
        cases hskip
      · rintro ⟨front, -, hbody⟩
        cases hbody
  | succ levels ih =>
      intro kind unread rest
      constructor
      · intro hskip
        have hwidth {width : Nat} (hadvance : advance width unread = .ok rest) :
            ∃ front, unread = front ++ rest ∧ front.length = width := by
          obtain ⟨front, htake⟩ := advance_eq_ok_iff.mp hadvance
          exact ⟨front, splitFront_eq_some_iff.mp (okOr_eq_ok_iff.mp htake)⟩
        unfold skipLevels at hskip
        split at hskip
        case h_1 =>
          cases hskip
          exact ⟨[], rfl, .zero⟩
        case h_2 =>
          cases hskip
          exact ⟨[], rfl, .structEnd⟩
        case h_3 =>
          obtain ⟨front, rfl, hlength⟩ := hwidth hskip
          exact ⟨front, rfl, .byte hlength⟩
        case h_4 =>
          obtain ⟨front, rfl, hlength⟩ := hwidth hskip
          exact ⟨front, rfl, .short hlength⟩
        case h_5 =>
          obtain ⟨front, rfl, hlength⟩ := hwidth hskip
          exact ⟨front, rfl, .int hlength⟩
        case h_6 =>
          obtain ⟨front, rfl, hlength⟩ := hwidth hskip
          exact ⟨front, rfl, .float hlength⟩
        case h_7 =>
          obtain ⟨front, rfl, hlength⟩ := hwidth hskip
          exact ⟨front, rfl, .long hlength⟩
        case h_8 =>
          obtain ⟨front, rfl, hlength⟩ := hwidth hskip
          exact ⟨front, rfl, .double hlength⟩
        case h_9 =>
          have hstring : skipLevels (levels + 1) Kind.stringOne unread = .ok rest := hskip
          obtain ⟨text, hread⟩ := (skipLevels_string (.inl rfl)).mp hstring
          obtain ⟨front, rfl, hfront⟩ := (local_stringBytes _).whole hread
          exact ⟨front, rfl, .stringOne hfront⟩
        case h_10 =>
          have hstring : skipLevels (levels + 1) Kind.stringFour unread = .ok rest := hskip
          obtain ⟨text, hread⟩ := (skipLevels_string (.inr rfl)).mp hstring
          obtain ⟨front, rfl, hfront⟩ := (local_stringBytes _).whole hread
          exact ⟨front, rfl, .stringFour hfront⟩
        case h_11 =>
          have hsimple : skipLevels (levels + 1) Kind.simpleList unread = .ok rest := hskip
          obtain ⟨value, hread⟩ := skipLevels_simpleList.mp hsimple
          obtain ⟨front, rfl, hfront⟩ := local_simpleList.whole hread
          exact ⟨front, rfl, .simpleList hfront⟩
        case h_12 =>
          obtain ⟨count, front, fields, rfl, hcount, hfields⟩ :=
            (skipCollection_eq_ok_iff ih).mp hskip
          exact ⟨front ++ fields, (List.append_assoc _ _ _).symm, .map hcount hfields⟩
        case h_13 =>
          obtain ⟨count, front, fields, rfl, hcount, hfields⟩ :=
            (skipCollection_eq_ok_iff ih).mp hskip
          exact ⟨front ++ fields, (List.append_assoc _ _ _).symm, .list hcount hfields⟩
        case h_14 =>
          obtain ⟨fields, hunread, hfields⟩ := (skipStruct_eq_ok_iff ih (Nat.le_refl _)).mp hskip
          exact ⟨fields, hunread, .struct hfields⟩
        case h_15 => cases hskip
      · rintro ⟨front, rfl, hbody⟩
        have hadvance {width : Nat} (hlength : front.length = width) :
            advance width (front ++ rest) = .ok rest :=
          advance_eq_ok_iff.mpr ⟨front, okOr_eq_ok_iff.mpr (splitFront_append rest hlength)⟩
        cases hbody with
        | zero => rfl
        | structEnd => rfl
        | byte hlength => exact hadvance hlength
        | short hlength => exact hadvance hlength
        | int hlength => exact hadvance hlength
        | float hlength => exact hadvance hlength
        | long hlength => exact hadvance hlength
        | double hlength => exact hadvance hlength
        | stringOne hread =>
            exact (skipLevels_string (.inl rfl)).mpr ⟨_, (local_stringBytes _).append hread rest⟩
        | stringFour hread =>
            exact (skipLevels_string (.inr rfl)).mpr ⟨_, (local_stringBytes _).append hread rest⟩
        | simpleList hread =>
            exact skipLevels_simpleList.mpr ⟨_, local_simpleList.append hread rest⟩
        | map hcount hfields =>
            exact (skipCollection_eq_ok_iff ih).mpr
              ⟨_, _, _, List.append_assoc _ _ _, hcount, hfields⟩
        | list hcount hfields =>
            exact (skipCollection_eq_ok_iff ih).mpr
              ⟨_, _, _, List.append_assoc _ _ _, hcount, hfields⟩
        | struct hfields =>
            exact (skipStruct_eq_ok_iff ih (Nat.le_refl _)).mpr ⟨front, rfl, hfields⟩

/-- A skip takes off what the typed reads of the kind take off. -/
structure SkipsAsRead (kind : UInt8) (depth : Nat) (unread rest : List UInt8) : Prop where
  integer : kind ∈ integerKinds →
    (skip kind depth unread = .ok rest ↔ ∃ value, integer kind unread = .ok (value, rest))
  bytes : kind ∈ [Kind.stringOne, Kind.stringFour, Kind.simpleList] →
    (skip kind depth unread = .ok rest ↔ ∃ value, bytes kind unread = .ok (value, rest))
  string : ∀ text, string kind unread = .ok (text, rest) → skip kind depth unread = .ok rest
  integerList : ∀ maximum values, integerList kind maximum unread = .ok (values, rest) →
    (skip kind depth unread = .ok rest ↔
      values.length ≤ maxSkippedCount ∧ (values = [] ∨ depth < maxDepth))

theorem skips_as_read {kind : UInt8} {depth : Nat} (hdepth : depth ≤ maxDepth)
    (unread rest : List UInt8) : SkipsAsRead kind depth unread rest := by
  obtain ⟨levels, hlevels⟩ : ∃ levels, maxDepth + 1 - depth = levels + 1 :=
    ⟨maxDepth - depth, by omega⟩
  have hskip : skip kind depth unread = skipLevels (levels + 1) kind unread := by
    rw [skip, hlevels]
  have hstring (hkind : kind = Kind.stringOne ∨ kind = Kind.stringFour) :
      skip kind depth unread = .ok rest ↔ ∃ text, stringBytes kind unread = .ok (text, rest) := by
    rw [hskip]
    exact skipLevels_string hkind
  refine ⟨?_, ?_, ?_, ?_⟩
  · intro hkind
    rw [hskip]
    exact ⟨integer_of_skipLevels hkind, fun ⟨value, hread⟩ => skipLevels_integer hread⟩
  · intro hkind
    simp only [List.mem_cons, List.not_mem_nil, or_false] at hkind
    rcases hkind with rfl | rfl | rfl
    · exact hstring (.inl rfl)
    · exact hstring (.inr rfl)
    · rw [hskip]
      exact skipLevels_simpleList
  · intro text hread
    obtain ⟨⟨bytes, behind⟩, hbytes, htext⟩ := bind_eq_ok_iff.mp hread
    obtain ⟨value, -, hreturn⟩ := bind_eq_ok_iff.mp htext
    cases hreturn
    refine (hstring ?_).mpr ⟨bytes, hbytes⟩
    -- Only the two kinds of strings have a length before their bytes.
    obtain ⟨length, hlength, -⟩ := bind_eq_ok_iff.mp hbytes
    unfold stringLength at hlength
    split at hlength
    · exact .inl rfl
    · exact .inr rfl
    · cases hlength
  · intro maximum values hread
    rw [hskip, skipLevels_integerList_iff hread]
    have hbelow : 0 < levels ↔ depth < maxDepth := by omega
    rw [hbelow]

/-- What the writer writes is read back and nothing else is taken; a skip takes off
what the typed read of the kind takes off, except that it refuses a list of integers
that is too long or has no level left for its values; and what it accepts are the
bodies that nest no deeper than the limit. -/
theorem jce_fields_agree :
    (∀ shapes fields written rest,
      List.Forall₂ (fun shape field => Shape.Takes shape field.2) shapes fields →
      Writer.fields fields = .ok written →
      Reader.fields shapes (written ++ rest) = .ok (fields, rest)) ∧
    (∀ kind depth unread rest, depth ≤ maxDepth → SkipsAsRead kind depth unread rest) ∧
    ∀ kind depth unread rest, skip kind depth unread = .ok rest ↔
      ∃ body, unread = body ++ rest ∧ Body (maxDepth + 1 - depth) kind body := by
  refine ⟨?_, ?_, ?_⟩
  · intro shapes fields written rest htakes hwrite
    exact fields_write htakes hwrite
  · intro kind depth unread rest hdepth
    exact skips_as_read hdepth unread rest
  · intro kind depth unread rest
    exact skipLevels_skips (maxDepth + 1 - depth) kind unread rest

def sampleShapes : List Shape :=
  [.integer, .string, .bytes, .integerList 4]

/-- A field of each shape, under short and long tags. -/
def sampleFields : List (UInt8 × Value) :=
  [(20, .integer (-70000)), (0, .string "PushReq"), (15, .bytes [1, 2]),
    (3, .integerList [0, 300])]

def sampleWritten : List UInt8 :=
  [242, 20, 255, 254, 238, 144, 6, 7, 80, 117, 115, 104, 82, 101, 113, 253, 15, 0, 0, 2, 1, 2,
    57, 0, 2, 12, 1, 1, 44]

/-- The fields are read in front of a byte that is left, and the list among them is skipped. -/
theorem jce_fields_agree_sample :
    Reader.fields sampleShapes (sampleWritten ++ [11]) = .ok (sampleFields, [11]) ∧
      skip Kind.list 0 [0, 2, 12, 1, 1, 44, 11] = .ok [11] := by
  obtain ⟨hfields, hskips, -⟩ := jce_fields_agree
  have htext : "PushReq".utf8ByteSize ≤ maxValueLen := by decide
  have hbytes : [1, 2].length ≤ maxValueLen := by decide
  have hvalues : [0, 300].length ≤ 4 := by decide
  have htakes : List.Forall₂ (fun shape field => Shape.Takes shape field.2)
      sampleShapes sampleFields :=
    .cons trivial (.cons htext (.cons hbytes (.cons hvalues .nil)))
  have hlist : integerList Kind.list 4 [0, 2, 12, 1, 1, 44, 11] = .ok ([0, 300], [11]) := by
    decide +kernel
  constructor
  · exact hfields _ _ _ [11] htakes (by decide +kernel)
  · exact ((hskips Kind.list 0 _ [11] (Nat.zero_le maxDepth)).integerList _ _ hlist).mpr
      ⟨by decide, .inr (by decide)⟩

/-- A list of a million zeros and one more is read, but not skipped. -/
theorem long_list_not_skipped :
    ∃ unread, integerList Kind.list 2000000 unread = .ok (List.replicate 1000001 0, []) ∧
      skip Kind.list 0 unread ≠ .ok [] := by
  have hlength : Writer.lengthInteger (List.replicate 1000001 (0 : Int64)).length =
      .ok 1000001 := by
    rw [List.length_replicate]
    rfl
  have hread : integerList Kind.list 2000000 (Writer.integer 0 1000001 ++
      ((List.replicate 1000001 0).flatMap (Writer.integer 0) ++ [])) =
        .ok (List.replicate 1000001 0, []) :=
    integerList_body hlength (by rw [List.length_replicate]; decide)
  refine ⟨_, hread, fun hskip => ?_⟩
  have hbound := ((skips_as_read (Nat.zero_le maxDepth) _ _).integerList _ _ hread).mp hskip
  rw [List.length_replicate] at hbound
  exact absurd hbound.1 (by decide)

end Reader

end Jce
end Online
end Lirvena
