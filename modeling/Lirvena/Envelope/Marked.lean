import Lirvena.Ceylith.WireScan
import Lirvena.Lib.Text

/-!
# Attaching the account identity

The account identity is put into a reserve that comes as opaque protobuf.  A scanner
goes over the top-level fields, finds where field 16 belongs, and refuses what it cannot
read; the identity is spliced in there, and the bytes around it stay as they were.
-/

namespace Lirvena
namespace Envelope

open Lib Lib.Protobuf

def maxIdentityLen : Nat := 256

def accountIdentityField : Nat := 16

/-- How an operation ends without a result: by `EnvelopeError::InvalidField`, or by an offset
outside its machine word. -/
inductive ScanFault where
  | invalidField
  | overflow
  deriving DecidableEq

/-- `*offset += 1` -/
def advance (offset : Nat) : Except ScanFault Nat :=
  okOr .overflow (checkedAddU64 offset 1)

/-- The loop of `read_varint`, with the number of shifts that are left. -/
def readVarintFrom (encoded : List UInt8) :
    Nat → Nat → Nat → Nat → Except ScanFault (Nat × Nat)
  | 0, _, _, _ => .error .invalidField
  | left + 1, shift, offset, value => do
      let byte ← okOr .invalidField encoded[offset]?
      let next ← advance offset
      rejectIf .invalidField (shift = 63 ∧ 1 < byte)
      let value := value ||| ((byte &&& 0x7f).toNat <<< shift) % u64Bound
      if byte &&& 0x80 = 0 then .ok (value, next)
      else readVarintFrom encoded left (shift + 7) next value

/-- The value of a varint and the offset behind it. -/
def readVarint (encoded : List UInt8) (offset : Nat) : Except ScanFault (Nat × Nat) :=
  readVarintFrom encoded 10 0 offset 0

/-- The offset behind so many bytes. -/
def skipLength (encoded : List UInt8) (offset length : Nat) : Except ScanFault Nat :=
  okOr .invalidField ((checkedAddU64 offset length).filter (· ≤ encoded.length))

def skipField (encoded : List UInt8) (offset wireType : Nat) : Except ScanFault Nat :=
  match wireType with
  | 0 => Prod.snd <$> readVarint encoded offset
  | 1 => skipLength encoded offset 8
  | 2 => do
      let length ← readVarint encoded offset
      skipLength encoded length.2 length.1
  | 5 => skipLength encoded offset 4
  | _ => .error .invalidField

/-- One turn of the scan: the number of the field and the offset behind it. -/
def scanField (encoded : List UInt8) (target offset : Nat) : Except ScanFault (Nat × Nat) := do
  let key ← readVarint encoded offset
  rejectIf .invalidField (u32Bound ≤ key.1 >>> 3)
  rejectIf .invalidField (key.1 >>> 3 = 0 ∨ key.1 >>> 3 = target)
  let next ← skipField encoded key.2 (key.1 &&& 7)
  return (key.1 >>> 3, next)

/-- The place of the field behind one more field; the end stands for none so far. -/
def nextInsertion (encoded : List UInt8) (target offset insertion number : Nat) : Nat :=
  if target < number ∧ insertion = encoded.length then offset else insertion

/-! ## Advancing -/

section Advancing

variable {encoded : List UInt8} {offset next : Nat}

theorem advance_eq_ok_iff :
    advance offset = .ok next ↔ offset + 1 < u64Bound ∧ next = offset + 1 := by
  rw [advance, okOr_eq_ok_iff, checkedAddU64_eq_some_iff]

theorem readVarintFrom_lt {left shift value result : Nat}
    (hread : readVarintFrom encoded left shift offset value = .ok (result, next)) :
    offset < next := by
  induction left generalizing shift offset value with
  | zero => cases hread
  | succ left ih =>
      simp only [readVarintFrom, bind_eq_ok_iff] at hread
      obtain ⟨byte, -, after, hafter, _, -, hread⟩ := hread
      obtain ⟨-, rfl⟩ := advance_eq_ok_iff.mp hafter
      split at hread
      · cases hread
        exact Nat.lt_succ_self offset
      · exact (Nat.lt_succ_self offset).trans (ih hread)

theorem readVarint_lt {value : Nat} (hread : readVarint encoded offset = .ok (value, next)) :
    offset < next :=
  readVarintFrom_lt hread

theorem skipLength_eq_ok_iff {length : Nat} :
    skipLength encoded offset length = .ok next ↔
      offset + length < u64Bound ∧ offset + length ≤ encoded.length ∧ next = offset + length := by
  rw [skipLength, okOr_eq_ok_iff, Option.filter_eq_some_iff, checkedAddU64_eq_some_iff,
    decide_eq_true_eq]
  constructor
  · rintro ⟨⟨hfits, rfl⟩, hroom⟩
    exact ⟨hfits, hroom, rfl⟩
  · rintro ⟨hfits, hroom, rfl⟩
    exact ⟨⟨hfits, rfl⟩, hroom⟩

theorem skipField_le {wireType : Nat} (hskip : skipField encoded offset wireType = .ok next) :
    offset ≤ next := by
  unfold skipField at hskip
  split at hskip
  · obtain ⟨⟨value, stop⟩, hread, rfl⟩ := map_eq_ok_iff.mp hskip
    exact (readVarint_lt hread).le
  · obtain ⟨-, -, rfl⟩ := skipLength_eq_ok_iff.mp hskip
    exact Nat.le_add_right _ _
  · obtain ⟨⟨length, middle⟩, hread, hskip⟩ := bind_eq_ok_iff.mp hskip
    obtain ⟨-, -, rfl⟩ := skipLength_eq_ok_iff.mp hskip
    exact (readVarint_lt hread).le.trans (Nat.le_add_right _ _)
  · obtain ⟨-, -, rfl⟩ := skipLength_eq_ok_iff.mp hskip
    exact Nat.le_add_right _ _
  · cases hskip

/-- Every field takes at least one byte. -/
theorem scanField_lt {target number : Nat}
    (hscan : scanField encoded target offset = .ok (number, next)) : offset < next := by
  simp only [scanField, bind_eq_ok_iff] at hscan
  obtain ⟨⟨key, middle⟩, hkey, _, -, _, -, stop, hskip, hresult⟩ := hscan
  cases hresult
  exact (readVarint_lt hkey).trans_le (skipField_le hskip)

end Advancing

/-! ## The operation -/

/-- The loop of `insertion_offset`. -/
def insertionFrom (encoded : List UInt8) (target offset insertion : Nat) :
    Except ScanFault Nat :=
  if _ : offset < encoded.length then
    match _ : scanField encoded target offset with
    | .error fault => .error fault
    | .ok (number, next) =>
        insertionFrom encoded target next (nextInsertion encoded target offset insertion number)
  else .ok insertion
termination_by encoded.length - offset
decreasing_by
  have hadvance := scanField_lt ‹_›
  omega

def insertionOffset (encoded : List UInt8) (target : Nat) : Except ScanFault Nat :=
  insertionFrom encoded target 0 encoded.length

/-- The low byte of a word. -/
def lowByte (value : Nat) : UInt8 :=
  UInt8.ofNat value

def putVarint (value : Nat) : List UInt8 :=
  if value < 0x80 then [lowByte value]
  else (lowByte value &&& 0x7f ||| 0x80) :: putVarint (value >>> 7)
termination_by value
decreasing_by
  rw [Nat.shiftRight_eq_div_pow]
  omega

def validateAccountIdentity (value : String) : Except ScanFault Unit :=
  rejectIf .invalidField (boundedUid maxIdentityLen value = false)

/-- The bytes of the identity field. -/
def identityBytes (identity : String) : List UInt8 :=
  putVarint (accountIdentityField <<< 3 ||| 2) ++ putVarint (utf8Bytes identity).length ++
    utf8Bytes identity

/-- Inserts the login account identity into a reserve without changing any existing opaque
protobuf fields. -/
def attachAccountIdentity (reserve : List UInt8) (accountIdentity : String) :
    Except ScanFault (List UInt8) := do
  validateAccountIdentity accountIdentity
  let insertion ← insertionOffset reserve accountIdentityField
  return reserve.take insertion ++ identityBytes accountIdentity ++ reserve.drop insertion

/-! ## The scanner and the wire format -/

section Scanner

open Ceylith (Consumes)

variable {encoded : List UInt8} {offset next : Nat}

/-- The loop is that of the scanner for inner frames, which has other errors. -/
theorem readVarintFrom_eq_ok_iff (hencoded : encoded.length < u64Bound)
    {left shift value result : Nat} :
    readVarintFrom encoded left shift offset value = .ok (result, next) ↔
      Ceylith.readVarintFrom encoded left shift offset value = .ok (result, next) := by
  induction left generalizing shift offset value with
  | zero => simp [readVarintFrom, Ceylith.readVarintFrom]
  | succ left ih =>
      unfold readVarintFrom Ceylith.readVarintFrom
      cases hbyte : encoded[offset]? with
      | none => simp [okOr, bind, Except.bind]
      | some byte =>
          obtain ⟨hoffset, -⟩ := List.getElem?_eq_some_iff.mp hbyte
          have hadvance : advance offset = .ok (offset + 1) :=
            advance_eq_ok_iff.mpr ⟨by omega, rfl⟩
          simp only [okOr, hadvance, bind, Except.bind, rejectIf]
          by_cases hlast : shift = 63 ∧ 1 < byte
          · simp [hlast]
          · simp only [if_neg hlast]
            split
            · simp
            · exact ih

theorem readVarint_eq_ok_iff (hencoded : encoded.length < u64Bound) {value : Nat} :
    readVarint encoded offset = .ok (value, next) ↔
      ∃ bytes, Varint64 bytes value ∧ Consumes encoded offset next bytes :=
  (readVarintFrom_eq_ok_iff hencoded).trans Ceylith.readVarint_eq_ok_iff

theorem skipLength_agrees {length : Nat} :
    skipLength encoded offset length = .ok next ↔
      Ceylith.skipWidth encoded offset length = .ok next := by
  simp only [skipLength_eq_ok_iff, Ceylith.skipWidth, bind_eq_ok_iff, okOr_eq_ok_iff,
    checkedAddU64_eq_some_iff]
  constructor
  · rintro ⟨hfits, hroom, rfl⟩
    exact ⟨_, ⟨hfits, rfl⟩, (), rejectIf_eq_ok_iff.mpr (Nat.not_lt.mpr hroom), rfl⟩
  · rintro ⟨stop, ⟨hfits, rfl⟩, ⟨⟩, hroom, hresult⟩
    cases hresult
    exact ⟨hfits, Nat.not_lt.mp (rejectIf_eq_ok_iff.mp hroom), rfl⟩

/-- Skipping a field reads a value of its wire type. -/
theorem skipField_eq_ok_iff (hencoded : encoded.length < u64Bound)
    (hoffset : offset ≤ encoded.length) {wireType : Nat} :
    skipField encoded offset wireType = .ok next ↔
      ∃ bytes value, ValueReads wireType bytes value ∧ Consumes encoded offset next bytes := by
  rw [← Ceylith.skipValue_eq_ok_iff hencoded hoffset]
  unfold skipField Ceylith.skipValue
  split
  · simp only [map_eq_ok_iff, Prod.exists, readVarint, Ceylith.readVarint,
      readVarintFrom_eq_ok_iff hencoded]
  · exact skipLength_agrees
  · simp only [bind_eq_ok_iff, Prod.exists, readVarint, Ceylith.readVarint,
      readVarintFrom_eq_ok_iff hencoded, skipLength_agrees]
  · exact skipLength_agrees
  · simp

/-- A field number that the scan lets pass. -/
structure Legal (target number : Nat) : Prop where
  positive : number ≠ 0
  word : number < u32Bound
  other : number ≠ target

/-- One turn of the scan reads one field. -/
theorem scanField_eq_ok_iff (hencoded : encoded.length < u64Bound)
    (hoffset : offset ≤ encoded.length) {target number : Nat} :
    scanField encoded target offset = .ok (number, next) ↔
      ∃ bytes value, FieldReads bytes ⟨number, value⟩ ∧ Consumes encoded offset next bytes ∧
        Legal target number := by
  -- the source takes the key apart by shift and mask, the library by division
  have htag (key : Nat) : key >>> 3 = key / 8 := Nat.shiftRight_eq_div_pow key 3
  have htype (key : Nat) : key &&& 7 = key % 8 := Nat.and_two_pow_sub_one_eq_mod key 3
  simp only [scanField, bind_eq_ok_iff, htag, htype]
  constructor
  · rintro ⟨⟨key, middle⟩, hkey, _, hword, _, hnumber, stop, hskip, hresult⟩
    cases hresult
    obtain ⟨head, hvarint, hhead⟩ := (readVarint_eq_ok_iff hencoded).mp hkey
    obtain ⟨bytes, value, hvalue, hbytes⟩ :=
      (skipField_eq_ok_iff hencoded (hhead.next_le hoffset)).mp hskip
    have hlegal := rejectIf_eq_ok_iff.mp hnumber
    rw [not_or] at hlegal
    exact ⟨head ++ bytes, value, ⟨(key, value), .intro hvarint hvalue, rfl⟩,
      hhead.append hbytes, hlegal.1, Nat.not_le.mp (rejectIf_eq_ok_iff.mp hword), hlegal.2⟩
  · rintro ⟨bytes, value, ⟨⟨key, read⟩, hreads, hfield⟩, hconsumes, hlegal⟩
    obtain ⟨rfl, rfl⟩ := Field.mk.inj hfield
    cases hreads with
    | intro hvarint hvalue =>
        obtain ⟨hhead, hbody⟩ := hconsumes.of_append
        have hkey := (readVarint_eq_ok_iff hencoded).mpr ⟨_, hvarint, hhead⟩
        refine ⟨(key, _), hkey, (), rejectIf_eq_ok_iff.mpr (Nat.not_le.mpr hlegal.word), (),
          rejectIf_eq_ok_iff.mpr (not_or.mpr ⟨hlegal.positive, hlegal.other⟩), next, ?_, rfl⟩
        exact (skipField_eq_ok_iff hencoded (hhead.next_le hoffset)).mpr
          ⟨_, read, hvalue, hbody⟩

/-! ## The loop -/

/-- The fields from an offset on, cut where the field of the target number belongs. -/
structure Cut (encoded : List UInt8) (target offset insertion result : Nat) where
  before : List Field
  after : List Field
  front : List UInt8
  back : List UInt8
  drop_eq : encoded.drop offset = front ++ back
  front_reads : MessageReads front before
  back_reads : MessageReads back after
  legal : ∀ field ∈ before ++ after, Legal target field.number
  /-- A place that was found earlier stays. -/
  found : insertion ≠ encoded.length → result = insertion
  smaller : insertion = encoded.length → ∀ field ∈ before, field.number < target
  larger : insertion = encoded.length → ∀ field ∈ after.head?, target < field.number
  result_eq : insertion = encoded.length → result = offset + front.length

theorem insertionFrom_cut (hencoded : encoded.length < u64Bound) {target insertion result : Nat}
    (hoffset : offset ≤ encoded.length)
    (hscan : insertionFrom encoded target offset insertion = .ok result) :
    Nonempty (Cut encoded target offset insertion result) := by
  fun_induction insertionFrom encoded target offset insertion with
  | case1 offset insertion hroom fault hfault => cases hscan
  | case2 offset insertion hroom number next hfield ih =>
      obtain ⟨bytes, value, hreads, hconsumes, hlegal⟩ :=
        (scanField_eq_ok_iff hencoded hoffset).mp hfield
      obtain ⟨cut⟩ := ih (hconsumes.next_le hoffset) hscan
      have hdrop : encoded.drop offset = bytes ++ (cut.front ++ cut.back) := by
        rw [hconsumes.drop_eq, cut.drop_eq]
      have hall : ∀ field ∈ (⟨number, value⟩ : Field) :: (cut.before ++ cut.after),
          Legal target field.number := List.forall_mem_cons.mpr ⟨hlegal, cut.legal⟩
      by_cases hopen : insertion = encoded.length
      · by_cases hlarger : target < number
        · -- the field is the first one behind the place
          have hhere : nextInsertion encoded target offset insertion number = offset :=
            if_pos ⟨hlarger, hopen⟩
          refine ⟨⟨[], ⟨number, value⟩ :: (cut.before ++ cut.after), [],
            bytes ++ (cut.front ++ cut.back), hdrop, .nil,
            .cons hreads (cut.front_reads.append cut.back_reads), hall, fun hfound =>
              absurd hopen hfound, fun _ => by simp, fun _ field hfirst => ?_, fun _ => ?_⟩⟩
          · obtain rfl := Option.some.inj hfirst
            exact hlarger
          · rw [cut.found (by rw [hhere]; omega), hhere]
            rfl
        · -- the place is still to come
          have hlater : nextInsertion encoded target offset insertion number = encoded.length :=
            (if_neg fun hboth => hlarger hboth.1).trans hopen
          have hbelow : number < target := by
            have hother := hlegal.other
            omega
          refine ⟨⟨⟨number, value⟩ :: cut.before, cut.after, bytes ++ cut.front, cut.back,
            by rw [hdrop, List.append_assoc], .cons hreads cut.front_reads, cut.back_reads,
            hall, fun hfound => absurd hopen hfound, fun _ => ?_, fun _ => cut.larger hlater,
            fun _ => ?_⟩⟩
          · exact List.forall_mem_cons.mpr ⟨hbelow, cut.smaller hlater⟩
          · have hresult := cut.result_eq hlater
            have hnext := hconsumes.next_eq
            rw [List.length_append]
            omega
      · have hkept : nextInsertion encoded target offset insertion number = insertion :=
          if_neg fun hboth => hopen hboth.2
        refine ⟨⟨⟨number, value⟩ :: cut.before, cut.after, bytes ++ cut.front, cut.back,
          by rw [hdrop, List.append_assoc], .cons hreads cut.front_reads, cut.back_reads, hall,
          fun _ => ?_, fun hend => absurd hend hopen, fun hend => absurd hend hopen,
          fun hend => absurd hend hopen⟩⟩
        rw [cut.found (by rw [hkept]; exact hopen), hkept]
  | case3 offset insertion hdone =>
      cases hscan
      have hnil : encoded.drop offset = [] := List.drop_eq_nil_of_le (Nat.not_lt.mp hdone)
      refine ⟨⟨[], [], [], [], hnil, .nil, .nil, by simp, fun _ => rfl, by simp, by simp,
        fun hend => ?_⟩⟩
      rw [List.length_nil, hend]
      omega

/-- The scan takes every message with legal field numbers. -/
theorem insertionFrom_of_reads (hencoded : encoded.length < u64Bound) {target insertion : Nat}
    {bytes : List UInt8} {fields : List Field} (hreads : MessageReads bytes fields)
    (hoffset : offset ≤ encoded.length) (hdrop : encoded.drop offset = bytes)
    (hlegal : ∀ field ∈ fields, Legal target field.number) :
    ∃ result, insertionFrom encoded target offset insertion = .ok result := by
  induction hreads generalizing offset insertion with
  | nil =>
      have hdone : ¬ offset < encoded.length := by
        have hlength := congrArg List.length hdrop
        rw [List.length_drop, List.length_nil] at hlength
        omega
      rw [insertionFrom, dif_neg hdone]
      exact ⟨insertion, rfl⟩
  | @cons first rest field fields hfirst hrest ih =>
      rw [List.forall_mem_cons] at hlegal
      have hconsumes : Consumes encoded offset (offset + first.length) first :=
        ⟨⟨rest, hdrop.symm⟩, rfl⟩
      have hfield : scanField encoded target offset = .ok (field.number, offset + first.length) :=
        (scanField_eq_ok_iff hencoded hoffset).mpr
          ⟨first, field.value, hfirst, hconsumes, hlegal.1⟩
      have hroom : offset < encoded.length :=
        (scanField_lt hfield).trans_le (hconsumes.next_le hoffset)
      have hafter : encoded.drop (offset + first.length) = rest := by
        have hboth := hconsumes.drop_eq
        rw [hdrop] at hboth
        exact (List.append_cancel_left hboth).symm
      obtain ⟨result, hresult⟩ : ∃ result, insertionFrom encoded target (offset + first.length)
          (nextInsertion encoded target offset insertion field.number) = .ok result :=
        ih (hconsumes.next_le hoffset) hafter hlegal.2
      refine ⟨result, ?_⟩
      rw [insertionFrom, dif_pos hroom]
      split
      · next fault hfault => cases hfault.symm.trans hfield
      · next number next hother =>
          cases hother.symm.trans hfield
          exact hresult

/-! ## Offsets stay in their word -/

theorem invalidField_ne_overflow : ScanFault.invalidField ≠ .overflow :=
  nofun

theorem readVarintFrom_in_range (hencoded : encoded.length < u64Bound)
    (left shift offset value : Nat) :
    readVarintFrom encoded left shift offset value ≠ .error .overflow := by
  induction left generalizing shift offset value with
  | zero => exact nofun
  | succ left ih =>
      unfold readVarintFrom
      refine bind_ne_error (okOr_ne_error invalidField_ne_overflow _) fun byte hbyte => ?_
      obtain ⟨hoffset, -⟩ := List.getElem?_eq_some_iff.mp (okOr_eq_ok_iff.mp hbyte)
      refine bind_ne_error ?_ fun next _ => ?_
      · rw [show advance offset = .ok (offset + 1) from advance_eq_ok_iff.mpr ⟨by omega, rfl⟩]
        exact nofun
      · refine bind_ne_error (rejectIf_ne_error invalidField_ne_overflow _) fun _ _ => ?_
        dsimp only
        split
        · exact nofun
        · exact ih _ _ _

theorem skipField_in_range (hencoded : encoded.length < u64Bound) (offset wireType : Nat) :
    skipField encoded offset wireType ≠ .error .overflow := by
  unfold skipField
  split
  · exact map_ne_error (readVarintFrom_in_range hencoded _ _ _ _)
  · exact okOr_ne_error invalidField_ne_overflow _
  · exact bind_ne_error (readVarintFrom_in_range hencoded _ _ _ _)
      fun _ _ => okOr_ne_error invalidField_ne_overflow _
  · exact okOr_ne_error invalidField_ne_overflow _
  · exact nofun

theorem scanField_in_range (hencoded : encoded.length < u64Bound) (target offset : Nat) :
    scanField encoded target offset ≠ .error .overflow := by
  refine bind_ne_error (readVarintFrom_in_range hencoded _ _ _ _) fun _ _ => ?_
  refine bind_ne_error (rejectIf_ne_error invalidField_ne_overflow _) fun _ _ => ?_
  refine bind_ne_error (rejectIf_ne_error invalidField_ne_overflow _) fun _ _ => ?_
  exact bind_ne_error (skipField_in_range hencoded _ _) fun _ _ => nofun

theorem insertionFrom_in_range (hencoded : encoded.length < u64Bound)
    (target offset insertion : Nat) :
    insertionFrom encoded target offset insertion ≠ .error .overflow := by
  fun_induction insertionFrom encoded target offset insertion with
  | case1 offset insertion hroom fault hfault =>
      rintro ⟨⟩
      exact scanField_in_range hencoded target offset hfault
  | case2 offset insertion hroom number next hfield ih => exact ih
  | case3 offset insertion hdone => exact nofun

end Scanner

/-! ## The identity field -/

theorem continued_byte (value : Nat) :
    lowByte value &&& 0x7f ||| 0x80 = UInt8.ofNat (value % 128 + 128) := by
  have hbytes : ∀ low < 256, UInt8.ofNat low &&& 0x7f ||| 0x80 = UInt8.ofNat (low % 128 + 128) := by
    decide +kernel
  have hlow := hbytes (value % 2 ^ 8) (Nat.mod_lt _ (by decide))
  rw [UInt8.ofNat_mod_size, Nat.mod_mod_of_dvd value (by decide : 128 ∣ 2 ^ 8)] at hlow
  exact hlow

theorem putVarint_eq (value : Nat) : putVarint value = encodeVarint value := by
  induction value using encodeVarint.induct with
  | case1 value hvalue => rw [putVarint, encodeVarint, if_pos hvalue, if_pos hvalue]; rfl
  | case2 value hvalue ih =>
      rw [putVarint, encodeVarint, if_neg hvalue, if_neg hvalue, continued_byte,
        Nat.shiftRight_eq_div_pow]
      exact congrArg _ ih

def identityField (identity : String) : Field :=
  ⟨accountIdentityField, .lengthDelimited (utf8Bytes identity)⟩

theorem identityBytes_eq (identity : String) :
    identityBytes identity = (identityField identity).encode := by
  have hkey : accountIdentityField <<< 3 ||| 2 = accountIdentityField * 8 + 2 := by decide
  rw [identityBytes, putVarint_eq, putVarint_eq, List.append_assoc, hkey]
  rfl

theorem validateAccountIdentity_length {identity : String}
    (hvalid : validateAccountIdentity identity = .ok ()) :
    (utf8Bytes identity).length ≤ maxIdentityLen := by
  have hbounded : boundedUid maxIdentityLen identity = true := by
    simpa using rejectIf_eq_ok_iff.mp hvalid
  simp only [boundedUid, Bool.and_eq_true, decide_eq_true_eq] at hbounded
  exact hbounded.1.2

theorem identityBytes_reads {identity : String}
    (hvalid : validateAccountIdentity identity = .ok ()) :
    FieldReads (identityBytes identity) (identityField identity) := by
  rw [identityBytes_eq]
  have hnumber : accountIdentityField < 2 ^ 61 := by decide
  exact Field.Fits.reads
    ⟨hnumber, (validateAccountIdentity_length hvalid).trans_lt (by decide)⟩

theorem identityBytes_length {identity : String}
    (hvalid : validateAccountIdentity identity = .ok ()) :
    (identityBytes identity).length ≤ 260 := by
  have hlength := validateAccountIdentity_length hvalid
  have hkey : (encodeVarint (accountIdentityField <<< 3 ||| 2)).length ≤ 2 :=
    encodeVarint_length_le (by decide)
  have hcount : (encodeVarint (utf8Bytes identity).length).length ≤ 2 :=
    encodeVarint_length_le (hlength.trans_lt (by decide))
  simp only [identityBytes, putVarint_eq, List.length_append]
  have hmaximum : maxIdentityLen = 256 := rfl
  omega

/-! ## Attaching -/

/-- A reserve that the identity can be attached to: a message of the wire format whose field
numbers fit 32 bits and are neither 0 nor 16. -/
def Attachable (reserve : List UInt8) : Prop :=
  ∃ fields, MessageReads reserve fields ∧
    ∀ field ∈ fields, Legal accountIdentityField field.number

/-- The output against the reserve: the identity stands between what was there. -/
structure Attached (reserve : List UInt8) (identity : String) (output : List UInt8) : Prop where
  spliced : ∃ front back before after, reserve = front ++ back ∧
    output = front ++ identityBytes identity ++ back ∧
    MessageReads reserve (before ++ after) ∧
    MessageReads output (before ++ identityField identity :: after) ∧
    (∀ field ∈ before, field.number < accountIdentityField) ∧
    (∀ field ∈ after, field.number ≠ accountIdentityField) ∧
    ∀ field ∈ after.head?, accountIdentityField < field.number
  again_rejected : ∀ other, attachAccountIdentity output other = .error .invalidField

/-- The operation over all identities. -/
structure AttachLaw (reserve : List UInt8) (identity : String) : Prop where
  in_range : attachAccountIdentity reserve identity ≠ .error .overflow
  accepted_iff : (∃ output, attachAccountIdentity reserve identity = .ok output) ↔
    validateAccountIdentity identity = .ok () ∧ Attachable reserve
  attached : ∀ output, attachAccountIdentity reserve identity = .ok output →
    Attached reserve identity output

/-- The place is found exactly in a reserve that the identity can be attached to. -/
theorem insertionOffset_iff {reserve : List UInt8} (hreserve : reserve.length < u64Bound) :
    (∃ insertion, insertionOffset reserve accountIdentityField = .ok insertion) ↔
      Attachable reserve := by
  constructor
  · rintro ⟨insertion, hinsertion⟩
    obtain ⟨cut⟩ := insertionFrom_cut hreserve (Nat.zero_le _) hinsertion
    refine ⟨cut.before ++ cut.after, ?_, cut.legal⟩
    have hwhole : reserve = cut.front ++ cut.back := cut.drop_eq
    have hreads := cut.front_reads.append cut.back_reads
    rwa [← hwhole] at hreads
  · rintro ⟨fields, hreads, hlegal⟩
    exact insertionFrom_of_reads hreserve hreads (Nat.zero_le _) rfl hlegal

theorem validateAccountIdentity_in_range (identity : String) :
    validateAccountIdentity identity ≠ .error .overflow :=
  rejectIf_ne_error invalidField_ne_overflow _

theorem attach_in_range {reserve : List UInt8} (hreserve : reserve.length < u64Bound)
    (identity : String) : attachAccountIdentity reserve identity ≠ .error .overflow := by
  refine bind_ne_error (validateAccountIdentity_in_range identity) fun _ _ => ?_
  exact bind_ne_error (insertionFrom_in_range hreserve _ _ _) fun _ _ => nofun

theorem attach_accepted_iff {reserve : List UInt8} (hreserve : reserve.length < u64Bound)
    (identity : String) :
    (∃ output, attachAccountIdentity reserve identity = .ok output) ↔
      validateAccountIdentity identity = .ok () ∧ Attachable reserve := by
  rw [← insertionOffset_iff hreserve]
  simp only [attachAccountIdentity, bind_eq_ok_iff]
  constructor
  · rintro ⟨output, ⟨⟩, hvalid, insertion, hinsertion, -⟩
    exact ⟨hvalid, insertion, hinsertion⟩
  · rintro ⟨hvalid, insertion, hinsertion⟩
    exact ⟨_, (), hvalid, insertion, hinsertion, rfl⟩

/-- The identity is accepted once. -/
theorem attach_rejected {reserve : List UInt8} (hreserve : reserve.length < u64Bound)
    {fields : List Field} (hreads : MessageReads reserve fields)
    {field : Field} (hmem : field ∈ fields) (hnumber : field.number = accountIdentityField)
    (identity : String) : attachAccountIdentity reserve identity = .error .invalidField := by
  cases hattach : attachAccountIdentity reserve identity with
  | ok output =>
      obtain ⟨-, others, hothers, hlegal⟩ :=
        (attach_accepted_iff hreserve identity).mp ⟨output, hattach⟩
      rw [messageReads_unique hothers hreads] at hlegal
      exact absurd hnumber (hlegal field hmem).other
  | error fault =>
      cases fault with
      | invalidField => rfl
      | overflow => exact absurd hattach (attach_in_range hreserve identity)

theorem attach_attached {reserve output : List UInt8} {identity : String}
    (hreserve : reserve.length < i64Bound)
    (hattach : attachAccountIdentity reserve identity = .ok output) :
    Attached reserve identity output := by
  have hword : i64Bound + 260 < u64Bound := by decide
  simp only [attachAccountIdentity, bind_eq_ok_iff] at hattach
  obtain ⟨⟨⟩, hvalid, insertion, hinsertion, hresult⟩ := hattach
  obtain ⟨⟨before, after, front, back, hdrop, hfront, hback, hlegal, -, hsmaller, hlarger,
    hplace⟩⟩ := insertionFrom_cut (by omega) (Nat.zero_le _) hinsertion
  obtain rfl : reserve = front ++ back := hdrop
  obtain rfl : insertion = front.length := (hplace rfl).trans (Nat.zero_add _)
  have houtput : output = front ++ identityBytes identity ++ back := by
    rw [List.take_left, List.drop_left] at hresult
    exact (Except.ok.inj hresult).symm
  have hreads : MessageReads output (before ++ identityField identity :: after) := by
    rw [houtput, List.append_assoc]
    exact hfront.append (.cons (identityBytes_reads hvalid) hback)
  refine ⟨⟨front, back, before, after, rfl, houtput, hfront.append hback, hreads, hsmaller rfl,
    fun field hmem => (hlegal field (List.mem_append_right before hmem)).other, hlarger rfl⟩,
    fun other => ?_⟩
  have hlength : output.length < u64Bound := by
    have hadded := identityBytes_length hvalid
    rw [List.length_append] at hreserve
    rw [houtput, List.length_append, List.length_append]
    omega
  exact attach_rejected hlength hreads (List.mem_append_right before List.mem_cons_self) rfl other

/-- For every reserve that memory can hold and every identity: the scan ends and no offset
leaves its word; the reserves taken are the messages with 32-bit field numbers other than 0
and 16, and the identity is spliced into them once, in front of the first larger number. -/
theorem attach_law {reserve : List UInt8} (hreserve : reserve.length < i64Bound)
    (identity : String) : AttachLaw reserve identity where
  in_range := attach_in_range (hreserve.trans (by decide)) identity
  accepted_iff := attach_accepted_iff (hreserve.trans (by decide)) identity
  attached := fun _ hattach => attach_attached hreserve hattach

/-! ## Malformed reserves -/

/-- A message whose field numbers are those that the format has. -/
def WellFormedReserve (reserve : List UInt8) : Prop :=
  ∃ fields, MessageReads reserve fields ∧
    ∀ field ∈ fields, 1 ≤ field.number ∧ field.number ≤ 2 ^ 29 - 1

/-- Identities are attached by the law, and no malformed reserve takes one. -/
structure AttachSound (reserve : List UInt8) : Prop where
  law : ∀ identity, AttachLaw reserve identity
  wellFormed : ∀ identity output, attachAccountIdentity reserve identity = .ok output →
    WellFormedReserve reserve

/-- Where the field numbers of the reserve fit 32 bits and are neither 0 nor 16, they are all
numbers of the format. -/
def NumbersFit (reserve : List UInt8) : Prop :=
  ∀ fields, MessageReads reserve fields →
    (∀ field ∈ fields, Legal accountIdentityField field.number) →
      ∀ field ∈ fields, field.number < 2 ^ 29

theorem numbersFit_of_reads {reserve : List UInt8} {fields : List Field}
    (hreads : MessageReads reserve fields) (hnumbers : ∀ field ∈ fields, field.number < 2 ^ 29) :
    NumbersFit reserve := by
  intro others hothers hlegal
  rw [messageReads_unique hothers hreads]
  exact hnumbers

/-- The scan lets every number of 32 bits pass, so that it is as strict as the format exactly on
the reserves without numbers in between. -/
theorem attach_sound_iff {reserve : List UInt8} (hreserve : reserve.length < i64Bound) :
    AttachSound reserve ↔ NumbersFit reserve := by
  have haccepted := fun identity => (attach_law hreserve identity).accepted_iff
  constructor
  · intro hsound fields hreads hlegal field hmem
    have hvalid : validateAccountIdentity "u_test" = .ok () := by decide
    obtain ⟨output, hattach⟩ := (haccepted "u_test").mpr ⟨hvalid, fields, hreads, hlegal⟩
    obtain ⟨others, hothers, hnumbers⟩ := hsound.wellFormed "u_test" output hattach
    rw [messageReads_unique hothers hreads] at hnumbers
    have hlast := (hnumbers field hmem).2
    omega
  · intro hfit
    refine ⟨attach_law hreserve, ?_⟩
    intro identity output hattach
    obtain ⟨-, fields, hreads, hlegal⟩ := (haccepted identity).mp ⟨output, hattach⟩
    refine ⟨fields, hreads, ?_⟩
    intro field hmem
    have hnumber := hfit fields hreads hlegal field hmem
    have hpositive := (hlegal field hmem).positive
    omega

/-- The fields 15 and 24. -/
def markedReserve : List UInt8 :=
  [0x7a, 0x01, 0x61, 0xc2, 0x01, 0x00]

theorem markedReserve_reads :
    MessageReads markedReserve [⟨15, .lengthDelimited [0x61]⟩, ⟨24, .lengthDelimited []⟩] := by
  have hkey : Varint64 [0x7a] 122 := ⟨.last (by decide), by decide, by decide⟩
  have hlast : Varint64 [0xc2, 0x01] 194 :=
    ⟨.more (by decide) (.last (by decide)), by decide, by decide⟩
  have hone : Varint64 [0x01] ([0x61] : List UInt8).length :=
    ⟨.last (by decide), by decide, by decide⟩
  have hnone : Varint64 [0x00] ([] : List UInt8).length :=
    ⟨.last (by decide), by decide, by decide⟩
  have hname : ValueReads (122 % 8) [0x01, 0x61] (.lengthDelimited [0x61]) :=
    .lengthDelimited hone
  have hempty : ValueReads (194 % 8) [0x00] (.lengthDelimited []) := .lengthDelimited hnone
  have hfirst : FieldReads [0x7a, 0x01, 0x61] ⟨15, .lengthDelimited [0x61]⟩ :=
    ⟨(122, _), .intro hkey hname, rfl⟩
  have hsecond : FieldReads [0xc2, 0x01, 0x00] ⟨24, .lengthDelimited []⟩ :=
    ⟨(194, _), .intro hlast hempty, rfl⟩
  exact .cons hfirst (.cons hsecond .nil)

theorem markedReserve_sound : AttachSound markedReserve :=
  (attach_sound_iff (by decide)).mpr (numbersFit_of_reads markedReserve_reads (by decide))

/-- One field of number 2 ^ 29 with the varint 0. -/
def largeNumber : List UInt8 :=
  [0x80, 0x80, 0x80, 0x80, 0x10, 0x00]

theorem largeNumber_reads : MessageReads largeNumber [⟨2 ^ 29, .varint 0⟩] := by
  have hkey : IsVarint [0x80, 0x80, 0x80, 0x80, 0x10] (2 ^ 32) :=
    .more (by decide) (.more (by decide) (.more (by decide) (.more (by decide)
      (.last (by decide)))))
  have hkey64 : Varint64 [0x80, 0x80, 0x80, 0x80, 0x10] (2 ^ 32) := ⟨hkey, by decide, by decide⟩
  have hzero : Varint64 [0x00] 0 := ⟨.last (by decide), by decide, by decide⟩
  have hvalue : ValueReads (2 ^ 32 % 8) [0x00] (.varint 0) := .varint hzero
  have hfield : FieldReads largeNumber ⟨2 ^ 29, .varint 0⟩ :=
    ⟨(2 ^ 32, .varint 0), .intro hkey64 hvalue, rfl⟩
  exact .cons hfield .nil

/-- A field number beyond those of the format is not rejected. -/
theorem large_number_accepted :
    (∃ output, attachAccountIdentity largeNumber "u_test" = .ok output) ∧
      ¬ WellFormedReserve largeNumber := by
  constructor
  · refine (attach_accepted_iff (by decide) "u_test").mpr ⟨by decide, _, largeNumber_reads, ?_⟩
    intro field hmem
    obtain rfl := List.mem_singleton.mp hmem
    exact ⟨by decide, by decide, by decide⟩
  · rintro ⟨fields, hreads, hnumbers⟩
    obtain rfl := messageReads_unique hreads largeNumber_reads
    exact absurd (hnumbers _ List.mem_cons_self).2 (by decide)

end Envelope
end Lirvena
