import Lirvena.Ceylith.Frame
import Lirvena.Lib.Protobuf
import Mathlib.Data.Nat.Bitwise

/-!
# Scanning the top level of an inner frame

Before an inner frame is decoded, its bytes are scanned field by field.  The
scanner has its own reader of varints and its own way to skip a value; this file
proves that one step of it reads one field of the wire format, and says which
fields it admits.
-/

namespace Lirvena
namespace Ceylith

open Lib Lib.Protobuf

/-- Current encrypted inner-contract version. -/
def currentInnerContract : Nat := 4

def minBodyTag : Nat := 10

def maxBodyTag : Nat := 63

def knownBodyTags : List Nat :=
  [10, 11, 12, 13, 14, 15, 16, 17, 18, 19, 20, 21, 63]

def knownBodyTag (tag : Nat) : Bool :=
  knownBodyTags.contains tag

/-- The loop of `readVarint`, with the number of shifts that are left. -/
def readVarintFrom (input : List UInt8) :
    Nat → Nat → Nat → Nat → Except CodecError (Nat × Nat)
  | 0, _, _, _ => .error .protobuf
  | left + 1, shift, position, value =>
      match input[position]? with
      | none => .error (.truncated (position + 1) input.length)
      | some byte =>
          if shift = 63 ∧ 1 < byte then .error .protobuf
          else
            let next := value ||| ((byte &&& 0x7f).toNat <<< shift) % u64Bound
            if byte &&& 0x80 = 0 then .ok (next, position + 1)
            else readVarintFrom input left (shift + 7) (position + 1) next

/-- The value of a varint and the position behind it. -/
def readVarint (input : List UInt8) (position : Nat) : Except CodecError (Nat × Nat) :=
  readVarintFrom input 10 0 position 0

/-- The position behind so many bytes. -/
def skipWidth (input : List UInt8) (position width : Nat) : Except CodecError Nat := do
  let stop ← okOr .lengthOverflow (checkedAddU64 position width)
  rejectIf (.truncated stop input.length) (input.length < stop)
  return stop

def skipValue (input : List UInt8) (position wireType : Nat) : Except CodecError Nat :=
  match wireType with
  | 0 => Prod.snd <$> readVarint input position
  | 1 => skipWidth input position 8
  | 2 => do
      let width ← readVarint input position
      skipWidth input width.2 width.1
  | 5 => skipWidth input position 4
  | _ => .error .protobuf

structure Scan where
  position : Nat
  contractSeen : Bool
  bodySeen : Bool

/-- The value of the contract field. -/
def scanContract (input : List UInt8) (scan : Scan) (position wireType : Nat) :
    Except CodecError Scan := do
  rejectIf .invalidContract (scan.contractSeen = true ∨ wireType ≠ 0)
  let contract ← readVarint input position
  rejectIf .invalidContract (contract.1 ≠ currentInnerContract)
  return { scan with position := contract.2, contractSeen := true }

def InBodyRange (tag : Nat) : Prop :=
  minBodyTag ≤ tag ∧ tag ≤ maxBodyTag

instance (tag : Nat) : Decidable (InBodyRange tag) :=
  inferInstanceAs (Decidable (_ ∧ _))

/-- The value of any other field. -/
def scanValue (input : List UInt8) (scan : Scan) (position tag wireType : Nat) :
    Except CodecError Scan := do
  rejectIf .unsupportedBody (InBodyRange tag ∧
    (knownBodyTag tag = false ∨ scan.bodySeen = true ∨ wireType ≠ 2))
  let stop ← skipValue input position wireType
  return { scan with
    position := stop
    bodySeen := scan.bodySeen || decide (InBodyRange tag) }

def scanTagged (input : List UInt8) (scan : Scan) (position tag wireType : Nat) :
    Except CodecError Scan :=
  if tag = 1 then scanContract input scan position wireType
  else scanValue input scan position tag wireType

/-- One field. -/
def scanField (input : List UInt8) (scan : Scan) : Except CodecError Scan := do
  let key ← readVarint input scan.position
  rejectIf .protobuf (key.1 >>> 3 = 0)
  scanTagged input scan key.2 (key.1 >>> 3) (key.1 &&& 7)

/-! ## Reading varints -/

/-- The bytes between two positions. -/
structure Consumes (input : List UInt8) (position next : Nat) (bytes : List UInt8) :
    Prop where
  prefix_drop : bytes <+: input.drop position
  next_eq : next = position + bytes.length

variable {input : List UInt8} {position next : Nat} {bytes : List UInt8}

theorem Consumes.drop_eq (hconsumes : Consumes input position next bytes) :
    input.drop position = bytes ++ input.drop next := by
  obtain ⟨⟨rest, hrest⟩, rfl⟩ := hconsumes
  rw [← List.drop_drop, ← hrest, List.drop_left]

theorem Consumes.next_le (hconsumes : Consumes input position next bytes)
    (hposition : position ≤ input.length) : next ≤ input.length := by
  have hlength := hconsumes.prefix_drop.length_le
  have hnext := hconsumes.next_eq
  rw [List.length_drop] at hlength
  omega

theorem Consumes.append {middle : Nat} {more : List UInt8}
    (hfirst : Consumes input position middle bytes)
    (hsecond : Consumes input middle next more) :
    Consumes input position next (bytes ++ more) := by
  refine ⟨?_, ?_⟩
  · rw [hfirst.drop_eq]
    exact (List.prefix_append_right_inj bytes).mpr hsecond.prefix_drop
  · rw [hsecond.next_eq, hfirst.next_eq, List.length_append, Nat.add_assoc]

/-- A position in front of two readings. -/
theorem Consumes.of_append {more : List UInt8}
    (hconsumes : Consumes input position next (bytes ++ more)) :
    Consumes input position (position + bytes.length) bytes ∧
      Consumes input (position + bytes.length) next more := by
  obtain ⟨hfront, rfl⟩ := hconsumes
  have hfirst : Consumes input position (position + bytes.length) bytes :=
    ⟨(List.prefix_append bytes more).trans hfront, rfl⟩
  refine ⟨hfirst, ?_, ?_⟩
  · rw [hfirst.drop_eq] at hfront
    exact (List.prefix_append_right_inj bytes).mp hfront
  · rw [List.length_append, Nat.add_assoc]

/-- The byte in front of a position, as a reading of one byte. -/
theorem consumes_cons_iff {byte : UInt8} (hbyte : input[position]? = some byte)
    {first : UInt8} {rest : List UInt8} :
    Consumes input position next (first :: rest) ↔
      first = byte ∧ Consumes input (position + 1) next rest := by
  obtain ⟨hposition, rfl⟩ := List.getElem?_eq_some_iff.mp hbyte
  have hdrop : input.drop position = input[position] :: input.drop (position + 1) :=
    List.drop_eq_getElem_cons hposition
  constructor
  · rintro ⟨hfront, rfl⟩
    rw [hdrop, List.cons_prefix_cons] at hfront
    exact ⟨hfront.1, hfront.2, by rw [List.length_cons]; omega⟩
  · rintro ⟨rfl, hfront, rfl⟩
    refine ⟨?_, by rw [List.length_cons]; omega⟩
    rw [hdrop, List.cons_prefix_cons]
    exact ⟨rfl, hfront⟩

theorem and_127 (byte : UInt8) : (byte &&& 0x7f).toNat = byte.toNat % 128 := by
  rw [UInt8.toNat_and]
  exact Nat.and_two_pow_sub_one_eq_mod byte.toNat 7

/-- The continuation bit. -/
theorem and_128_eq_zero_iff (byte : UInt8) : byte &&& 0x80 = 0 ↔ byte.toNat < 128 := by
  have hbyte := byte.toNat_lt
  rw [← UInt8.toNat_inj, UInt8.toNat_and]
  change byte.toNat &&& 2 ^ 7 = 0 ↔ _
  rw [Nat.and_two_pow, Nat.testBit_eq_decide_div_mod_eq]
  by_cases hbit : byte.toNat / 2 ^ 7 % 2 = 1
  · simp only [hbit, decide_true, Bool.toNat_true]
    omega
  · simp only [hbit, decide_false, Bool.toNat_false]
    omega

/-- Seven more bits of a value. -/
theorem or_shift {value shift low : Nat} (hvalue : value < 2 ^ shift)
    (hlow : low * 2 ^ shift < 2 ^ 64) :
    value ||| (low <<< shift) % u64Bound = value + 2 ^ shift * low := by
  have hshift : low <<< shift = low * 2 ^ shift := Nat.shiftLeft_eq low shift
  have hmod : (low <<< shift) % u64Bound = low <<< shift := by
    rw [hshift]
    exact Nat.mod_eq_of_lt hlow
  rw [hmod, Nat.or_comm, ← Nat.shiftLeft_add_eq_or_of_lt hvalue, hshift, Nat.add_comm,
    Nat.mul_comm]

/-- Seven bits at a shift of the loop fit into 64 bits. -/
theorem low_fits {shift left : Nat} {byte : UInt8} (hshift : shift + 7 * (left + 1) = 70)
    (hbyte : ¬ (shift = 63 ∧ 1 < byte)) :
    (byte.toNat % 128 + 1) * 2 ^ shift ≤ 2 ^ 64 := by
  rcases Nat.eq_zero_or_pos left with rfl | hleft
  · have hlast : shift = 63 := by omega
    have hsmall : byte.toNat ≤ 1 := by
      have hle : byte ≤ 1 := UInt8.not_lt.mp fun hlt => hbyte ⟨hlast, hlt⟩
      exact UInt8.le_iff_toNat_le.mp hle
    subst hlast
    omega
  · have hpow : 2 ^ shift ≤ 2 ^ 56 := Nat.pow_le_pow_right (by decide) (by omega)
    calc
      (byte.toNat % 128 + 1) * 2 ^ shift ≤ 128 * 2 ^ 56 :=
        Nat.mul_le_mul (by omega) hpow
      _ ≤ 2 ^ 64 := by decide

/-- A varint of at most so many bytes that starts at a position. -/
def VarintAt (input : List UInt8) (position left next high : Nat) : Prop :=
  ∃ bytes, IsVarint bytes high ∧ bytes.length ≤ left ∧ Consumes input position next bytes

theorem not_varintAt_zero {high : Nat} : ¬ VarintAt input position 0 next high := by
  rintro ⟨bytes, hvarint, hlength, -⟩
  exact hvarint.ne_nil (List.length_eq_zero_iff.mp (Nat.le_zero.mp hlength))

theorem not_varintAt_end {left high : Nat} (hend : input[position]? = none) :
    ¬ VarintAt input position left next high := by
  rintro ⟨bytes, hvarint, -, hfront, -⟩
  have hnil : input.drop position = [] :=
    List.drop_eq_nil_of_le (List.getElem?_eq_none_iff.mp hend)
  rw [hnil, List.prefix_nil] at hfront
  exact hvarint.ne_nil hfront

/-- A varint is its first byte, or that byte in front of a shorter varint. -/
theorem varintAt_byte_iff {byte : UInt8} (hbyte : input[position]? = some byte)
    {left high : Nat} :
    VarintAt input position (left + 1) next high ↔
      (byte.toNat < 128 ∧ high = byte.toNat ∧ next = position + 1) ∨
        (128 ≤ byte.toNat ∧ ∃ tail, VarintAt input (position + 1) left next tail ∧
          high = byte.toNat % 128 + 128 * tail) := by
  constructor
  · rintro ⟨bytes, hvarint, hlength, hconsumes⟩
    -- the first byte of the varint is the byte of the input
    cases hvarint with
    | last hlast =>
        obtain ⟨rfl, -, hnext⟩ := (consumes_cons_iff hbyte).mp hconsumes
        exact Or.inl ⟨hlast, rfl, hnext⟩
    | more hhigh htail =>
        obtain ⟨rfl, hrest⟩ := (consumes_cons_iff hbyte).mp hconsumes
        exact Or.inr ⟨hhigh, _, ⟨_, htail, Nat.le_of_succ_le_succ hlength, hrest⟩, rfl⟩
  · rintro (⟨hlast, rfl, hnext⟩ | ⟨hhigh, tail, ⟨bytes, htail, hlength, hrest⟩, rfl⟩)
    · exact ⟨[byte], .last hlast, Nat.succ_le_succ (Nat.zero_le _),
        (consumes_cons_iff hbyte).mpr ⟨rfl, List.nil_prefix, hnext⟩⟩
    · exact ⟨byte :: bytes, .more hhigh htail, Nat.succ_le_succ hlength,
        (consumes_cons_iff hbyte).mpr ⟨rfl, hrest⟩⟩

/-- The value of the bytes read so far stays below the next shift. -/
theorem shifted_lt {shift value low : Nat} (hvalue : value < 2 ^ shift) (hlow : low < 128) :
    value + 2 ^ shift * low < 2 ^ (shift + 7) := by
  calc
    value + 2 ^ shift * low < 2 ^ shift + 2 ^ shift * low := by omega
    _ = 2 ^ shift * (low + 1) := by rw [Nat.mul_succ, Nat.add_comm]
    _ ≤ 2 ^ shift * 128 := Nat.mul_le_mul_left _ (by omega)
    _ = 2 ^ (shift + 7) := (Nat.pow_add 2 shift 7).symm

theorem shifted_join (shift value low tail : Nat) :
    value + 2 ^ shift * low + 2 ^ (shift + 7) * tail =
      value + 2 ^ shift * (low + 128 * tail) := by
  rw [show 2 ^ (shift + 7) = 2 ^ shift * 128 from Nat.pow_add 2 shift 7, Nat.mul_add,
    Nat.mul_assoc, Nat.add_assoc]

/-- The loop reads a varint whose value is shifted into place. -/
theorem readVarintFrom_eq_ok_iff {left shift value result : Nat}
    (hshift : shift + 7 * left = 70) (hvalue : value < 2 ^ shift) :
    readVarintFrom input left shift position value = .ok (result, next) ↔
      ∃ high, VarintAt input position left next high ∧
        result = value + 2 ^ shift * high ∧ result < 2 ^ 64 := by
  -- on the bytes left; what has been collected stays below the shift
  induction left generalizing shift position value with
  | zero =>
      constructor
      · intro hread
        cases hread
      · rintro ⟨high, hvarint, -⟩
        exact absurd hvarint not_varintAt_zero
  | succ left ih =>
      unfold readVarintFrom
      cases hbyte : input[position]? with
      | none =>
          constructor
          · intro hread
            cases hread
          · rintro ⟨high, hvarint, -⟩
            exact absurd hvarint (not_varintAt_end hbyte)
      | some byte =>
          simp only [varintAt_byte_iff hbyte]
          split
          · next hoverflow =>
              -- the tenth byte holds one bit only
              obtain ⟨rfl, hlarge⟩ := hoverflow
              have hbig : 1 < byte.toNat := UInt8.lt_iff_toNat_lt.mp hlarge
              obtain rfl : left = 0 := by omega
              constructor
              · intro hread
                cases hread
              · rintro ⟨high, ⟨-, rfl, -⟩ | ⟨-, tail, htail, -⟩, rfl, hresult⟩
                · omega
                · exact absurd htail not_varintAt_zero
          · next hfits =>
              have hlow := low_fits hshift hfits
              rw [Nat.add_mul, Nat.one_mul] at hlow
              have hmask : value ||| ((byte &&& 0x7f).toNat <<< shift) % u64Bound =
                  value + 2 ^ shift * (byte.toNat % 128) := by
                rw [and_127]
                exact or_shift hvalue (by omega)
              simp only [hmask, and_128_eq_zero_iff]
              split
              · next hlast =>
                  -- without the continuation bit the loop returns
                  have hmod : byte.toNat % 128 = byte.toNat := Nat.mod_eq_of_lt hlast
                  rw [hmod, Nat.mul_comm] at hlow
                  rw [hmod]
                  constructor
                  · intro hread
                    cases hread
                    exact ⟨_, Or.inl ⟨hlast, rfl, rfl⟩, rfl, by omega⟩
                  · rintro ⟨high, ⟨-, rfl, rfl⟩ | ⟨hhigh, -⟩, rfl, -⟩
                    · rfl
                    · exact absurd hlast (Nat.not_lt_of_le hhigh)
              · next hmore =>
                  have hhigh : 128 ≤ byte.toNat := Nat.not_lt.mp hmore
                  rw [ih (by omega) (shifted_lt hvalue (Nat.mod_lt _ (by decide)))]
                  constructor
                  · rintro ⟨tail, htail, rfl, hresult⟩
                    exact ⟨_, Or.inr ⟨hhigh, tail, htail, rfl⟩, shifted_join .., hresult⟩
                  · rintro ⟨high, ⟨hlast, -⟩ | ⟨-, tail, htail, rfl⟩, rfl, hresult⟩
                    · exact absurd hlast hmore
                    · exact ⟨tail, htail, (shifted_join ..).symm, hresult⟩

theorem readVarint_eq_ok_iff {value : Nat} :
    readVarint input position = .ok (value, next) ↔
      ∃ bytes, Varint64 bytes value ∧ Consumes input position next bytes := by
  rw [readVarint, readVarintFrom_eq_ok_iff (by decide) (by decide)]
  constructor
  · rintro ⟨high, ⟨bytes, hvarint, hlength, hconsumes⟩, rfl, hresult⟩
    rw [Nat.zero_add, Nat.pow_zero, Nat.one_mul] at hresult ⊢
    exact ⟨bytes, ⟨hvarint, hlength, hresult⟩, hconsumes⟩
  · rintro ⟨bytes, hvarint, hconsumes⟩
    exact ⟨value, ⟨bytes, hvarint.isVarint, hvarint.length_le, hconsumes⟩, by omega,
      hvarint.value_lt⟩

/-! ## Skipping values -/

theorem skipWidth_eq_ok_iff {width : Nat} (hinput : input.length < u64Bound)
    (hposition : position ≤ input.length) :
    skipWidth input position width = .ok next ↔
      ∃ bytes, bytes.length = width ∧ Consumes input position next bytes := by
  unfold skipWidth
  constructor
  · intro hskip
    obtain ⟨stop, hstop, hskip⟩ := bind_eq_ok_iff.mp hskip
    obtain ⟨⟨⟩, hroom, hskip⟩ := bind_eq_ok_iff.mp hskip
    obtain ⟨-, rfl⟩ := checkedAddU64_eq_some_iff.mp (okOr_eq_ok_iff.mp hstop)
    have hroom := rejectIf_eq_ok_iff.mp hroom
    cases hskip
    have hlength : ((input.drop position).take width).length = width := by
      rw [List.length_take, List.length_drop]
      omega
    exact ⟨_, hlength, List.take_prefix _ _, by rw [hlength]⟩
  · rintro ⟨bytes, rfl, hconsumes⟩
    have hnext := hconsumes.next_le hposition
    obtain rfl := hconsumes.next_eq
    refine bind_eq_ok_iff.mpr ⟨position + bytes.length, ?_, ?_⟩
    · exact okOr_eq_ok_iff.mpr (checkedAddU64_eq_some_iff.mpr ⟨by omega, rfl⟩)
    exact bind_eq_ok_iff.mpr ⟨(), rejectIf_eq_ok_iff.mpr (Nat.not_lt.mpr hnext), rfl⟩

/-- Skipping a value reads one of that wire type. -/
theorem skipValue_eq_ok_iff {wireType : Nat} (hinput : input.length < u64Bound)
    (hposition : position ≤ input.length) :
    skipValue input position wireType = .ok next ↔
      ∃ bytes value, ValueReads wireType bytes value ∧
        Consumes input position next bytes := by
  unfold skipValue
  split
  · rw [map_eq_ok_iff]
    constructor
    · rintro ⟨⟨value, stop⟩, hread, rfl⟩
      obtain ⟨bytes, hvarint, hconsumes⟩ := readVarint_eq_ok_iff.mp hread
      exact ⟨bytes, _, .varint hvarint, hconsumes⟩
    · rintro ⟨bytes, value, hvalue, hconsumes⟩
      cases hvalue with
      | varint hvarint =>
          exact ⟨(_, next), readVarint_eq_ok_iff.mpr ⟨bytes, hvarint, hconsumes⟩, rfl⟩
  · rw [skipWidth_eq_ok_iff hinput hposition]
    constructor
    · rintro ⟨bytes, hlength, hconsumes⟩
      exact ⟨bytes, _, .fixed64 hlength, hconsumes⟩
    · rintro ⟨bytes, value, hvalue, hconsumes⟩
      cases hvalue with
      | fixed64 hlength => exact ⟨bytes, hlength, hconsumes⟩
  · rw [bind_eq_ok_iff]
    constructor
    · rintro ⟨⟨width, middle⟩, hread, hskip⟩
      obtain ⟨head, hvarint, hhead⟩ := readVarint_eq_ok_iff.mp hread
      obtain ⟨bytes, rfl, hbytes⟩ :=
        (skipWidth_eq_ok_iff hinput (hhead.next_le hposition)).mp hskip
      exact ⟨_, _, .lengthDelimited hvarint, hhead.append hbytes⟩
    · rintro ⟨bytes, value, hvalue, hconsumes⟩
      cases hvalue with
      | lengthDelimited hvarint =>
          -- What was consumed is cut where the varint of the length ends.
          obtain ⟨hhead, hbytes⟩ := hconsumes.of_append
          refine ⟨(_, _), readVarint_eq_ok_iff.mpr ⟨_, hvarint, hhead⟩, ?_⟩
          exact (skipWidth_eq_ok_iff hinput (hhead.next_le hposition)).mpr ⟨_, rfl, hbytes⟩
  · rw [skipWidth_eq_ok_iff hinput hposition]
    constructor
    · rintro ⟨bytes, hlength, hconsumes⟩
      exact ⟨bytes, _, .fixed32 hlength, hconsumes⟩
    · rintro ⟨bytes, value, hvalue, hconsumes⟩
      cases hvalue with
      | fixed32 hlength => exact ⟨bytes, hlength, hconsumes⟩
  · next hvarint hfixed64 hdelimited hfixed32 =>
      constructor
      · intro hskip
        cases hskip
      · rintro ⟨bytes, value, hvalue, -⟩
        cases hvalue with
        | varint => exact absurd rfl hvarint
        | fixed64 => exact absurd rfl hfixed64
        | lengthDelimited => exact absurd rfl hdelimited
        | fixed32 => exact absurd rfl hfixed32

/-! ## Scanning fields -/

def contractField : Field :=
  ⟨1, .varint currentInnerContract⟩

/-- The fields that the scanner lets pass, and what it has seen behind them. -/
inductive Admits (scan : Scan) (field : Field) : Scan → Prop where
  | contract {position : Nat} (hseen : scan.contractSeen = false)
      (hfield : field = contractField) :
      Admits scan field ⟨position, true, scan.bodySeen⟩
  | body {position : Nat} {payload : List UInt8} (hrange : InBodyRange field.number)
      (hknown : knownBodyTag field.number = true) (hseen : scan.bodySeen = false)
      (hvalue : field.value = .lengthDelimited payload) :
      Admits scan field ⟨position, scan.contractSeen, true⟩
  | other {position : Nat} (hzero : field.number ≠ 0) (hcontract : field.number ≠ 1)
      (hrange : ¬ InBodyRange field.number) :
      Admits scan field ⟨position, scan.contractSeen, scan.bodySeen⟩

theorem Admits.number_ne_zero {scan next : Scan} {field : Field}
    (hadmits : Admits scan field next) : field.number ≠ 0 := by
  cases hadmits with
  | contract hseen hfield =>
      subst hfield
      exact Nat.one_ne_zero
  | body hrange =>
      intro hzero
      have hlow := hrange.1
      rw [hzero] at hlow
      exact absurd hlow (by decide)
  | other hzero => exact hzero

theorem scanContract_eq_ok_iff {scan next : Scan} {wireType : Nat} :
    scanContract input scan position wireType = .ok next ↔
      ∃ bytes value, ValueReads wireType bytes value ∧
        Consumes input position next.position bytes ∧ Admits scan ⟨1, value⟩ next := by
  unfold scanContract
  constructor
  · intro hscan
    obtain ⟨⟨⟩, hguard, hscan⟩ := bind_eq_ok_iff.mp hscan
    obtain ⟨⟨contract, stop⟩, hread, hscan⟩ := bind_eq_ok_iff.mp hscan
    obtain ⟨⟨⟩, hcontract, hscan⟩ := bind_eq_ok_iff.mp hscan
    have hguard := rejectIf_eq_ok_iff.mp hguard
    have hcontract := rejectIf_eq_ok_iff.mp hcontract
    simp only [not_or, Bool.not_eq_true, not_not] at hguard hcontract
    cases hscan
    obtain ⟨bytes, hvarint, hconsumes⟩ := readVarint_eq_ok_iff.mp hread
    obtain ⟨hseen, rfl⟩ := hguard
    refine ⟨bytes, _, .varint hvarint, hconsumes, .contract hseen ?_⟩
    rw [contractField, hcontract]
  · rintro ⟨bytes, value, hvalue, hconsumes, hadmits⟩
    cases hadmits with
    | contract hseen hfield =>
        obtain rfl : value = .varint currentInnerContract := (Field.mk.inj hfield).2
        cases hvalue with
        | varint hvarint =>
            refine bind_eq_ok_iff.mpr ⟨(), rejectIf_eq_ok_iff.mpr (by simp [hseen]), ?_⟩
            refine bind_eq_ok_iff.mpr ⟨(_, _), readVarint_eq_ok_iff.mpr
              ⟨bytes, hvarint, hconsumes⟩, ?_⟩
            exact bind_eq_ok_iff.mpr ⟨(), rejectIf_eq_ok_iff.mpr (not_not_intro rfl), rfl⟩
    -- Field one is neither a body nor another field.
    | body hrange => exact absurd (show minBodyTag ≤ 1 from hrange.1) (by decide)
    | other hzero hone => exact absurd rfl hone

theorem scanValue_eq_ok_iff {scan next : Scan} {tag wireType : Nat} (hzero : tag ≠ 0)
    (hcontract : tag ≠ 1) (hinput : input.length < u64Bound)
    (hposition : position ≤ input.length) :
    scanValue input scan position tag wireType = .ok next ↔
      ∃ bytes value, ValueReads wireType bytes value ∧
        Consumes input position next.position bytes ∧ Admits scan ⟨tag, value⟩ next := by
  unfold scanValue
  constructor
  · intro hscan
    obtain ⟨⟨⟩, hguard, hscan⟩ := bind_eq_ok_iff.mp hscan
    obtain ⟨stop, hskip, hscan⟩ := bind_eq_ok_iff.mp hscan
    obtain ⟨bytes, value, hvalue, hconsumes⟩ :=
      (skipValue_eq_ok_iff hinput hposition).mp hskip
    have hguard := rejectIf_eq_ok_iff.mp hguard
    cases hscan
    refine ⟨bytes, value, hvalue, hconsumes, ?_⟩
    -- the guard of the scanner looks at the tag only within the body range
    by_cases hrange : InBodyRange tag
    · simp only [hrange, true_and, not_or, Bool.not_eq_false, Bool.not_eq_true, not_not]
        at hguard
      obtain ⟨hknown, hseen, rfl⟩ := hguard
      cases hvalue with
      | lengthDelimited hlength =>
          rw [decide_eq_true hrange, Bool.or_true]
          exact .body hrange hknown hseen rfl
    · rw [decide_eq_false hrange, Bool.or_false]
      exact .other hzero hcontract hrange
  · rintro ⟨bytes, value, hvalue, hconsumes, hadmits⟩
    refine bind_eq_ok_iff.mpr ⟨(), rejectIf_eq_ok_iff.mpr ?_, bind_eq_ok_iff.mpr
      ⟨next.position, (skipValue_eq_ok_iff hinput hposition).mpr
        ⟨bytes, value, hvalue, hconsumes⟩, ?_⟩⟩
    · rintro ⟨hrange, hbad⟩
      cases hadmits with
      | contract hseen hfield => exact hcontract (Field.mk.inj hfield).1
      | body _ hknown hseen hdelimited =>
          obtain rfl : value = _ := hdelimited
          have htype := hvalue.wireType_eq
          rcases hbad with hbad | hbad | hbad
          · rw [hknown] at hbad
            cases hbad
          · rw [hseen] at hbad
            cases hbad
          · exact hbad htype
      | other _ _ hnot => exact hnot hrange
    · cases hadmits with
      | contract hseen hfield => exact absurd (Field.mk.inj hfield).1 hcontract
      | body hrange _ hseen =>
          rw [decide_eq_true hrange, Bool.or_true]
          rfl
      | other _ _ hnot =>
          rw [decide_eq_false hnot, Bool.or_false]
          rfl

/-- One step of the scanner reads one field and admits it. -/
theorem scanField_eq_ok_iff {scan next : Scan} (hinput : input.length < u64Bound)
    (hposition : scan.position ≤ input.length) :
    scanField input scan = .ok next ↔
      ∃ bytes field, FieldReads bytes field ∧
        Consumes input scan.position next.position bytes ∧ Admits scan field next := by
  have htagged {position tag wireType : Nat} (hzero : tag ≠ 0)
      (hle : position ≤ input.length) :
      scanTagged input scan position tag wireType = .ok next ↔
        ∃ bytes value, ValueReads wireType bytes value ∧
          Consumes input position next.position bytes ∧ Admits scan ⟨tag, value⟩ next := by
    unfold scanTagged
    split
    · next hcontract =>
        subst hcontract
        exact scanContract_eq_ok_iff
    · next hcontract => exact scanValue_eq_ok_iff hzero hcontract hinput hle
  -- The source takes the key apart by shift and mask, the library by division.
  have htag (key : Nat) : key >>> 3 = key / 8 := Nat.shiftRight_eq_div_pow key 3
  have htype (key : Nat) : key &&& 7 = key % 8 := Nat.and_two_pow_sub_one_eq_mod key 3
  unfold scanField
  simp only [htag, htype]
  constructor
  · intro hscan
    obtain ⟨⟨key, middle⟩, hread, hscan⟩ := bind_eq_ok_iff.mp hscan
    obtain ⟨⟨⟩, hzero, hscan⟩ := bind_eq_ok_iff.mp hscan
    obtain ⟨head, hvarint, hhead⟩ := readVarint_eq_ok_iff.mp hread
    obtain ⟨bytes, value, hvalue, hbytes, hadmits⟩ :=
      (htagged (rejectIf_eq_ok_iff.mp hzero) (hhead.next_le hposition)).mp hscan
    exact ⟨head ++ bytes, ⟨key / 8, value⟩, ⟨(key, value), .intro hvarint hvalue, rfl⟩,
      hhead.append hbytes, hadmits⟩
  · rintro ⟨bytes, field, ⟨⟨key, value⟩, hreads, rfl⟩, hconsumes, hadmits⟩
    cases hreads with
    | intro hvarint hvalue =>
        obtain ⟨hhead, hbody⟩ := hconsumes.of_append
        have hzero : key / 8 ≠ 0 := hadmits.number_ne_zero
        refine bind_eq_ok_iff.mpr ⟨(key, _), readVarint_eq_ok_iff.mpr ⟨_, hvarint, hhead⟩, ?_⟩
        refine bind_eq_ok_iff.mpr ⟨(), rejectIf_eq_ok_iff.mpr hzero, ?_⟩
        exact (htagged hzero (hhead.next_le hposition)).mpr
          ⟨_, value, hvalue, hbody, hadmits⟩

end Ceylith
end Lirvena
