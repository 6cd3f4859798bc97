import Lirvena.Lib.Bytes
import Lirvena.Lib.Chain
import Mathlib.Logic.Function.Iterate

/-!
# The QQ TEA block cipher

Sixteen rounds over two 32-bit halves in wrapping arithmetic.  A round also
advances the running sum, so the state of the loop is the triple of the two
halves and the sum; on such triples the decryption round inverts the encryption
round on both sides, and the two loops meet at the sum of sixteen deltas.
-/

namespace Lirvena
namespace Envelope

open Lib

/-- Sixteen-byte QQ TEA key. -/
structure QqTeaKey where
  bytes : List UInt8
  length_eq : bytes.length = 16

/-- `u32::from_be_bytes` on the four bytes at an offset. -/
def readU32 (bytes : List UInt8) (offset : Nat) : UInt32 :=
  UInt32.ofNat (beNat (slice bytes offset (offset + 4)))

def QqTeaKey.words (key : QqTeaKey) : Vector UInt32 4 :=
  #v[readU32 key.bytes 0, readU32 key.bytes 4, readU32 key.bytes 8, readU32 key.bytes 12]

namespace Block

def delta : UInt32 := 0x9e3779b9

def rounds : Nat := 16

/-- What the two loops carry from round to round. -/
structure RoundState where
  left : UInt32
  right : UInt32
  sum : UInt32
  deriving DecidableEq

/-- The summand of one half round. -/
def mix (half sum first second : UInt32) : UInt32 :=
  (half + sum) ^^^ ((half <<< 4) + first) ^^^ ((half >>> 5) + second)

def encryptRound (key : Vector UInt32 4) (state : RoundState) : RoundState :=
  let sum := state.sum + delta
  let left := state.left + mix state.right sum key[0] key[1]
  let right := state.right + mix left sum key[2] key[3]
  ⟨left, right, sum⟩

def decryptRound (key : Vector UInt32 4) (state : RoundState) : RoundState :=
  let right := state.right - mix state.left state.sum key[2] key[3]
  let left := state.left - mix right state.sum key[0] key[1]
  ⟨left, right, state.sum - delta⟩

/-- The big-endian halves of a block. -/
def split (value : UInt64) : UInt32 × UInt32 :=
  let bytes := beBytes 8 value.toNat
  (readU32 bytes 0, readU32 bytes 4)

def join (left right : UInt32) : UInt64 :=
  (left.toUInt64 <<< 32) ||| right.toUInt64

def encrypt (value : UInt64) (key : Vector UInt32 4) : UInt64 :=
  let state := (encryptRound key)^[rounds] ⟨(split value).1, (split value).2, 0⟩
  join state.left state.right

def decrypt (value : UInt64) (key : Vector UInt32 4) : UInt64 :=
  let state := (decryptRound key)^[rounds]
    ⟨(split value).1, (split value).2, delta * UInt32.ofNat rounds⟩
  join state.left state.right

theorem decryptRound_encryptRound (key : Vector UInt32 4) :
    Function.LeftInverse (decryptRound key) (encryptRound key) := by
  intro state
  simp only [decryptRound, encryptRound, UInt32.add_sub_cancel]

theorem encryptRound_decryptRound (key : Vector UInt32 4) :
    Function.RightInverse (decryptRound key) (encryptRound key) := by
  intro state
  simp only [decryptRound, encryptRound, UInt32.sub_add_cancel]

/-- The sum depends on the number of rounds alone. -/
theorem encryptRound_iterate_sum (key : Vector UInt32 4) (count : Nat)
    (state : RoundState) :
    ((encryptRound key)^[count] state).sum = state.sum + delta * UInt32.ofNat count := by
  induction count generalizing state with
  | zero => simp
  | succ count ih =>
      rw [Function.iterate_succ_apply, ih]
      simp only [encryptRound, UInt32.ofNat_add, UInt32.mul_add]
      ac_rfl

theorem decryptRound_iterate_sum (key : Vector UInt32 4) (count : Nat)
    (state : RoundState) :
    ((decryptRound key)^[count] state).sum = state.sum - delta * UInt32.ofNat count := by
  have hback := encryptRound_iterate_sum key count ((decryptRound key)^[count] state)
  have hinverse := (encryptRound_decryptRound key).iterate count state
  rw [hinverse] at hback
  rw [hback, UInt32.add_sub_cancel]

theorem join_toNat (left right : UInt32) :
    (join left right).toNat = left.toNat * 2 ^ 32 + right.toNat := by
  have hleft := left.toNat_lt
  have hright := right.toNat_lt
  have hfits : left.toNat <<< 32 < 2 ^ 64 := by
    rw [Nat.shiftLeft_eq]
    omega
  have hshift : (left.toUInt64 <<< 32).toNat = left.toNat <<< 32 := by
    rw [UInt64.toNat_shiftLeft, UInt32.toNat_toUInt64]
    exact Nat.mod_eq_of_lt hfits
  rw [join, UInt64.toNat_or, hshift, UInt32.toNat_toUInt64,
    ← Nat.shiftLeft_add_eq_or_of_lt hright, Nat.shiftLeft_eq]

theorem split_toNat (value : UInt64) :
    (split value).1.toNat = value.toNat / 2 ^ 32 ∧
      (split value).2.toNat = value.toNat % 2 ^ 32 := by
  have hvalue := value.toNat_lt
  have hhalves : beBytes 8 value.toNat =
      beBytes 4 (value.toNat / 2 ^ 32) ++ beBytes 4 value.toNat := by
    have hcut := beBytes_add 4 4 value.toNat
    simpa using hcut
  have hhigh : slice (beBytes 8 value.toNat) 0 4 = beBytes 4 (value.toNat / 2 ^ 32) := by
    rw [hhalves]
    exact slice_append_left (by simp)
  have hlow : slice (beBytes 8 value.toNat) 4 8 = beBytes 4 value.toNat := by
    rw [hhalves, slice_append_right (by simp), beBytes_length, slice, List.drop_zero]
    exact List.take_of_length_le (by simp)
  constructor
  · simp only [split, readU32, hhigh, beNat_beBytes, UInt32.toNat_ofNat']
    omega
  · simp only [split, readU32, hlow, beNat_beBytes, UInt32.toNat_ofNat']
    omega

theorem split_join (left right : UInt32) : split (join left right) = (left, right) := by
  have hleft := left.toNat_lt
  have hright := right.toNat_lt
  obtain ⟨hfirst, hsecond⟩ := split_toNat (join left right)
  rw [join_toNat] at hfirst hsecond
  refine Prod.ext (UInt32.toNat_inj.mp ?_) (UInt32.toNat_inj.mp ?_)
  · change _ = left.toNat
    omega
  · change _ = right.toNat
    omega

theorem join_split (value : UInt64) : join (split value).1 (split value).2 = value := by
  obtain ⟨hfirst, hsecond⟩ := split_toNat value
  apply UInt64.toNat_inj.mp
  rw [join_toNat, hfirst, hsecond]
  omega

theorem decrypt_encrypt (key : Vector UInt32 4) (value : UInt64) :
    decrypt (encrypt value key) key = value := by
  let start : RoundState := ⟨(split value).1, (split value).2, 0⟩
  have hsum : ((encryptRound key)^[rounds] start).sum = delta * UInt32.ofNat rounds := by
    rw [encryptRound_iterate_sum]
    exact UInt32.zero_add _
  have hback : (decryptRound key)^[rounds] ((encryptRound key)^[rounds] start) = start :=
    (decryptRound_encryptRound key).iterate rounds start
  simp only [decrypt, encrypt, split_join]
  rw [← hsum]
  change join ((decryptRound key)^[rounds] ((encryptRound key)^[rounds] start)).left
    ((decryptRound key)^[rounds] ((encryptRound key)^[rounds] start)).right = value
  rw [hback]
  exact join_split value

theorem encrypt_decrypt (key : Vector UInt32 4) (value : UInt64) :
    encrypt (decrypt value key) key = value := by
  let start : RoundState :=
    ⟨(split value).1, (split value).2, delta * UInt32.ofNat rounds⟩
  have hsum : ((decryptRound key)^[rounds] start).sum = 0 := by
    rw [decryptRound_iterate_sum]
    exact UInt32.sub_self _
  have hback : (encryptRound key)^[rounds] ((decryptRound key)^[rounds] start) = start :=
    (encryptRound_decryptRound key).iterate rounds start
  simp only [decrypt, encrypt, split_join]
  rw [← hsum]
  change join ((encryptRound key)^[rounds] ((decryptRound key)^[rounds] start)).left
    ((encryptRound key)^[rounds] ((decryptRound key)^[rounds] start)).right = value
  rw [hback]
  exact join_split value

/-- QQ TEA under one key as an invertible block cipher. -/
def cipher (key : Vector UInt32 4) : BlockCipher UInt64 where
  mix := (· ^^^ ·)
  encrypt value := encrypt value key
  decrypt value := decrypt value key
  mix_comm := UInt64.xor_comm
  mix_cancel left right := by
    rw [UInt64.xor_assoc, UInt64.xor_self, UInt64.xor_zero]
  decrypt_encrypt := decrypt_encrypt key
  encrypt_decrypt := encrypt_decrypt key

end Block
end Envelope
end Lirvena
