import Lirvena.Login.QrPoll
import Lirvena.Wire.WireWriter

/-!
# QR transactions

A request is built as a transaction around its body, with a length that counts the
whole transaction, and a response is decoded from one inside the outer layer.  What is
built is decoded to the body, and what is decoded has nothing but the body between its
fixed parts.
-/

namespace Lirvena
namespace Login

open Lib Wire

/-- The writes of `build_transaction`. -/
def putTransaction (command declaredLen : UInt16) (body : List UInt8) (transaction : WireWriter) :
    Except WireError WireWriter := do
  let transaction ← transaction.putU8 2
  let transaction ← transaction.putU16 declaredLen
  let transaction ← transaction.putU16 command
  let transaction ← transaction.putBytes (List.replicate 21 0)
  let transaction ← transaction.putU8 3
  let transaction ← transaction.putU16 0
  let transaction ← transaction.putU16 0x32
  let transaction ← transaction.putU32 0
  let transaction ← transaction.putU64 0
  let transaction ← transaction.putBytes body
  transaction.putU8 3

def buildTransaction (command : UInt16) (body : List UInt8) :
    Except QrPacketError (List UInt8) := do
  let declaredLen ← okOr .invalidField ((checkedAddU64 body.length 44).bind tryU16)
  let transaction ← qrWire (putTransaction command declaredLen body
    (.new maxLoginPacketLen (by decide)))
  return transaction.output

/-! ## What is built -/

theorem transactionBytes_length {command : Nat} {reserved body : List UInt8}
    (hreserved : reserved.length = 21) :
    (transactionBytes command reserved body).length = body.length + 44 := by
  simp only [transactionBytes, List.length_append, beBytes_length, hreserved, List.length_cons,
    List.length_nil]
  omega

/-- The count in a transaction is its own length. -/
theorem transactionBytes_eq (command : Nat) {reserved body : List UInt8}
    (hreserved : reserved.length = 21) :
    transactionBytes command reserved body =
      beBytes 1 2 ++ (beBytes 2 (body.length + 44) ++ (beBytes 2 command ++ (reserved ++
        (beBytes 1 3 ++ (beBytes 2 0 ++ (beBytes 2 0x32 ++ (beBytes 4 0 ++ (beBytes 8 0 ++
          (body ++ [3]))))))))) := by
  unfold transactionBytes
  dsimp only
  congr 3
  simp only [List.length_append, beBytes_length, hreserved, List.length_cons, List.length_nil]
  omega

theorem puts_transaction (command : UInt16) {declaredLen : UInt16} {body : List UInt8}
    (hdeclared : declaredLen.toNat = body.length + 44) :
    WireWriter.Puts maxLoginPacketLen (putTransaction command declaredLen body)
      (transactionBytes command.toNat (List.replicate 21 0) body) := by
  have hputs : WireWriter.Puts maxLoginPacketLen (putTransaction command declaredLen body) _ :=
    (WireWriter.puts_u8 2).andThen ((WireWriter.puts_u16 declaredLen).andThen
      ((WireWriter.puts_u16 command).andThen ((WireWriter.puts_bytes (List.replicate 21 0)).andThen
        ((WireWriter.puts_u8 3).andThen ((WireWriter.puts_u16 0).andThen
          ((WireWriter.puts_u16 0x32).andThen ((WireWriter.puts_u32 0).andThen
            ((WireWriter.puts_u64 0).andThen ((WireWriter.puts_bytes body).andThen
              (WireWriter.puts_u8 3))))))))))
  rw [hdeclared] at hputs
  rw [transactionBytes_eq command.toNat List.length_replicate]
  exact hputs

/-- A transaction is built exactly when its length fits two bytes. -/
theorem buildTransaction_eq_ok_iff {command : UInt16} {body transaction : List UInt8} :
    buildTransaction command body = .ok transaction ↔
      body.length + 44 < 65536 ∧
        transaction = transactionBytes command.toNat (List.replicate 21 0) body := by
  unfold buildTransaction
  constructor
  · intro hbuild
    obtain ⟨declaredLen, hdeclared, hbuild⟩ := bind_eq_ok_iff.mp hbuild
    obtain ⟨written, hwritten, hbuild⟩ := bind_eq_ok_iff.mp hbuild
    cases hbuild
    obtain ⟨length, hlength, hword⟩ := Option.bind_eq_some_iff.mp (okOr_eq_ok_iff.mp hdeclared)
    obtain ⟨-, rfl⟩ := checkedAddU64_eq_some_iff.mp hlength
    obtain ⟨hfits, rfl⟩ := tryU16_eq_some_iff.mp hword
    have hputs := puts_transaction command (UInt16.toNat_ofNat_of_lt hfits)
    obtain ⟨-, rfl⟩ := hputs.new_eq_ok_iff.mp (qrWire_eq_ok_iff.mp hwritten)
    exact ⟨hfits, rfl⟩
  · rintro ⟨hfits, rfl⟩
    have hsum : checkedAddU64 body.length 44 = some (body.length + 44) :=
      checkedAddU64_eq_some_iff.mpr ⟨by unfold u64Bound; omega, rfl⟩
    have hroom : (transactionBytes command.toNat (List.replicate 21 0) body).length ≤
        maxLoginPacketLen := by
      rw [transactionBytes_length List.length_replicate]
      unfold maxLoginPacketLen
      omega
    have hputs := puts_transaction command (UInt16.toNat_ofNat_of_lt' hfits)
    have hwritten : putTransaction command (UInt16.ofNat (body.length + 44)) body
        (.new maxLoginPacketLen (by decide)) = .ok _ := hputs.new_eq_ok_iff.mpr ⟨hroom, rfl⟩
    rw [hsum, Option.bind_some, tryU16_of_lt hfits]
    exact bind_eq_ok_iff.mpr ⟨_, rfl, bind_eq_ok_iff.mpr ⟨_, qrWire_eq_ok_iff.mpr hwritten, rfl⟩⟩

/-! ## What is decoded -/

/-- The layers of a decoded payload: each declares the length that it has, and between
the fixed parts of the inner one there is only the body. -/
structure ExactLayers (payload body : List UInt8) : Prop where
  outer : beNat ((payload.drop 2).take 2) = (payload.drop 5).length
  inner : beNat ((payload.drop 6).take 2) = (payload.drop 5).length
  whole : payload = payload.take 48 ++ (body ++ [3])
  length : payload.length = body.length + 49

theorem exactLayers_code2dBytes (command : Nat) (flag state : UInt8) {reserved body : List UInt8}
    (hreserved : reserved.length = 21) (hfits : body.length + 44 < 65536) :
    ExactLayers (code2dBytes flag state (transactionBytes command reserved body)) body := by
  have hcount : beNat (beBytes 2 (body.length + 44)) = body.length + 44 :=
    beNat_beBytes_of_lt hfits
  have hlength : (transactionBytes command reserved body).length = body.length + 44 :=
    transactionBytes_length hreserved
  have hparts : code2dBytes flag state (transactionBytes command reserved body) =
      (flag :: 0 :: (beBytes 2 (body.length + 44) ++ (state :: 2 ::
        (beBytes 2 (body.length + 44) ++ (beBytes 2 command ++ (reserved ++ (3 ::
          (beBytes 2 0 ++ (beBytes 2 0x32 ++ (beBytes 4 0 ++ beBytes 8 0)))))))))) ++
            (body ++ [3]) := by
    rw [code2dBytes, hlength, transactionBytes_eq command hreserved]
    simp [beBytes]
  rw [hparts]
  obtain ⟨high, low, hdeclared⟩ : ∃ high low, beBytes 2 (body.length + 44) = [high, low] :=
    ⟨_, _, rfl⟩
  rw [hdeclared] at hcount ⊢
  refine ⟨?_, ?_, ?_, ?_⟩
  · simp [hcount, hreserved]
    omega
  · simp [hcount, hreserved]
    omega
  · rw [List.take_left']
    simp [hreserved]
  · simp [hreserved]
    omega

/-- A built transaction is decoded to its body inside any outer layer, and a payload that
is decoded has exact lengths and nothing left over. -/
theorem transaction_round_trip (command : UInt16) :
    (∀ body transaction, buildTransaction command body = .ok transaction → ∀ flag state,
      decodeCode2dBody (code2dBytes flag state transaction) command.toNat = .ok body) ∧
    ∀ payload body, decodeCode2dBody payload command.toNat = .ok body →
      ExactLayers payload body := by
  constructor
  · intro body transaction hbuild flag state
    obtain ⟨hfits, rfl⟩ := buildTransaction_eq_ok_iff.mp hbuild
    refine (decodeCode2dBody_eq_ok_iff command.toNat_lt).mpr
      ⟨flag, state, List.replicate 21 0, List.length_replicate, ?_, rfl⟩
    rw [transactionBytes_length List.length_replicate]
    exact hfits
  · intro payload body hdecode
    obtain ⟨flag, state, reserved, hreserved, hfits, rfl⟩ :=
      (decodeCode2dBody_eq_ok_iff command.toNat_lt).mp hdecode
    rw [transactionBytes_length hreserved] at hfits
    exact exactLayers_code2dBytes command.toNat flag state hreserved hfits

theorem small_transaction_read_back :
    ∃ transaction, buildTransaction 0x12 [7, 9] = .ok transaction ∧
      decodeCode2dBody (code2dBytes 1 0 transaction) 0x12 = .ok [7, 9] ∧
      ExactLayers (code2dBytes 1 0 transaction) [7, 9] :=
  have hbuilt := buildTransaction_eq_ok_iff.mpr ⟨by decide, rfl⟩
  have hdecoded := (transaction_round_trip 0x12).1 _ _ hbuilt 1 0
  ⟨_, hbuilt, hdecoded, (transaction_round_trip 0x12).2 _ _ hdecoded⟩

end Login
end Lirvena
