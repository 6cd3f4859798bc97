import Lirvena.Envelope.TeaCodec
import Lirvena.Wire.Tlv

/-!
# QR polling responses

A polling response is a login packet around an encrypted transaction around a body.
`Sealed` is the relation between a packet and the body in it, and a body either says
how far the QR login is or, when it is confirmed, carries the account and its
temporary credentials as a collection of tagged values.
-/

namespace Lirvena
namespace Login

open Lib Wire Envelope

inductive QrPacketError where
  | invalidField
  | wire
  | crypto
  deriving DecidableEq

def wtloginVersion : Nat := 8001

def transEmpCommand : Nat := 2066

def qrPollCommand : Nat := 0x12

def maxLoginPacketLen : Nat := 64 * 1024

def maxTlvCount : Nat := 64

def maxTlvLen : Nat := 32 * 1024

/-- Narrow login key-agreement result; the derivation of a response key is the
platform's. -/
structure KeyAgreement where
  publicKey : List UInt8
  teaKey : QqTeaKey
  deriveResponseKey : List UInt8 → Option QqTeaKey

/-- Expected local bindings for one QR response. -/
structure QrResponseContext where
  appId : UInt32
  randomKey : QqTeaKey
  keyAgreement : KeyAgreement

def qrWire {α : Type} (result : Except WireError α) : Except QrPacketError α :=
  result.mapError fun _ => .wire

def qrCrypto {α : Type} (result : Except QqTeaError α) : Except QrPacketError α :=
  result.mapError fun _ => .crypto

@[simp] theorem qrWire_eq_ok_iff {α : Type} {result : Except WireError α} {value : α} :
    qrWire result = .ok value ↔ result = .ok value :=
  mapError_eq_ok_iff

@[simp] theorem qrCrypto_eq_ok_iff {α : Type} {result : Except QqTeaError α} {value : α} :
    qrCrypto result = .ok value ↔ result = .ok value :=
  mapError_eq_ok_iff

/-- Reads a word and refuses every value but one. -/
def expectWord (width expected : Nat) (unread : List UInt8) :
    Except QrPacketError (List UInt8) :=
  readFixed .wire .invalidField width expected unread

/-- Reads all but the last byte, which must be 3. -/
def readClosed (unread : List UInt8) : Except QrPacketError (List UInt8) :=
  readEnclosed .wire .invalidField 3 unread

/-! ## The packet -/

def decryptEphemeralResponse (encrypted : List UInt8) (keyAgreement : KeyAgreement) :
    Except QrPacketError (List UInt8) := do
  let outer ← qrCrypto (decryptQqTea encrypted keyAgreement.teaKey)
  let (peerPublic, inner) ← qrWire (WireReader.readPrefixedBytes .u16Payload 256 outer)
  rejectIf .invalidField (peerPublic = [] ∨ inner = [])
  let responseKey ← okOr .crypto (keyAgreement.deriveResponseKey peerPublic)
  qrCrypto (decryptQqTea inner responseKey)

/-- The transaction inside, under the key that the packet names. -/
def openCode2d (encryption state : UInt8) (encrypted : List UInt8) (context : QrResponseContext) :
    Except QrPacketError (List UInt8) :=
  if encryption = 0 then
    qrCrypto (decryptQqTea encrypted
      (if state = 180 then context.randomKey else context.keyAgreement.teaKey))
  else if encryption = 4 then decryptEphemeralResponse encrypted context.keyAgreement
  else .error .invalidField

/-- The transaction, whose length field counts the whole of it. -/
def decodeTransaction (transaction : List UInt8) (expectedCommand : Nat) :
    Except QrPacketError (List UInt8) := do
  let unread ← expectWord 1 2 transaction
  let (length, unread) ← qrWire (WireReader.readWord 2 unread)
  rejectIf .invalidField (length ≠ unread.length + 3)
  let unread ← expectWord 2 expectedCommand unread
  let (_, unread) ← qrWire (WireReader.readBytes 21 unread)
  let unread ← expectWord 1 3 unread
  let unread ← expectWord 2 0 unread
  let unread ← expectWord 2 0x32 unread
  let unread ← expectWord 4 0 unread
  let unread ← expectWord 8 0 unread
  readClosed unread

def decodeCode2dBody (payload : List UInt8) (expectedCommand : Nat) :
    Except QrPacketError (List UInt8) := do
  let (_, unread) ← qrWire (WireReader.readU8 payload)
  let unread ← expectWord 1 0 unread
  let (layerLen, unread) ← qrWire (WireReader.readWord 2 unread)
  let (_, unread) ← qrWire (WireReader.readU8 unread)
  let (transaction, unread) ← qrWire (WireReader.readBytes layerLen unread)
  qrWire (WireReader.finish unread)
  decodeTransaction transaction expectedCommand

def decodeWtloginBody (payload : List UInt8) (context : QrResponseContext)
    (expectedCode2dCommand : Nat) : Except QrPacketError (List UInt8) := do
  rejectIf .invalidField (maxLoginPacketLen < payload.length)
  let unread ← expectWord 1 2 payload
  let unread ← expectWord 2 payload.length unread
  let unread ← expectWord 2 wtloginVersion unread
  let unread ← expectWord 2 transEmpCommand unread
  let (_, unread) ← qrWire (WireReader.readWord 2 unread)
  let unread ← expectWord 4 0 unread
  let (_, unread) ← qrWire (WireReader.readU8 unread)
  let (encryption, unread) ← qrWire (WireReader.readU8 unread)
  let (state, unread) ← qrWire (WireReader.readU8 unread)
  let encrypted ← readClosed unread
  let code2d ← openCode2d encryption state encrypted context
  decodeCode2dBody code2d expectedCode2dCommand

/-! ## The body -/

/-- Closed QR polling states used by the compiled QQ login implementation. -/
inductive QrPollState where
  | confirmed
  | expired
  | waitingForScan
  | waitingForConfirmation
  | canceled
  deriving DecidableEq

def QrPollState.ofByte (value : UInt8) : Option QrPollState :=
  if value = 0 then some .confirmed
  else if value = 17 then some .expired
  else if value = 48 then some .waitingForScan
  else if value = 53 then some .waitingForConfirmation
  else if value = 54 then some .canceled
  else none

/-- Temporary credentials returned after QR confirmation. -/
structure QrLoginSecrets where
  uin : UInt64
  tgtgtKey : List UInt8
  temporaryPassword : List UInt8
  noPictureSignature : List UInt8
  deriving DecidableEq

/-- Closed QR polling response. -/
inductive QrPollResponse where
  | state (state : QrPollState)
  | confirmed (secrets : QrLoginSecrets)
  deriving DecidableEq

def parseCredentials (unread : List UInt8) (uin : UInt64) :
    Except QrPacketError (QrLoginSecrets × List UInt8) := do
  let (tlvs, unread) ←
    readTlvs .wire .invalidField true maxTlvLen .invalidField maxTlvCount unread
  let tgtgtKey ← okOr .invalidField (tlvBody tlvs 0x01e)
  let temporaryPassword ← okOr .invalidField (tlvBody tlvs 0x018)
  let noPictureSignature ← okOr .invalidField (tlvBody tlvs 0x019)
  rejectIf .invalidField (tgtgtKey = [] ∨ temporaryPassword = [] ∨ noPictureSignature = [])
  return (⟨uin, tgtgtKey, temporaryPassword, noPictureSignature⟩, unread)

/-- The account and the credentials of a confirmed body. -/
def decodeConfirmed (unread : List UInt8) : Except QrPacketError QrPollResponse := do
  let (uin, unread) ← qrWire (WireReader.readWord 8 unread)
  let (_, unread) ← qrWire (WireReader.readI32 unread)
  rejectIf .invalidField (uin = 0)
  let (secrets, unread) ← parseCredentials unread (UInt64.ofNat uin)
  qrWire (WireReader.finish unread)
  return .confirmed secrets

def decodePollBody (appId : UInt32) (body : List UInt8) : Except QrPacketError QrPollResponse := do
  let unread ← expectWord 2 0 body
  let unread ← expectWord 4 appId.toNat unread
  let (byte, unread) ← qrWire (WireReader.readU8 unread)
  let state ← okOr .invalidField (QrPollState.ofByte byte)
  if state = .confirmed then decodeConfirmed unread else return .state state

def decodeQrPollResponse (payload : List UInt8) (context : QrResponseContext) :
    Except QrPacketError QrPollResponse := do
  let body ← decodeWtloginBody payload context qrPollCommand
  decodePollBody context.appId body

/-! ## What is accepted -/

theorem expectWord_eq_ok_iff {width expected : Nat} {unread rest : List UInt8} :
    expectWord width expected unread = .ok rest ↔
      expected < 256 ^ width ∧ unread = beBytes width expected ++ rest :=
  readFixed_eq_ok_iff

theorem readClosed_eq_ok_iff {unread content : List UInt8} :
    readClosed unread = .ok content ↔ unread = content ++ [3] :=
  readEnclosed_eq_ok_iff

/-- A transaction around a body. -/
def transactionBytes (command : Nat) (reserved body : List UInt8) : List UInt8 :=
  let content := beBytes 2 command ++ (reserved ++ (beBytes 1 3 ++ (beBytes 2 0 ++
    (beBytes 2 0x32 ++ (beBytes 4 0 ++ (beBytes 8 0 ++ (body ++ [3])))))))
  beBytes 1 2 ++ (beBytes 2 (content.length + 3) ++ content)

theorem decodeTransaction_eq_ok_iff {transaction body : List UInt8} {command : Nat}
    (hcommand : command < 65536) (hshort : transaction.length < 65536) :
    decodeTransaction transaction command = .ok body ↔
      ∃ reserved : List UInt8, reserved.length = 21 ∧
        transaction = transactionBytes command reserved body := by
  simp only [decodeTransaction, bind_eq_ok_iff, qrWire_eq_ok_iff, expectWord_eq_ok_iff,
    readClosed_eq_ok_iff]
  constructor
  · rintro ⟨after, ⟨-, rfl⟩, ⟨length, content⟩, hlength, checked, hsame, rest, ⟨-, rfl⟩,
      ⟨reserved, tail⟩, hreserved, closed, ⟨-, rfl⟩, zero, ⟨-, rfl⟩, fifty, ⟨-, rfl⟩, word,
      ⟨-, rfl⟩, long, ⟨-, rfl⟩, rfl⟩
    obtain ⟨-, rfl⟩ := WireReader.readWord_eq_ok_iff.mp hlength
    obtain ⟨rfl, hcount⟩ := WireReader.readBytes_eq_ok_iff.mp hreserved
    have hcounted := not_not.mp (rejectIf_eq_ok_iff.mp hsame)
    dsimp only at hcounted
    subst hcounted
    exact ⟨reserved, hcount, rfl⟩
  · rintro ⟨reserved, hcount, rfl⟩
    simp only [transactionBytes, List.length_append, beBytes_length] at hshort ⊢
    exact ⟨_, ⟨by decide, rfl⟩, (_, _), WireReader.readWord_eq_ok_iff.mpr ⟨by
        simp only [List.length_cons, List.length_nil] at hshort ⊢
        omega, rfl⟩, (),
      rejectIf_eq_ok_iff.mpr (by simp), _, ⟨hcommand, rfl⟩, (reserved, _),
      WireReader.readBytes_eq_ok_iff.mpr ⟨rfl, hcount⟩, _, ⟨by decide, rfl⟩, _, ⟨by decide, rfl⟩,
      _, ⟨by decide, rfl⟩, _, ⟨by decide, rfl⟩, _, ⟨by decide, rfl⟩, rfl⟩

/-- The layer around a transaction. -/
def code2dBytes (flag state : UInt8) (transaction : List UInt8) : List UInt8 :=
  flag :: (beBytes 1 0 ++ (beBytes 2 transaction.length ++ (state :: transaction)))

theorem decodeCode2dBody_eq_ok_iff {payload body : List UInt8} {command : Nat}
    (hcommand : command < 65536) :
    decodeCode2dBody payload command = .ok body ↔
      ∃ (flag state : UInt8) (reserved : List UInt8), reserved.length = 21 ∧
        (transactionBytes command reserved body).length < 65536 ∧
          payload = code2dBytes flag state (transactionBytes command reserved body) := by
  simp only [decodeCode2dBody, bind_eq_ok_iff, qrWire_eq_ok_iff, expectWord_eq_ok_iff]
  constructor
  · rintro ⟨⟨flag, after⟩, hflag, rest, ⟨-, rfl⟩, ⟨length, behind⟩, hlength, ⟨state, inner⟩,
      hstate, ⟨transaction, last⟩, hbytes, finished, hfinish, hdecode⟩
    obtain rfl := WireReader.readU8_eq_ok_iff.mp hflag
    obtain ⟨hbound, rfl⟩ := WireReader.readWord_eq_ok_iff.mp hlength
    obtain rfl := WireReader.readU8_eq_ok_iff.mp hstate
    obtain ⟨rfl, rfl⟩ := WireReader.readBytes_eq_ok_iff.mp hbytes
    obtain rfl := WireReader.finish_eq_ok_iff.mp hfinish
    obtain ⟨reserved, hcount, rfl⟩ :=
      (decodeTransaction_eq_ok_iff hcommand (by simpa using hbound)).mp hdecode
    exact ⟨flag, state, reserved, hcount, by simpa using hbound, by simp [code2dBytes]⟩
  · rintro ⟨flag, state, reserved, hcount, hshort, rfl⟩
    refine ⟨(flag, _), WireReader.readU8_eq_ok_iff.mpr rfl, _, ⟨by decide, rfl⟩, (_, _),
      WireReader.readWord_eq_ok_iff.mpr ⟨by simpa using hshort, rfl⟩, (state, _),
      WireReader.readU8_eq_ok_iff.mpr rfl, (transactionBytes command reserved body, []),
      WireReader.readBytes_eq_ok_iff.mpr ⟨by simp, rfl⟩, (),
      WireReader.finish_eq_ok_iff.mpr rfl, ?_⟩
    exact (decodeTransaction_eq_ok_iff hcommand hshort).mpr ⟨reserved, hcount, rfl⟩

/-- The ciphertext of a packet opens to a layer, under the key of the request or, for an
ephemeral response, under the key agreed on with the peer. -/
inductive Opens (context : QrResponseContext) (state : UInt8) (encrypted code2d : List UInt8) :
    UInt8 → Prop where
  | direct (hdecrypt : decryptQqTea encrypted
      (if state = 180 then context.randomKey else context.keyAgreement.teaKey) = .ok code2d) :
      Opens context state encrypted code2d 0
  | ephemeral {peerPublic inner : List UInt8} {responseKey : QqTeaKey}
      (houter : decryptQqTea encrypted context.keyAgreement.teaKey =
        .ok (LengthPrefix.u16Payload.encode peerPublic ++ inner))
      (hpeer : peerPublic ≠ [] ∧ peerPublic.length ≤ 256) (hinner : inner ≠ [])
      (hkey : context.keyAgreement.deriveResponseKey peerPublic = some responseKey)
      (hdecrypt : decryptQqTea inner responseKey = .ok code2d) :
      Opens context state encrypted code2d 4

theorem openCode2d_eq_ok_iff {encryption state : UInt8} {encrypted code2d : List UInt8}
    {context : QrResponseContext} :
    openCode2d encryption state encrypted context = .ok code2d ↔
      Opens context state encrypted code2d encryption := by
  unfold openCode2d
  constructor
  · intro hopen
    split at hopen
    · next hdirect =>
        subst hdirect
        exact .direct (qrCrypto_eq_ok_iff.mp hopen)
    · split at hopen
      · next hephemeral =>
          subst hephemeral
          simp only [decryptEphemeralResponse, bind_eq_ok_iff, qrCrypto_eq_ok_iff,
            qrWire_eq_ok_iff, okOr_eq_ok_iff] at hopen
          obtain ⟨outer, houter, ⟨peerPublic, inner⟩, hpeer, checked, hnonempty, responseKey, hkey,
            hdecrypt⟩ := hopen
          obtain ⟨hbound, -, rfl⟩ := WireReader.readPrefixedBytes_eq_ok_iff.mp hpeer
          have hparts := not_or.mp (rejectIf_eq_ok_iff.mp hnonempty)
          exact .ephemeral houter ⟨hparts.1, hbound⟩ hparts.2 hkey hdecrypt
      · cases hopen
  · intro hopens
    cases hopens with
    | direct hdecrypt => simpa using hdecrypt
    | @ephemeral peerPublic inner responseKey houter hpeer hinner hkey hdecrypt =>
        have hfits : LengthPrefix.u16Payload.declared peerPublic.length <
            256 ^ LengthPrefix.u16Payload.width := by
          have hbound := hpeer.2
          show peerPublic.length < 256 ^ 2
          omega
        rw [if_neg (by decide), if_pos rfl]
        simp only [decryptEphemeralResponse, bind_eq_ok_iff, qrCrypto_eq_ok_iff,
          qrWire_eq_ok_iff, okOr_eq_ok_iff]
        exact ⟨_, houter, (peerPublic, inner),
          WireReader.readPrefixedBytes_eq_ok_iff.mpr ⟨hpeer.2, hfits, rfl⟩, (),
          rejectIf_eq_ok_iff.mpr (not_or.mpr ⟨hpeer.1, hinner⟩), responseKey, hkey, hdecrypt⟩

/-- A login packet around a ciphertext. -/
def loginPacket (sequence : Nat) (flag encryption state : UInt8) (encrypted : List UInt8) :
    List UInt8 :=
  let content := beBytes 2 wtloginVersion ++ (beBytes 2 transEmpCommand ++ (beBytes 2 sequence ++
    (beBytes 4 0 ++ (flag :: encryption :: state :: (encrypted ++ [3])))))
  beBytes 1 2 ++ (beBytes 2 (content.length + 3) ++ content)

/-- A packet with a body sealed in it, for a command and the keys of a context. -/
inductive Sealed (context : QrResponseContext) (command : Nat) (payload body : List UInt8) :
    Prop where
  | mk {sequence : Nat} {flag encryption state outerFlag outerState : UInt8}
      {encrypted reserved : List UInt8} (hsequence : sequence < 65536)
      (hpayload : payload = loginPacket sequence flag encryption state encrypted)
      (hlength : payload.length < 65536) (hreserved : reserved.length = 21)
      (hinner : (transactionBytes command reserved body).length < 65536)
      (hopens : Opens context state encrypted
        (code2dBytes outerFlag outerState (transactionBytes command reserved body)) encryption)

theorem decodeWtloginBody_eq_ok_iff {payload body : List UInt8} {context : QrResponseContext}
    {command : Nat} (hcommand : command < 65536) :
    decodeWtloginBody payload context command = .ok body ↔ Sealed context command payload body := by
  simp only [decodeWtloginBody, bind_eq_ok_iff, qrWire_eq_ok_iff, expectWord_eq_ok_iff,
    readClosed_eq_ok_iff, openCode2d_eq_ok_iff, decodeCode2dBody_eq_ok_iff hcommand]
  constructor
  · rintro ⟨checked, hshort, after, ⟨-, hpayload⟩, counted, ⟨hlength, hafter⟩, versioned, ⟨-, rfl⟩,
      commanded, ⟨-, rfl⟩, ⟨sequence, behind⟩, hsequence, zeroed, ⟨-, hzero⟩, ⟨flag, flagged⟩,
      hflag, ⟨encryption, named⟩, hencryption, ⟨state, stated⟩, hstate, encrypted, hencrypted,
      code2d, hopens, outerFlag, outerState, reserved, hreserved, hinner, rfl⟩
    obtain ⟨hword, rfl⟩ := WireReader.readWord_eq_ok_iff.mp hsequence
    dsimp only at hzero hencryption hstate hencrypted
    subst hzero
    obtain rfl := WireReader.readU8_eq_ok_iff.mp hflag
    obtain rfl := WireReader.readU8_eq_ok_iff.mp hencryption
    obtain rfl := WireReader.readU8_eq_ok_iff.mp hstate
    subst hencrypted
    -- The length field counts itself and the byte before it.
    have htotal := congrArg List.length hpayload
    rw [hafter] at hpayload htotal
    simp only [List.length_append, beBytes_length] at htotal
    have hpacket : payload = loginPacket sequence flag encryption state encrypted := by
      rw [hpayload, loginPacket]
      simp only [List.length_append, beBytes_length]
      congr 3
      omega
    exact .mk hword hpacket hlength hreserved hinner hopens
  · intro hsealed
    cases hsealed with
    | @mk sequence flag encryption state outerFlag outerState encrypted reserved hsequence hpayload
        hlength hreserved hinner hopens =>
        have hlong : maxLoginPacketLen = 65536 := rfl
        have htotal := congrArg List.length hpayload
        simp only [loginPacket, List.length_append, beBytes_length] at htotal
        refine ⟨(), rejectIf_eq_ok_iff.mpr (by omega), _, ⟨by decide, hpayload⟩, _,
          ⟨by omega, ?_⟩, _, ⟨by decide, rfl⟩, _, ⟨by decide, rfl⟩, (sequence, _),
          WireReader.readWord_eq_ok_iff.mpr ⟨by omega, rfl⟩, _, ⟨by decide, rfl⟩, (flag, _),
          WireReader.readU8_eq_ok_iff.mpr rfl, (encryption, _),
          WireReader.readU8_eq_ok_iff.mpr rfl, (state, _), WireReader.readU8_eq_ok_iff.mpr rfl,
          encrypted, rfl, _, hopens, outerFlag, outerState, reserved, hreserved, hinner, rfl⟩
        simp only [List.length_append, beBytes_length]
        congr 2
        omega

/-- A body that confirms an account, with a retry word and its credentials. -/
def confirmedBody (appId : UInt32) (uin : UInt64) (retry : UInt32) (tlvs : List Tlv) : List UInt8 :=
  beBytes 2 0 ++ (beBytes 4 appId.toNat ++ (0 :: (beBytes 8 uin.toNat ++
    (beBytes 4 retry.toNat ++ encodeTlvs tlvs))))

/-- The credentials that a confirmed body holds. -/
structure Credentials (tlvs : List Tlv) (secrets : QrLoginSecrets) : Prop where
  collection : Collection maxTlvCount maxTlvLen tlvs
  uin_ne : secrets.uin ≠ 0
  tgtgt : tlvBody tlvs 0x01e = some secrets.tgtgtKey ∧ secrets.tgtgtKey ≠ []
  password : tlvBody tlvs 0x018 = some secrets.temporaryPassword ∧ secrets.temporaryPassword ≠ []
  signature :
    tlvBody tlvs 0x019 = some secrets.noPictureSignature ∧ secrets.noPictureSignature ≠ []

theorem parseCredentials_eq_ok_iff {unread rest : List UInt8} {uin : UInt64}
    {secrets : QrLoginSecrets} (huin : uin ≠ 0) :
    parseCredentials unread uin = .ok (secrets, rest) ↔
      secrets.uin = uin ∧ ∃ tlvs, Credentials tlvs secrets ∧ unread = encodeTlvs tlvs ++ rest := by
  have hlen : maxTlvLen < 65536 := by decide
  have hcount : maxTlvCount < 65536 := by decide
  simp only [parseCredentials, bind_eq_ok_iff, okOr_eq_ok_iff]
  constructor
  · rintro ⟨⟨tlvs, behind⟩, htlvs, key, hkey, password, hpassword, signature, hsignature, checked,
      hnonempty, hreturn⟩
    obtain ⟨hcollection, rfl⟩ := (readTlvs_eq_ok_iff hlen hcount).mp htlvs
    have hparts := rejectIf_eq_ok_iff.mp hnonempty
    push Not at hparts
    cases hreturn
    exact ⟨rfl, tlvs, ⟨hcollection, huin, ⟨hkey, hparts.1⟩, ⟨hpassword, hparts.2.1⟩,
      ⟨hsignature, hparts.2.2⟩⟩, rfl⟩
  · rintro ⟨rfl, tlvs, hcredentials, rfl⟩
    refine ⟨(tlvs, rest), (readTlvs_eq_ok_iff hlen hcount).mpr ⟨hcredentials.collection, rfl⟩, _,
      hcredentials.tgtgt.1, _, hcredentials.password.1, _, hcredentials.signature.1, (), ?_, rfl⟩
    apply rejectIf_eq_ok_iff.mpr
    push Not
    exact ⟨hcredentials.tgtgt.2, hcredentials.password.2, hcredentials.signature.2⟩

theorem decodeConfirmed_eq_ok_iff {unread : List UInt8} {response : QrPollResponse} :
    decodeConfirmed unread = .ok response ↔
      ∃ (retry : UInt32) (tlvs : List Tlv) (secrets : QrLoginSecrets),
        response = .confirmed secrets ∧ Credentials tlvs secrets ∧
          unread = beBytes 8 secrets.uin.toNat ++ (beBytes 4 retry.toNat ++ encodeTlvs tlvs) := by
  simp only [decodeConfirmed, bind_eq_ok_iff, qrWire_eq_ok_iff]
  constructor
  · rintro ⟨⟨uin, behind⟩, huin, ⟨retry, after⟩, hretry, checked, hnonzero,
      ⟨secrets, rest⟩, hsecrets,
      finished, hfinish, hreturn⟩
    obtain ⟨hfits, rfl⟩ := WireReader.readWord_eq_ok_iff.mp huin
    obtain ⟨word, -, rfl⟩ := WireReader.readI32_eq_ok_iff.mp hretry
    have hzero := rejectIf_eq_ok_iff.mp hnonzero
    have hword : (UInt64.ofNat uin).toNat = uin := UInt64.toNat_ofNat_of_lt' (by simpa using hfits)
    have huin : UInt64.ofNat uin ≠ 0 := by
      intro hsame
      rw [hsame] at hword
      exact hzero hword.symm
    obtain ⟨hsame, tlvs, hcredentials, rfl⟩ := (parseCredentials_eq_ok_iff huin).mp hsecrets
    obtain rfl := WireReader.finish_eq_ok_iff.mp hfinish
    cases hreturn
    exact ⟨word, tlvs, secrets, rfl, hcredentials, by rw [hsame, hword, List.append_nil]⟩
  · rintro ⟨retry, tlvs, secrets, rfl, hcredentials, rfl⟩
    have hfits : secrets.uin.toNat < 256 ^ 8 := secrets.uin.toNat_lt
    have hword : UInt64.ofNat secrets.uin.toNat = secrets.uin := UInt64.ofNat_toNat
    have hnonzero : secrets.uin.toNat ≠ 0 := by
      intro hzero
      exact hcredentials.uin_ne (UInt64.toNat_inj.mp hzero)
    refine ⟨(secrets.uin.toNat, _), WireReader.readWord_eq_ok_iff.mpr ⟨hfits, rfl⟩, (_, _),
      WireReader.readI32_eq_ok_iff.mpr ⟨retry, rfl, rfl⟩, (), rejectIf_eq_ok_iff.mpr hnonzero,
      (secrets, []), ?_, (), WireReader.finish_eq_ok_iff.mpr rfl, rfl⟩
    rw [hword]
    exact (parseCredentials_eq_ok_iff hcredentials.uin_ne).mpr
      ⟨rfl, tlvs, hcredentials, (List.append_nil _).symm⟩

theorem ofByte_eq_confirmed_iff {value : UInt8} :
    QrPollState.ofByte value = some .confirmed ↔ value = 0 := by
  unfold QrPollState.ofByte
  split
  · next hzero => simp [hzero]
  · next hother =>
      constructor
      · intro hconfirmed
        split at hconfirmed
        · cases hconfirmed
        · split at hconfirmed
          · cases hconfirmed
          · split at hconfirmed
            · cases hconfirmed
            · split at hconfirmed <;> cases hconfirmed
      · intro hzero
        exact absurd hzero hother

/-- A response is accepted as confirmed exactly when a confirming body is sealed in it. -/
theorem decodeQrPollResponse_confirmed_iff {payload : List UInt8} {context : QrResponseContext}
    {secrets : QrLoginSecrets} :
    decodeQrPollResponse payload context = .ok (.confirmed secrets) ↔
      ∃ (retry : UInt32) (tlvs : List Tlv), Credentials tlvs secrets ∧
        Sealed context qrPollCommand payload
          (confirmedBody context.appId secrets.uin retry tlvs) := by
  have happ : context.appId.toNat < 256 ^ 4 := context.appId.toNat_lt
  simp only [decodeQrPollResponse, bind_eq_ok_iff, decodePollBody, qrWire_eq_ok_iff,
    expectWord_eq_ok_iff, okOr_eq_ok_iff]
  constructor
  · rintro ⟨body, hbody, after, ⟨-, rfl⟩, identified, ⟨-, rfl⟩, ⟨byte, unread⟩, hbyte,
      state, hstate,
      hdecode⟩
    obtain rfl := WireReader.readU8_eq_ok_iff.mp hbyte
    split at hdecode
    · next hconfirmed =>
        subst hconfirmed
        obtain rfl := ofByte_eq_confirmed_iff.mp hstate
        obtain ⟨retry, tlvs, same, hsame, hcredentials, rfl⟩ := decodeConfirmed_eq_ok_iff.mp hdecode
        cases hsame
        exact ⟨retry, tlvs, hcredentials, (decodeWtloginBody_eq_ok_iff (by decide)).mp hbody⟩
    · cases hdecode
  · rintro ⟨retry, tlvs, hcredentials, hsealed⟩
    refine ⟨_, (decodeWtloginBody_eq_ok_iff (by decide)).mpr hsealed, _, ⟨by decide, rfl⟩, _,
      ⟨happ, rfl⟩, (0, _), WireReader.readU8_eq_ok_iff.mpr rfl, .confirmed,
      ofByte_eq_confirmed_iff.mpr rfl, ?_⟩
    rw [if_pos rfl]
    exact decodeConfirmed_eq_ok_iff.mpr ⟨retry, tlvs, secrets, rfl, hcredentials, rfl⟩

/-- A response is a state other than the confirmed one, or it is confirmed. -/
theorem decodeQrPollResponse_state {payload : List UInt8} {context : QrResponseContext}
    {state : QrPollState} (hdecode : decodeQrPollResponse payload context = .ok (.state state)) :
    state ≠ .confirmed := by
  simp only [decodeQrPollResponse, bind_eq_ok_iff, decodePollBody] at hdecode
  obtain ⟨body, -, after, -, identified, -, ⟨byte, unread⟩, -, found, -, hstate⟩ := hdecode
  split at hstate
  · obtain ⟨_, _, _, hconfirmed, -⟩ := decodeConfirmed_eq_ok_iff.mp hstate
    cases hconfirmed
  · next hother =>
      cases hstate
      exact hother

/-! ## A packet around a body -/

/-- A ciphertext whose padding is zeros, of a plaintext within the limit. -/
def encipher (key : QqTeaKey) (plaintext : List UInt8) : List UInt8 :=
  match encryptQqTea plaintext key (constantFill 0) with
  | .ok ciphertext => ciphertext
  | .error _ => []

theorem encipher_spec (key : QqTeaKey) {plaintext : List UInt8}
    (hlimit : plaintext.length ≤ maxPlaintextLen) :
    decryptQqTea (encipher key plaintext) key = .ok plaintext ∧
      (encipher key plaintext).length ≤ plaintext.length + 17 := by
  obtain ⟨ciphertext, hencrypt⟩ : ∃ ciphertext,
      encryptQqTea plaintext key (constantFill 0) = .ok ciphertext :=
    ⟨_, encryptQqTea_eq_ok_iff.mpr ⟨hlimit, _, rfl, rfl⟩⟩
  have hlength := encryptQqTea_length hencrypt
  have hpadding := (eq_paddingLen_iff.mp (rfl : paddingLen plaintext.length = _)).2.1
  rw [trailingZeroLen] at hlength
  rw [encipher, hencrypt]
  dsimp only
  exact ⟨decryptQqTea_encryptQqTea hencrypt, by omega⟩

/-- A packet around a body, under the key of the context and with zeros for the fields that
the reader does not look at. -/
def sealBody (context : QrResponseContext) (command : Nat) (body : List UInt8) : List UInt8 :=
  loginPacket 0 0 0 0 (encipher context.keyAgreement.teaKey
    (code2dBytes 0 0 (transactionBytes command (List.replicate 21 0) body)))

theorem sealed_sealBody (context : QrResponseContext) (command : Nat) {body : List UInt8}
    (hshort : body.length ≤ 60000) :
    Sealed context command (sealBody context command body) body := by
  have hinner : (code2dBytes 0 0
      (transactionBytes command (List.replicate 21 0) body)).length = body.length + 49 := by
    simp only [code2dBytes, transactionBytes, List.length_append, List.length_cons,
      beBytes_length, List.length_replicate, List.length_nil]
    omega
  have hlimit : (code2dBytes 0 0
      (transactionBytes command (List.replicate 21 0) body)).length ≤ maxPlaintextLen := by
    rw [hinner]
    unfold maxPlaintextLen
    omega
  obtain ⟨hdecrypt, hlength⟩ := encipher_spec context.keyAgreement.teaKey hlimit
  refine .mk (by decide) rfl ?_ List.length_replicate ?_ (.direct hdecrypt)
  · simp only [sealBody, loginPacket, List.length_append, List.length_cons, beBytes_length,
      List.length_nil]
    omega
  · simp only [transactionBytes, List.length_append, beBytes_length, List.length_replicate,
      List.length_cons, List.length_nil]
    omega

/-- Responses to one application, under one key. -/
def linuxContext : QrResponseContext where
  appId := 1600001615
  randomKey := vectorKey
  keyAgreement := { publicKey := [], teaKey := vectorKey, deriveResponseKey := fun _ => none }

def confirmedSecrets (uin : UInt64) : QrLoginSecrets :=
  ⟨uin, List.replicate 16 0x2a, [1], [2]⟩

def confirmedTlvs : List Tlv :=
  [⟨0x01e, List.replicate 16 0x2a⟩, ⟨0x018, [1]⟩, ⟨0x019, [2]⟩]

def confirmedPayload (uin : UInt64) : List UInt8 :=
  sealBody linuxContext qrPollCommand (confirmedBody linuxContext.appId uin 0 confirmedTlvs)

theorem decode_confirmedPayload {uin : UInt64} (huin : uin ≠ 0) :
    decodeQrPollResponse (confirmedPayload uin) linuxContext =
      .ok (.confirmed (confirmedSecrets uin)) := by
  have hkey : tlvBody confirmedTlvs 0x01e = some (List.replicate 16 0x2a) := by decide
  have hpassword : tlvBody confirmedTlvs 0x018 = some [1] := by decide
  have hsignature : tlvBody confirmedTlvs 0x019 = some [2] := by decide
  have hcredentials : Credentials confirmedTlvs (confirmedSecrets uin) :=
    ⟨⟨by decide, by decide, by decide, by decide⟩, huin, ⟨hkey, by simp [confirmedSecrets]⟩,
      ⟨hpassword, by simp [confirmedSecrets]⟩, ⟨hsignature, by simp [confirmedSecrets]⟩⟩
  have hshort : (confirmedBody linuxContext.appId uin 0 confirmedTlvs).length ≤ 60000 := by
    have htlvs : (encodeTlvs confirmedTlvs).length = 32 := by decide
    simp only [confirmedBody, List.length_append, List.length_cons, beBytes_length, htlvs]
    omega
  exact decodeQrPollResponse_confirmed_iff.mpr
    ⟨0, confirmedTlvs, hcredentials, sealed_sealBody linuxContext qrPollCommand hshort⟩

end Login
end Lirvena
