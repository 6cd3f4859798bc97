import Lirvena.Lib.Text
import Lirvena.Login.QrPoll

/-!
# Credential responses

After the QR login the account exchanges its temporary credentials for the material of a
session.  A response is a login packet around an encrypted body, and the body of a success
has a second collection encrypted in the first, under the temporary key of the QR login.

`Issued` says which collections give which login, and `decodeCredentialExchangeResponse`
accepts exactly them.  The protobuf decoder of the account identity is a parameter.
-/

namespace Lirvena
namespace Login

open Lib Wire Envelope

inductive CredentialExchangeError where
  | invalidField
  | invalidResponseEnvelope
  | invalidResponseAccount
  | invalidResponseCommand
  | invalidResponseTlvs
  | invalidResponseProfile
  | invalidResponseUid
  | invalidResponseSessionKey
  | wire
  | crypto
  deriving DecidableEq

def wtloginCommand : Nat := 2064

def internalCommand : Nat := 0x09

def maxNoticeLen : Nat := 2048

def maxUidProtoLen : Nat := 8 * 1024

/-! ## The protobuf of the account identity -/

structure UidLayerTwo where
  uid : String

structure UidLayerOne where
  layerTwo : Option UidLayerTwo

structure UidEnvelope where
  layerOne : Option UidLayerOne

/-- Expected local bindings for one post-QR credential response, and the decoder of the
messages in it. -/
structure CredentialResponseContext where
  uin : UInt32
  keyAgreement : KeyAgreement
  tgtgtKey : List UInt8
  decodeEnvelope : List UInt8 → Option UidEnvelope

/-- Session values retained for the next QQ transport generation. -/
structure CredentialSessionSecrets where
  d2Key : List UInt8
  tgt : List UInt8
  d2 : List UInt8
  temporaryPassword : List UInt8
  deriving DecidableEq

/-- Ordinary account facts and session material returned after QR login. -/
structure CredentialLogin where
  uid : String
  nickname : String
  age : UInt8
  gender : UInt8
  secrets : CredentialSessionSecrets
  deriving DecidableEq

/-- A rejection with the code and the notice that came with it. -/
structure CredentialRejection where
  state : UInt8
  tag : Option String
  message : Option String
  deriving DecidableEq

inductive CredentialExchangeOutcome where
  | success (login : CredentialLogin)
  | rejected (rejection : CredentialRejection)
  deriving DecidableEq

def credentialWire {α : Type} (result : Except WireError α) : Except CredentialExchangeError α :=
  result.mapError fun _ => .wire

def credentialCrypto {α : Type} (result : Except QqTeaError α) :
    Except CredentialExchangeError α :=
  result.mapError fun _ => .crypto

@[simp] theorem credentialWire_eq_ok_iff {α : Type} {result : Except WireError α} {value : α} :
    credentialWire result = .ok value ↔ result = .ok value :=
  mapError_eq_ok_iff

@[simp] theorem credentialCrypto_eq_ok_iff {α : Type} {result : Except QqTeaError α} {value : α} :
    credentialCrypto result = .ok value ↔ result = .ok value :=
  mapError_eq_ok_iff

/-! ## The decoder -/

def keyFromSlice (bytes : List UInt8) : Except CredentialExchangeError QqTeaKey :=
  if hlength : bytes.length = 16 then .ok ⟨bytes, hlength⟩ else .error .invalidField

def decryptResponseBody (payload : List UInt8) (context : CredentialResponseContext) :
    Except CredentialExchangeError (List UInt8) := do
  let unread ← readFixed .wire .invalidResponseEnvelope 1 2 payload
  let unread ← readFixed .wire .invalidResponseEnvelope 2 payload.length unread
  let unread ← readFixed .wire .invalidResponseEnvelope 2 wtloginVersion unread
  let unread ← readFixed .wire .invalidResponseEnvelope 2 wtloginCommand unread
  let (_, unread) ← credentialWire (WireReader.readWord 2 unread)
  let unread ← readFixed .wire .invalidResponseAccount 4 context.uin.toNat unread
  let (_, unread) ← credentialWire (WireReader.readU8 unread)
  let (_, unread) ← credentialWire (WireReader.readWord 2 unread)
  let encrypted ← readEnclosed .wire .invalidResponseEnvelope 3 unread
  credentialCrypto (decryptQqTea encrypted context.keyAgreement.teaKey)

def readTlvCollection (unread : List UInt8) :
    Except CredentialExchangeError (List Tlv × List UInt8) :=
  readTlvs .wire .invalidResponseTlvs false maxTlvLen .invalidResponseTlvs maxTlvCount unread

def requiredTlv (tlvs : List Tlv) (tag : UInt16) : Except CredentialExchangeError (List UInt8) :=
  okOr .invalidResponseTlvs (tlvBody tlvs tag)

def requiredNonempty (tlvs : List Tlv) (tag : UInt16) :
    Except CredentialExchangeError (List UInt8) := do
  let body ← requiredTlv tlvs tag
  rejectIf .invalidResponseTlvs (body = [])
  return body

def decodeText (bytes : List UInt8) : Except CredentialExchangeError String :=
  okOr .invalidField (fromUtf8 bytes)

/-- The public profile.  Whatever fails in it is one error. -/
def decodeProfile (body : List UInt8) : Except CredentialExchangeError (UInt8 × UInt8 × String) :=
  let parsed : Except CredentialExchangeError (UInt8 × UInt8 × String) := do
    let (_, unread) ← credentialWire (WireReader.readWord 2 body)
    let (age, unread) ← credentialWire (WireReader.readU8 unread)
    let (gender, unread) ← credentialWire (WireReader.readU8 unread)
    let (nickname, unread) ← credentialWire (WireReader.readPrefixedBytes .u8Payload 255 unread)
    credentialWire (WireReader.finish unread)
    let nickname ← decodeText nickname
    return (age, gender, nickname)
  parsed.mapError fun _ => .invalidResponseProfile

def decodeUid (decode : List UInt8 → Option UidEnvelope) (body : List UInt8) :
    Except CredentialExchangeError String := do
  rejectIf .invalidResponseUid (maxUidProtoLen < body.length)
  let envelope ← okOr .invalidResponseUid (decode body)
  let layer ← okOr .invalidResponseUid (envelope.layerOne.bind UidLayerOne.layerTwo)
  rejectIf .invalidResponseUid
    (utf8Bytes layer.uid = [] ∨ maxNoticeLen < (utf8Bytes layer.uid).length)
  return layer.uid

/-- What the nested collection of a success gives. -/
def decodeLogin (decode : List UInt8 → Option UidEnvelope) (nested : List Tlv) :
    Except CredentialExchangeError CredentialLogin := do
  let profile ← requiredTlv nested 0x11a
  let (age, gender, nickname) ← decodeProfile profile
  let envelope ← requiredTlv nested 0x543
  let uid ← decodeUid decode envelope
  let d2Key ← requiredNonempty nested 0x305
  rejectIf .invalidResponseSessionKey (d2Key.length ≠ 16)
  let tgt ← requiredNonempty nested 0x10a
  let d2 ← requiredNonempty nested 0x143
  let temporaryPassword ← requiredNonempty nested 0x106
  return ⟨uid, nickname, age, gender, ⟨d2Key, tgt, d2, temporaryPassword⟩⟩

def decodeSuccess (decode : List UInt8 → Option UidEnvelope) (tgtgtKey : QqTeaKey)
    (unread : List UInt8) :
    Except CredentialExchangeError (CredentialExchangeOutcome × List UInt8) := do
  let (outer, unread) ← readTlvCollection unread
  let encrypted ← requiredTlv outer 0x119
  let plaintext ← credentialCrypto (decryptQqTea encrypted tgtgtKey)
  let (nested, behind) ← readTlvCollection plaintext
  credentialWire (WireReader.finish behind)
  let login ← decodeLogin decode nested
  return (.success login, unread)

def optionalText (bytes : List UInt8) : Except CredentialExchangeError (Option String) :=
  if bytes = [] then .ok none else (decodeText bytes).map some

def decodeNotice (body : List UInt8) :
    Except CredentialExchangeError (Option String × Option String) := do
  let (_, unread) ← credentialWire (WireReader.readU32 body)
  let (tag, unread) ← credentialWire (WireReader.readPrefixedBytes .u16Payload maxNoticeLen unread)
  let (message, unread) ←
    credentialWire (WireReader.readPrefixedBytes .u16Payload maxNoticeLen unread)
  let (_, unread) ← credentialWire (WireReader.readU32 unread)
  credentialWire (WireReader.finish unread)
  let tag ← optionalText tag
  let message ← optionalText message
  return (tag, message)

def decodeRejection (state : UInt8) (unread : List UInt8) :
    Except CredentialExchangeError (CredentialExchangeOutcome × List UInt8) := do
  if unread = [] then return (.rejected ⟨state, none, none⟩, unread)
  let (tlvs, unread) ← readTlvCollection unread
  match tlvBody tlvs 0x146 with
  | none => return (.rejected ⟨state, none, none⟩, unread)
  | some body =>
      let (tag, message) ← decodeNotice body
      return (.rejected ⟨state, tag, message⟩, unread)

def decodeState (decode : List UInt8 → Option UidEnvelope) (tgtgtKey : QqTeaKey) (state : UInt8)
    (unread : List UInt8) :
    Except CredentialExchangeError (CredentialExchangeOutcome × List UInt8) :=
  if state = 0 then decodeSuccess decode tgtgtKey unread else decodeRejection state unread

def decodeOutcome (decode : List UInt8 → Option UidEnvelope) (tgtgtKey : QqTeaKey)
    (body : List UInt8) : Except CredentialExchangeError CredentialExchangeOutcome := do
  let unread ← readFixed .wire .invalidResponseCommand 2 internalCommand body
  let (state, unread) ← credentialWire (WireReader.readU8 unread)
  let (outcome, unread) ← decodeState decode tgtgtKey state unread
  credentialWire (WireReader.finish unread)
  return outcome

def decodeCredentialExchangeResponse (payload : List UInt8) (context : CredentialResponseContext) :
    Except CredentialExchangeError CredentialExchangeOutcome := do
  rejectIf .invalidResponseEnvelope (maxLoginPacketLen < payload.length ∨ context.uin = 0)
  let tgtgtKey ← keyFromSlice context.tgtgtKey
  let body ← decryptResponseBody payload context
  decodeOutcome context.decodeEnvelope tgtgtKey body

/-! ## What is accepted -/

/-- A login packet around a ciphertext, for an account. -/
def responsePacket (sequence : Nat) (uin : UInt32) (flag : UInt8) (retry : Nat)
    (encrypted : List UInt8) : List UInt8 :=
  let content := beBytes 2 wtloginVersion ++ (beBytes 2 wtloginCommand ++ (beBytes 2 sequence ++
    (beBytes 4 uin.toNat ++ (flag :: (beBytes 2 retry ++ (encrypted ++ [3]))))))
  beBytes 1 2 ++ (beBytes 2 (content.length + 3) ++ content)

/-- A packet with a body sealed in it, for the account and the key of a context. -/
inductive SealedResponse (context : CredentialResponseContext) (payload body : List UInt8) :
    Prop where
  | mk {sequence retry : Nat} {flag : UInt8} {encrypted : List UInt8}
      (hsequence : sequence < 65536) (hretry : retry < 65536)
      (hpayload : payload = responsePacket sequence context.uin flag retry encrypted)
      (hlength : payload.length < 65536)
      (hdecrypt : decryptQqTea encrypted context.keyAgreement.teaKey = .ok body)

theorem decryptResponseBody_eq_ok_iff {payload body : List UInt8}
    {context : CredentialResponseContext} :
    decryptResponseBody payload context = .ok body ↔ SealedResponse context payload body := by
  have huin : context.uin.toNat < 256 ^ 4 := context.uin.toNat_lt
  simp only [decryptResponseBody, bind_eq_ok_iff, credentialWire_eq_ok_iff,
    credentialCrypto_eq_ok_iff, readFixed_eq_ok_iff, readEnclosed_eq_ok_iff]
  constructor
  · rintro ⟨after, ⟨-, hpayload⟩, counted, ⟨hlength, hafter⟩, versioned, ⟨-, rfl⟩, commanded,
      ⟨-, rfl⟩, ⟨sequence, behind⟩, hsequence, bound, ⟨-, hbound⟩, ⟨flag, flagged⟩, hflag,
      ⟨retry, retried⟩, hretry, encrypted, hencrypted, hdecrypt⟩
    obtain ⟨hword, rfl⟩ := WireReader.readWord_eq_ok_iff.mp hsequence
    dsimp only at hbound hencrypted
    subst hbound
    obtain rfl := WireReader.readU8_eq_ok_iff.mp hflag
    obtain ⟨hretryWord, rfl⟩ := WireReader.readWord_eq_ok_iff.mp hretry
    subst hencrypted
    -- The length field counts itself and the byte before it.
    have htotal := congrArg List.length hpayload
    rw [hafter] at hpayload htotal
    simp only [List.length_append, beBytes_length] at htotal
    have hpacket : payload = responsePacket sequence context.uin flag retry encrypted := by
      rw [hpayload, responsePacket]
      simp only [List.length_append, beBytes_length]
      congr 3
      omega
    exact .mk hword hretryWord hpacket hlength hdecrypt
  · intro hsealed
    cases hsealed with
    | @mk sequence retry flag encrypted hsequence hretry hpayload hlength hdecrypt =>
        have htotal := congrArg List.length hpayload
        simp only [responsePacket, List.length_append, beBytes_length] at htotal
        refine ⟨_, ⟨by decide, hpayload⟩, _, ⟨by omega, ?_⟩, _, ⟨by decide, rfl⟩, _,
          ⟨by decide, rfl⟩, (sequence, _), WireReader.readWord_eq_ok_iff.mpr ⟨by omega, rfl⟩, _,
          ⟨huin, rfl⟩, (flag, _), WireReader.readU8_eq_ok_iff.mpr rfl, (retry, _),
          WireReader.readWord_eq_ok_iff.mpr ⟨by omega, rfl⟩, encrypted, rfl, hdecrypt⟩
        simp only [List.length_append, beBytes_length]
        congr 2
        omega

def profileBytes (face : Nat) (age gender : UInt8) (nickname : String) : List UInt8 :=
  beBytes 2 face ++ (age :: gender :: LengthPrefix.u8Payload.encode (utf8Bytes nickname))

theorem decodeProfile_eq_ok_iff {body : List UInt8} {age gender : UInt8} {nickname : String} :
    decodeProfile body = .ok (age, gender, nickname) ↔
      (utf8Bytes nickname).length ≤ 255 ∧
        ∃ face, face < 65536 ∧ body = profileBytes face age gender nickname := by
  simp only [decodeProfile, mapError_eq_ok_iff, bind_eq_ok_iff, credentialWire_eq_ok_iff,
    decodeText, okOr_eq_ok_iff]
  constructor
  · rintro ⟨⟨face, after⟩, hface, ⟨first, rest⟩, hfirst, ⟨second, behind⟩, hsecond,
      ⟨bytes, last⟩, hbytes, finished, hfinish, name, hname, hreturn⟩
    obtain ⟨hword, rfl⟩ := WireReader.readWord_eq_ok_iff.mp hface
    obtain rfl := WireReader.readU8_eq_ok_iff.mp hfirst
    obtain rfl := WireReader.readU8_eq_ok_iff.mp hsecond
    obtain ⟨hshort, -, rfl⟩ := WireReader.readPrefixedBytes_eq_ok_iff.mp hbytes
    obtain rfl := WireReader.finish_eq_ok_iff.mp hfinish
    obtain rfl := fromUtf8_eq_some_iff.mp hname
    cases hreturn
    exact ⟨hshort, face, hword, by rw [List.append_nil]; rfl⟩
  · rintro ⟨hshort, face, hface, rfl⟩
    refine ⟨(face, _), WireReader.readWord_eq_ok_iff.mpr ⟨hface, rfl⟩, (age, _),
      WireReader.readU8_eq_ok_iff.mpr rfl, (gender, _), WireReader.readU8_eq_ok_iff.mpr rfl,
      (utf8Bytes nickname, []), WireReader.readPrefixedBytes_eq_ok_iff.mpr ⟨hshort, ?_,
        (List.append_nil _).symm⟩, (), WireReader.finish_eq_ok_iff.mpr rfl, nickname,
      fromUtf8_eq_some_iff.mpr rfl, rfl⟩
    show (utf8Bytes nickname).length < 256 ^ 1
    omega

theorem decodeUid_eq_ok_iff {decode : List UInt8 → Option UidEnvelope} {body : List UInt8}
    {uid : String} :
    decodeUid decode body = .ok uid ↔
      body.length ≤ maxUidProtoLen ∧ decode body = some ⟨some ⟨some ⟨uid⟩⟩⟩ ∧
        utf8Bytes uid ≠ [] ∧ (utf8Bytes uid).length ≤ maxNoticeLen := by
  simp only [decodeUid, bind_eq_ok_iff, okOr_eq_ok_iff, Option.bind_eq_some_iff]
  constructor
  · rintro ⟨checked, hshort, ⟨first⟩, hdecode, ⟨uid⟩, ⟨⟨second⟩, hfirst, hsecond⟩, bounded, hbounds,
      hreturn⟩
    dsimp only at hfirst hsecond
    subst hfirst hsecond
    have hparts := not_or.mp (rejectIf_eq_ok_iff.mp hbounds)
    cases hreturn
    exact ⟨Nat.not_lt.mp (rejectIf_eq_ok_iff.mp hshort), hdecode, hparts.1,
      Nat.not_lt.mp hparts.2⟩
  · rintro ⟨hshort, hdecode, hnonempty, hlength⟩
    exact ⟨(), rejectIf_eq_ok_iff.mpr (Nat.not_lt.mpr hshort), _, hdecode, _, ⟨_, rfl, rfl⟩, (),
      rejectIf_eq_ok_iff.mpr (not_or.mpr ⟨hnonempty, Nat.not_lt.mpr hlength⟩), rfl⟩

theorem requiredNonempty_eq_ok_iff {tlvs : List Tlv} {tag : UInt16} {body : List UInt8} :
    requiredNonempty tlvs tag = .ok body ↔ tlvBody tlvs tag = some body ∧ body ≠ [] := by
  simp only [requiredNonempty, requiredTlv, bind_eq_ok_iff, okOr_eq_ok_iff]
  constructor
  · rintro ⟨found, hfound, checked, hnonempty, hreturn⟩
    cases hreturn
    exact ⟨hfound, rejectIf_eq_ok_iff.mp hnonempty⟩
  · rintro ⟨hfound, hnonempty⟩
    exact ⟨body, hfound, (), rejectIf_eq_ok_iff.mpr hnonempty, rfl⟩

/-- The login that a nested collection gives. -/
structure Issued (decode : List UInt8 → Option UidEnvelope) (nested : List Tlv)
    (login : CredentialLogin) : Prop where
  nickname_short : (utf8Bytes login.nickname).length ≤ 255
  profile : ∃ face, face < 65536 ∧
    tlvBody nested 0x11a = some (profileBytes face login.age login.gender login.nickname)
  envelope : ∃ body, tlvBody nested 0x543 = some body ∧ body.length ≤ maxUidProtoLen ∧
    decode body = some ⟨some ⟨some ⟨login.uid⟩⟩⟩
  uid_ne : utf8Bytes login.uid ≠ []
  uid_short : (utf8Bytes login.uid).length ≤ maxNoticeLen
  d2Key : tlvBody nested 0x305 = some login.secrets.d2Key ∧ login.secrets.d2Key.length = 16
  tgt : tlvBody nested 0x10a = some login.secrets.tgt ∧ login.secrets.tgt ≠ []
  d2 : tlvBody nested 0x143 = some login.secrets.d2 ∧ login.secrets.d2 ≠ []
  temporaryPassword : tlvBody nested 0x106 = some login.secrets.temporaryPassword ∧
    login.secrets.temporaryPassword ≠ []

theorem tlvBody_length {maxCount maximum : Nat} {tlvs : List Tlv} {tag : UInt16}
    {body : List UInt8} (htlvs : Collection maxCount maximum tlvs)
    (hbody : tlvBody tlvs tag = some body) : body.length ≤ maximum := by
  obtain ⟨tlv, hfound, rfl⟩ := Option.map_eq_some_iff.mp hbody
  exact htlvs.short tlv (List.mem_of_find?_eq_some hfound)

theorem Issued.tgt_length {decode : List UInt8 → Option UidEnvelope} {nested : List Tlv}
    {login : CredentialLogin} (hissued : Issued decode nested login)
    (hnested : Collection maxTlvCount maxTlvLen nested) :
    login.secrets.tgt.length ≤ maxTlvLen :=
  tlvBody_length hnested hissued.tgt.1

theorem Issued.d2_length {decode : List UInt8 → Option UidEnvelope} {nested : List Tlv}
    {login : CredentialLogin} (hissued : Issued decode nested login)
    (hnested : Collection maxTlvCount maxTlvLen nested) :
    login.secrets.d2.length ≤ maxTlvLen :=
  tlvBody_length hnested hissued.d2.1

theorem decodeLogin_eq_ok_iff {decode : List UInt8 → Option UidEnvelope} {nested : List Tlv}
    {login : CredentialLogin} :
    decodeLogin decode nested = .ok login ↔ Issued decode nested login := by
  simp only [decodeLogin, bind_eq_ok_iff, requiredTlv, okOr_eq_ok_iff, requiredNonempty_eq_ok_iff,
    decodeUid_eq_ok_iff]
  constructor
  · rintro ⟨profile, hprofile, ⟨age, gender, nickname⟩, hdecoded, envelope, henvelope, uid,
      ⟨hshort, hdecode, hnonempty, hlength⟩, d2Key, ⟨hkey, -⟩, checked, hwidth, tgt, htgt, d2, hd2,
      temporaryPassword, hpassword, hreturn⟩
    obtain ⟨hnickname, face, hface, rfl⟩ := decodeProfile_eq_ok_iff.mp hdecoded
    cases hreturn
    exact ⟨hnickname, ⟨face, hface, hprofile⟩, ⟨envelope, henvelope, hshort, hdecode⟩, hnonempty,
      hlength, ⟨hkey, not_not.mp (rejectIf_eq_ok_iff.mp hwidth)⟩, htgt, hd2, hpassword⟩
  · intro hissued
    obtain ⟨face, hface, hprofile⟩ := hissued.profile
    obtain ⟨envelope, henvelope, hshort, hdecode⟩ := hissued.envelope
    have hkey : login.secrets.d2Key ≠ [] := by
      intro hempty
      exact absurd (hissued.d2Key.2.symm.trans (congrArg List.length hempty)) (by simp)
    exact ⟨_, hprofile, (login.age, login.gender, login.nickname),
      decodeProfile_eq_ok_iff.mpr ⟨hissued.nickname_short, face, hface, rfl⟩, envelope, henvelope,
      login.uid, ⟨hshort, hdecode, hissued.uid_ne, hissued.uid_short⟩, login.secrets.d2Key,
      ⟨hissued.d2Key.1, hkey⟩, (), rejectIf_eq_ok_iff.mpr (not_not.mpr hissued.d2Key.2),
      login.secrets.tgt, hissued.tgt, login.secrets.d2, hissued.d2,
      login.secrets.temporaryPassword, hissued.temporaryPassword, rfl⟩

/-- A body of a success with a nested collection encrypted in it. -/
inductive SuccessBody (tgtgtKey : QqTeaKey) (nested : List Tlv) (body : List UInt8) : Prop where
  | mk {outer : List Tlv} {encrypted : List UInt8} (houter : Collection maxTlvCount maxTlvLen outer)
      (hencrypted : tlvBody outer 0x119 = some encrypted)
      (hdecrypt : decryptQqTea encrypted tgtgtKey = .ok (encodeTlvs nested))
      (hnested : Collection maxTlvCount maxTlvLen nested)
      (hbody : body = beBytes 2 internalCommand ++ (0 :: encodeTlvs outer))

theorem decodeSuccess_eq_ok_iff {decode : List UInt8 → Option UidEnvelope} {tgtgtKey : QqTeaKey}
    {unread rest : List UInt8} {outcome : CredentialExchangeOutcome} :
    decodeSuccess decode tgtgtKey unread = .ok (outcome, rest) ↔
      ∃ outer encrypted nested login, outcome = .success login ∧
        Collection maxTlvCount maxTlvLen outer ∧ unread = encodeTlvs outer ++ rest ∧
          tlvBody outer 0x119 = some encrypted ∧
            decryptQqTea encrypted tgtgtKey = .ok (encodeTlvs nested) ∧
              Collection maxTlvCount maxTlvLen nested ∧ Issued decode nested login := by
  have hlen : maxTlvLen < 65536 := by decide
  have hcount : maxTlvCount < 65536 := by decide
  simp only [decodeSuccess, readTlvCollection, requiredTlv, bind_eq_ok_iff, okOr_eq_ok_iff,
    credentialWire_eq_ok_iff, credentialCrypto_eq_ok_iff, decodeLogin_eq_ok_iff]
  constructor
  · rintro ⟨⟨outer, behind⟩, houter, encrypted, hencrypted, plaintext, hdecrypt, ⟨nested, last⟩,
      hnested, finished, hfinish, login, hissued, hreturn⟩
    obtain ⟨houterCollection, rfl⟩ := (readTlvs_eq_ok_iff hlen hcount).mp houter
    obtain ⟨hnestedCollection, rfl⟩ := (readTlvs_eq_ok_iff hlen hcount).mp hnested
    obtain rfl := WireReader.finish_eq_ok_iff.mp hfinish
    cases hreturn
    rw [List.append_nil] at hdecrypt
    exact ⟨outer, encrypted, nested, login, rfl, houterCollection, rfl, hencrypted, hdecrypt,
      hnestedCollection, hissued⟩
  · rintro ⟨outer, encrypted, nested, login, rfl, houter, rfl, hencrypted, hdecrypt, hnested,
      hissued⟩
    exact ⟨(outer, rest), (readTlvs_eq_ok_iff hlen hcount).mpr ⟨houter, rfl⟩, encrypted, hencrypted,
      _, hdecrypt, (nested, []),
      (readTlvs_eq_ok_iff hlen hcount).mpr ⟨hnested, (List.append_nil _).symm⟩, (),
      WireReader.finish_eq_ok_iff.mpr rfl, login, hissued, rfl⟩

theorem decodeRejection_ne_success {state : UInt8} {unread rest : List UInt8}
    {login : CredentialLogin} : decodeRejection state unread ≠ .ok (.success login, rest) := by
  intro hdecode
  unfold decodeRejection at hdecode
  split at hdecode
  · cases hdecode
  · obtain ⟨⟨tlvs, behind⟩, -, hnotice⟩ := bind_eq_ok_iff.mp hdecode
    dsimp only at hnotice
    split at hnotice
    · cases hnotice
    · obtain ⟨⟨tag, message⟩, -, hreturn⟩ := bind_eq_ok_iff.mp hnotice
      cases hreturn

theorem decodeOutcome_success_iff {decode : List UInt8 → Option UidEnvelope}
    {tgtgtKey : QqTeaKey} {body : List UInt8} {login : CredentialLogin} :
    decodeOutcome decode tgtgtKey body = .ok (.success login) ↔
      ∃ nested, SuccessBody tgtgtKey nested body ∧ Issued decode nested login := by
  simp only [decodeOutcome, bind_eq_ok_iff, readFixed_eq_ok_iff, credentialWire_eq_ok_iff]
  constructor
  · rintro ⟨after, ⟨-, rfl⟩, ⟨state, unread⟩, hstate, ⟨outcome, rest⟩, houtcome, finished, hfinish,
      hreturn⟩
    obtain rfl := WireReader.readU8_eq_ok_iff.mp hstate
    obtain rfl := WireReader.finish_eq_ok_iff.mp hfinish
    cases hreturn
    unfold decodeState at houtcome
    split at houtcome
    · next hzero =>
        dsimp only at hzero
        subst hzero
        obtain ⟨outer, encrypted, nested, same, hsame, houter, rfl, hencrypted, hdecrypt, hnested,
          hissued⟩ := decodeSuccess_eq_ok_iff.mp houtcome
        cases hsame
        exact ⟨nested, .mk houter hencrypted hdecrypt hnested (by rw [List.append_nil]), hissued⟩
    · exact absurd houtcome decodeRejection_ne_success
  · rintro ⟨nested, hbody, hissued⟩
    cases hbody with
    | @mk outer encrypted houter hencrypted hdecrypt hnested hbody =>
        subst hbody
        refine ⟨_, ⟨by decide, rfl⟩, (0, _), WireReader.readU8_eq_ok_iff.mpr rfl,
          (.success login, []), ?_, (), WireReader.finish_eq_ok_iff.mpr rfl, rfl⟩
        rw [decodeState, if_pos rfl]
        exact decodeSuccess_eq_ok_iff.mpr ⟨outer, encrypted, nested, login, rfl, houter,
          (List.append_nil _).symm, hencrypted, hdecrypt, hnested, hissued⟩

/-- The collections of a success that is sealed in a packet. -/
def Carries (context : CredentialResponseContext) (payload : List UInt8) (nested : List Tlv) :
    Prop :=
  context.uin ≠ 0 ∧ ∃ (tgtgtKey : QqTeaKey) (body : List UInt8),
    tgtgtKey.bytes = context.tgtgtKey ∧ SealedResponse context payload body ∧
      SuccessBody tgtgtKey nested body

theorem keyFromSlice_eq_ok_iff {bytes : List UInt8} {key : QqTeaKey} :
    keyFromSlice bytes = .ok key ↔ key.bytes = bytes := by
  unfold keyFromSlice
  constructor
  · intro hkey
    split at hkey
    · cases hkey
      rfl
    · cases hkey
  · rintro rfl
    rw [dif_pos key.length_eq]

/-- A response is accepted as a success exactly when a collection that issues the login is
sealed in it. -/
theorem decodeCredentialExchangeResponse_success_iff {payload : List UInt8}
    {context : CredentialResponseContext} {login : CredentialLogin} :
    decodeCredentialExchangeResponse payload context = .ok (.success login) ↔
      ∃ nested, Carries context payload nested ∧ Issued context.decodeEnvelope nested login := by
  simp only [decodeCredentialExchangeResponse, bind_eq_ok_iff, keyFromSlice_eq_ok_iff,
    decryptResponseBody_eq_ok_iff, decodeOutcome_success_iff]
  constructor
  · rintro ⟨checked, hchecked, tgtgtKey, hkey, body, hsealed, nested, hbody, hissued⟩
    exact ⟨nested, ⟨(not_or.mp (rejectIf_eq_ok_iff.mp hchecked)).2, tgtgtKey, body, hkey, hsealed,
      hbody⟩, hissued⟩
  · rintro ⟨nested, ⟨huin, tgtgtKey, body, hkey, hsealed, hbody⟩, hissued⟩
    have hlong : maxLoginPacketLen = 65536 := rfl
    have hlength : payload.length < 65536 := by
      cases hsealed
      assumption
    exact ⟨(), rejectIf_eq_ok_iff.mpr (not_or.mpr ⟨by omega, huin⟩), tgtgtKey, hkey, body, hsealed,
      nested, hbody, hissued⟩

/-- A success around a nested collection, with zeros for the fields that the reader does not
look at. -/
def sealSuccess (context : CredentialResponseContext) (tgtgtKey : QqTeaKey) (nested : List Tlv) :
    List UInt8 :=
  responsePacket 0 context.uin 0 0 (encipher context.keyAgreement.teaKey
    (beBytes 2 internalCommand ++
      (0 :: encodeTlvs [⟨0x119, encipher tgtgtKey (encodeTlvs nested)⟩])))

theorem encodeTlvs_singleton_length (tlv : Tlv) :
    (encodeTlvs [tlv]).length = tlv.body.length + 6 := by
  simp only [encodeTlvs, Tlv.encode, List.flatMap_cons, List.flatMap_nil, List.length_append,
    List.length_nil, beBytes_length, LengthPrefix.encode_length, LengthPrefix.width]
  omega

theorem carries_sealSuccess {context : CredentialResponseContext} {tgtgtKey : QqTeaKey}
    {nested : List Tlv} (huin : context.uin ≠ 0) (hkey : tgtgtKey.bytes = context.tgtgtKey)
    (hnested : Collection maxTlvCount maxTlvLen nested)
    (hshort : (encodeTlvs nested).length ≤ 30000) :
    Carries context (sealSuccess context tgtgtKey nested) nested := by
  have hlimit : (encodeTlvs nested).length ≤ maxPlaintextLen := by
    unfold maxPlaintextLen
    omega
  obtain ⟨hdecrypt, hlength⟩ := encipher_spec tgtgtKey hlimit
  have hbody : (beBytes 2 internalCommand ++ (0 :: encodeTlvs
      [⟨0x119, encipher tgtgtKey (encodeTlvs nested)⟩])).length ≤ 30040 := by
    simp only [List.length_append, List.length_cons, beBytes_length, encodeTlvs_singleton_length]
    omega
  have houter : (beBytes 2 internalCommand ++ (0 :: encodeTlvs
      [⟨0x119, encipher tgtgtKey (encodeTlvs nested)⟩])).length ≤ maxPlaintextLen := by
    unfold maxPlaintextLen
    omega
  obtain ⟨hopen, hpacket⟩ := encipher_spec context.keyAgreement.teaKey houter
  refine ⟨huin, tgtgtKey, _, hkey, .mk (by decide) (by decide) rfl ?_ hopen,
    .mk ⟨by simp, by simp [maxTlvCount], by simp, ?_⟩ ?_ hdecrypt hnested rfl⟩
  · simp only [sealSuccess, responsePacket, List.length_append, List.length_cons, beBytes_length,
      List.length_nil]
    omega
  · simp only [List.forall_mem_singleton]
    unfold maxTlvLen
    omega
  · simp [tlvBody]

end Login
end Lirvena
