import Lirvena.Envelope.SessionRequest
import Lirvena.Highway.Session
import Lirvena.Login.Credential
import Lirvena.Message.ForwardEntry
import Lirvena.Message.LongMessage
import Lirvena.OneBot.Projection

/-!
# What a login is used for

A confirmed poll goes into the credential exchange, and the login that the exchange gives
goes into the account, into the reserve of every later packet and into the session.  Each
of them checks what it is given again, and some ask for more than the decoders did.
-/

namespace Lirvena
namespace Login

open Lib Wire Envelope
open Session (EnvelopeError)

/-! ## The consumers -/

/-- The checks of `build_credential_exchange` before it builds the packet, with the account
of the request. -/
def checkCredentialExchange (ssoSequence : UInt32) (keyAgreement : KeyAgreement)
    (secrets : QrLoginSecrets) : Except CredentialExchangeError UInt32 := do
  let uin ← okOr .invalidField (tryU32 secrets.uin.toNat)
  rejectIf .invalidField (ssoSequence = 0 ∨ uin = 0 ∨ keyAgreement.publicKey.length ≠ 25 ∨
    secrets.tgtgtKey.length ≠ 16)
  return uin

def maxIdentityLen : Nat := 256

def validateAccountIdentity (value : String) : Except EnvelopeError Unit :=
  rejectIf .invalidField (value = "" ∨ maxIdentityLen < value.utf8ByteSize ∨ hasControl value)

/-- `SessionAuth::authenticated`. -/
def authenticate (uin : UInt32) (tgt d2 : List UInt8) (d2Key : QqTeaKey) :
    Except EnvelopeError SessionAuth := do
  rejectIf .invalidField (uin = 0 ∨ tgt = [] ∨ d2 = [])
  return .authenticated uin tgt d2 d2Key

def sessionKey (credential : CredentialLogin) : Option QqTeaKey :=
  if hlength : credential.secrets.d2Key.length = 16 then some ⟨credential.secrets.d2Key, hlength⟩
  else none

def authenticated (uin : UInt64) (credential : CredentialLogin) (key : QqTeaKey) :
    Except EnvelopeError SessionAuth := do
  let uin ← okOr .invalidField (tryU32 uin.toNat)
  authenticate uin credential.secrets.tgt credential.secrets.d2 key

/-! ## Use -/

/-- The exchange takes the secrets under every sequence and key that its caller makes. -/
def PollUsable (secrets : QrLoginSecrets) : Prop :=
  ∀ (ssoSequence : UInt32) (keyAgreement : KeyAgreement), ssoSequence ≠ 0 →
    keyAgreement.publicKey.length = 25 →
      ∃ uin, checkCredentialExchange ssoSequence keyAgreement secrets = .ok uin

/-- The request of the same account without tickets. -/
def bare (parts : SessionRequestParts) : SessionRequestParts :=
  { parts with auth := .anonymous parts.auth.uin }

@[simp] theorem bare_d2 (parts : SessionRequestParts) : (bare parts).auth.d2 = [] := rfl

@[simp] theorem bare_uin (parts : SessionRequestParts) :
    (bare parts).auth.uin = parts.auth.uin := rfl

/-- A request that leaves room for two tickets in a packet, and has entropy for its
padding. -/
structure Roomy (parts : SessionRequestParts)
    (fill : (length : Nat) → Option (Vector UInt8 length)) :
    Prop where
  valid : parts.sso.Valid
  room : (bare parts).frameLength + (2 * maxTlvLen + 8) ≤ maxPacketLen
  entropy : ∃ padding, fill (paddingLen (ssoRequest parts.sso).length) = some padding

/-- The account names the login in every reserve, and its tickets go into every request that
leaves them room. -/
structure PacketUsable (uin : UInt32) (login : CredentialLogin) : Prop where
  identity : validateAccountIdentity login.uid = .ok ()
  tickets : ∃ key auth, sessionKey login = some key ∧
    authenticated uin.toUInt64 login key = .ok auth ∧
      ∀ parts fill, parts.auth = auth → Roomy parts fill →
        ∃ encoded, encodeSessionRequest parts fill = .ok encoded

/-- The login opens an upload session, and signs every block that is valid under some
signature. -/
structure UploadUsable (login : CredentialLogin) : Prop where
  session : ∃ body, Highway.encodeSessionRequest login.secrets.tgt = .ok body
  signature : ∀ block, Highway.validateBlock block = .ok () →
    Highway.validateBlock { block with loginSignature := login.secrets.tgt } = .ok ()

/-- `valid_uid` of long messages, forwarded messages and images, and `validate_uid` of the list
of friend requests and of private files. -/
def validUid (uid : String) : Bool :=
  boundedUid 128 uid

/-- What the account asks for under some identity is asked for under its own. -/
structure NameUsable (login : CredentialLogin) : Prop where
  valid : validUid login.uid = true
  receive : ∀ resourceId, Message.validResourceId resourceId = true →
    ∃ body, Message.encodeLongMessageReceive login.uid resourceId = .ok body
  entry : ∀ out input entry, Message.encodeForwardEntry out input = .ok entry →
    ∃ own, Message.encodeForwardEntry out { input with selfUid := login.uid } = .ok own

/-- No consumer of the login refuses it. -/
structure LoginUsable (uin : UInt32) (login : CredentialLogin) : Prop where
  packets : PacketUsable uin login
  uploads : UploadUsable login
  names : NameUsable login

/-- The account can be announced under the nickname of the login. -/
def Nameable (uin : UInt32) (login : CredentialLogin) : Prop :=
  OneBot.validIdentity uin.toUInt64 login.nickname = true

theorem pollUsable_iff {secrets : QrLoginSecrets} (huin : secrets.uin ≠ 0) :
    PollUsable secrets ↔ secrets.uin.toNat < 2 ^ 32 ∧ secrets.tgtgtKey.length = 16 := by
  constructor
  · intro husable
    obtain ⟨uin, hcheck⟩ := husable 1
      { publicKey := List.replicate 25 0, teaKey := vectorKey, deriveResponseKey := fun _ => none }
      (by decide) (by simp)
    simp only [checkCredentialExchange, bind_eq_ok_iff, okOr_eq_ok_iff] at hcheck
    obtain ⟨word, hword, checked, hchecked, -⟩ := hcheck
    have hparts := rejectIf_eq_ok_iff.mp hchecked
    push Not at hparts
    refine ⟨?_, hparts.2.2.2⟩
    rw [← tryU32_eq_some_iff.mp hword]
    exact word.toNat_lt
  · rintro ⟨hfits, hkey⟩ ssoSequence keyAgreement hsequence hpublic
    obtain ⟨word, hword⟩ : ∃ word, tryU32 secrets.uin.toNat = some word := by
      refine Option.ne_none_iff_exists'.mp ?_
      intro hnone
      have hwide := tryU32_eq_none_iff.mp hnone
      omega
    have hnonzero : word ≠ 0 := by
      rintro rfl
      exact huin (UInt64.toNat_inj.mp (tryU32_eq_some_iff.mp hword).symm)
    refine ⟨word, ?_⟩
    simp only [checkCredentialExchange, bind_eq_ok_iff, okOr_eq_ok_iff]
    refine ⟨word, hword, (), rejectIf_eq_ok_iff.mpr ?_, rfl⟩
    push Not
    exact ⟨hsequence, hnonzero, hpublic, hkey⟩

theorem validateAccountIdentity_eq_ok_iff {value : String} :
    validateAccountIdentity value = .ok () ↔
      value ≠ "" ∧ value.utf8ByteSize ≤ maxIdentityLen ∧ hasControl value = false := by
  rw [validateAccountIdentity, rejectIf_eq_ok_iff]
  push Not
  simp

/-- The tickets of a request take at most their own room and some padding. -/
theorem frameLength_le_bare (parts : SessionRequestParts) :
    parts.frameLength ≤
      (bare parts).frameLength + (parts.auth.d2.length + parts.auth.tgt.length + 7) := by
  have hsso : (ssoRequest parts.sso).length =
      (ssoRequest (bare parts).sso).length + parts.auth.tgt.length := by
    simp only [ssoRequest, ssoHeader, SessionRequestParts.sso, bare, SessionAuth.tgt,
      List.length_append, LengthPrefix.encode_length, List.length_nil]
    omega
  have hpadding := eq_paddingLen_iff.mp (rfl : paddingLen (ssoRequest parts.sso).length = _)
  have hbare := eq_paddingLen_iff.mp (rfl : paddingLen (ssoRequest (bare parts).sso).length = _)
  simp only [SessionRequestParts.frameLength, bare_d2, bare_uin, List.length_nil]
  omega

/-- What a nested collection issues goes into every packet but for the account identity, whose
validation asks for more than the decoder did. -/
theorem packetUsable_iff {uin : UInt32} {decode : List UInt8 → Option UidEnvelope}
    {nested : List Tlv} {login : CredentialLogin} (huin : uin ≠ 0)
    (hnested : Collection maxTlvCount maxTlvLen nested) (hissued : Issued decode nested login) :
    PacketUsable uin login ↔
      login.uid.utf8ByteSize ≤ maxIdentityLen ∧ hasControl login.uid = false := by
  constructor
  · intro husable
    exact (validateAccountIdentity_eq_ok_iff.mp husable.identity).2
  · intro hidentity
    refine ⟨validateAccountIdentity_eq_ok_iff.mpr ⟨?_, hidentity⟩, ?_⟩
    · intro hempty
      have hne := hissued.uid_ne
      rw [hempty] at hne
      exact hne rfl
    · have hkey := hissued.d2Key.2
      have hfits : tryU32 uin.toUInt64.toNat = some uin :=
        tryU32_eq_some_iff.mpr (UInt32.toNat_toUInt64 uin).symm
      have hauth : authenticated uin.toUInt64 login ⟨login.secrets.d2Key, hkey⟩ =
          .ok (.authenticated uin login.secrets.tgt login.secrets.d2
            ⟨login.secrets.d2Key, hkey⟩) := by
        simp only [authenticated, authenticate, bind_eq_ok_iff, okOr_eq_ok_iff]
        refine ⟨uin, hfits, (), rejectIf_eq_ok_iff.mpr ?_, rfl⟩
        push Not
        exact ⟨huin, hissued.tgt.2, hissued.d2.2⟩
      refine ⟨_, _, by rw [sessionKey, dif_pos hkey], hauth, ?_⟩
      intro parts fill hparts hroomy
      -- Each ticket is the body of a tagged value.
      have htgt := hissued.tgt_length hnested
      have hd2 := hissued.d2_length hnested
      have hframe := frameLength_le_bare parts
      have hroom := hroomy.room
      rw [hparts] at hframe
      simp only [SessionAuth.tgt, SessionAuth.d2] at hframe
      obtain ⟨padding, hfill⟩ := hroomy.entropy
      have hroom : parts.frameLength ≤ maxPacketLen := by omega
      have hlimit : (ssoRequest parts.sso).length ≤ maxPlaintextLen :=
        Nat.le_trans parts.sso_le_frameLength hroom
      exact ⟨_, encodeSessionRequest_eq_ok_iff.mpr ⟨hroomy.valid, hroom, _,
        encryptQqTea_eq_ok_iff.mpr ⟨hlimit, padding, hfill, rfl⟩, rfl⟩⟩

/-- The ticket of a login may be longer than a signature. -/
theorem uploadUsable_iff {decode : List UInt8 → Option UidEnvelope} {nested : List Tlv}
    {login : CredentialLogin} (hissued : Issued decode nested login) :
    UploadUsable login ↔ login.secrets.tgt.length ≤ Highway.maxSecretBytes := by
  constructor
  · intro husable
    exact (Highway.encodeSessionRequest_isOk_iff.mp husable.session).2
  · intro hlength
    exact {
      session := Highway.encodeSessionRequest_isOk_iff.mpr ⟨hissued.tgt.2, hlength⟩
      signature := fun block hvalid =>
        Highway.validateBlock_signed hvalid hissued.tgt.2 hlength }

theorem validUid_iff {decode : List UInt8 → Option UidEnvelope} {nested : List Tlv}
    {login : CredentialLogin} (hissued : Issued decode nested login) :
    validUid login.uid = true ↔
      login.uid.utf8ByteSize ≤ 128 ∧ hasControl login.uid = false := by
  have hne : login.uid ≠ "" := by
    intro hempty
    have hne := hissued.uid_ne
    rw [hempty] at hne
    exact hne rfl
  simp [validUid, boundedUid, hne]

/-- A request that takes some identity takes every valid one. -/
theorem nameUsable_of_valid {login : CredentialLogin} (hvalid : validUid login.uid = true) :
    NameUsable login := by
  have hbounded : ¬boundedUid 128 login.uid = false := by
    rw [Bool.not_eq_false]
    exact hvalid
  refine ⟨hvalid, ?_, ?_⟩
  · intro resourceId hresource
    have haccepted : ¬(boundedUid 128 login.uid = false ∨
        Message.validResourceId resourceId = false) := by
      rw [hresource]
      simpa using hbounded
    exact ⟨_, bind_eq_ok_iff.mpr ⟨(), rejectIf_eq_ok_iff.mpr haccepted, rfl⟩⟩
  · intro out input entry hentry
    simp only [Message.encodeForwardEntry, bind_eq_ok_iff] at hentry ⊢
    obtain ⟨checked, hchecked, elements, hcompile, -⟩ := hentry
    have haccepted := rejectIf_eq_ok_iff.mp hchecked
    push Not at haccepted
    refine ⟨_, (), rejectIf_eq_ok_iff.mpr ?_, elements, hcompile, rfl⟩
    push Not
    exact ⟨haccepted.1, hbounded, haccepted.2.2⟩

theorem loginUsable_iff {uin : UInt32} {decode : List UInt8 → Option UidEnvelope}
    {nested : List Tlv} {login : CredentialLogin} (huin : uin ≠ 0)
    (hnested : Collection maxTlvCount maxTlvLen nested) (hissued : Issued decode nested login) :
    LoginUsable uin login ↔ (login.uid.utf8ByteSize ≤ 128 ∧ hasControl login.uid = false) ∧
      login.secrets.tgt.length ≤ Highway.maxSecretBytes := by
  constructor
  · intro husable
    exact ⟨(validUid_iff hissued).mp husable.names.valid,
      (uploadUsable_iff hissued).mp husable.uploads⟩
  · rintro ⟨⟨hlength, hcontrol⟩, htgt⟩
    have hidentity : login.uid.utf8ByteSize ≤ maxIdentityLen :=
      Nat.le_trans hlength (by decide)
    exact {
      packets := (packetUsable_iff huin hnested hissued).mpr ⟨hidentity, hcontrol⟩
      uploads := (uploadUsable_iff hissued).mpr htgt
      names := nameUsable_of_valid ((validUid_iff hissued).mpr ⟨hlength, hcontrol⟩) }

theorem nameable_iff {uin : UInt32} {decode : List UInt8 → Option UidEnvelope}
    {nested : List Tlv} {login : CredentialLogin} (huin : uin ≠ 0)
    (hissued : Issued decode nested login) :
    Nameable uin login ↔ login.nickname ≠ "" ∧ containsNul login.nickname = false := by
  have hshort : login.nickname.utf8ByteSize ≤ 255 := hissued.nickname_short
  have hnonzero : uin.toUInt64 ≠ 0 := by
    intro hzero
    have hword := congrArg UInt64.toNat hzero
    rw [UInt32.toNat_toUInt64] at hword
    exact huin (UInt32.toNat_inj.mp hword)
  unfold Nameable OneBot.validIdentity
  simp only [Bool.and_eq_true, decide_eq_true_eq, Bool.not_eq_true', ne_eq]
  constructor
  · rintro ⟨⟨⟨-, hnonempty⟩, -⟩, hnul⟩
    exact ⟨hnonempty, hnul⟩
  · rintro ⟨hnonempty, hnul⟩
    exact ⟨⟨⟨hnonzero, hnonempty⟩, by omega⟩, hnul⟩

/-! ## What is accepted and usable -/

/-- A body that confirms an account in a poll names one of 32 bits, and a key of 16 bytes. -/
def PollFits (context : QrResponseContext) (payload : List UInt8) : Prop :=
  ∀ retry tlvs secrets, Credentials tlvs secrets →
    Sealed context qrPollCommand payload (confirmedBody context.appId secrets.uin retry tlvs) →
      secrets.uin.toNat < 2 ^ 32 ∧ secrets.tgtgtKey.length = 16

/-- The account identity in a success has at most so many bytes, and no control characters. -/
def UidFits (limit : Nat) (context : CredentialResponseContext) (payload : List UInt8) : Prop :=
  ∀ nested login, Carries context payload nested → Issued context.decodeEnvelope nested login →
    login.uid.utf8ByteSize ≤ limit ∧ hasControl login.uid = false

/-- The ticket in a success is no longer than a signature of an upload. -/
def TgtFits (context : CredentialResponseContext) (payload : List UInt8) : Prop :=
  ∀ nested login, Carries context payload nested → Issued context.decodeEnvelope nested login →
    login.secrets.tgt.length ≤ Highway.maxSecretBytes

def NicknameFits (context : CredentialResponseContext) (payload : List UInt8) : Prop :=
  ∀ nested login, Carries context payload nested → Issued context.decodeEnvelope nested login →
    login.nickname ≠ "" ∧ containsNul login.nickname = false

theorem Carries.collection {context : CredentialResponseContext} {payload : List UInt8}
    {nested : List Tlv} (hcarries : Carries context payload nested) :
    Collection maxTlvCount maxTlvLen nested := by
  obtain ⟨-, tgtgtKey, body, -, -, hbody⟩ := hcarries
  cases hbody
  assumption

/-- What holds of every login that a payload carries is what holds of every login that is
accepted in it. -/
theorem accepted_iff_carried {context : CredentialResponseContext} {payload : List UInt8}
    {usable fits : CredentialLogin → Prop}
    (hiff : ∀ nested login, Carries context payload nested →
      Issued context.decodeEnvelope nested login → (usable login ↔ fits login)) :
    (∀ login, decodeCredentialExchangeResponse payload context = .ok (.success login) →
        usable login) ↔
      ∀ nested login, Carries context payload nested →
        Issued context.decodeEnvelope nested login → fits login := by
  constructor
  · intro husable nested login hcarries hissued
    exact (hiff nested login hcarries hissued).mp (husable login
      (decodeCredentialExchangeResponse_success_iff.mpr ⟨nested, hcarries, hissued⟩))
  · intro hfits login hdecode
    obtain ⟨nested, hcarries, hissued⟩ := decodeCredentialExchangeResponse_success_iff.mp hdecode
    exact (hiff nested login hcarries hissued).mpr (hfits nested login hcarries hissued)

theorem accepted_pollUsable_iff (context : QrResponseContext) (payload : List UInt8) :
    (∀ secrets, decodeQrPollResponse payload context = .ok (.confirmed secrets) →
        PollUsable secrets) ↔ PollFits context payload := by
  constructor
  · intro husable retry tlvs secrets hcredentials hsealed
    exact (pollUsable_iff hcredentials.uin_ne).mp (husable secrets
      (decodeQrPollResponse_confirmed_iff.mpr ⟨retry, tlvs, hcredentials, hsealed⟩))
  · intro hfits secrets hdecode
    obtain ⟨retry, tlvs, hcredentials, hsealed⟩ := decodeQrPollResponse_confirmed_iff.mp hdecode
    exact (pollUsable_iff hcredentials.uin_ne).mpr (hfits retry tlvs secrets hcredentials hsealed)

/-- What is accepted is usable exactly where the account fits 32 bits and the key 16 bytes, and
where the account identity, the ticket and the nickname keep to the rules of their consumers:
the packets alone ask less of the identity, and nothing of the ticket. -/
theorem accepted_usable_iff (qrContext : QrResponseContext)
    (context : CredentialResponseContext) (payload : List UInt8) :
    ((∀ secrets, decodeQrPollResponse payload qrContext = .ok (.confirmed secrets) →
        PollUsable secrets) ↔ PollFits qrContext payload) ∧
    ((∀ login, decodeCredentialExchangeResponse payload context = .ok (.success login) →
        PacketUsable context.uin login) ↔ UidFits maxIdentityLen context payload) ∧
    ((∀ login, decodeCredentialExchangeResponse payload context = .ok (.success login) →
        LoginUsable context.uin login) ↔ UidFits 128 context payload ∧ TgtFits context payload) ∧
    ((∀ login, decodeCredentialExchangeResponse payload context = .ok (.success login) →
        Nameable context.uin login) ↔ NicknameFits context payload) := by
  refine ⟨accepted_pollUsable_iff qrContext payload, ?_, ?_, ?_⟩
  · exact accepted_iff_carried fun nested login hcarries hissued =>
      packetUsable_iff hcarries.1 hcarries.collection hissued
  · rw [accepted_iff_carried fun nested login hcarries hissued =>
      loginUsable_iff hcarries.1 hcarries.collection hissued]
    simp only [UidFits, TgtFits, ← forall_and]
  · exact accepted_iff_carried fun nested login hcarries hissued =>
      nameable_iff hcarries.1 hissued

/-- The identity of two characters, a letter and a line break, as field 1 in field 11 in
field 9. -/
def brokenEnvelope : List UInt8 :=
  [0x4a, 0x06, 0x5a, 0x04, 0x0a, 0x02, 0x75, 0x0a]

/-- The exchange after the login of account 10001, with a decoder that knows one message. -/
def linuxExchange : CredentialResponseContext where
  uin := 10001
  keyAgreement := linuxContext.keyAgreement
  tgtgtKey := vectorKey.bytes
  decodeEnvelope := fun body => if body = brokenEnvelope then some ⟨some ⟨some ⟨"u\n"⟩⟩⟩ else none

def brokenLogin : CredentialLogin :=
  ⟨"u\n", "", 18, 1, ⟨List.replicate 16 0x2a, [1], [2], [3]⟩⟩

def brokenTlvs : List Tlv :=
  [⟨0x11a, profileBytes 0 18 1 ""⟩, ⟨0x543, brokenEnvelope⟩, ⟨0x305, List.replicate 16 0x2a⟩,
    ⟨0x10a, [1]⟩, ⟨0x143, [2]⟩, ⟨0x106, [3]⟩]

theorem issued_brokenLogin : Issued linuxExchange.decodeEnvelope brokenTlvs brokenLogin where
  nickname_short := by decide
  profile := ⟨0, by decide, by decide⟩
  envelope := ⟨brokenEnvelope, by decide, by decide, rfl⟩
  uid_ne := by decide
  uid_short := by decide
  d2Key := ⟨by decide, by decide⟩
  tgt := ⟨by decide, by decide⟩
  d2 := ⟨by decide, by decide⟩
  temporaryPassword := ⟨by decide, by decide⟩

theorem carries_brokenLogin :
    Carries linuxExchange (sealSuccess linuxExchange vectorKey brokenTlvs) brokenTlvs :=
  carries_sealSuccess (by decide) rfl ⟨by decide, by decide, by decide, by decide⟩ (by decide)

/-- An account of 33 bits is confirmed and then refused by the exchange, and a login is
accepted whose identity no reserve takes and whose nickname no account has. -/
theorem accepted_then_refused :
    (decodeQrPollResponse (confirmedPayload 4294967296) linuxContext =
        .ok (.confirmed (confirmedSecrets 4294967296)) ∧
      ¬ PollUsable (confirmedSecrets 4294967296)) ∧
    (decodeCredentialExchangeResponse (sealSuccess linuxExchange vectorKey brokenTlvs)
        linuxExchange = .ok (.success brokenLogin) ∧
      ¬ PacketUsable linuxExchange.uin brokenLogin ∧ ¬ Nameable linuxExchange.uin brokenLogin) := by
  have hdecode := decodeCredentialExchangeResponse_success_iff.mpr
    ⟨brokenTlvs, carries_brokenLogin, issued_brokenLogin⟩
  refine ⟨⟨decode_confirmedPayload (by decide), ?_⟩, hdecode, ?_, ?_⟩
  · rw [pollUsable_iff (by decide)]
    rintro ⟨hfits, -⟩
    exact absurd hfits (by decide)
  · intro husable
    exact absurd husable.identity (by decide)
  · unfold Nameable
    decide

end Login
end Lirvena
