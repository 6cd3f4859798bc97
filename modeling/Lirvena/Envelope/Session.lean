import Lirvena.Envelope.Sso

/-!
# Session frames

A session seals its requests under the key it was issued and opens what arrives.
What arrives names its own key: the flag of a frame decides whether the key of the
session is used at all.  A frame that is not encrypted under it is therefore
accepted whenever it is otherwise well formed, and `decodeSessionFrame` shows only
that the account text is the one of the session.
-/

namespace Lirvena
namespace Envelope

open Lib
open Session (EnvelopeError SsoResponse)
open Wire

/-- Authentication state for one transport generation. -/
inductive SessionAuth where
  | anonymous (uin : UInt32)
  | authenticated (uin : UInt32) (tgt d2 : List UInt8) (d2Key : QqTeaKey)

namespace SessionAuth

def uin : SessionAuth → UInt32
  | anonymous uin => uin
  | authenticated uin _ _ _ => uin

def tgt : SessionAuth → List UInt8
  | anonymous _ => []
  | authenticated _ tgt _ _ => tgt

def d2 : SessionAuth → List UInt8
  | anonymous _ => []
  | authenticated _ _ d2 _ => d2

def d2Key : SessionAuth → Option QqTeaKey
  | anonymous _ => none
  | authenticated _ _ _ d2Key => some d2Key

end SessionAuth

/-- Fields of one complete request. -/
structure SessionRequestParts where
  auth : SessionAuth
  sequence : UInt32
  subAppId : UInt32
  localeId : UInt32
  command : String
  deviceGuidHex : List UInt8
  clientVersion : String
  reserve : List UInt8
  payload : List UInt8

namespace SessionRequestParts

def sso (parts : SessionRequestParts) : SsoRequestParts where
  sequence := parts.sequence
  subAppId := parts.subAppId
  localeId := parts.localeId
  tgt := parts.auth.tgt
  command := parts.command
  deviceGuidHex := parts.deviceGuidHex
  clientVersion := parts.clientVersion
  reserve := parts.reserve
  payload := parts.payload

def service (parts : SessionRequestParts) (sso : List UInt8) : ServiceFrameParts where
  uin := parts.auth.uin
  d2 := parts.auth.d2
  d2Key := parts.auth.d2Key.getD zeroKey
  sso := sso

end SessionRequestParts

/-- Encodes one complete request. -/
def encodeSessionRequest (parts : SessionRequestParts)
    (fill : (length : Nat) → Option (Vector UInt8 length)) :
    Except EnvelopeError (List UInt8) := do
  let sso ← encodeSsoRequest parts.sso
  encodeServiceFrame (parts.service sso) fill

/-- Decodes one complete frame and checks its account binding. -/
def decodeSessionFrame (encoded : List UInt8) (auth : SessionAuth) :
    Except EnvelopeError SsoResponse := do
  let service ← decodeServiceResponse encoded auth.d2Key
  rejectIf .invalidField (service.uin ≠ uinText auth.uin)
  decodeSsoResponse service.payload

/-! ## What is accepted -/

/-- An account is written as a short string of digits. -/
theorem isUin_uinText (uin : UInt32) : IsUin (uinText uin) := by
  have hbytes : utf8Bytes (uinText uin) =
      (Nat.toDigits 10 uin.toNat).map fun digit => UInt8.ofNat digit.toNat :=
    utf8Bytes_toString uin.toNat
  constructor
  · rw [hbytes]
    exact List.map_eq_nil_iff.not.mpr Nat.toDigits_ne_nil
  · rw [hbytes, List.all_map, List.all_eq_true]
    intro digit hdigit
    obtain ⟨hlow, hhigh⟩ :=
      digit_bounds (Nat.isDigit_of_mem_toDigits (by decide) (by decide) hdigit)
    have hvalue : (UInt8.ofNat digit.toNat).toNat = digit.toNat := by
      rw [UInt8.toNat_ofNat']
      omega
    show isAsciiDigit (UInt8.ofNat digit.toNat) = true
    rw [isAsciiDigit, hvalue, Bool.and_eq_true, decide_eq_true_eq, decide_eq_true_eq]
    exact ⟨hlow, hhigh⟩
  · have hbound : uin.toNat < 10 ^ 32 := Nat.lt_of_lt_of_le uin.toNat_lt (by decide)
    rw [hbytes, List.length_map]
    exact (Nat.length_toDigits_le_iff (by decide) (by decide)).mpr hbound

/-- An accepted frame is well formed, carries the account of the session, and holds
a response under the key that its flag names. -/
theorem decodeSessionFrame_eq_ok_iff {encoded : List UInt8} {auth : SessionAuth}
    {response : SsoResponse} :
    decodeSessionFrame encoded auth = .ok response ↔
      ∃ authFlag reserved encrypted words,
        encoded = serviceFrame authFlag reserved (uinText auth.uin) encrypted ∧
        (serviceBody authFlag reserved (uinText auth.uin) encrypted).length ≤ maxPacketLen ∧
        WellFormed words response ∧
        openPayload authFlag auth.d2Key encrypted = .ok (ssoResponse words response) := by
  unfold decodeSessionFrame
  constructor
  · intro hdecode
    obtain ⟨service, hservice, hdecode⟩ := bind_eq_ok_iff.mp hdecode
    obtain ⟨⟨⟩, haccount, hsso⟩ := bind_eq_ok_iff.mp hdecode
    obtain ⟨authFlag, reserved, encrypted, hencoded, hlength, -, hpayload, -⟩ :=
      decodeServiceResponse_eq_ok_iff.mp hservice
    obtain ⟨words, hformed, hbytes⟩ := decodeSsoResponse_eq_ok hsso
    rw [not_not.mp (rejectIf_eq_ok_iff.mp haccount)] at hencoded hlength
    rw [hbytes] at hpayload
    exact ⟨authFlag, reserved, encrypted, words, hencoded, hlength, hformed, hpayload⟩
  · rintro ⟨authFlag, reserved, encrypted, words, hencoded, hlength, hformed, hpayload⟩
    have hservice : decodeServiceResponse encoded auth.d2Key =
        .ok ⟨uinText auth.uin, ssoResponse words response⟩ := by
      refine decodeServiceResponse_eq_ok_iff.mpr ⟨authFlag, reserved, encrypted, hencoded,
        hlength, isUin_uinText auth.uin, hpayload, ?_⟩
      -- An empty payload would be refused, but a response always has its two lengths.
      intro hnil
      have hempty := congrArg List.length hnil
      rw [ssoResponse, List.length_append, LengthPrefix.encode_length] at hempty
      have hwidth : LengthPrefix.u32Inclusive.width = 4 := rfl
      simp only [List.length_nil] at hempty
      omega
    refine bind_eq_ok_iff.mpr ⟨_, hservice, ?_⟩
    refine bind_eq_ok_iff.mpr ⟨(), rejectIf_eq_ok_iff.mpr (not_not.mpr rfl), ?_⟩
    exact decodeSsoResponse_ssoResponse hformed

/-- The frame was opened with this key, and the response read from what was opened. -/
def OpenedWith (key : QqTeaKey) (encoded : List UInt8) (response : SsoResponse) : Prop :=
  ∃ reserved uin encrypted plaintext, encoded = serviceFrame 1 reserved uin encrypted ∧
    decryptQqTea encrypted key = .ok plaintext ∧ decodeSsoResponse plaintext = .ok response

/-- A frame that anybody can write for an account: a well-formed response that is not
encrypted, or encrypted under the zero key. -/
def Forged (uin : UInt32) (encoded : List UInt8) : Prop :=
  ∃ authFlag reserved encrypted words response,
    encoded = serviceFrame authFlag reserved (uinText uin) encrypted ∧
    (serviceBody authFlag reserved (uinText uin) encrypted).length ≤ maxPacketLen ∧
    WellFormed words response ∧
    ((authFlag = 0 ∧ encrypted = ssoResponse words response) ∨
      (authFlag = 2 ∧ decryptQqTea encrypted zeroKey = .ok (ssoResponse words response)))

/-- The flag of a frame can be told from it. -/
theorem serviceFrame_flag {authFlag otherFlag reserved other : UInt8} {uin account : String}
    {encrypted body : List UInt8}
    (heq : serviceFrame authFlag reserved uin encrypted =
      serviceFrame otherFlag other account body) : authFlag = otherFlag := by
  -- the length in front and the version have a fixed width, so the bodies line up
  obtain ⟨-, hbody⟩ := List.append_inj heq (by rw [beBytes_length, beBytes_length])
  have hbehind := List.append_cancel_left hbody
  exact (List.cons.inj hbehind).1

theorem authenticated_iff_not_forged (uin : UInt32) (tgt d2 : List UInt8) (key : QqTeaKey)
    (encoded : List UInt8) :
    (∀ response, decodeSessionFrame encoded (.authenticated uin tgt d2 key) = .ok response →
        OpenedWith key encoded response) ↔
      ¬ Forged uin encoded := by
  constructor
  · rintro hopened ⟨authFlag, reserved, encrypted, words, response, hencoded, hlength,
      hformed, hunkeyed⟩
    -- a forged frame is accepted, but its flag does not name the key
    have haccepted : decodeSessionFrame encoded (.authenticated uin tgt d2 key) =
        .ok response := by
      refine decodeSessionFrame_eq_ok_iff.mpr
        ⟨authFlag, reserved, encrypted, words, hencoded, hlength, hformed, ?_⟩
      rcases hunkeyed with ⟨rfl, rfl⟩ | ⟨rfl, hzero⟩
      · rfl
      · exact crypto_eq_ok_iff.mpr hzero
    obtain ⟨other, account, body, plaintext, hother, -, -⟩ := hopened response haccepted
    rw [hencoded] at hother
    obtain rfl := serviceFrame_flag hother
    rcases hunkeyed with ⟨hflag, -⟩ | ⟨hflag, -⟩
    · exact absurd hflag (by decide)
    · exact absurd hflag (by decide)
  · intro hunforged response haccepted
    obtain ⟨authFlag, reserved, encrypted, words, hencoded, hlength, hformed, hpayload⟩ :=
      decodeSessionFrame_eq_ok_iff.mp haccepted
    have hsso := decodeSsoResponse_ssoResponse hformed
    by_cases hkeyed : authFlag = 1
    · subst hkeyed
      exact ⟨reserved, _, encrypted, _, hencoded, crypto_eq_ok_iff.mp hpayload, hsso⟩
    · refine absurd ⟨authFlag, reserved, encrypted, words, response, hencoded, hlength,
        hformed, ?_⟩ hunforged
      unfold openPayload at hpayload
      split at hpayload
      · next hplain =>
          cases hpayload
          exact Or.inl ⟨hplain, rfl⟩
      · split at hpayload
        · next hzero => exact Or.inr ⟨hzero, crypto_eq_ok_iff.mp hpayload⟩
        · cases hpayload

/-- A push that nobody asked for. -/
def plainPush : SsoResponse where
  sequence := 7
  returnCode := 0
  command := "trpc.msg.olpush.OlPushService.MsgPush"
  extra := ""
  reserve := []
  extension := []
  payload := [0x0a, 0x00]

/-- The push in a frame for account 10001 whose flag says that it is not encrypted. -/
def plainFrame : List UInt8 :=
  serviceFrame 0 0 "10001" (ssoResponse ⟨7, 0, [], 0⟩ plainPush)

/-- A session with a key accepts the push, although it was sealed under no key. -/
theorem plain_push_accepted :
    decodeSessionFrame plainFrame (.authenticated 10001 [1] [2] vectorKey) = .ok plainPush ∧
      ¬ OpenedWith vectorKey plainFrame plainPush := by
  constructor
  · decide +kernel
  · rintro ⟨reserved, uin, encrypted, plaintext, hframe, -, -⟩
    exact absurd (serviceFrame_flag hframe) (by decide)

end Envelope
end Lirvena
