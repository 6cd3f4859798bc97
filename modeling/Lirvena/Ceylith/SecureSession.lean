import Lirvena.Ceylith.Frame

/-!
# The secure session

Bidirectional transport with strict external counters.  The Noise cipher state
comes from a library; the model takes it as a parameter and assumes of it only
what the session relies on: its nonce grows by one with every encryption and
with every successful decryption.  The output buffers are allocated by the
session itself, so their lengths are part of the signatures.
-/

namespace Lirvena
namespace Ceylith

open Lib

def noiseTagLen : Nat := 16

def maxNoiseMessageLen : Nat := 65535

/-- Default per-direction message cap before session renewal. -/
def defaultSessionMessageLimit : Nat := 2 ^ 20

/-- The cipher state of one direction. -/
structure TransportCipher where
  State : Type
  nextN : State → UInt64
  encryptAd : State → List UInt8 → (plaintext : List UInt8) →
    State × { buffer : List UInt8 // buffer.length = plaintext.length + noiseTagLen }
  decryptAd : State → List UInt8 → (ciphertext : List UInt8) →
    State × Option { buffer : List UInt8 //
      buffer.length = ciphertext.length - noiseTagLen }
  nextN_encryptAd : ∀ state associated plaintext,
    nextN (encryptAd state associated plaintext).1 = nextN state + 1
  nextN_decryptAd : ∀ state associated ciphertext,
    (decryptAd state associated ciphertext).2.isSome = true →
      nextN (decryptAd state associated ciphertext).1 = nextN state + 1

/-- Closed secure-session failure without key or transcript details. -/
inductive SecureSessionError where
  | entropyUnavailable
  | invalidPublicKey
  | handshakeFailed
  | messageTooLarge
  | counterMismatch
  | sessionExpired
  | authenticationFailed
  | sessionClosed
  | invalidLimit
  deriving DecidableEq

/-- Stateful bidirectional secure transport with strict external counters. -/
structure SecureSession (cipher : TransportCipher) where
  send : cipher.State
  receive : cipher.State
  messageLimit : UInt64
  closed : Bool
  messageLimit_le : messageLimit.toNat ≤ defaultSessionMessageLimit

namespace SecureSession

variable {cipher : TransportCipher}

def new (send receive : cipher.State) : SecureSession cipher where
  send := send
  receive := receive
  messageLimit := UInt64.ofNat defaultSessionMessageLimit
  closed := false
  messageLimit_le := by decide

/-- Overrides the compiled cap with a smaller release or test limit. -/
def withMessageLimit (session : SecureSession cipher) (messageLimit : UInt64) :
    Except SecureSessionError (SecureSession cipher) :=
  if hlimit : messageLimit = 0 ∨ defaultSessionMessageLimit < messageLimit.toNat then
    .error .invalidLimit
  else
    .ok {
      session with
      messageLimit := messageLimit
      messageLimit_le := Nat.le_of_not_lt (fun hlarge => hlimit (Or.inr hlarge)) }

def nextSendCounter (session : SecureSession cipher) : UInt64 :=
  cipher.nextN session.send

def nextReceiveCounter (session : SecureSession cipher) : UInt64 :=
  cipher.nextN session.receive

def close (session : SecureSession cipher) : SecureSession cipher :=
  { session with closed := true }

/-- Encrypts one payload and authenticates the complete fixed frame header. -/
def sealFrame (session : SecureSession cipher) (counter : UInt64)
    (associatedHeader plaintext : List UInt8) :
    SecureSession cipher × Except SecureSessionError (List UInt8) :=
  if session.closed then
    (session, .error .sessionClosed)
  else if counter ≠ session.nextSendCounter then
    (session.close, .error .counterMismatch)
  else if session.messageLimit ≤ counter then
    (session.close, .error .sessionExpired)
  else if maxNoiseMessageLen - noiseTagLen < plaintext.length then
    (session, .error .messageTooLarge)
  else
    let (send, ciphertext) := cipher.encryptAd session.send associatedHeader plaintext
    ({ session with send := send }, .ok ciphertext.val)

/-- Decrypts one in-order payload and closes on authentication or counter
failure. -/
def openFrame (session : SecureSession cipher) (counter : UInt64)
    (associatedHeader ciphertext : List UInt8) :
    SecureSession cipher × Except SecureSessionError (List UInt8) :=
  if session.closed then
    (session, .error .sessionClosed)
  else if counter ≠ session.nextReceiveCounter then
    (session.close, .error .counterMismatch)
  else if session.messageLimit ≤ counter then
    (session.close, .error .sessionExpired)
  else if ¬ (noiseTagLen ≤ ciphertext.length ∧ ciphertext.length ≤ maxNoiseMessageLen) then
    (session, .error .messageTooLarge)
  else
    match cipher.decryptAd session.receive associatedHeader ciphertext with
    | (receive, none) =>
        ({ session with receive := receive }.close, .error .authenticationFailed)
    | (receive, some plaintext) =>
        ({ session with receive := receive }, .ok plaintext.val)

@[simp] theorem close_send (session : SecureSession cipher) :
    session.close.send = session.send := rfl

@[simp] theorem close_messageLimit (session : SecureSession cipher) :
    session.close.messageLimit = session.messageLimit := rfl

@[simp] theorem close_closed (session : SecureSession cipher) :
    session.close.closed = true := rfl

@[simp] theorem close_nextSendCounter (session : SecureSession cipher) :
    session.close.nextSendCounter = session.nextSendCounter := rfl

/-- What one call does to a session: the message limit never changes, and a
closed session stays closed. -/
structure Continues (session next : SecureSession cipher) : Prop where
  messageLimit_eq : next.messageLimit = session.messageLimit
  closed_mono : session.closed = true → next.closed = true

/-- The spec of `sealFrame`: it refuses and consumes no counter, or it returns a
ciphertext under the counter it was given and consumes exactly that counter. -/
theorem sealFrame_spec (session : SecureSession cipher) (counter : UInt64)
    (associatedHeader plaintext : List UInt8) :
    ∃ next answer, session.sealFrame counter associatedHeader plaintext = (next, answer) ∧
      session.Continues next ∧ next.receive = session.receive ∧
      ((∃ error, answer = .error error ∧ next.send = session.send) ∨
        ∃ ciphertext, answer = .ok ciphertext ∧ counter = session.nextSendCounter ∧
          counter < session.messageLimit ∧
          ciphertext.length = plaintext.length + noiseTagLen ∧
          next.nextSendCounter = counter + 1 ∧ next.closed = session.closed) := by
  unfold sealFrame
  split
  · exact ⟨_, _, rfl, ⟨rfl, id⟩, rfl, Or.inl ⟨_, rfl, rfl⟩⟩
  split
  · exact ⟨_, _, rfl, ⟨rfl, fun _ => rfl⟩, rfl, Or.inl ⟨_, rfl, rfl⟩⟩
  split
  · exact ⟨_, _, rfl, ⟨rfl, fun _ => rfl⟩, rfl, Or.inl ⟨_, rfl, rfl⟩⟩
  split
  · exact ⟨_, _, rfl, ⟨rfl, id⟩, rfl, Or.inl ⟨_, rfl, rfl⟩⟩
  -- Past the guards the counter is the next one and below the limit.
  next _ hcounter hlimit _ =>
    have hcounter := not_not.mp hcounter
    refine ⟨_, _, rfl, ⟨rfl, id⟩, rfl, Or.inr ⟨_, rfl, hcounter, ?_, ?_, ?_, rfl⟩⟩
    · exact UInt64.not_le.mp hlimit
    · exact (cipher.encryptAd session.send associatedHeader plaintext).2.property
    · rw [hcounter]
      exact cipher.nextN_encryptAd _ _ _

/-- The spec of `openFrame`: an accepted frame carries the expected counter and
consumes it. -/
theorem openFrame_spec (session : SecureSession cipher) (counter : UInt64)
    (associatedHeader ciphertext : List UInt8) :
    ∃ next answer, session.openFrame counter associatedHeader ciphertext =
        (next, answer) ∧
      session.Continues next ∧ next.send = session.send ∧
      ((∃ error, answer = .error error) ∨
        ∃ plaintext, answer = .ok plaintext ∧ counter = session.nextReceiveCounter ∧
          counter < session.messageLimit ∧ next.nextReceiveCounter = counter + 1 ∧
          next.closed = session.closed) := by
  unfold openFrame
  split
  · exact ⟨_, _, rfl, ⟨rfl, id⟩, rfl, Or.inl ⟨_, rfl⟩⟩
  split
  · exact ⟨_, _, rfl, ⟨rfl, fun _ => rfl⟩, rfl, Or.inl ⟨_, rfl⟩⟩
  split
  · exact ⟨_, _, rfl, ⟨rfl, fun _ => rfl⟩, rfl, Or.inl ⟨_, rfl⟩⟩
  split
  · exact ⟨_, _, rfl, ⟨rfl, id⟩, rfl, Or.inl ⟨_, rfl⟩⟩
  next _ hcounter hlimit _ =>
    have hcounter := not_not.mp hcounter
    -- The nonce moves on only if the frame is authentic.
    have hnonce := cipher.nextN_decryptAd session.receive associatedHeader ciphertext
    split
    · exact ⟨_, _, rfl, ⟨rfl, fun _ => rfl⟩, rfl, Or.inl ⟨_, rfl⟩⟩
    · next receive plaintext hdecrypt =>
        rw [hdecrypt] at hnonce
        refine ⟨_, _, rfl, ⟨rfl, id⟩, rfl, Or.inr ⟨_, rfl, hcounter, ?_, ?_, rfl⟩⟩
        · exact UInt64.not_le.mp hlimit
        · rw [hcounter]
          exact hnonce rfl

end SecureSession
end Ceylith
end Lirvena
