import Lirvena.Ceylith.Connection
import Lirvena.Ceylith.Inner

/-!
# The TCP carrier

A client owns one stream and one connection.  An exchange seals a request, writes
it with a length in front, reads one frame and opens it.  What the network does in
the meantime is an input: how many bytes leave before a write fails or times out,
and which bytes arrive in time.

`sealRequest_cases` tells apart the requests that are refused for what they are
and the connections that refuse every request; `exchange_outcome` follows each of
them through the four stages of an exchange.
-/

namespace Lirvena
namespace Ceylith

open Lib

/-- Redacted client failure, as far as an exchange reports it. -/
inductive TcpError where
  | client (error : ClientError)
  | carrier
  deriving DecidableEq

/-- What the network does during one exchange. -/
structure Network where
  /-- The number of bytes that leave before the write fails or times out. -/
  failsAfter : Option Nat
  /-- The bytes that arrive before the read times out. -/
  arriving : List UInt8

/-- The two directions of a stream: what has left it, and what has arrived and is
not read yet. -/
structure TcpStream where
  written : List UInt8
  unread : List UInt8

namespace TcpStream

def writeAll (stream : TcpStream) (bytes : List UInt8) (network : Network) :
    TcpStream × Except TcpError Unit :=
  match network.failsAfter with
  | none => ({ stream with written := stream.written ++ bytes }, .ok ())
  | some count =>
      ({ stream with written := stream.written ++ bytes.take count }, .error .carrier)

def writeFrame (stream : TcpStream) (frame : List UInt8) (network : Network) :
    TcpStream × Except TcpError Unit :=
  if frame.length < u32Bound then
    stream.writeAll (beBytes 4 frame.length ++ frame) network
  else
    (stream, .error .carrier)

/-- Bytes that arrive while a read waits for more of them are lost with it. -/
def readExact (stream : TcpStream) (count : Nat) : TcpStream × Except TcpError (List UInt8) :=
  match splitFront count stream.unread with
  | none => ({ stream with unread := [] }, .error .carrier)
  | some (bytes, rest) => ({ stream with unread := rest }, .ok bytes)

def readBody (stream : TcpStream) (length : Nat) : TcpStream × Except TcpError (List UInt8) :=
  if length = 0 ∨ hardMaxOuterFrameLen < length then
    (stream, .error .carrier)
  else
    stream.readExact length

def readFrame (stream : TcpStream) (network : Network) :
    TcpStream × Except TcpError (List UInt8) :=
  let stream := { stream with unread := stream.unread ++ network.arriving }
  match stream.readExact 4 with
  | (stream, .error error) => (stream, .error error)
  | (stream, .ok lengthBytes) => stream.readBody (beNat lengthBytes)

/-- Writes one frame, and reads the next one. -/
def roundTrip (stream : TcpStream) (frame : List UInt8) (network : Network) :
    TcpStream × Except TcpError (List UInt8) :=
  match stream.writeFrame frame network with
  | (stream, .error error) => (stream, .error error)
  | (stream, .ok ()) => stream.readFrame network

end TcpStream

/-- Authenticated client over the bounded raw TCP carrier. -/
structure CeylithTcpClient (cipher : TransportCipher) where
  stream : TcpStream
  connection : ClientConnection cipher

namespace CeylithTcpClient

variable {cipher : TransportCipher} {InnerFrame : Type}

/-- Opens the response that was read, and checks which request it answers. -/
def openExchange (codec : InnerCodec InnerFrame) (client : CeylithTcpClient cipher)
    (requestId : RequestId) (encoded : List UInt8) :
    CeylithTcpClient cipher × Except TcpError InnerFrame :=
  match client.connection.openResponse codec encoded with
  | (connection, .error error) =>
      ({ client with connection := connection }, .error (.client error))
  | (connection, .ok (responseId, response)) =>
      if responseId ≠ requestId then
        ({ client with connection := connection }, .error (.client .sessionBinding))
      else
        ({ client with connection := connection }, .ok response)

/-- Seals, sends, receives and authenticates one request-response exchange. -/
def exchange (codec : InnerCodec InnerFrame) (client : CeylithTcpClient cipher)
    (requestId : RequestId) (request : InnerFrame) (network : Network) :
    CeylithTcpClient cipher × Except TcpError InnerFrame :=
  match client.connection.sealRequest codec requestId request with
  | (connection, .error error) =>
      ({ client with connection := connection }, .error (.client error))
  | (connection, .ok encoded) =>
      match client.stream.roundTrip encoded network with
      | (stream, .error error) => (⟨stream, connection⟩, .error error)
      | (stream, .ok received) => openExchange codec ⟨stream, connection⟩ requestId received

end CeylithTcpClient

/-- The codec of the frames of the schema. -/
def innerCodec (prost : Prost) (sha256 : Sha256) : InnerCodec Proto.InnerFrame where
  encodeInnerFrame := Ceylith.encodeInnerFrame prost sha256
  decodeInnerFrame := Ceylith.decodeInnerFrame prost sha256

/-! ## What sealing refuses -/

/-- The request is encoded, and its ciphertext fits the frame. -/
def Encodes {InnerFrame : Type} (codec : InnerCodec InnerFrame) (limits : WireLimits)
    (request : InnerFrame) : Prop :=
  ∃ plaintext, codec.encodeInnerFrame request limits = .ok plaintext ∧
    plaintext.length + noiseTagLen ≤ limits.ciphertext

/-- The ciphertext also fits one message of the cipher. -/
def Sealable {InnerFrame : Type} (codec : InnerCodec InnerFrame) (limits : WireLimits)
    (request : InnerFrame) : Prop :=
  ∃ plaintext, codec.encodeInnerFrame request limits = .ok plaintext ∧
    plaintext.length + noiseTagLen ≤ limits.ciphertext ∧
    plaintext.length + noiseTagLen ≤ maxNoiseMessageLen

theorem Sealable.encodes {InnerFrame : Type} {codec : InnerCodec InnerFrame}
    {limits : WireLimits} {request : InnerFrame} (hsealable : Sealable codec limits request) :
    Encodes codec limits request := by
  obtain ⟨plaintext, hencode, hlength, -⟩ := hsealable
  exact ⟨plaintext, hencode, hlength⟩

namespace ClientConnection

variable {cipher : TransportCipher} {InnerFrame : Type}

/-- The secure session has sealed all messages of its lifetime. -/
def Expired (connection : ClientConnection cipher) : Prop :=
  connection.secureSession.messageLimit ≤ connection.secureSession.nextSendCounter

/-- An open connection refuses the request for what it is.  An expired session
closes before it looks at the length of the plaintext. -/
def RejectsLocally (codec : InnerCodec InnerFrame) (connection : ClientConnection cipher)
    (request : InnerFrame) : Prop :=
  connection.isClosed = false ∧
    (¬ Encodes codec connection.limits request ∨
      ¬ connection.Expired ∧ ¬ Sealable codec connection.limits request)

/-- The ways in which a request is sealed or not. -/
inductive SealOutcome (codec : InnerCodec InnerFrame) (connection : ClientConnection cipher)
    (request : InnerFrame) : ClientConnection cipher → Except ClientError (List UInt8) → Prop
  | closed (hclosed : connection.isClosed = true) :
      SealOutcome codec connection request connection (.error .closed)
  | rejected (error : ClientError) (hlocal : connection.RejectsLocally codec request) :
      SealOutcome codec connection request connection (.error error)
  | expired (next : ClientConnection cipher) (hexpired : connection.Expired)
      (hclosed : next.isClosed = true) :
      SealOutcome codec connection request next (.error .secureSession)
  | sealed (next : ClientConnection cipher) (frame : SecureFrame)
      (hopen : connection.isClosed = false) (hexpired : ¬ connection.Expired)
      (hsealable : Sealable codec connection.limits request)
      (hlength : frame.ciphertext.length ≤ connection.limits.ciphertext)
      (hsend : next.secureSession.nextSendCounter =
        connection.secureSession.nextSendCounter + 1)
      (hcontinues : connection.Continues next) :
      SealOutcome codec connection request next (.ok frame.bytes)

theorem not_encodes_of_prepareRequest {codec : InnerCodec InnerFrame}
    {connection : ClientConnection cipher} {requestId : RequestId} {inner : InnerFrame}
    {error : CodecError}
    (hprepare : connection.prepareRequest codec requestId inner = .error error) :
    ¬ Encodes codec connection.limits inner := by
  rintro ⟨plaintext, hencode, hlength⟩
  have hprepared : connection.prepareRequest codec requestId inner = .ok (plaintext, _) :=
    prepareRequest_eq_ok_iff.mpr ⟨hencode, hlength, rfl⟩
  rw [hprepare] at hprepared
  cases hprepared

/-- An open session is only ever asked for its next counter. -/
theorem sealFrame_next (session : SecureSession cipher) (hopen : session.closed = false)
    (header plaintext : List UInt8) :
    session.sealFrame session.nextSendCounter header plaintext =
      if session.messageLimit ≤ session.nextSendCounter then
        (session.close, .error .sessionExpired)
      else if maxNoiseMessageLen - noiseTagLen < plaintext.length then
        (session, .error .messageTooLarge)
      else
        ({ session with send := (cipher.encryptAd session.send header plaintext).1 },
          .ok (cipher.encryptAd session.send header plaintext).2.val) := by
  simp [SecureSession.sealFrame, hopen]

theorem sealRequest_outcome (codec : InnerCodec InnerFrame)
    (connection : ClientConnection cipher) (requestId : RequestId) (request : InnerFrame) :
    connection.SealOutcome codec request (connection.sealRequest codec requestId request).1
      (connection.sealRequest codec requestId request).2 := by
  by_cases hclosed : connection.isClosed = true
  · rw [sealRequest, if_pos hclosed]
    exact .closed hclosed
  have hopen : connection.isClosed = false := by simpa using hclosed
  have hsession : connection.secureSession.closed = false := by
    simp only [isClosed, Bool.or_eq_false_iff] at hopen
    exact hopen.2
  cases hprepare : connection.prepareRequest codec requestId request with
  | error error =>
      simp only [sealRequest, if_neg hclosed, hprepare]
      exact .rejected _ ⟨hopen, .inl (not_encodes_of_prepareRequest hprepare)⟩
  | ok prepared =>
      obtain ⟨plaintext, header⟩ := prepared
      obtain ⟨hencode, hlength, hheader⟩ := prepareRequest_eq_ok_iff.mp hprepare
      have hnext := sealFrame_next connection.secureSession hsession header plaintext
      by_cases hexpired : connection.secureSession.messageLimit ≤
          connection.secureSession.nextSendCounter
      · rw [if_pos hexpired] at hnext
        simp only [sealRequest, if_neg hclosed, hprepare, hnext]
        refine .expired _ hexpired ?_
        simp [isClosed]
      rw [if_neg hexpired] at hnext
      by_cases hlong : maxNoiseMessageLen - noiseTagLen < plaintext.length
      · -- the session refuses the plaintext and is left as it was
        rw [if_pos hlong] at hnext
        simp only [sealRequest, if_neg hclosed, hprepare, hnext]
        refine .rejected _ ⟨hopen, .inr ⟨hexpired, ?_⟩⟩
        rintro ⟨other, hother, -, hshort⟩
        obtain rfl : plaintext = other := Except.ok.inj (hencode.symm.trans hother)
        omega
      · rw [if_neg hlong] at hnext
        have hsealable : Sealable codec connection.limits request := by
          refine ⟨plaintext, hencode, hlength, ?_⟩
          simp only [maxNoiseMessageLen, noiseTagLen] at *
          omega
        have hbound : plaintext.length + noiseTagLen ≤ connection.limits.ciphertext := hlength
        rw [← (cipher.encryptAd connection.secureSession.send header plaintext).2.property]
          at hbound
        rw [sealRequest_eq_sealed hopen hprepare hnext hbound]
        refine .sealed _ _ hopen hexpired hsealable hbound ?_ ⟨rfl, rfl, ?_⟩
        · exact cipher.nextN_encryptAd _ _ _
        · intro hstill
          rw [hopen] at hstill
          cases hstill

end ClientConnection

/-! ## What ends an exchange -/

namespace CeylithTcpClient

variable {cipher : TransportCipher} {InnerFrame : Type}

/-- The request is sealed, and the carrier does not take it or brings no response
to it. -/
def CarrierFails (codec : InnerCodec InnerFrame) (client : CeylithTcpClient cipher)
    (requestId : RequestId) (request : InnerFrame) (network : Network) : Prop :=
  ∃ connection encoded error,
    client.connection.sealRequest codec requestId request = (connection, .ok encoded) ∧
      (client.stream.roundTrip encoded network).2 = .error error

/-- The secure session seals nothing more, or it does not accept the response. -/
def SessionFails (codec : InnerCodec InnerFrame) (client : CeylithTcpClient cipher)
    (requestId : RequestId) (request : InnerFrame) (network : Network) : Prop :=
  client.connection.isClosed = true ∨ client.connection.Expired ∨
    ∃ connection encoded stream received error,
      client.connection.sealRequest codec requestId request = (connection, .ok encoded) ∧
        client.stream.roundTrip encoded network = (stream, .ok received) ∧
        (openExchange codec ⟨stream, connection⟩ requestId received).2 = .error error

/-- The ways in which an exchange ends. -/
inductive Outcome (codec : InnerCodec InnerFrame) (client : CeylithTcpClient cipher)
    (requestId : RequestId) (request : InnerFrame) (network : Network) :
    CeylithTcpClient cipher → Except TcpError InnerFrame → Prop
  | rejected (error : ClientError) (hlocal : client.connection.RejectsLocally codec request) :
      Outcome codec client requestId request network client (.error (.client error))
  | carrierFailed (next : CeylithTcpClient cipher) (error : TcpError)
      (hfails : client.CarrierFails codec requestId request network) :
      Outcome codec client requestId request network next (.error error)
  | sessionFailed (next : CeylithTcpClient cipher) (error : TcpError)
      (hfails : client.SessionFails codec requestId request network) :
      Outcome codec client requestId request network next (.error error)
  | served (next : CeylithTcpClient cipher) (response : InnerFrame)
      (hsealable : Sealable codec client.connection.limits request)
      (hexpired : ¬ client.connection.Expired)
      (hsend : next.connection.secureSession.nextSendCounter =
        client.connection.secureSession.nextSendCounter + 1)
      (hlimit : next.connection.secureSession.messageLimit =
        client.connection.secureSession.messageLimit) :
      Outcome codec client requestId request network next (.ok response)

theorem openExchange_continues (codec : InnerCodec InnerFrame)
    (client : CeylithTcpClient cipher) (requestId : RequestId) (encoded : List UInt8) :
    let next := (client.openExchange codec requestId encoded).1.connection.secureSession
    next.nextSendCounter = client.connection.secureSession.nextSendCounter ∧
      next.messageLimit = client.connection.secureSession.messageLimit := by
  have heffect := ClientConnection.openResponse_effect codec client.connection encoded
  have hconnection : (client.openExchange codec requestId encoded).1.connection =
      (client.connection.openResponse codec encoded).1 := by
    unfold openExchange
    split
    · next heq => rw [heq]
    · next heq =>
        split
        · rw [heq]
        · rw [heq]
  rw [hconnection]
  have hsame : (client.connection.openResponse codec encoded).1.secureSession.send =
        client.connection.secureSession.send ∧
      (client.connection.openResponse codec encoded).1.secureSession.messageLimit =
        client.connection.secureSession.messageLimit := by
    -- Opening a response never touches the sending half.
    generalize (client.connection.openResponse codec encoded).1 = next at heffect
    generalize (client.connection.openResponse codec encoded).2 = answer at heffect
    cases heffect with
    | openRefused _ _ error hcontinues hclosed hsend =>
        exact ⟨hsend, hcontinues.messageLimit_eq⟩
    | opened _ _ frame inner hopen hcontinues hdecode hcounter hlimit hsend hreceive =>
        exact ⟨hsend, hcontinues.messageLimit_eq⟩
  exact ⟨congrArg cipher.nextN hsame.1, hsame.2⟩

theorem exchange_outcome (codec : InnerCodec InnerFrame) (client : CeylithTcpClient cipher)
    (requestId : RequestId) (request : InnerFrame) (network : Network) :
    client.Outcome codec requestId request network
      (client.exchange codec requestId request network).1
      (client.exchange codec requestId request network).2 := by
  have houtcome := client.connection.sealRequest_outcome codec requestId request
  unfold exchange
  split
  · next connection error hseal =>
      rw [hseal] at houtcome
      cases houtcome with
      | closed hclosed => exact .sessionFailed _ _ (.inl hclosed)
      | rejected error hlocal => exact .rejected error hlocal
      | expired _ hexpired hclosed => exact .sessionFailed _ _ (.inr (.inl hexpired))
  next connection encoded hseal =>
    split
    · next stream error htrip =>
        exact .carrierFailed _ _ ⟨connection, encoded, error, hseal, congrArg Prod.snd htrip⟩
    next stream received htrip =>
      -- The request went out; what is left is decided by the response.
      have hcontinues := openExchange_continues codec ⟨stream, connection⟩ requestId received
      cases hopened : (openExchange codec ⟨stream, connection⟩ requestId received).2 with
      | error error =>
          exact .sessionFailed _ _ (.inr (.inr
            ⟨connection, encoded, stream, received, error, hseal, htrip, hopened⟩))
      | ok response =>
          rw [hseal] at houtcome
          cases houtcome with
          | sealed _ frame hopen hexpired hsealable hlength hsend hkept =>
              exact .served _ response hsealable hexpired (hcontinues.1.trans hsend)
                (hcontinues.2.trans hkept.messageLimit_eq)

end CeylithTcpClient
end Ceylith
end Lirvena
