import Lirvena.Ceylith.SecureSession
import Lirvena.Lib.Run

/-!
# The client connection

A connection seals requests and opens responses over one secure session.  Three
counters have to agree along every path: the counter in the envelope, the nonce
of the cipher and the message limit.  The results below are about every run of
`sealRequest` and `openResponse` calls, whatever the inner codec answers and
whatever bytes arrive.
-/

namespace Lirvena
namespace Ceylith

open Lib

/-- The codec of the encrypted inner frames: encoding validates and bounds the
frame, decoding validates the bytes. -/
structure InnerCodec (InnerFrame : Type) where
  encodeInnerFrame : InnerFrame → WireLimits → Except CodecError (List UInt8)
  decodeInnerFrame : List UInt8 → WireLimits → Except CodecError InnerFrame

/-- Redacted client failure, as far as a connection reports it. -/
inductive ClientError where
  | protocol
  | secureSession
  | sessionBinding
  | closed
  deriving DecidableEq

/-- Authenticated, counter-bound connection state. -/
structure ClientConnection (cipher : TransportCipher) where
  sessionId : SessionId
  secureSession : SecureSession cipher
  limits : WireLimits
  closed : Bool

namespace ClientConnection

variable {cipher : TransportCipher} {InnerFrame : Type}

def new (sessionId : SessionId) (secureSession : SecureSession cipher)
    (limits : WireLimits) : ClientConnection cipher where
  sessionId := sessionId
  secureSession := secureSession
  limits := limits
  closed := false

/-- Whether this connection is terminally closed. -/
def isClosed (connection : ClientConnection cipher) : Bool :=
  connection.closed || connection.secureSession.closed

def close (connection : ClientConnection cipher) : ClientConnection cipher :=
  { connection with closed := true }

/-- Everything that is computed before the cipher is used: the plaintext and
the header that authenticates it. -/
def prepareRequest (codec : InnerCodec InnerFrame) (connection : ClientConnection cipher)
    (requestId : RequestId) (inner : InnerFrame) :
    Except CodecError (List UInt8 × List UInt8) := do
  let plaintext ← codec.encodeInnerFrame inner connection.limits
  let ciphertextLen ← okOr .lengthOverflow (checkedAddU64 plaintext.length noiseTagLen)
  let header ← encodeSecureFrameHeader connection.sessionId
    connection.secureSession.nextSendCounter requestId ciphertextLen connection.limits
  return (plaintext, header)

/-- Authenticates and encodes one logical request. -/
def sealRequest (codec : InnerCodec InnerFrame) (connection : ClientConnection cipher)
    (requestId : RequestId) (inner : InnerFrame) :
    ClientConnection cipher × Except ClientError (List UInt8) :=
  if connection.isClosed then
    (connection, .error .closed)
  else
    match connection.prepareRequest codec requestId inner with
    | .error _ => (connection, .error .protocol)
    | .ok (plaintext, header) =>
        let counter := connection.secureSession.nextSendCounter
        match connection.secureSession.sealFrame counter header plaintext with
        | (secureSession, .error _) =>
            ({ connection with secureSession := secureSession }, .error .secureSession)
        | (secureSession, .ok ciphertext) =>
            let connection := { connection with secureSession := secureSession }
            match SecureFrame.new connection.sessionId counter requestId ciphertext
                connection.limits with
            | .error _ => (connection, .error .protocol)
            | .ok frame =>
                match encodeSecureFrame frame connection.limits with
                | .error _ => (connection, .error .protocol)
                | .ok encoded => (connection, .ok encoded)

/-- Authenticates and decodes one in-order response. -/
def openResponse (codec : InnerCodec InnerFrame) (connection : ClientConnection cipher)
    (encoded : List UInt8) :
    ClientConnection cipher × Except ClientError (RequestId × InnerFrame) :=
  if connection.isClosed then
    (connection, .error .closed)
  else
    match decodeSecureFrame encoded connection.limits with
    | .error _ => (connection.close, .error .protocol)
    | .ok frame =>
        if frame.sessionId ≠ connection.sessionId then
          (connection.close, .error .sessionBinding)
        else
          match encodeSecureFrameHeader frame.sessionId frame.counter frame.requestId
              frame.ciphertext.length connection.limits with
          -- this failure leaves the connection open
          | .error _ => (connection, .error .protocol)
          | .ok header =>
              match connection.secureSession.openFrame frame.counter header
                  frame.ciphertext with
              | (secureSession, .error _) =>
                  ({ connection with secureSession := secureSession }.close,
                    .error .secureSession)
              | (secureSession, .ok plaintext) =>
                  let connection := { connection with secureSession := secureSession }
                  match codec.decodeInnerFrame plaintext connection.limits with
                  | .error _ => (connection.close, .error .protocol)
                  | .ok inner => (connection, .ok (frame.requestId, inner))

end ClientConnection

/-- One call on a connection. -/
inductive ConnectionCall (InnerFrame : Type) where
  | sealRequest (requestId : RequestId) (inner : InnerFrame)
  | openResponse (encoded : List UInt8)

inductive ConnectionAnswer (InnerFrame : Type) where
  | sealed (answer : Except ClientError (List UInt8))
  | opened (answer : Except ClientError (RequestId × InnerFrame))

def ConnectionAnswer.isError {InnerFrame : Type} : ConnectionAnswer InnerFrame → Bool
  | .sealed (.error _) | .opened (.error _) => true
  | .sealed (.ok _) | .opened (.ok _) => false

namespace ClientConnection

variable {cipher : TransportCipher} {InnerFrame : Type}

def call (codec : InnerCodec InnerFrame) (connection : ClientConnection cipher) :
    ConnectionCall InnerFrame → ClientConnection cipher × ConnectionAnswer InnerFrame
  | .sealRequest requestId inner =>
      (connection.sealRequest codec requestId inner).map id .sealed
  | .openResponse encoded => (connection.openResponse codec encoded).map id .opened

/-- A connection as a machine over its calls. -/
def calls (cipher : TransportCipher) (codec : InnerCodec InnerFrame) :
    Machine (ClientConnection cipher) (ConnectionCall InnerFrame)
      (ConnectionAnswer InnerFrame) where
  step := call codec

/-! ## What one call does -/

/-- The limits of a connection never change, and a closed connection stays
closed. -/
structure Continues (connection next : ClientConnection cipher) : Prop where
  limits_eq : next.limits = connection.limits
  messageLimit_eq :
    next.secureSession.messageLimit = connection.secureSession.messageLimit
  closed_mono : connection.isClosed = true → next.isClosed = true

theorem Continues.refl (connection : ClientConnection cipher) :
    connection.Continues connection where
  limits_eq := rfl
  messageLimit_eq := rfl
  closed_mono := id

theorem Continues.of_session (connection : ClientConnection cipher)
    {secureSession : SecureSession cipher}
    (hsession : connection.secureSession.Continues secureSession) :
    connection.Continues { connection with secureSession := secureSession } where
  limits_eq := rfl
  messageLimit_eq := hsession.messageLimit_eq
  closed_mono hclosed := by
    simp only [isClosed, Bool.or_eq_true] at *
    exact hclosed.imp id hsession.closed_mono

theorem Continues.close {connection next : ClientConnection cipher}
    (hcontinues : connection.Continues next) : connection.Continues next.close where
  limits_eq := hcontinues.limits_eq
  messageLimit_eq := hcontinues.messageLimit_eq
  closed_mono _ := rfl

/-- Every effect a call can have on the counters. -/
inductive Effect (connection : ClientConnection cipher) :
    ConnectionCall InnerFrame → ClientConnection cipher → ConnectionAnswer InnerFrame →
      Prop where
  | sealRefused (requestId : RequestId) (inner : InnerFrame)
      (next : ClientConnection cipher) (error : ClientError)
      (hcontinues : connection.Continues next)
      (hsend : next.secureSession.send = connection.secureSession.send)
      (hreceive : next.secureSession.receive = connection.secureSession.receive) :
      Effect connection (.sealRequest requestId inner) next (.sealed (.error error))
  | sealed (requestId : RequestId) (inner : InnerFrame)
      (next : ClientConnection cipher) (frame : SecureFrame)
      (hopen : connection.isClosed = false)
      (hcontinues : connection.Continues next)
      (hcounter : frame.counter = connection.secureSession.nextSendCounter)
      (hlimit : frame.counter < connection.secureSession.messageLimit)
      (hlength : frame.ciphertext.length ≤ connection.limits.ciphertext)
      (hsend : next.secureSession.nextSendCounter = frame.counter + 1)
      (hreceive : next.secureSession.receive = connection.secureSession.receive) :
      Effect connection (.sealRequest requestId inner) next (.sealed (.ok frame.bytes))
  | openRefused (encoded : List UInt8) (next : ClientConnection cipher)
      (error : ClientError) (hcontinues : connection.Continues next)
      (hclosed : next.isClosed = true)
      (hsend : next.secureSession.send = connection.secureSession.send) :
      Effect connection (.openResponse encoded) next (.opened (.error error))
  | opened (encoded : List UInt8) (next : ClientConnection cipher) (frame : SecureFrame)
      (inner : InnerFrame) (hopen : connection.isClosed = false)
      (hcontinues : connection.Continues next)
      (hdecode : decodeSecureFrame encoded connection.limits = .ok frame)
      (hcounter : frame.counter = connection.secureSession.nextReceiveCounter)
      (hlimit : frame.counter < connection.secureSession.messageLimit)
      (hsend : next.secureSession.send = connection.secureSession.send)
      (hreceive : next.secureSession.nextReceiveCounter = frame.counter + 1) :
      Effect connection (.openResponse encoded) next (.opened (.ok (frame.requestId, inner)))

theorem prepareRequest_eq_ok_iff {codec : InnerCodec InnerFrame}
    {connection : ClientConnection cipher} {requestId : RequestId} {inner : InnerFrame}
    {plaintext header : List UInt8} :
    connection.prepareRequest codec requestId inner = .ok (plaintext, header) ↔
      codec.encodeInnerFrame inner connection.limits = .ok plaintext ∧
        plaintext.length + noiseTagLen ≤ connection.limits.ciphertext ∧
        header = secureFrameHeader connection.sessionId
          connection.secureSession.nextSendCounter requestId
          (plaintext.length + noiseTagLen) := by
  unfold prepareRequest
  constructor
  · intro hprepare
    obtain ⟨encoded, hencode, hprepare⟩ := bind_eq_ok_iff.mp hprepare
    obtain ⟨ciphertextLen, hsum, hprepare⟩ := bind_eq_ok_iff.mp hprepare
    obtain ⟨prepared, hheader, hprepare⟩ := bind_eq_ok_iff.mp hprepare
    cases hprepare
    obtain ⟨-, rfl⟩ := checkedAddU64_eq_some_iff.mp (okOr_eq_ok_iff.mp hsum)
    obtain ⟨hlength, hbytes⟩ := encodeSecureFrameHeader_eq_ok_iff.mp hheader
    exact ⟨hencode, hlength, hbytes⟩
  · rintro ⟨hencode, hlength, rfl⟩
    -- A sum within the limit of a frame cannot overflow.
    have hsum : plaintext.length + noiseTagLen < u64Bound := by
      have hfits := (WireLimits.fits hlength).2.1
      omega
    refine bind_eq_ok_iff.mpr ⟨plaintext, hencode, ?_⟩
    refine bind_eq_ok_iff.mpr ⟨_, okOr_eq_ok_iff.mpr
      (checkedAddU64_eq_some_iff.mpr ⟨hsum, rfl⟩), ?_⟩
    exact bind_eq_ok_iff.mpr ⟨_, encodeSecureFrameHeader_eq_ok_iff.mpr ⟨hlength, rfl⟩, rfl⟩

/-- Once the cipher has consumed a counter, the frame is returned: the length
that the frame constructor and the encoder check was checked before. -/
theorem sealRequest_eq_sealed {codec : InnerCodec InnerFrame}
    {connection : ClientConnection cipher} {requestId : RequestId} {inner : InnerFrame}
    {plaintext header ciphertext : List UInt8} {session : SecureSession cipher}
    (hopen : connection.isClosed = false)
    (hprepare : connection.prepareRequest codec requestId inner = .ok (plaintext, header))
    (hseal : connection.secureSession.sealFrame connection.secureSession.nextSendCounter
      header plaintext = (session, .ok ciphertext))
    (hbound : ciphertext.length ≤ connection.limits.ciphertext) :
    connection.sealRequest codec requestId inner =
      ({ connection with secureSession := session },
        .ok (SecureFrame.mk connection.sessionId connection.secureSession.nextSendCounter
          requestId ciphertext).bytes) := by
  let frame : SecureFrame := ⟨connection.sessionId,
    connection.secureSession.nextSendCounter, requestId, ciphertext⟩
  have hframe : SecureFrame.new connection.sessionId
      connection.secureSession.nextSendCounter requestId ciphertext
      connection.limits = .ok frame :=
    SecureFrame.new_eq_ok_iff.mpr ⟨hbound, rfl⟩
  have hencode : encodeSecureFrame frame connection.limits = .ok frame.bytes :=
    encodeSecureFrame_eq_ok_iff.mpr ⟨hbound, rfl⟩
  simp only [sealRequest, hopen, Bool.false_eq_true, if_false, hprepare, hseal, hframe, hencode]
  rfl

theorem sealRequest_effect (codec : InnerCodec InnerFrame)
    (connection : ClientConnection cipher) (requestId : RequestId) (inner : InnerFrame) :
    connection.Effect (.sealRequest requestId inner)
      (connection.sealRequest codec requestId inner).1
      (.sealed (connection.sealRequest codec requestId inner).2) := by
  by_cases hclosed : connection.isClosed = true
  · rw [sealRequest, if_pos hclosed]
    exact .sealRefused _ _ _ _ (.refl connection) rfl rfl
  cases hprepare : connection.prepareRequest codec requestId inner with
  | error error =>
      simp only [sealRequest, if_neg hclosed, hprepare]
      exact .sealRefused _ _ _ _ (.refl connection) rfl rfl
  | ok prepared =>
      obtain ⟨plaintext, header⟩ := prepared
      obtain ⟨session, answer, hseal, hcontinues, hreceive, hcases⟩ :=
        connection.secureSession.sealFrame_spec connection.secureSession.nextSendCounter
          header plaintext
      -- The session either refuses or seals under its next counter.
      rcases hcases with ⟨error, rfl, hsend⟩ | ⟨ciphertext, rfl, -, hlimit, hlength, hsend, -⟩
      · simp only [sealRequest, if_neg hclosed, hprepare, hseal]
        exact .sealRefused _ _ _ _ (.of_session connection hcontinues) hsend hreceive
      · have hbound : ciphertext.length ≤ connection.limits.ciphertext :=
          hlength ▸ (prepareRequest_eq_ok_iff.mp hprepare).2.1
        have hopen : connection.isClosed = false := by simpa using hclosed
        rw [sealRequest_eq_sealed hopen hprepare hseal hbound]
        exact .sealed _ _ _ _ hopen (.of_session connection hcontinues) rfl hlimit hbound
          hsend hreceive

theorem openResponse_effect (codec : InnerCodec InnerFrame)
    (connection : ClientConnection cipher) (encoded : List UInt8) :
    connection.Effect (.openResponse encoded)
      (connection.openResponse codec encoded).1
      (.opened (connection.openResponse codec encoded).2) := by
  unfold openResponse
  split
  · next hclosed => exact .openRefused _ _ _ (.refl connection) hclosed rfl
  next hopen =>
    split
    · exact .openRefused _ _ _ (Continues.refl connection).close rfl rfl
    next frame hdecode =>
      split
      · exact .openRefused _ _ _ (Continues.refl connection).close rfl rfl
      -- a decoded frame is within the limits, so its header can be encoded again
      have hlength := (decodeSecureFrame_eq_ok_iff.mp hdecode).1
      simp only [encodeSecureFrameHeader_eq_ok_iff.mpr ⟨hlength, rfl⟩]
      obtain ⟨session, answer, hsession, hcontinues, hsend, hcases⟩ :=
        connection.secureSession.openFrame_spec frame.counter
          (secureFrameHeader frame.sessionId frame.counter frame.requestId
            frame.ciphertext.length) frame.ciphertext
      have hnext := Continues.of_session connection hcontinues
      simp only [hsession]
      rcases hcases with ⟨error, rfl⟩ | ⟨plaintext, rfl, hcounter, hlimit, hreceive, -⟩
      · exact .openRefused _ _ _ hnext.close rfl hsend
      · cases hinner : codec.decodeInnerFrame plaintext connection.limits with
        | error error =>
            simp only [hinner]
            exact .openRefused _ _ _ hnext.close rfl hsend
        | ok inner =>
            simp only [hinner]
            exact .opened _ _ frame inner (by simpa using hopen) hnext hdecode hcounter
              hlimit hsend hreceive

theorem call_effect (codec : InnerCodec InnerFrame) (connection : ClientConnection cipher)
    (input : ConnectionCall InnerFrame) :
    connection.Effect input (connection.call codec input).1
      (connection.call codec input).2 := by
  cases input with
  | sealRequest requestId inner => exact sealRequest_effect codec connection requestId inner
  | openResponse encoded => exact openResponse_effect codec connection encoded

/-! ## Counters along a run -/

/-- The frames that a run has returned for sealed requests, oldest first. -/
def sealedFrames (trace : List (ConnectionCall InnerFrame × ConnectionAnswer InnerFrame)) :
    List (List UInt8) :=
  trace.filterMap fun
    | (_, .sealed (.ok encoded)) => some encoded
    | _ => none

/-- The frames that a run has accepted as responses, oldest first. -/
def openedFrames (trace : List (ConnectionCall InnerFrame × ConnectionAnswer InnerFrame)) :
    List (List UInt8) :=
  trace.filterMap fun
    | (.openResponse encoded, .opened (.ok _)) => some encoded
    | _ => none

/-- The counter in the header of an encoded frame. -/
def frameCounter (limits : WireLimits) (encoded : List UInt8) : Option UInt64 :=
  match decodeSecureFrame encoded limits with
  | .ok frame => some frame.counter
  | .error _ => none

/-- The frames carry the counters 0, 1, 2, … without a gap or a repetition. -/
def Consecutive (limits : WireLimits) (frames : List (List UInt8)) : Prop :=
  frames.map (frameCounter limits) =
    (List.range frames.length).map (fun counter => some (UInt64.ofNat counter))

theorem Consecutive.append_singleton {limits : WireLimits} {frames : List (List UInt8)}
    {encoded : List UInt8} {frame : SecureFrame} (hframes : Consecutive limits frames)
    (hdecode : decodeSecureFrame encoded limits = .ok frame)
    (hcounter : frame.counter = UInt64.ofNat frames.length) :
    Consecutive limits (frames ++ [encoded]) := by
  unfold Consecutive at *
  simp [hframes, List.range_succ, frameCounter, hdecode, hcounter]

def FailedOpen (entry : ConnectionCall InnerFrame × ConnectionAnswer InnerFrame) : Prop :=
  ∃ encoded error, entry = (.openResponse encoded, .opened (.error error))

/-- What the trace of a run says about the connection it leads to. -/
structure Counted (start : ClientConnection cipher)
    (trace : List (ConnectionCall InnerFrame × ConnectionAnswer InnerFrame))
    (connection : ClientConnection cipher) : Prop where
  limits_eq : connection.limits = start.limits
  messageLimit_eq :
    connection.secureSession.messageLimit = start.secureSession.messageLimit
  sealed_consecutive : Consecutive start.limits (sealedFrames trace)
  sealed_le : (sealedFrames trace).length ≤ start.secureSession.messageLimit.toNat
  send_eq : connection.secureSession.nextSendCounter =
    UInt64.ofNat (sealedFrames trace).length
  opened_consecutive : Consecutive start.limits (openedFrames trace)
  opened_le : (openedFrames trace).length ≤ start.secureSession.messageLimit.toNat
  receive_eq : connection.isClosed = false →
    connection.secureSession.nextReceiveCounter =
      UInt64.ofNat (openedFrames trace).length
  failed_closed : (∃ entry ∈ trace, FailedOpen entry) → connection.isClosed = true
  failed_sticky : trace.Pairwise fun earlier later =>
    FailedOpen earlier → later.2.isError = true

/-- A closed connection answers every call with an error. -/
theorem Effect.isError {connection next : ClientConnection cipher}
    {input : ConnectionCall InnerFrame} {answer : ConnectionAnswer InnerFrame}
    (heffect : connection.Effect input next answer) (hclosed : connection.isClosed = true) :
    answer.isError = true := by
  cases heffect with
  | sealRefused _ _ _ error _ _ _ => rfl
  | sealed _ _ _ frame hopen _ _ _ _ _ _ => simp [hclosed] at hopen
  | openRefused _ _ error _ _ _ => rfl
  | opened _ _ frame inner hopen _ _ _ _ _ _ => simp [hclosed] at hopen

/-- A counter below the message limit is the natural number it stands for. -/
theorem lt_messageLimit (session : SecureSession cipher) {count : Nat}
    (hcount : count ≤ session.messageLimit.toNat)
    (hlimit : UInt64.ofNat count < session.messageLimit) :
    count < session.messageLimit.toNat := by
  have hbound := session.messageLimit_le
  simp only [defaultSessionMessageLimit] at hbound
  have htoNat : (UInt64.ofNat count).toNat = count :=
    UInt64.toNat_ofNat_of_lt' (show count < 2 ^ 64 by omega)
  rw [UInt64.lt_iff_toNat_lt, htoNat] at hlimit
  exact hlimit

theorem sealedFrames_append
    (earlier later : List (ConnectionCall InnerFrame × ConnectionAnswer InnerFrame)) :
    sealedFrames (earlier ++ later) = sealedFrames earlier ++ sealedFrames later :=
  List.filterMap_append ..

theorem openedFrames_append
    (earlier later : List (ConnectionCall InnerFrame × ConnectionAnswer InnerFrame)) :
    openedFrames (earlier ++ later) = openedFrames earlier ++ openedFrames later :=
  List.filterMap_append ..

/-- The frames of one direction carry the counters 0, 1, 2, … below the message
limit, and while the direction is live the next counter is `counter`. -/
structure Numbered (start : ClientConnection cipher) (frames : List (List UInt8))
    (live : Prop) (counter : UInt64) : Prop where
  consecutive : Consecutive start.limits frames
  length_le : frames.length ≤ start.secureSession.messageLimit.toNat
  counter_eq : live → counter = UInt64.ofNat frames.length

section Numbered

variable {start : ClientConnection cipher} {frames : List (List UInt8)}
  {live stillLive : Prop} {counter next : UInt64}

theorem Numbered.kept (hnumbered : Numbered start frames live counter)
    (hlive : stillLive → live) (hnext : stillLive → next = counter) :
    Numbered start frames stillLive next where
  consecutive := hnumbered.consecutive
  length_le := hnumbered.length_le
  counter_eq hstill := (hnext hstill).trans (hnumbered.counter_eq (hlive hstill))

theorem Numbered.append_nil (hnumbered : Numbered start frames live counter) :
    Numbered start (frames ++ []) live counter :=
  (List.append_nil frames).symm ▸ hnumbered

/-- A frame that carries the next counter. -/
theorem Numbered.append_singleton {encoded : List UInt8} {frame : SecureFrame}
    (hnumbered : Numbered start frames live counter) (hlive : live)
    (hdecode : decodeSecureFrame encoded start.limits = .ok frame)
    (hcounter : frame.counter = counter)
    (hlimit : frame.counter < start.secureSession.messageLimit)
    (hnext : next = frame.counter + 1) :
    Numbered start (frames ++ [encoded]) stillLive next := by
  have hcount : frame.counter = UInt64.ofNat frames.length :=
    hcounter.trans (hnumbered.counter_eq hlive)
  rw [hcount] at hlimit hnext
  refine ⟨hnumbered.consecutive.append_singleton hdecode hcount, ?_, fun _ => ?_⟩
  · rw [List.length_append, List.length_singleton]
    exact lt_messageLimit start.secureSession hnumbered.length_le hlimit
  · rw [hnext, List.length_append, List.length_singleton, UInt64.ofNat_add]
    rfl

end Numbered

section Step

variable {start connection next : ClientConnection cipher}
  {trace : List (ConnectionCall InnerFrame × ConnectionAnswer InnerFrame)}
  {input : ConnectionCall InnerFrame} {answer : ConnectionAnswer InnerFrame}

theorem Counted.sent (hcounted : Counted start trace connection) :
    Numbered start (sealedFrames trace) True connection.secureSession.nextSendCounter :=
  ⟨hcounted.sealed_consecutive, hcounted.sealed_le, fun _ => hcounted.send_eq⟩

theorem Counted.received (hcounted : Counted start trace connection) :
    Numbered start (openedFrames trace) (connection.isClosed = false)
      connection.secureSession.nextReceiveCounter :=
  ⟨hcounted.opened_consecutive, hcounted.opened_le, hcounted.receive_eq⟩

theorem Counted.failed_sticky_step (hcounted : Counted start trace connection)
    (heffect : connection.Effect input next answer) :
    (trace ++ [(input, answer)]).Pairwise fun earlier later =>
      FailedOpen earlier → later.2.isError = true := by
  refine List.pairwise_append.mpr ⟨hcounted.failed_sticky, List.pairwise_singleton _ _, ?_⟩
  intro earlier hearlier later hlater hfailed
  obtain rfl := List.mem_singleton.mp hlater
  exact heffect.isError (hcounted.failed_closed ⟨earlier, hearlier, hfailed⟩)

theorem Counted.failed_closed_step (hcounted : Counted start trace connection)
    (hcontinues : connection.Continues next)
    (hlast : FailedOpen (input, answer) → next.isClosed = true) :
    (∃ entry ∈ trace ++ [(input, answer)], FailedOpen entry) → next.isClosed = true := by
  rintro ⟨entry, hentry, hfailed⟩
  rcases List.mem_append.mp hentry with hbefore | hnow
  · exact hcontinues.closed_mono (hcounted.failed_closed ⟨entry, hbefore, hfailed⟩)
  · obtain rfl := List.mem_singleton.mp hnow
    exact hlast hfailed

theorem Counted.not_closed (hcontinues : connection.Continues next)
    (hopen : next.isClosed = false) : connection.isClosed = false := by
  by_contra hclosed
  have hstill := hcontinues.closed_mono (by simpa using hclosed)
  simp [hopen] at hstill

/-- The counts behind one more call, from those of its two directions. -/
theorem Counted.extend (hcounted : Counted start trace connection)
    (heffect : connection.Effect input next answer) (hcontinues : connection.Continues next)
    (hsent : Numbered start (sealedFrames (trace ++ [(input, answer)])) True
      next.secureSession.nextSendCounter)
    (hreceived : Numbered start (openedFrames (trace ++ [(input, answer)]))
      (next.isClosed = false) next.secureSession.nextReceiveCounter)
    (hlast : FailedOpen (input, answer) → next.isClosed = true) :
    Counted start (trace ++ [(input, answer)]) next where
  limits_eq := hcontinues.limits_eq.trans hcounted.limits_eq
  messageLimit_eq := hcontinues.messageLimit_eq.trans hcounted.messageLimit_eq
  sealed_consecutive := hsent.consecutive
  sealed_le := hsent.length_le
  send_eq := hsent.counter_eq trivial
  opened_consecutive := hreceived.consecutive
  opened_le := hreceived.length_le
  receive_eq := hreceived.counter_eq
  failed_closed := hcounted.failed_closed_step hcontinues hlast
  failed_sticky := hcounted.failed_sticky_step heffect

/-- One call keeps the counts. -/
theorem counted_step (hcounted : Counted start trace connection)
    (heffect : connection.Effect input next answer) :
    Counted start (trace ++ [(input, answer)]) next := by
  have hsent := hcounted.sent
  have hreceived := hcounted.received
  cases heffect with
  | sealRefused requestId inner _ error hcontinues hsend hreceive =>
      -- a refused request writes no frame and moves neither cipher
      refine hcounted.extend (.sealRefused _ _ _ _ hcontinues hsend hreceive) hcontinues ?_ ?_
        (fun ⟨_, _, hentry⟩ => by cases hentry)
      · rw [sealedFrames_append]
        refine (hsent.kept id fun _ => ?_).append_nil
        exact congrArg cipher.nextN hsend
      · rw [openedFrames_append]
        refine (hreceived.kept (Counted.not_closed hcontinues) fun _ => ?_).append_nil
        exact congrArg cipher.nextN hreceive
  | sealed requestId inner _ frame hopen hcontinues hcounter hlimit hlength hsend hreceive =>
      have hdecode : decodeSecureFrame frame.bytes start.limits = .ok frame :=
        decodeSecureFrame_of_bytes (hcounted.limits_eq ▸ hlength)
      refine hcounted.extend
        (.sealed _ _ _ _ hopen hcontinues hcounter hlimit hlength hsend hreceive) hcontinues
        ?_ ?_ (fun ⟨_, _, hentry⟩ => by cases hentry)
      · rw [sealedFrames_append]
        exact hsent.append_singleton trivial hdecode hcounter
          (hcounted.messageLimit_eq ▸ hlimit) hsend
      · rw [openedFrames_append]
        refine (hreceived.kept (fun _ => hopen) fun _ => ?_).append_nil
        exact congrArg cipher.nextN hreceive
  | openRefused encoded _ error hcontinues hclosed hsend =>
      -- the receiving cipher may have moved, but the connection is closed
      refine hcounted.extend (.openRefused _ _ _ hcontinues hclosed hsend) hcontinues ?_ ?_
        (fun _ => hclosed)
      · rw [sealedFrames_append]
        refine (hsent.kept id fun _ => ?_).append_nil
        exact congrArg cipher.nextN hsend
      · rw [openedFrames_append]
        refine (hreceived.kept ?_ ?_).append_nil
        all_goals
          intro hstill
          rw [hclosed] at hstill
          cases hstill
  | opened encoded _ frame inner hopen hcontinues hdecode hcounter hlimit hsend hreceive =>
      refine hcounted.extend
        (.opened _ _ _ _ hopen hcontinues hdecode hcounter hlimit hsend hreceive) hcontinues
        ?_ ?_ (fun ⟨_, _, hentry⟩ => by cases hentry)
      · rw [sealedFrames_append]
        refine (hsent.kept id fun _ => ?_).append_nil
        exact congrArg cipher.nextN hsend
      · rw [openedFrames_append]
        exact hreceived.append_singleton hopen (hcounted.limits_eq ▸ hdecode) hcounter
          (hcounted.messageLimit_eq ▸ hlimit) hreceive

end Step

/-- Every run of a connection whose ciphers start at nonce 0: the sealed frames
carry the counters 0, 1, 2, … below the message limit and consume exactly the
counters they carry, responses are accepted in the order of their counters, and
after a failed `openResponse` every later call fails. -/
theorem connection_counters (cipher : TransportCipher) {InnerFrame : Type}
    (codec : InnerCodec InnerFrame) (start : ClientConnection cipher)
    (hsend : start.secureSession.nextSendCounter = 0)
    (hreceive : start.secureSession.nextReceiveCounter = 0)
    (inputs : List (ConnectionCall InnerFrame)) :
    let trace := (calls cipher codec).trace start inputs
    let reached := (calls cipher codec).run start inputs
    Consecutive start.limits (sealedFrames trace) ∧
      (sealedFrames trace).length ≤ start.secureSession.messageLimit.toNat ∧
      reached.secureSession.nextSendCounter = UInt64.ofNat (sealedFrames trace).length ∧
      Consecutive start.limits (openedFrames trace) ∧
      (openedFrames trace).length ≤ start.secureSession.messageLimit.toNat ∧
      trace.Pairwise fun earlier later => FailedOpen earlier → later.2.isError = true := by
  intro trace reached
  -- Before the first call nothing was sealed, opened or refused.
  have hstart : Counted start
      ([] : List (ConnectionCall InnerFrame × ConnectionAnswer InnerFrame)) start := {
    limits_eq := rfl
    messageLimit_eq := rfl
    sealed_consecutive := rfl
    sealed_le := Nat.zero_le _
    send_eq := hsend
    opened_consecutive := rfl
    opened_le := Nat.zero_le _
    receive_eq := fun _ => hreceive
    failed_closed := fun ⟨_, hentry, _⟩ => by cases hentry
    failed_sticky := .nil }
  have hcounted : Counted start trace reached := by
    refine (calls cipher codec).history_run (Counted start) hstart ?_ inputs
    intro history connection input hcounted
    exact counted_step hcounted (call_effect codec connection input)
  exact ⟨hcounted.sealed_consecutive, hcounted.sealed_le, hcounted.send_eq,
    hcounted.opened_consecutive, hcounted.opened_le, hcounted.failed_sticky⟩

/-- A cipher state that is its nonce; its tag is sixteen zero bytes. -/
def countingCipher : TransportCipher where
  State := UInt64
  nextN := id
  encryptAd nonce _ plaintext :=
    (nonce + 1, ⟨plaintext ++ List.replicate noiseTagLen 0, by simp⟩)
  decryptAd nonce _ ciphertext :=
    if ciphertext.drop (ciphertext.length - noiseTagLen) = List.replicate noiseTagLen 0 then
      (nonce + 1, some ⟨ciphertext.take (ciphertext.length - noiseTagLen), by simp⟩)
    else
      (nonce, none)
  nextN_encryptAd _ _ _ := rfl
  nextN_decryptAd nonce associated ciphertext hsome := by
    split at hsome
    · next htag => simp [htag]
    · cases hsome

/-- A codec of inner frames that are their own bytes. -/
def rawCodec : InnerCodec (List UInt8) where
  encodeInnerFrame inner limits := do
    enforceLimit .innerFrame inner.length limits.innerFrame
    return inner
  decodeInnerFrame encoded limits := do
    enforceLimit .innerFrame encoded.length limits.innerFrame
    return encoded

def freshConnection : ClientConnection countingCipher :=
  .new ⟨List.replicate 16 7, rfl⟩ (.new (0 : UInt64) (0 : UInt64)) .default

/-- Two requests, bytes that are no frame, and a request that comes too late. -/
theorem connection_counters_fresh :
    let requestId : RequestId := ⟨List.replicate 16 9, rfl⟩
    let trace := (calls countingCipher rawCodec).trace freshConnection
      [.sealRequest requestId [1], .sealRequest requestId [2, 3], .openResponse [4],
        .sealRequest requestId [5]]
    Consecutive freshConnection.limits (sealedFrames trace) ∧
      (sealedFrames trace).length ≤ 2 ^ 20 ∧
      trace.Pairwise fun earlier later => FailedOpen earlier → later.2.isError = true := by
  intro requestId trace
  obtain ⟨hconsecutive, hlimit, -, -, -, hsticky⟩ :=
    connection_counters countingCipher rawCodec freshConnection rfl rfl
      [.sealRequest requestId [1], .sealRequest requestId [2, 3], .openResponse [4],
        .sealRequest requestId [5]]
  exact ⟨hconsecutive, hlimit, hsticky⟩

end ClientConnection
end Ceylith
end Lirvena
