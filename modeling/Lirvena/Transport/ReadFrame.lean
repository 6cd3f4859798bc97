import Lirvena.Lib.Bytes
import Lirvena.Lib.Framing
import Lirvena.Lib.Run

/-!
# Reading frames from the server

`readFrame` is an asynchronous function that can be dropped wherever it waits
and that ends in an error when a read times out.  It keeps its progress in the
transport, so that the next call goes on where the last one stopped.

A call is modelled with the outcomes that its reads will have, in order: the
call consumes one for each read that completes, and is dropped at the first read
for which there is none.  A read that does not complete consumes no byte of the
stream.
-/

namespace Lirvena
namespace Transport

open Lib

/-- Redacted QQ transport failure. -/
inductive TransportError where
  | invalidConfiguration
  | invalidFrame
  | io
  | timeout
  deriving DecidableEq

/-- Hard maximum frame accepted by this transport implementation. -/
def hardMaxFrameLen : Nat := 2 * 1024 * 1024

/-- Bounded timeout and frame configuration; the timeouts count nanoseconds. -/
structure TransportConfig where
  connectTimeout : Nat
  ioTimeout : Nat
  maximumFrameLen : Nat
  connectTimeout_ne_zero : connectTimeout ≠ 0
  ioTimeout_ne_zero : ioTimeout ≠ 0
  minimum_le : 4 ≤ maximumFrameLen
  le_hardMax : maximumFrameLen ≤ hardMaxFrameLen

namespace TransportConfig

/-- Refuses zero timeouts and an invalid frame bound. -/
def new (connectTimeout ioTimeout maximumFrameLen : Nat) :
    Except TransportError TransportConfig :=
  if h : connectTimeout = 0 ∨ ioTimeout = 0 ∨ maximumFrameLen < 4 ∨
      hardMaxFrameLen < maximumFrameLen then
    .error .invalidConfiguration
  else
    .ok {
      connectTimeout, ioTimeout, maximumFrameLen
      connectTimeout_ne_zero := by omega
      ioTimeout_ne_zero := by omega
      minimum_le := by omega
      le_hardMax := by omega }

/-- The configuration of a transport that is given none. -/
def default : TransportConfig where
  connectTimeout := 10 * 1000000000
  ioTimeout := 15 * 1000000000
  maximumFrameLen := hardMaxFrameLen
  connectTimeout_ne_zero := by decide
  ioTimeout_ne_zero := by decide
  minimum_le := by decide
  le_hardMax := Nat.le_refl _

/-- Every configuration passes the check of its own values, and no other value does. -/
theorem new_eq_ok_iff {connectTimeout ioTimeout maximumFrameLen : Nat}
    {config : TransportConfig} :
    new connectTimeout ioTimeout maximumFrameLen = .ok config ↔
      config.connectTimeout = connectTimeout ∧ config.ioTimeout = ioTimeout ∧
        config.maximumFrameLen = maximumFrameLen := by
  unfold new
  split
  · next hinvalid =>
      constructor
      · intro hnew
        cases hnew
      · rintro ⟨rfl, rfl, rfl⟩
        have hconnect := config.connectTimeout_ne_zero
        have hio := config.ioTimeout_ne_zero
        have hlow := config.minimum_le
        have hhigh := config.le_hardMax
        omega
  · constructor
    · intro hnew
      cases hnew
      exact ⟨rfl, rfl, rfl⟩
    · rintro ⟨rfl, rfl, rfl⟩
      rfl

end TransportConfig

/-- What one read of the stream does: it is ready with at most so many bytes (no
byte at all at the end of the stream), its deadline elapses, or it fails. -/
inductive ReadOutcome where
  | ready (count : Nat)
  | elapsed
  | failed
  deriving DecidableEq

/-- How a call ends: with a frame, with an error, or by being dropped. -/
inductive FrameResult where
  | frame (bytes : List UInt8)
  | error (error : TransportError)
  | cancelled
  deriving DecidableEq

/-- A length-delimited transport; `stream` is what the server sends from here on. -/
structure QqTransport where
  stream : List UInt8
  config : TransportConfig
  readPrefix : List UInt8
  readPrefixLen : Nat
  readFrameBuffer : List UInt8
  readFrameLen : Nat

def QqTransport.fromStream (stream : List UInt8) (config : TransportConfig) :
    QqTransport where
  stream := stream
  config := config
  readPrefix := List.replicate 4 0
  readPrefixLen := 0
  readFrameBuffer := []
  readFrameLen := 0

/-- A buffer that is filled from the stream. -/
structure Fill where
  stream : List UInt8
  buffer : List UInt8
  filled : Nat

inductive FillExit where
  | full (rest : List ReadOutcome)
  | stopped (result : FrameResult)

/-- The loop that fills a buffer, for the prefix and for the frame alike. -/
def fill : List ReadOutcome → Fill → Fill × FillExit
  | [], state =>
      if state.filled < state.buffer.length then (state, .stopped .cancelled)
      else (state, .full [])
  | outcome :: rest, state =>
      if state.filled < state.buffer.length then
        match outcome with
        | .elapsed => (state, .stopped (.error .timeout))
        | .failed => (state, .stopped (.error .io))
        | .ready count =>
            let room := state.buffer.length - state.filled
            let bytes := state.stream.take (min count room)
            -- a count of zero is the end of the stream
            if bytes.length = 0 then (state, .stopped (.error .io))
            else
              fill rest {
                stream := state.stream.drop bytes.length
                buffer := writeAt state.buffer state.filled bytes
                filled := state.filled + bytes.length }
      else (state, .full (outcome :: rest))

namespace QqTransport

/-- A frame of the declared length that begins with the prefix. -/
def opening (transport : QqTransport) (declared : Nat) : QqTransport :=
  { transport with
    readFrameBuffer := writeAt (List.replicate declared 0) 0 transport.readPrefix
    readFrameLen := transport.readPrefix.length }

/-- Between the loops: a complete prefix opens the frame it declares. -/
def openFrame (transport : QqTransport) : Except TransportError QqTransport :=
  if transport.readFrameBuffer = [] then
    let declared := beNat transport.readPrefix
    if declared < transport.readPrefix.length ∨
        transport.config.maximumFrameLen < declared then
      .error .invalidFrame
    else
      .ok (transport.opening declared)
  else
    .ok transport

def withPrefix (transport : QqTransport) (fill : Fill) : QqTransport :=
  { transport with
    stream := fill.stream
    readPrefix := fill.buffer
    readPrefixLen := fill.filled }

def withFrame (transport : QqTransport) (fill : Fill) : QqTransport :=
  { transport with
    stream := fill.stream
    readFrameBuffer := fill.buffer
    readFrameLen := fill.filled }

/-- The second loop, which ends with the frame. -/
def finishFrame (transport : QqTransport) (outcomes : List ReadOutcome) :
    QqTransport × FrameResult :=
  match fill outcomes
      ⟨transport.stream, transport.readFrameBuffer, transport.readFrameLen⟩ with
  | (body, .stopped result) => (transport.withFrame body, result)
  | (body, .full _) =>
      ({ transport.withFrame body with
          readPrefixLen := 0
          readFrameLen := 0
          readFrameBuffer := [] },
        .frame body.buffer)

/-- The second half of `readFrame`, with a complete prefix. -/
def readBody (transport : QqTransport) (outcomes : List ReadOutcome) :
    QqTransport × FrameResult :=
  match transport.openFrame with
  | .error error => (transport, .error error)
  | .ok opened => opened.finishFrame outcomes

/-- Reads one length-delimited complete frame. -/
def readFrame (transport : QqTransport) (outcomes : List ReadOutcome) :
    QqTransport × FrameResult :=
  match fill outcomes ⟨transport.stream, transport.readPrefix, transport.readPrefixLen⟩ with
  | (front, .stopped result) => (transport.withPrefix front, result)
  | (front, .full rest) => (transport.withPrefix front).readBody rest

/-- One call after another on one transport. -/
def reader : Machine QqTransport (List ReadOutcome) FrameResult where
  step := readFrame

end QqTransport

/-! ## Filling a buffer -/

/-- What a run of the loop leaves: the bytes it took from the stream are behind
those that were there before, and it stops only in front of a missing byte. -/
structure Filled (before after : Fill) (exit : FillExit) : Prop where
  length_eq : after.buffer.length = before.buffer.length
  filled_le : after.filled ≤ after.buffer.length
  mono : before.filled ≤ after.filled
  bytes_eq : after.buffer.take after.filled ++ after.stream =
    before.buffer.take before.filled ++ before.stream
  full_iff : (∃ rest, exit = .full rest) ↔ after.filled = after.buffer.length
  not_frame : ∀ result, exit = .stopped result →
    result = .cancelled ∨ result = .error .timeout ∨ result = .error .io

theorem Filled.stopped {state : Fill} {result : FrameResult}
    (hroom : state.filled < state.buffer.length)
    (hresult : result = .cancelled ∨ result = .error .timeout ∨ result = .error .io) :
    Filled state state (.stopped result) where
  length_eq := rfl
  filled_le := Nat.le_of_lt hroom
  mono := Nat.le_refl _
  bytes_eq := rfl
  full_iff := by
    constructor
    · rintro ⟨rest, hexit⟩
      cases hexit
    · intro hfull
      omega
  not_frame stopped hstopped := by
    cases hstopped
    exact hresult

theorem Filled.full {state : Fill} {rest : List ReadOutcome}
    (hfull : state.filled = state.buffer.length) : Filled state state (.full rest) where
  length_eq := rfl
  filled_le := Nat.le_of_eq hfull
  mono := Nat.le_refl _
  bytes_eq := rfl
  full_iff := ⟨fun _ => hfull, fun _ => ⟨rest, rfl⟩⟩
  not_frame stopped hstopped := by cases hstopped

theorem fill_filled (outcomes : List ReadOutcome) (state : Fill)
    (hstate : state.filled ≤ state.buffer.length) :
    Filled state (fill outcomes state).1 (fill outcomes state).2 := by
  induction outcomes generalizing state with
  | nil =>
      unfold fill
      split
      · next hroom => exact .stopped hroom (Or.inl rfl)
      · next hroom => exact .full (by omega)
  | cons outcome rest ih =>
      unfold fill
      split
      · next hroom =>
          cases outcome with
          | elapsed => exact .stopped hroom (Or.inr (Or.inl rfl))
          | failed => exact .stopped hroom (Or.inr (Or.inr rfl))
          | ready count =>
              -- a read gets at most what it asked for and what the stream has left
              let bytes := state.stream.take (min count (state.buffer.length - state.filled))
              have hbytes : bytes.length ≤ state.buffer.length - state.filled := by
                simp only [bytes, List.length_take]
                omega
              have hfits : state.filled + bytes.length ≤ state.buffer.length := by omega
              simp only
              split
              · exact .stopped hroom (Or.inr (Or.inr rfl))
              · let advanced : Fill := {
                  stream := state.stream.drop bytes.length
                  buffer := writeAt state.buffer state.filled bytes
                  filled := state.filled + bytes.length }
                have hlength : advanced.buffer.length = state.buffer.length :=
                  writeAt_length hfits
                have hrest := ih advanced (by rw [hlength]; exact hfits)
                have hsplit : bytes ++ state.stream.drop bytes.length = state.stream :=
                  take_append_drop_taken _ _
                exact {
                  length_eq := hrest.length_eq.trans hlength
                  filled_le := hrest.filled_le
                  mono := (Nat.le_add_right _ _).trans hrest.mono
                  bytes_eq := by
                    rw [hrest.bytes_eq]
                    change (writeAt state.buffer state.filled bytes).take
                      (state.filled + bytes.length) ++ state.stream.drop bytes.length = _
                    rw [take_writeAt hstate, List.append_assoc, hsplit]
                  full_iff := hrest.full_iff
                  not_frame := hrest.not_frame }
      · next hroom => exact .full (by omega)

theorem fill_of_full {state : Fill} (hfull : state.filled = state.buffer.length)
    (outcomes : List ReadOutcome) : fill outcomes state = (state, .full outcomes) := by
  have hroom : ¬ state.filled < state.buffer.length := by omega
  cases outcomes with
  | nil =>
      unfold fill
      exact if_neg hroom
  | cons outcome rest =>
      unfold fill
      exact if_neg hroom

/-! ## One call -/

/-- The frames of a configuration. -/
def TransportConfig.format (config : TransportConfig) : FrameFormat UInt8 where
  headerLen := 4
  maximum := config.maximumFrameLen
  declared := beNat
  headerLen_pos := Nat.succ_pos 3

namespace QqTransport

/-- The bytes taken from the stream that no returned frame contains. -/
def buffered (transport : QqTransport) : List UInt8 :=
  if transport.readFrameBuffer = [] then
    transport.readPrefix.take transport.readPrefixLen
  else
    transport.readFrameBuffer.take transport.readFrameLen

/-- A frame is being read: its buffer has the declared length and begins with
the prefix. -/
structure Opened (transport : QqTransport) : Prop where
  prefix_length : transport.readPrefix.length = 4
  prefixLen_eq : transport.readPrefixLen = 4
  within : transport.config.format.WithinLimits transport.readFrameBuffer.length
  declared_eq : beNat transport.readPrefix = transport.readFrameBuffer.length
  take_eq : transport.readFrameBuffer.take 4 = transport.readPrefix
  prefix_le : 4 ≤ transport.readFrameLen
  frameLen_le : transport.readFrameLen ≤ transport.readFrameBuffer.length

/-- No frame is being read, or one is. -/
inductive WellFormed (transport : QqTransport) : Prop where
  | between (hbuffer : transport.readFrameBuffer = [])
      (hfront : transport.readPrefix.length = 4)
      (hprefixLen : transport.readPrefixLen ≤ 4)
  | within (hopened : transport.Opened)

end QqTransport

/-- The frame that a call returns, if any. -/
def FrameResult.frames : FrameResult → List (List UInt8)
  | .frame bytes => [bytes]
  | _ => []

theorem FrameResult.mem_frames {result : FrameResult} {bytes : List UInt8} :
    bytes ∈ result.frames ↔ result = .frame bytes := by
  cases result <;> simp [FrameResult.frames, eq_comm]

theorem FrameResult.frames_eq_nil {result : FrameResult}
    (hnone : ∀ bytes, result ≠ .frame bytes) : result.frames = [] := by
  rw [List.eq_nil_iff_forall_not_mem]
  intro bytes hmem
  exact hnone bytes (FrameResult.mem_frames.mp hmem)

/-- What one call does: the bytes it took are those of the frame it returns, if
any, and those it keeps; what it keeps is not a frame, and is refused exactly
when its header is complete and declares a length outside the limits. -/
structure CallSpec (before after : QqTransport) (result : FrameResult) : Prop where
  wellFormed : after.WellFormed
  config_eq : after.config = before.config
  bytes_eq : before.buffered ++ before.stream =
    result.frames.flatten ++ (after.buffered ++ after.stream)
  frame : ∀ bytes, result = .frame bytes →
    before.config.format.IsFrame bytes ∧ after.buffered = []
  rejected_iff : result = .error .invalidFrame ↔
    before.config.format.Invalid after.buffered
  pending : before.config.format.Incomplete after.buffered ∨
    before.config.format.Invalid after.buffered

namespace QqTransport

variable {transport : QqTransport}

theorem buffered_between (hbuffer : transport.readFrameBuffer = []) :
    transport.buffered = transport.readPrefix.take transport.readPrefixLen :=
  if_pos hbuffer

theorem Opened.buffer_ne_nil (hopened : transport.Opened) :
    transport.readFrameBuffer ≠ [] := by
  intro hnil
  have hle := hopened.prefix_le
  have hlen := hopened.frameLen_le
  rw [hnil, List.length_nil] at hlen
  omega

/-- The header of what is kept of an opened frame. -/
theorem Opened.declaredAt (hopened : transport.Opened) {units : List UInt8}
    (hunits : units.take 4 = transport.readPrefix) :
    transport.config.format.declaredAt units = transport.readFrameBuffer.length := by
  change beNat (units.take 4) = _
  rw [hunits, hopened.declared_eq]

/-- An opened frame after its buffer has been filled further. -/
theorem Opened.withFrame (hopened : transport.Opened) {body : Fill} {exit : FillExit}
    (hfilled : Filled ⟨transport.stream, transport.readFrameBuffer, transport.readFrameLen⟩
      body exit) : (transport.withFrame body).Opened := by
  have hlength : body.buffer.length = transport.readFrameBuffer.length := hfilled.length_eq
  -- A fill neither resizes the buffer nor takes back what was there.
  have hmono : transport.readFrameLen ≤ body.filled := hfilled.mono
  have hfront := hopened.prefix_le
  have hlen := hopened.frameLen_le
  have hle := hfilled.filled_le
  refine {
    prefix_length := hopened.prefix_length
    prefixLen_eq := hopened.prefixLen_eq
    within := ?_
    declared_eq := hopened.declared_eq.trans hlength.symm
    take_eq := ?_
    prefix_le := hfront.trans hmono
    frameLen_le := hle }
  · change transport.config.format.WithinLimits body.buffer.length
    rw [hlength]
    exact hopened.within
  · -- the first bytes of the buffer are among those filled before
    have hbytes := congrArg (List.take 4) hfilled.bytes_eq
    rw [List.take_append_of_le_length, List.take_append_of_le_length, List.take_take,
      List.take_take, Nat.min_eq_left (hfront.trans hmono),
      Nat.min_eq_left hfront] at hbytes
    · exact hbytes.trans hopened.take_eq
    · simp only [List.length_take]
      omega
    · simp only [List.length_take]
      omega

theorem Opened.buffered_eq (hopened : transport.Opened) :
    transport.buffered = transport.readFrameBuffer.take transport.readFrameLen :=
  if_neg hopened.buffer_ne_nil

/-- An opened frame that is not full is incomplete. -/
theorem Opened.incomplete (hopened : transport.Opened)
    (hroom : transport.readFrameLen ≠ transport.readFrameBuffer.length) :
    transport.config.format.Incomplete transport.buffered := by
  have hfront := hopened.prefix_le
  have hle := hopened.frameLen_le
  have hheader : transport.buffered.take 4 = transport.readPrefix := by
    rw [hopened.buffered_eq, List.take_take, Nat.min_eq_left hfront, hopened.take_eq]
  have hdeclared := hopened.declaredAt hheader
  -- the header is there, and fewer bytes than it declares
  refine Or.inr ⟨?_, ?_⟩
  · rw [hdeclared]
    exact hopened.within
  · rw [hdeclared, hopened.buffered_eq, List.length_take]
    omega

/-- An opened frame that is full is a frame. -/
theorem Opened.isFrame (hopened : transport.Opened) :
    transport.config.format.IsFrame transport.readFrameBuffer where
  within := hopened.within
  declared_eq := hopened.declaredAt hopened.take_eq

theorem opening_opened (hfront : transport.readPrefix.length = 4)
    (hprefixLen : transport.readPrefixLen = 4)
    (hwithin : transport.config.format.WithinLimits (beNat transport.readPrefix)) :
    (transport.opening (beNat transport.readPrefix)).Opened ∧
      (transport.opening (beNat transport.readPrefix)).buffered = transport.readPrefix := by
  let opened := transport.opening (beNat transport.readPrefix)
  have hlow : 4 ≤ beNat transport.readPrefix := hwithin.1
  have hroom : (List.replicate (beNat transport.readPrefix) (0 : UInt8)).length =
      beNat transport.readPrefix := List.length_replicate
  have hlength : opened.readFrameBuffer.length = beNat transport.readPrefix := by
    refine (writeAt_length ?_).trans hroom
    rw [hroom, Nat.zero_add, hfront]
    exact hlow
  -- The prefix is copied to the front of the new buffer.
  have htake : opened.readFrameBuffer.take (0 + transport.readPrefix.length) =
      transport.readPrefix := take_writeAt (Nat.zero_le _)
  rw [Nat.zero_add, hfront] at htake
  have hframeLen : opened.readFrameLen = 4 := hfront
  have hopened : opened.Opened := {
    prefix_length := hfront
    prefixLen_eq := hprefixLen
    within := by
      rw [hlength]
      exact hwithin
    declared_eq := hlength.symm
    take_eq := htake
    prefix_le := Nat.le_of_eq hframeLen.symm
    frameLen_le := by
      rw [hlength, hframeLen]
      exact hlow }
  refine ⟨hopened, ?_⟩
  rw [hopened.buffered_eq, hframeLen, htake]

/-- What `openFrame` does with a complete prefix between two frames. -/
theorem openFrame_spec (hbuffer : transport.readFrameBuffer = [])
    (hfront : transport.readPrefix.length = 4) (hprefixLen : transport.readPrefixLen = 4) :
    (∃ opened, transport.openFrame = .ok opened ∧ opened.Opened ∧
      opened.buffered = transport.buffered ∧ opened.stream = transport.stream ∧
      opened.config = transport.config) ∨
    (transport.openFrame = .error .invalidFrame ∧
      transport.config.format.Invalid transport.buffered) := by
  have hkept : transport.buffered = transport.readPrefix := by
    rw [buffered_between hbuffer, hprefixLen, ← hfront, List.take_length]
  have hdeclared : transport.config.format.declaredAt transport.readPrefix =
      beNat transport.readPrefix :=
    congrArg beNat (List.take_of_length_le (Nat.le_of_eq hfront))
  -- The two checks of the source are the limits of the format.
  have hguard : (beNat transport.readPrefix < transport.readPrefix.length ∨
      transport.config.maximumFrameLen < beNat transport.readPrefix) ↔
      ¬ transport.config.format.WithinLimits (beNat transport.readPrefix) := by
    change _ ↔ ¬ (4 ≤ _ ∧ _ ≤ transport.config.maximumFrameLen)
    rw [hfront]
    omega
  simp only [openFrame, if_pos hbuffer, hguard]
  by_cases hwithin : transport.config.format.WithinLimits (beNat transport.readPrefix)
  · obtain ⟨hopened, hbuffered⟩ := opening_opened hfront hprefixLen hwithin
    refine Or.inl ⟨_, if_neg (not_not_intro hwithin), hopened, ?_, rfl, rfl⟩
    rw [hbuffered, hkept]
  · refine Or.inr ⟨if_pos hwithin, ?_⟩
    rw [hkept]
    refine ⟨Nat.le_of_eq hfront.symm, ?_⟩
    rw [hdeclared]
    exact hwithin

end QqTransport

end Transport
end Lirvena
