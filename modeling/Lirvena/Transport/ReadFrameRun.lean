import Lirvena.Transport.ReadFrame

/-!
# The frames of a stream

Every call of `readFrame` accounts for the bytes it takes from the stream: they
are those of the frame it returns and those it keeps.  The frames returned so
far are therefore the framing of the bytes consumed so far, however the stream
is split into reads and wherever the calls were dropped.  A call whose reads are
ready in time gets the next frame of the stream if there is one.
-/

namespace Lirvena
namespace Transport

open Lib

/-! ## One call -/

theorem CallSpec.of_kept {before same after : QqTransport} {result : FrameResult}
    (hspec : CallSpec same after result)
    (hbytes : same.buffered ++ same.stream = before.buffered ++ before.stream)
    (hconfig : same.config = before.config) : CallSpec before after result where
  wellFormed := hspec.wellFormed
  config_eq := hspec.config_eq.trans hconfig
  bytes_eq := hbytes.symm.trans hspec.bytes_eq
  frame := by
    rw [← hconfig]
    exact hspec.frame
  rejected_iff := by
    rw [← hconfig]
    exact hspec.rejected_iff
  pending := by
    rw [← hconfig]
    exact hspec.pending

/-- A call that stops in front of a missing byte. -/
theorem CallSpec.stopped {before after : QqTransport} {result : FrameResult}
    (hwellFormed : after.WellFormed) (hconfig : after.config = before.config)
    (hbytes : after.buffered ++ after.stream = before.buffered ++ before.stream)
    (hincomplete : before.config.format.Incomplete after.buffered)
    (hresult : result = .cancelled ∨ result = .error .timeout ∨ result = .error .io) :
    CallSpec before after result where
  wellFormed := hwellFormed
  config_eq := hconfig
  bytes_eq := by
    rcases hresult with rfl | rfl | rfl <;> exact hbytes.symm
  frame bytes hframe := by
    rcases hresult with rfl | rfl | rfl <;> cases hframe
  rejected_iff := by
    constructor
    · rintro rfl
      rcases hresult with hresult | hresult | hresult <;> cases hresult
    · intro hinvalid
      exact absurd hincomplete hinvalid.not_incomplete
  pending := Or.inl hincomplete

namespace QqTransport

variable {transport : QqTransport}

/-- The second loop and what follows it. -/
theorem Opened.finishFrame_spec (hopened : transport.Opened) (outcomes : List ReadOutcome) :
    CallSpec transport (transport.finishFrame outcomes).1
      (transport.finishFrame outcomes).2 := by
  have hfilled := fill_filled outcomes
    ⟨transport.stream, transport.readFrameBuffer, transport.readFrameLen⟩ hopened.frameLen_le
  unfold finishFrame
  rcases hfill : fill outcomes
    ⟨transport.stream, transport.readFrameBuffer, transport.readFrameLen⟩ with ⟨body, exit⟩
  rw [hfill] at hfilled
  have hafter : (transport.withFrame body).Opened := hopened.withFrame hfilled
  have hbytes : body.buffer.take body.filled ++ body.stream =
      transport.buffered ++ transport.stream := by
    rw [hopened.buffered_eq]
    exact hfilled.bytes_eq
  cases exit with
  | stopped result =>
      have hroom : body.filled ≠ body.buffer.length := by
        intro hfull
        obtain ⟨rest, hrest⟩ := hfilled.full_iff.mpr hfull
        cases hrest
      refine CallSpec.stopped (.within hafter) rfl ?_ ?_ (hfilled.not_frame result rfl)
      · rw [hafter.buffered_eq]
        exact hbytes
      · exact hafter.incomplete hroom
  | full rest =>
      have hfull : body.filled = body.buffer.length := hfilled.full_iff.mp ⟨rest, rfl⟩
      have hframe : transport.config.format.IsFrame body.buffer := hafter.isFrame
      -- the whole buffer is returned, and nothing is kept of it
      have hempty : transport.config.format.Incomplete [] := FrameFormat.incomplete_nil _
      rw [hfull, List.take_length] at hbytes
      exact {
        wellFormed := .between rfl hopened.prefix_length (Nat.zero_le 4)
        config_eq := rfl
        bytes_eq := by
          change _ = (body.buffer ++ []) ++ body.stream
          rw [List.append_nil]
          exact hbytes.symm
        frame := by
          rintro bytes ⟨⟩
          exact ⟨hframe, rfl⟩
        rejected_iff := by
          refine ⟨fun hrejected => (by cases hrejected), fun hinvalid => ?_⟩
          exact absurd hempty hinvalid.not_incomplete
        pending := Or.inl hempty }

/-- The second half of a call, between two frames. -/
theorem readBody_spec (hbuffer : transport.readFrameBuffer = [])
    (hfront : transport.readPrefix.length = 4) (hprefixLen : transport.readPrefixLen = 4)
    (outcomes : List ReadOutcome) :
    CallSpec transport (transport.readBody outcomes).1 (transport.readBody outcomes).2 := by
  unfold readBody
  obtain ⟨opened, hopen, hopened, hkept, hstream, hconfig⟩ | ⟨hopen, hinvalid⟩ :=
    openFrame_spec hbuffer hfront hprefixLen
  · rw [hopen]
    refine (hopened.finishFrame_spec outcomes).of_kept ?_ hconfig
    rw [hkept, hstream]
  · rw [hopen]
    exact {
      wellFormed := .between hbuffer hfront (Nat.le_of_eq hprefixLen)
      config_eq := rfl
      bytes_eq := rfl
      frame := fun bytes hframe => by cases hframe
      rejected_iff := ⟨fun _ => hinvalid, fun _ => rfl⟩
      pending := Or.inr hinvalid }

/-- The second half of a call, within a frame. -/
theorem Opened.readBody_eq (hopened : transport.Opened) (outcomes : List ReadOutcome) :
    transport.readBody outcomes = transport.finishFrame outcomes := by
  simp only [readBody, openFrame, if_neg hopened.buffer_ne_nil]

/-- Within a frame the first loop does nothing. -/
theorem Opened.readFrame_eq (hopened : transport.Opened) (outcomes : List ReadOutcome) :
    transport.readFrame outcomes = transport.finishFrame outcomes := by
  have hfull : transport.readPrefixLen = transport.readPrefix.length :=
    hopened.prefixLen_eq.trans hopened.prefix_length.symm
  unfold readFrame
  rw [fill_of_full hfull]
  exact hopened.readBody_eq outcomes

theorem readFrame_spec (hwellFormed : transport.WellFormed) (outcomes : List ReadOutcome) :
    CallSpec transport (transport.readFrame outcomes).1 (transport.readFrame outcomes).2 := by
  cases hwellFormed with
  | within hopened =>
      rw [hopened.readFrame_eq]
      exact hopened.finishFrame_spec outcomes
  | between hbuffer hfront hprefixLen =>
      have hfilled := fill_filled outcomes
        ⟨transport.stream, transport.readPrefix, transport.readPrefixLen⟩
        (hprefixLen.trans (Nat.le_of_eq hfront.symm))
      unfold readFrame
      rcases hfill : fill outcomes
        ⟨transport.stream, transport.readPrefix, transport.readPrefixLen⟩ with ⟨front, exit⟩
      rw [hfill] at hfilled
      have hlength : front.buffer.length = 4 := hfilled.length_eq.trans hfront
      have hkept : (transport.withPrefix front).buffered = front.buffer.take front.filled :=
        buffered_between hbuffer
      have hbytes : (transport.withPrefix front).buffered ++ front.stream =
          transport.buffered ++ transport.stream := by
        rw [hkept, buffered_between hbuffer]
        exact hfilled.bytes_eq
      have hle : front.filled ≤ 4 := by
        rw [← hlength]
        exact hfilled.filled_le
      -- the first loop stops within the prefix or completes it
      cases exit with
      | stopped result =>
          have hroom : front.filled < 4 := by
            rcases Nat.lt_or_eq_of_le hle with hlt | hfull
            · exact hlt
            · obtain ⟨rest, hrest⟩ := hfilled.full_iff.mpr (hfull.trans hlength.symm)
              cases hrest
          refine CallSpec.stopped (.between hbuffer hlength hle) rfl hbytes (Or.inl ?_)
            (hfilled.not_frame result rfl)
          rw [hkept, List.length_take]
          exact Nat.lt_of_le_of_lt (Nat.min_le_left _ _) hroom
      | full rest =>
          have hfull : front.filled = 4 :=
            (hfilled.full_iff.mp ⟨rest, rfl⟩).trans hlength
          have hbody :=
            readBody_spec (show (transport.withPrefix front).readFrameBuffer = [] from hbuffer)
            hlength hfull rest
          exact hbody.of_kept hbytes rfl

end QqTransport

/-! ## Calls that are not dropped -/

/-- Reads that are ready in time with at least one byte. -/
def AllReady (outcomes : List ReadOutcome) : Prop :=
  ∀ outcome ∈ outcomes, ∃ count, 0 < count ∧ outcome = .ready count

/-- The reads of a call that is not dropped, as many as a frame can need. -/
structure Productive (config : TransportConfig) (outcomes : List ReadOutcome) : Prop where
  ready : AllReady outcomes
  enough : 4 + config.maximumFrameLen ≤ outcomes.length

/-- With reads that are ready the loop fills its buffer or finds the end of the
stream. -/
theorem fill_ready (outcomes : List ReadOutcome) (state : Fill)
    (hready : AllReady outcomes) (hstate : state.filled ≤ state.buffer.length)
    (henough : state.buffer.length ≤ state.filled + outcomes.length) :
    (∃ rest, (fill outcomes state).2 = .full rest ∧ AllReady rest ∧
      outcomes.length + state.filled ≤ rest.length + state.buffer.length) ∨
    ((fill outcomes state).2 = .stopped (.error .io) ∧
      (fill outcomes state).1.stream = []) := by
  induction outcomes generalizing state with
  | nil =>
      rw [List.length_nil, Nat.add_zero] at henough
      rw [fill_of_full (Nat.le_antisymm hstate henough)]
      exact Or.inl ⟨[], rfl, hready, by simpa using hstate⟩
  | cons outcome rest ih =>
      by_cases hroom : state.filled < state.buffer.length
      · obtain ⟨count, hcount, rfl⟩ := hready outcome List.mem_cons_self
        have hrest : AllReady rest := fun other hother =>
          hready other (List.mem_cons_of_mem _ hother)
        let bytes := state.stream.take (min count (state.buffer.length - state.filled))
        have hbytes : bytes.length ≤ state.buffer.length - state.filled := by
          simp only [bytes, List.length_take]
          omega
        simp only [fill, if_pos hroom]
        split
        · next hnone =>
            -- a read with room and no byte is the end of the stream
            rw [List.length_take] at hnone
            have hend : state.stream = [] := List.length_eq_zero_iff.mp (by omega)
            exact Or.inr ⟨rfl, hend⟩
        · next hsome =>
            change ¬ bytes.length = 0 at hsome
            have hfits : state.filled + bytes.length ≤ state.buffer.length := by omega
            have hlength := writeAt_length hfits
            have hnext := ih ⟨state.stream.drop bytes.length,
              writeAt state.buffer state.filled bytes, state.filled + bytes.length⟩ hrest
            rw [List.length_cons] at henough ⊢
            simp only [hlength] at hnext
            rcases hnext hfits (by omega) with ⟨left, hfull, hleft, hcost⟩ | hend
            · exact Or.inl ⟨left, hfull, hleft, by omega⟩
            · exact Or.inr hend
      · rw [fill_of_full (by omega)]
        exact Or.inl ⟨outcome :: rest, rfl, hready, by omega⟩

namespace QqTransport

variable {transport : QqTransport}

/-- A call that is not dropped returns, unless the stream is at its end. -/
def Settles (call : QqTransport × FrameResult) : Prop :=
  (∃ bytes, call.2 = .frame bytes) ∨ call.2 = .error .invalidFrame ∨ call.1.stream = []

theorem Opened.finishFrame_settles (hopened : transport.Opened) {outcomes : List ReadOutcome}
    (hready : AllReady outcomes)
    (henough : transport.config.maximumFrameLen ≤ 4 + outcomes.length) :
    Settles (transport.finishFrame outcomes) := by
  have hhigh : transport.readFrameBuffer.length ≤ transport.config.maximumFrameLen :=
    hopened.within.2
  have hlow := hopened.prefix_le
  have hfill := fill_ready outcomes
    ⟨transport.stream, transport.readFrameBuffer, transport.readFrameLen⟩ hready
    hopened.frameLen_le (show transport.readFrameBuffer.length ≤
      transport.readFrameLen + outcomes.length by omega)
  unfold finishFrame
  rcases hresult : fill outcomes
    ⟨transport.stream, transport.readFrameBuffer, transport.readFrameLen⟩ with ⟨body, exit⟩
  rw [hresult] at hfill
  cases exit with
  | full rest => exact Or.inl ⟨body.buffer, rfl⟩
  | stopped result =>
      rcases hfill with ⟨rest, hfull, -⟩ | ⟨-, hend⟩
      · cases hfull
      · exact Or.inr (Or.inr hend)

theorem readBody_settles (hbuffer : transport.readFrameBuffer = [])
    (hfront : transport.readPrefix.length = 4) (hprefixLen : transport.readPrefixLen = 4)
    {outcomes : List ReadOutcome} (hready : AllReady outcomes)
    (henough : transport.config.maximumFrameLen ≤ 4 + outcomes.length) :
    Settles (transport.readBody outcomes) := by
  unfold readBody
  obtain ⟨opened, hopen, hopened, -, -, hconfig⟩ | ⟨hopen, -⟩ :=
    openFrame_spec hbuffer hfront hprefixLen
  · rw [hopen]
    rw [← hconfig] at henough
    exact hopened.finishFrame_settles hready henough
  · rw [hopen]
    exact Or.inr (Or.inl rfl)

theorem readFrame_settles (hwellFormed : transport.WellFormed) {outcomes : List ReadOutcome}
    (hproductive : Productive transport.config outcomes) :
    Settles (transport.readFrame outcomes) := by
  obtain ⟨hready, henough⟩ := hproductive
  cases hwellFormed with
  | within hopened =>
      rw [hopened.readFrame_eq]
      exact hopened.finishFrame_settles hready (by omega)
  | between hbuffer hfront hprefixLen =>
      have hstate : transport.readPrefixLen ≤ transport.readPrefix.length :=
        hprefixLen.trans (Nat.le_of_eq hfront.symm)
      have hfill := fill_ready outcomes
        ⟨transport.stream, transport.readPrefix, transport.readPrefixLen⟩ hready hstate
        (show transport.readPrefix.length ≤ transport.readPrefixLen + outcomes.length by omega)
      have hfilled := fill_filled outcomes
        ⟨transport.stream, transport.readPrefix, transport.readPrefixLen⟩ hstate
      unfold readFrame
      rcases hresult : fill outcomes
        ⟨transport.stream, transport.readPrefix, transport.readPrefixLen⟩ with ⟨front, exit⟩
      rw [hresult] at hfill hfilled
      cases exit with
      | stopped result =>
          rcases hfill with ⟨rest, hfull, -⟩ | ⟨-, hend⟩
          · cases hfull
          · exact Or.inr (Or.inr hend)
      | full rest =>
          -- the prefix costs at most four reads, the rest is left for the body
          have hlength : front.buffer.length = 4 := hfilled.length_eq.trans hfront
          have hfull : front.filled = 4 := (hfilled.full_iff.mp ⟨rest, rfl⟩).trans hlength
          rcases hfill with ⟨left, hexit, hleft, hcost⟩ | ⟨hexit, -⟩
          · cases hexit
            rw [hfront] at hcost
            exact readBody_settles
              (show (transport.withPrefix front).readFrameBuffer = [] from hbuffer)
              hlength hfull hleft (show transport.config.maximumFrameLen ≤ _ by omega)
          · cases hexit

/-- What a call that is not dropped does to the framing of the bytes in front of
it: it returns the first frame, and refuses exactly an invalid header. -/
theorem readFrame_next (hwellFormed : transport.WellFormed) {outcomes : List ReadOutcome}
    (hproductive : Productive transport.config outcomes) :
    let call := transport.readFrame outcomes
    let format := transport.config.format
    let pending := format.framing (transport.buffered ++ transport.stream)
    call.2.frames = pending.1.take 1 ∧
      (format.framing (call.1.buffered ++ call.1.stream)).1 = pending.1.drop 1 ∧
      (call.2 = .error .invalidFrame ↔ pending = ([], .invalid)) := by
  intro call format pending
  have hspec : CallSpec transport call.1 call.2 := readFrame_spec hwellFormed outcomes
  have hsettles : Settles call := readFrame_settles hwellFormed hproductive
  have hpending : pending = format.framing (call.2.frames.flatten ++
      (call.1.buffered ++ call.1.stream)) := congrArg format.framing hspec.bytes_eq
  by_cases hframe : ∃ bytes, call.2 = .frame bytes
  · obtain ⟨bytes, hbytes⟩ := hframe
    obtain ⟨hisFrame, -⟩ := hspec.frame bytes hbytes
    have hflat : (FrameResult.frame bytes).frames.flatten = bytes := List.append_nil _
    rw [hbytes, hflat, format.framing_frame_append hisFrame] at hpending
    rw [hpending, hbytes]
    refine ⟨rfl, rfl, ?_⟩
    constructor
    · intro hrejected
      cases hrejected
    · intro hnone
      cases congrArg Prod.fst hnone
  · have hnone : call.2.frames = [] := FrameResult.frames_eq_nil (not_exists.mp hframe)
    rw [hnone, List.flatten_nil, List.nil_append] at hpending
    rw [hnone, ← hpending]
    -- the call was refused, or the stream is at its end
    by_cases hrejected : call.2 = .error .invalidFrame
    · have hinvalid := hspec.rejected_iff.mp hrejected
      have hends : pending = ([], .invalid) :=
        hpending.trans (format.framing_invalid (hinvalid.append call.1.stream))
      rw [hends]
      exact ⟨rfl, rfl, fun _ => rfl, fun _ => hrejected⟩
    · have hend : call.1.stream = [] := by
        rcases hsettles with hreturned | hinvalid | hend
        · exact absurd hreturned hframe
        · exact absurd hinvalid hrejected
        · exact hend
      have hincomplete : format.Incomplete call.1.buffered :=
        hspec.pending.resolve_right fun hinvalid =>
          hrejected (hspec.rejected_iff.mpr hinvalid)
      rw [hend, List.append_nil, format.framing_incomplete hincomplete] at hpending
      rw [hpending]
      refine ⟨rfl, rfl, fun hinvalid => absurd hinvalid hrejected, fun hinvalid => ?_⟩
      cases hinvalid

end QqTransport

/-! ## Any calls -/

/-- The frames returned in a trace, in order. -/
def returned (trace : List (List ReadOutcome × FrameResult)) : List (List UInt8) :=
  trace.flatMap (·.2.frames)

/-- What the calls so far have done with the stream. -/
structure Accounted (stream : List UInt8) (config : TransportConfig)
    (trace : List (List ReadOutcome × FrameResult)) (transport : QqTransport) : Prop where
  wellFormed : transport.WellFormed
  config_eq : transport.config = config
  bytes_eq : stream = (returned trace).flatten ++ (transport.buffered ++ transport.stream)
  frames : ∀ frame ∈ returned trace, config.format.IsFrame frame
  pending : config.format.Incomplete transport.buffered ∨
    config.format.Invalid transport.buffered

namespace QqTransport

variable {stream : List UInt8} {config : TransportConfig}

theorem fromStream_accounted (stream : List UInt8) (config : TransportConfig) :
    Accounted stream config [] (fromStream stream config) where
  wellFormed := .between rfl rfl (Nat.zero_le 4)
  config_eq := rfl
  bytes_eq := rfl
  frames frame hframe := by cases hframe
  pending := Or.inl config.format.incomplete_nil

theorem readFrame_accounted {trace : List (List ReadOutcome × FrameResult)}
    {transport : QqTransport} (haccounted : Accounted stream config trace transport)
    (outcomes : List ReadOutcome) :
    Accounted stream config (trace ++ [(outcomes, (transport.readFrame outcomes).2)])
      (transport.readFrame outcomes).1 := by
  have hspec := readFrame_spec haccounted.wellFormed outcomes
  have hconfig := haccounted.config_eq
  have hreturned : returned (trace ++ [(outcomes, (transport.readFrame outcomes).2)]) =
      returned trace ++ (transport.readFrame outcomes).2.frames := by
    simp [returned]
  refine {
    wellFormed := hspec.wellFormed
    config_eq := hspec.config_eq.trans hconfig
    bytes_eq := ?_
    frames := ?_
    pending := ?_ }
  · rw [hreturned, List.flatten_append, List.append_assoc, ← hspec.bytes_eq]
    exact haccounted.bytes_eq
  · intro frame hframe
    rw [hreturned, List.mem_append] at hframe
    -- A frame of the trace was returned by an earlier call or by this one.
    rcases hframe with hearlier | hlast
    · exact haccounted.frames frame hearlier
    · have hresult := FrameResult.mem_frames.mp hlast
      rw [← hconfig]
      exact (hspec.frame frame hresult).1
  · rw [← hconfig]
    exact hspec.pending

theorem reader_accounted (stream : List UInt8) (config : TransportConfig)
    (calls : List (List ReadOutcome)) :
    Accounted stream config (reader.trace (fromStream stream config) calls)
      (reader.run (fromStream stream config) calls) :=
  reader.history_run (Accounted stream config) (fromStream_accounted stream config)
    (fun _ _ outcomes haccounted => readFrame_accounted haccounted outcomes) calls

/-- Calls that are not dropped return the frames in front of them, one each. -/
theorem returned_productive {transport : QqTransport} (hwellFormed : transport.WellFormed)
    {calls : List (List ReadOutcome)}
    (hproductive : ∀ outcomes ∈ calls, Productive transport.config outcomes) :
    returned (reader.trace transport calls) =
      (transport.config.format.framing (transport.buffered ++ transport.stream)).1.take
        calls.length := by
  induction calls generalizing transport with
  | nil => rfl
  | cons outcomes rest ih =>
      have hspec := readFrame_spec hwellFormed outcomes
      obtain ⟨hfirst, hrest, -⟩ :=
        readFrame_next hwellFormed (hproductive outcomes List.mem_cons_self)
      have hnext := ih hspec.wellFormed fun other hother => by
        rw [hspec.config_eq]
        exact hproductive other (List.mem_cons_of_mem _ hother)
      rw [hspec.config_eq, hrest] at hnext
      change (transport.readFrame outcomes).2.frames ++
        returned (reader.trace (transport.readFrame outcomes).1 rest) = _
      rw [hfirst, hnext, List.length_cons, Nat.add_comm, List.take_add]

/-- The frames that the calls on a stream return are the framing of the bytes
that they consumed, and a call refuses exactly a complete header outside the
limits.  Calls that are not dropped go on with the frames of the stream, and such
a call refuses exactly the header that ends them. -/
theorem reader_framing (stream : List UInt8) (config : TransportConfig)
    (calls : List (List ReadOutcome)) :
    let start := fromStream stream config
    let transport := reader.run start calls
    let frames := returned (reader.trace start calls)
    (∃ consumed ending, stream = consumed ++ transport.stream ∧
      consumed = frames.flatten ++ transport.buffered ∧
      config.format.framing consumed = (frames, ending)) ∧
    (∀ outcomes, (transport.readFrame outcomes).2 = .error .invalidFrame ↔
      config.format.Invalid (transport.readFrame outcomes).1.buffered) ∧
    (∀ more : List (List ReadOutcome), (∀ outcomes ∈ more, Productive config outcomes) →
      returned (reader.trace start (calls ++ more)) =
        (config.format.framing stream).1.take (frames.length + more.length)) ∧
    ∀ outcomes, Productive config outcomes →
      ((transport.readFrame outcomes).2 = .error .invalidFrame ↔
        config.format.framing stream = (frames, .invalid)) := by
  intro start transport frames
  have haccounted : Accounted stream config (reader.trace start calls) transport :=
    reader_accounted stream config calls
  have hconfig := haccounted.config_eq
  have hframing := config.format.framing_frames_append haccounted.frames
    (transport.buffered ++ transport.stream)
  rw [← haccounted.bytes_eq] at hframing
  refine ⟨?_, ?_, ?_, ?_⟩
  · obtain ⟨ending, hending⟩ : ∃ ending,
        config.format.framing transport.buffered = ([], ending) := by
      rcases haccounted.pending with hincomplete | hinvalid
      · exact ⟨_, config.format.framing_incomplete hincomplete⟩
      · exact ⟨_, config.format.framing_invalid hinvalid⟩
    refine ⟨frames.flatten ++ transport.buffered, ending, ?_, rfl, ?_⟩
    · rw [List.append_assoc]
      exact haccounted.bytes_eq
    · rw [config.format.framing_frames_append haccounted.frames, hending, List.append_nil]
  · intro outcomes
    rw [← hconfig]
    exact (readFrame_spec haccounted.wellFormed outcomes).rejected_iff
  · intro more hproductive
    have hmore := returned_productive haccounted.wellFormed (by
      rw [hconfig]
      exact hproductive)
    rw [hconfig] at hmore
    -- the later calls start from the transport that the first ones leave
    have hsplit : returned (reader.trace start (calls ++ more)) =
        frames ++ returned (reader.trace transport more) := by
      rw [reader.trace_append]
      exact List.flatMap_append
    rw [hsplit, hmore, hframing, List.take_length_add_append]
  · intro outcomes hproductive
    obtain ⟨-, -, hrejected⟩ := readFrame_next haccounted.wellFormed (by
      rw [hconfig]
      exact hproductive)
    rw [hconfig] at hrejected
    rw [hrejected, hframing, Prod.ext_iff, Prod.mk.injEq, List.append_right_eq_self]

/-- A frame of five bytes and one of four, with the front of a header behind them. -/
def twoFrames : List UInt8 :=
  [0, 0, 0, 5, 7, 0, 0, 0, 4, 0, 0]

/-- A call that takes three bytes and times out, and one that is dropped behind the seventh
byte, leave both frames to the calls that are not dropped. -/
theorem reader_framing_twoFrames :
    returned (reader.trace (fromStream twoFrames .default)
      ([[.ready 3, .elapsed], [.ready 1, .ready 1]] ++
        List.replicate 2 (List.replicate (4 + hardMaxFrameLen) (.ready 1)))) =
      [[0, 0, 0, 5, 7], [0, 0, 0, 4]] := by
  have hproductive : Productive .default
      (List.replicate (4 + hardMaxFrameLen) (ReadOutcome.ready 1)) := {
    ready := fun outcome hmem => ⟨1, Nat.one_pos, List.eq_of_mem_replicate hmem⟩
    enough := by
      rw [List.length_replicate]
      exact Nat.le_refl _ }
  obtain ⟨-, -, hmore, -⟩ := reader_framing twoFrames .default
    [[.ready 3, .elapsed], [.ready 1, .ready 1]]
  rw [hmore _ fun outcomes hmem => by rwa [List.eq_of_mem_replicate hmem]]
  decide +kernel

end QqTransport

end Transport
end Lirvena
