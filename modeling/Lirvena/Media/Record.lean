import Lirvena.Media.Resolver
import Lirvena.Lib.Bytes

/-!
# Voice records

A record is prepared for upload as it is, except for standard `SILK` audio: there the
header gets one byte in front and the terminal marker at the end is removed.  `SILK`
audio is a sequence of frames, each behind its length; in the standard framing the
greatest length is the terminal marker instead, and in the framing that is uploaded it
is a length like any other.
-/

namespace Lirvena
namespace Media

open Lib

def maxRecordBytes : Nat := 50 * 1024 * 1024

def silkHeader : List UInt8 := asciiBytes "#!SILK_V3"

def tencentSilkHeader : List UInt8 := 2 :: silkHeader

def amrHeader : List UInt8 := asciiBytes "#!AMR\n"

def terminalMarker : List UInt8 := [0xff, 0xff]

/-- QQ-compatible audio formats accepted without lossy re-encoding. -/
inductive RecordFormat where
  | mp3
  | amr
  | tencentSilkV3
  deriving DecidableEq

/-- The digests of a file. -/
structure RecordDigests where
  md5 : List UInt8 → Vector UInt8 16
  sha1 : List UInt8 → Vector UInt8 20

/-- Validated audio identity. -/
structure RecordDescriptor where
  size : UInt32
  durationSeconds : UInt32
  format : RecordFormat
  md5 : Vector UInt8 16
  sha1 : Vector UInt8 20

/-- Normalized audio and its upload descriptor. -/
structure PreparedRecord where
  bytes : List UInt8
  descriptor : RecordDescriptor

/-! ## The walk over frames -/

/-- `u16::from_le_bytes`. -/
def leWord (low high : UInt8) : Nat :=
  low.toNat + 256 * high.toNat

/-- The loop of `silk_duration`: where it stops and how many frames it has passed. -/
def silkWalk (input : List UInt8) (terminal : Bool) (cursor frames : Nat) :
    Except MediaError (Nat × Nat) :=
  if _hinside : cursor < input.length then
    match (input.drop cursor).take 2 with
    | [low, high] =>
        if terminal = true ∧ leWord low high = 65535 then
          if cursor + 2 ≠ input.length then .error .referenceRejected else .ok (cursor, frames)
        else if input.length < cursor + (2 + leWord low high) then .error .referenceRejected
        else if u32Bound ≤ frames + 1 then .error .sizeLimit
        else silkWalk input terminal (cursor + (2 + leWord low high)) (frames + 1)
    | _ => .error .referenceRejected
  else
    .ok (cursor, frames)
termination_by input.length - cursor

def silkDuration (input : List UInt8) (cursor : Nat) (terminal : Bool) :
    Except MediaError UInt32 := do
  let reached ← silkWalk input terminal cursor 0
  rejectIf .referenceRejected (reached.2 = 0 ∨ (terminal = true ∧ reached.1 = input.length))
  return UInt32.ofNat ((reached.2 + 49) / 50)

def isMp3 (input : List UInt8) : Bool :=
  (asciiBytes "ID3").isPrefixOf input ||
    (input.take 2 == [0xff, 0xf2] || input.take 2 == [0xff, 0xf3] || input.take 2 == [0xff, 0xfb])

/-- The normalized bytes, their format and their duration. -/
def normalizeRecord (input : List UInt8) :
    Except MediaError (List UInt8 × RecordFormat × UInt32) :=
  if tencentSilkHeader.isPrefixOf input then do
    let duration ← silkDuration input tencentSilkHeader.length false
    return (input, .tencentSilkV3, duration)
  else if silkHeader.isPrefixOf input && terminalMarker.isSuffixOf input then do
    let duration ← silkDuration input silkHeader.length true
    return (2 :: input.take (input.length - 2), .tencentSilkV3, duration)
  else if amrHeader.isPrefixOf input then do
    let seconds ← okOr .sizeLimit (tryU32 ((input.length + 1606) / 1607))
    return (input, .amr, seconds)
  else if isMp3 input then
    .ok (input, .mp3, 0)
  else
    .error .referenceRejected

/-- Validates and normalizes an already QQ-compatible audio stream. -/
def prepareRecord (digests : RecordDigests) (input : List UInt8) :
    Except MediaError PreparedRecord := do
  rejectIf .sizeLimit (input = [] ∨ maxRecordBytes < input.length)
  let normalized ← normalizeRecord input
  let size ← okOr .sizeLimit (tryU32 normalized.1.length)
  return {
    bytes := normalized.1
    descriptor := {
      size := size
      durationSeconds := normalized.2.2
      format := normalized.2.1
      md5 := digests.md5 normalized.1
      sha1 := digests.sha1 normalized.1 } }

/-! ## Frames -/

/-- A frame behind its length. -/
def encodeSilkFrame (frame : List UInt8) : List UInt8 :=
  UInt8.ofNat frame.length :: UInt8.ofNat (frame.length / 256) :: frame

/-- The greatest length of a frame. -/
def maxSilkFrame (terminal : Bool) : Nat :=
  if terminal then 65534 else 65535

/-- The bytes are complete frames, and what is left is nothing or the terminal marker. -/
structure SilkSplit (terminal : Bool) (bytes : List UInt8) (frames : List (List UInt8))
    (ending : List UInt8) : Prop where
  bounded : ∀ frame ∈ frames, frame.length ≤ maxSilkFrame terminal
  ends : ending = [] ∨ terminal = true ∧ ending = terminalMarker
  split : bytes = frames.flatMap encodeSilkFrame ++ ending

theorem leWord_length {frame : List UInt8} (hbound : frame.length ≤ 65535) :
    leWord (UInt8.ofNat frame.length) (UInt8.ofNat (frame.length / 256)) = frame.length := by
  rw [leWord, UInt8.toNat_ofNat', UInt8.toNat_ofNat']
  omega

theorem leWord_cases (low high : UInt8) {tail : List UInt8}
    (hfits : leWord low high ≤ tail.length) :
    low :: high :: tail =
      encodeSilkFrame (tail.take (leWord low high)) ++ tail.drop (leWord low high) := by
  have hlow := low.toNat_lt
  have hhigh := high.toNat_lt
  have hlength : (tail.take (leWord low high)).length = leWord low high := by
    rw [List.length_take, Nat.min_eq_left hfits]
  have hfirst : UInt8.ofNat (leWord low high) = low := by
    rw [← UInt8.toNat_inj, UInt8.toNat_ofNat', leWord]
    omega
  have hsecond : UInt8.ofNat (leWord low high / 256) = high := by
    rw [← UInt8.toNat_inj, UInt8.toNat_ofNat', leWord]
    omega
  rw [encodeSilkFrame, hlength, hfirst, hsecond, List.cons_append, List.cons_append,
    List.take_append_drop]

theorem leWord_le (low high : UInt8) : leWord low high ≤ 65535 := by
  have hlow := low.toNat_lt
  have hhigh := high.toNat_lt
  rw [leWord]
  omega

theorem leWord_eq_max {low high : UInt8} (hmax : leWord low high = 65535) :
    low = 0xff ∧ high = 0xff := by
  have hlow := low.toNat_lt
  have hhigh := high.toNat_lt
  rw [leWord] at hmax
  refine ⟨UInt8.toNat_inj.mp ?_, UInt8.toNat_inj.mp ?_⟩
  · show low.toNat = 255
    omega
  · show high.toNat = 255
    omega

/-- One round of the walk. -/
theorem silkWalk_round {input : List UInt8} {terminal : Bool} {cursor frames : Nat}
    {low high : UInt8} {tail : List UInt8} (hrest : input.drop cursor = low :: high :: tail) :
    silkWalk input terminal cursor frames =
      if terminal = true ∧ leWord low high = 65535 then
        if tail ≠ [] then .error .referenceRejected else .ok (cursor, frames)
      else if tail.length < leWord low high then .error .referenceRejected
      else if u32Bound ≤ frames + 1 then .error .sizeLimit
      else silkWalk input terminal (cursor + (2 + leWord low high)) (frames + 1) := by
  have hlength := congrArg List.length hrest
  rw [List.length_drop, List.length_cons, List.length_cons] at hlength
  have hinside : cursor < input.length := by omega
  have htail : cursor + 2 ≠ input.length ↔ tail ≠ [] := by
    rw [← List.length_pos_iff]
    omega
  have hfits : input.length < cursor + (2 + leWord low high) ↔ tail.length < leWord low high := by
    omega
  rw [silkWalk, dif_pos hinside, hrest]
  simp only [List.take_succ_cons, List.take_zero, htail, hfits]

theorem encodeSilkFrame_length (frame : List UInt8) :
    (encodeSilkFrame frame).length = frame.length + 2 :=
  rfl

theorem frames_length_le (frames : List (List UInt8)) :
    2 * frames.length ≤ (frames.flatMap encodeSilkFrame).length := by
  induction frames with
  | nil => exact Nat.le_refl 0
  | cons frame rest ih =>
      rw [List.flatMap_cons, List.length_append, encodeSilkFrame_length, List.length_cons]
      omega

/-- What the walk accepts is split, and it stops in front of what is left. -/
theorem silkWalk_split {input : List UInt8} {terminal : Bool} {cursor frames : Nat}
    {reached : Nat × Nat} (hcursor : cursor ≤ input.length)
    (hwalk : silkWalk input terminal cursor frames = .ok reached) :
    ∃ split ending, SilkSplit terminal (input.drop cursor) split ending ∧
      reached = (input.length - ending.length, frames + split.length) := by
  induction hleft : input.length - cursor using Nat.strong_induction_on
    generalizing cursor frames with
  | _ left ih =>
      cases hrest : input.drop cursor with
      | nil =>
          have hend : input.length ≤ cursor := List.drop_eq_nil_iff.mp hrest
          rw [silkWalk, dif_neg (Nat.not_lt.mpr hend)] at hwalk
          cases hwalk
          refine ⟨[], [], ⟨fun _ hmem => absurd hmem List.not_mem_nil, .inl rfl, rfl⟩, ?_⟩
          rw [Nat.le_antisymm hcursor hend]
          rfl
      | cons low others =>
          have hlength := congrArg List.length hrest
          rw [List.length_drop, List.length_cons] at hlength
          cases others with
          | nil =>
              have hinside : cursor < input.length := by
                rw [List.length_nil] at hlength
                omega
              rw [silkWalk, dif_pos hinside, hrest] at hwalk
              cases hwalk
          | cons high tail =>
              rw [List.length_cons] at hlength
              rw [silkWalk_round hrest] at hwalk
              by_cases hmarker : terminal = true ∧ leWord low high = 65535
              · rw [if_pos hmarker] at hwalk
                split at hwalk
                · cases hwalk
                · next hlast =>
                    -- The marker is at the end of the input.
                    cases hwalk
                    obtain ⟨rfl, rfl⟩ := leWord_eq_max hmarker.2
                    rw [not_not.mp hlast] at hlength ⊢
                    refine ⟨[], terminalMarker, ⟨fun _ hmem => absurd hmem List.not_mem_nil,
                      .inr ⟨hmarker.1, rfl⟩, rfl⟩, Prod.ext ?_ rfl⟩
                    show cursor = input.length - 2
                    rw [List.length_nil] at hlength
                    omega
              · rw [if_neg hmarker] at hwalk
                split at hwalk
                · cases hwalk
                · next hfits =>
                    split at hwalk
                    · cases hwalk
                    · obtain ⟨split, ending, hsplit, hreached⟩ :=
                        ih (input.length - (cursor + (2 + leWord low high))) (by omega)
                          (by omega) hwalk rfl
                      have hbehind : input.drop (cursor + (2 + leWord low high)) =
                          tail.drop (leWord low high) := by
                        rw [← List.drop_drop, hrest, ← List.drop_drop]
                        rfl
                      rw [hbehind] at hsplit
                      have hframe := leWord_cases low high (Nat.le_of_not_lt hfits)
                      have hbound : (tail.take (leWord low high)).length ≤
                          maxSilkFrame terminal := by
                        have hword := leWord_le low high
                        rw [List.length_take]
                        unfold maxSilkFrame
                        split
                        · next hterminal =>
                            have hne : leWord low high ≠ 65535 :=
                              fun heq => hmarker ⟨hterminal, heq⟩
                            omega
                        · omega
                      refine ⟨tail.take (leWord low high) :: split, ending,
                        ⟨List.forall_mem_cons.mpr ⟨hbound, hsplit.bounded⟩, hsplit.ends, ?_⟩, ?_⟩
                      · rw [hframe, hsplit.split, List.flatMap_cons, List.append_assoc]
                      · rw [hreached, List.length_cons, Nat.add_assoc, Nat.add_comm 1]

/-- Split bytes are accepted by the walk. -/
theorem silkWalk_of_split {input : List UInt8} {terminal : Bool} {cursor : Nat} (frames : Nat)
    {split : List (List UInt8)} {ending : List UInt8} (hcursor : cursor ≤ input.length)
    (hfew : frames + (input.length - cursor) < u32Bound)
    (hsplit : SilkSplit terminal (input.drop cursor) split ending) :
    silkWalk input terminal cursor frames =
      .ok (input.length - ending.length, frames + split.length) := by
  induction split generalizing cursor frames with
  | nil =>
      have hrest : input.drop cursor = ending := hsplit.split
      have hlength := congrArg List.length hrest
      rw [List.length_drop] at hlength
      have hcursorEnd : cursor = input.length - ending.length := by omega
      rcases hsplit.ends with hnone | ⟨hterminal, hmarker⟩
      · rw [hnone, List.length_nil] at hlength
        have hend : ¬ cursor < input.length := by omega
        rw [silkWalk, dif_neg hend, ← hcursorEnd]
        rfl
      · have hbytes : input.drop cursor = 0xff :: 0xff :: [] := hrest.trans hmarker
        have hword : terminal = true ∧ leWord 0xff 0xff = 65535 := ⟨hterminal, by decide⟩
        rw [silkWalk_round hbytes, if_pos hword, if_neg (not_not.mpr rfl), ← hcursorEnd]
        rfl
  | cons frame rest ih =>
      obtain ⟨hframe, hothers⟩ := List.forall_mem_cons.mp hsplit.bounded
      have hframeMax : frame.length ≤ 65535 := by
        unfold maxSilkFrame at hframe
        split at hframe <;> omega
      have hword := leWord_length hframeMax
      have hrest : input.drop cursor = UInt8.ofNat frame.length ::
          UInt8.ofNat (frame.length / 256) ::
            (frame ++ (rest.flatMap encodeSilkFrame ++ ending)) := by
        rw [hsplit.split, List.flatMap_cons, List.append_assoc, encodeSilkFrame]
        rfl
      have hlength := congrArg List.length hrest
      rw [List.length_drop, List.length_cons, List.length_cons, List.length_append] at hlength
      have hmarker : ¬ (terminal = true ∧ frame.length = 65535) := by
        rintro ⟨hterminal, hmax⟩
        rw [maxSilkFrame, if_pos hterminal] at hframe
        omega
      have hfits : ¬ (frame ++ (rest.flatMap encodeSilkFrame ++ ending)).length <
          frame.length := by
        rw [List.length_append]
        omega
      have hcount : ¬ u32Bound ≤ frames + 1 := by omega
      have hbehind : input.drop (cursor + (2 + frame.length)) =
          rest.flatMap encodeSilkFrame ++ ending := by
        rw [← List.drop_drop, hrest, ← List.drop_drop]
        exact List.drop_left
      have hnext : SilkSplit terminal (input.drop (cursor + (2 + frame.length))) rest ending :=
        ⟨hothers, hsplit.ends, hbehind⟩
      rw [silkWalk_round hrest, hword, if_neg hmarker, if_neg hfits, if_neg hcount,
        ih (frames + 1) (by omega) (by omega) hnext, List.length_cons, Nat.add_assoc,
        Nat.add_comm 1]

/-! ## Durations -/

/-- The seconds that so many frames last, fifty to the second. -/
def silkSeconds (frames : List (List UInt8)) : UInt32 :=
  UInt32.ofNat ((frames.length + 49) / 50)

/-- What comes behind the frames. -/
def silkEnding (terminal : Bool) : List UInt8 :=
  if terminal then terminalMarker else []

theorem silkDuration_eq_ok_iff {input : List UInt8} {cursor : Nat} {terminal : Bool}
    {duration : UInt32} (hcursor : cursor ≤ input.length) (hshort : input.length < u32Bound) :
    silkDuration input cursor terminal = .ok duration ↔
      ∃ frames, frames ≠ [] ∧
        SilkSplit terminal (input.drop cursor) frames (silkEnding terminal) ∧
          duration = silkSeconds frames := by
  unfold silkDuration
  constructor
  · intro hduration
    obtain ⟨reached, hwalk, hrest⟩ := bind_eq_ok_iff.mp hduration
    obtain ⟨⟨⟩, haccepted, hseconds⟩ := bind_eq_ok_iff.mp hrest
    obtain ⟨frames, ending, hsplit, rfl⟩ := silkWalk_split hcursor hwalk
    obtain ⟨hsome, hmarked⟩ := not_or.mp (rejectIf_eq_ok_iff.mp haccepted)
    rw [Nat.zero_add] at hsome hseconds
    have hne : frames ≠ [] := fun hnil => hsome (by rw [hnil]; rfl)
    have hending : ending = silkEnding terminal := by
      rcases hsplit.ends with hnone | ⟨hterminal, hmarker⟩
      · have hframing : ¬ terminal = true := by
          intro hterminal
          refine hmarked ⟨hterminal, ?_⟩
          rw [hnone]
          exact Nat.sub_zero _
        rw [hnone, silkEnding, if_neg hframing]
      · rw [hmarker, silkEnding, if_pos hterminal]
    exact ⟨frames, hne, hending ▸ hsplit, (Except.ok.inj hseconds).symm⟩
  · rintro ⟨frames, hne, hsplit, rfl⟩
    have hwalk := silkWalk_of_split 0 hcursor (by omega) hsplit
    rw [Nat.zero_add] at hwalk
    refine bind_eq_ok_iff.mpr ⟨_, hwalk, bind_eq_ok_iff.mpr ⟨(), ?_, rfl⟩⟩
    refine rejectIf_eq_ok_iff.mpr (not_or.mpr ⟨?_, ?_⟩)
    · exact fun hzero => hne (List.length_eq_zero_iff.mp hzero)
    · rintro ⟨hterminal, hend⟩
      have hlength := congrArg List.length hsplit.split
      have hending : (silkEnding terminal).length = 2 := by
        rw [silkEnding, if_pos hterminal]
        rfl
      rw [List.length_drop, List.length_append, hending] at hlength
      simp only [hending] at hend
      omega

/-! ## Preparation -/

/-- The input is `SILK` audio of one of the two framings. -/
def IsSilk (input : List UInt8) : Prop :=
  tencentSilkHeader <+: input ∨ silkHeader <+: input

/-- The bytes behind the header are one or more complete frames, and in the standard
framing the terminal marker. -/
def SilkFrames (input : List UInt8) (frames : List (List UInt8)) : Prop :=
  frames ≠ [] ∧
    ((∀ frame ∈ frames, frame.length ≤ 65535) ∧
        input = tencentSilkHeader ++ frames.flatMap encodeSilkFrame ∨
      (∀ frame ∈ frames, frame.length ≤ 65534) ∧
        input = silkHeader ++ (frames.flatMap encodeSilkFrame ++ terminalMarker))

/-- The bytes that are uploaded for frames. -/
def tencentSilk (frames : List (List UInt8)) : List UInt8 :=
  tencentSilkHeader ++ frames.flatMap encodeSilkFrame

theorem tencent_not_standard {rest : List UInt8} :
    tencentSilkHeader.isPrefixOf (silkHeader ++ rest) = false := by
  rfl

/-- Uploaded frames are normalized to themselves. -/
theorem normalizeRecord_tencentSilk {frames : List (List UInt8)} (hne : frames ≠ [])
    (hbound : ∀ frame ∈ frames, frame.length ≤ 65535)
    (hshort : (tencentSilk frames).length < u32Bound) :
    normalizeRecord (tencentSilk frames) =
      .ok (tencentSilk frames, .tencentSilkV3, silkSeconds frames) := by
  have hprefix : tencentSilkHeader.isPrefixOf (tencentSilk frames) = true :=
    List.isPrefixOf_iff_prefix.mpr (List.prefix_append _ _)
  have hcursor : tencentSilkHeader.length ≤ (tencentSilk frames).length := by
    rw [tencentSilk, List.length_append]
    exact Nat.le_add_right _ _
  have hsplit : SilkSplit false ((tencentSilk frames).drop tencentSilkHeader.length) frames
      (silkEnding false) :=
    ⟨hbound, .inl rfl, by rw [tencentSilk, List.drop_left]; exact (List.append_nil _).symm⟩
  have hduration := (silkDuration_eq_ok_iff hcursor hshort).mpr ⟨frames, hne, hsplit, rfl⟩
  rw [normalizeRecord, if_pos hprefix, hduration]
  rfl

/-- Standard frames are normalized to the uploaded ones. -/
theorem normalizeRecord_standard {frames : List (List UInt8)} (hne : frames ≠ [])
    (hbound : ∀ frame ∈ frames, frame.length ≤ 65534)
    (hshort : (silkHeader ++ (frames.flatMap encodeSilkFrame ++ terminalMarker)).length <
      u32Bound) :
    normalizeRecord (silkHeader ++ (frames.flatMap encodeSilkFrame ++ terminalMarker)) =
      .ok (tencentSilk frames, .tencentSilkV3, silkSeconds frames) := by
  generalize hinput : silkHeader ++ (frames.flatMap encodeSilkFrame ++ terminalMarker) = input
    at hshort
  have htencent : ¬ tencentSilkHeader.isPrefixOf input = true := by
    rw [← hinput, tencent_not_standard]
    exact Bool.false_ne_true
  have hframed : (silkHeader.isPrefixOf input && terminalMarker.isSuffixOf input) = true := by
    rw [Bool.and_eq_true, List.isPrefixOf_iff_prefix, List.isSuffixOf_iff_suffix, ← hinput]
    exact ⟨List.prefix_append _ _, (List.suffix_append _ _).trans (List.suffix_append _ _)⟩
  have hcursor : silkHeader.length ≤ input.length := by
    rw [← hinput, List.length_append]
    exact Nat.le_add_right _ _
  have hsplit : SilkSplit true (input.drop silkHeader.length) frames (silkEnding true) :=
    ⟨hbound, .inr ⟨rfl, rfl⟩, by rw [← hinput, List.drop_left]; rfl⟩
  have hduration := (silkDuration_eq_ok_iff hcursor hshort).mpr ⟨frames, hne, hsplit, rfl⟩
  have hfront : input.take (input.length - 2) = silkHeader ++ frames.flatMap encodeSilkFrame := by
    have hmarker : input.length - 2 = (silkHeader ++ frames.flatMap encodeSilkFrame).length := by
      rw [← hinput, ← List.append_assoc, List.length_append]
      exact Nat.add_sub_cancel _ 2
    rw [hmarker, ← hinput, ← List.append_assoc, List.take_left]
  rw [normalizeRecord, if_neg htencent, if_pos hframed, hduration, hfront]
  rfl

theorem standard_not_other {rest : List UInt8} :
    amrHeader.isPrefixOf (silkHeader ++ rest) = false ∧ isMp3 (silkHeader ++ rest) = false :=
  ⟨rfl, rfl⟩

/-- `SILK` audio that is normalized is made of frames, and they are what is uploaded. -/
theorem normalizeRecord_silk {input : List UInt8} (hsilk : IsSilk input)
    (hshort : input.length < u32Bound) {normalized : List UInt8 × RecordFormat × UInt32}
    (hnormalized : normalizeRecord input = .ok normalized) :
    ∃ frames, SilkFrames input frames ∧
      normalized = (tencentSilk frames, .tencentSilkV3, silkSeconds frames) := by
  have hwhole := hnormalized
  unfold normalizeRecord at hnormalized
  split at hnormalized
  · next htencent =>
      obtain ⟨rest, rfl⟩ := List.isPrefixOf_iff_prefix.mp htencent
      obtain ⟨duration, hduration, hresult⟩ := bind_eq_ok_iff.mp hnormalized
      obtain ⟨frames, hne, hsplit, rfl⟩ := (silkDuration_eq_ok_iff
        (by rw [List.length_append]; exact Nat.le_add_right _ _) hshort).mp hduration
      have hrest : rest = frames.flatMap encodeSilkFrame := by
        have hbytes := hsplit.split
        rw [List.drop_left] at hbytes
        exact hbytes.trans (List.append_nil _)
      rw [hrest] at hresult ⊢
      exact ⟨frames, ⟨hne, .inl ⟨hsplit.bounded, rfl⟩⟩, (Except.ok.inj hresult).symm⟩
  · next htencent =>
      have hheader : silkHeader <+: input := by
        refine hsilk.resolve_left fun hprefix => htencent ?_
        exact List.isPrefixOf_iff_prefix.mpr hprefix
      obtain ⟨rest, rfl⟩ := hheader
      split at hnormalized
      · next hframed =>
          obtain ⟨duration, hduration, -⟩ := bind_eq_ok_iff.mp hnormalized
          obtain ⟨frames, hne, hsplit, -⟩ := (silkDuration_eq_ok_iff
            (by rw [List.length_append]; exact Nat.le_add_right _ _) hshort).mp hduration
          have hrest : rest = frames.flatMap encodeSilkFrame ++ terminalMarker := by
            have hbytes := hsplit.split
            rwa [List.drop_left] at hbytes
          subst hrest
          rw [normalizeRecord_standard hne hsplit.bounded hshort] at hwhole
          exact ⟨frames, ⟨hne, .inr ⟨hsplit.bounded, rfl⟩⟩, (Except.ok.inj hwhole).symm⟩
      · rw [standard_not_other.1, standard_not_other.2] at hnormalized
        cases hnormalized

/-- Frames of either framing are normalized to the uploaded ones. -/
theorem normalizeRecord_frames {input : List UInt8} {frames : List (List UInt8)}
    (hframes : SilkFrames input frames) (hshort : input.length < u32Bound) :
    normalizeRecord input = .ok (tencentSilk frames, .tencentSilkV3, silkSeconds frames) := by
  obtain ⟨hne, ⟨hbound, rfl⟩ | ⟨hbound, rfl⟩⟩ := hframes
  · exact normalizeRecord_tencentSilk hne hbound hshort
  · exact normalizeRecord_standard hne hbound hshort

theorem tencentSilk_length_le {input : List UInt8} {frames : List (List UInt8)}
    (hframes : SilkFrames input frames) : (tencentSilk frames).length ≤ input.length := by
  obtain ⟨-, ⟨-, rfl⟩ | ⟨-, rfl⟩⟩ := hframes
  · exact Nat.le_refl _
  · have hheaders : tencentSilkHeader.length = silkHeader.length + 1 := rfl
    have hmarker : terminalMarker.length = 2 := rfl
    simp only [tencentSilk, List.length_append]
    omega

/-- Normalized bytes are normalized to themselves, with the same format and duration. -/
theorem normalizeRecord_idempotent {input : List UInt8} (hshort : input.length < u32Bound)
    {normalized : List UInt8 × RecordFormat × UInt32}
    (hnormalized : normalizeRecord input = .ok normalized) :
    normalizeRecord normalized.1 = .ok normalized ∧ normalized.1.length ≤ input.length ∧
      normalized.1 ≠ [] ∨ normalized.1 = input := by
  by_cases hsilk : IsSilk input
  · obtain ⟨frames, hframes, rfl⟩ := normalizeRecord_silk hsilk hshort hnormalized
    have hlength := tencentSilk_length_le hframes
    have hbound : ∀ frame ∈ frames, frame.length ≤ 65535 := by
      obtain ⟨-, ⟨hbound, -⟩ | ⟨hbound, -⟩⟩ := hframes
      · exact hbound
      · exact fun frame hframe => (hbound frame hframe).trans (by decide)
    exact .inl ⟨normalizeRecord_tencentSilk hframes.1 hbound (by omega), hlength,
      List.cons_ne_nil _ _⟩
  · -- Everything else is left as it is.
    refine .inr ?_
    obtain ⟨htencent, hstandard⟩ := not_or.mp hsilk
    have hother : ¬ (silkHeader.isPrefixOf input && terminalMarker.isSuffixOf input) = true := by
      rw [Bool.and_eq_true, List.isPrefixOf_iff_prefix]
      exact fun hboth => hstandard hboth.1
    rw [normalizeRecord, if_neg fun hprefix => htencent (List.isPrefixOf_iff_prefix.mp hprefix),
      if_neg hother] at hnormalized
    split at hnormalized
    · obtain ⟨seconds, -, hresult⟩ := bind_eq_ok_iff.mp hnormalized
      cases hresult
      rfl
    · split at hnormalized
      · cases hnormalized
        rfl
      · cases hnormalized

/-- A record that is prepared: its size is within the bound, and its descriptor is of the
normalized bytes. -/
theorem prepareRecord_eq_ok_iff {digests : RecordDigests} {input : List UInt8}
    {record : PreparedRecord} :
    prepareRecord digests input = .ok record ↔
      input ≠ [] ∧ input.length ≤ maxRecordBytes ∧ ∃ normalized size,
        normalizeRecord input = .ok normalized ∧
          tryU32 normalized.1.length = some size ∧
            record = ⟨normalized.1, size, normalized.2.2, normalized.2.1,
              digests.md5 normalized.1, digests.sha1 normalized.1⟩ := by
  unfold prepareRecord
  constructor
  · intro hprepared
    obtain ⟨⟨⟩, hsize, hprepared⟩ := bind_eq_ok_iff.mp hprepared
    obtain ⟨normalized, hnormalized, hprepared⟩ := bind_eq_ok_iff.mp hprepared
    obtain ⟨size, hfits, hprepared⟩ := bind_eq_ok_iff.mp hprepared
    obtain ⟨hne, hshort⟩ := not_or.mp (rejectIf_eq_ok_iff.mp hsize)
    exact ⟨hne, Nat.le_of_not_lt hshort, normalized, size, hnormalized,
      okOr_eq_ok_iff.mp hfits, (Except.ok.inj hprepared).symm⟩
  · rintro ⟨hne, hshort, normalized, size, hnormalized, hfits, rfl⟩
    refine bind_eq_ok_iff.mpr ⟨(), rejectIf_eq_ok_iff.mpr ?_, ?_⟩
    · exact not_or.mpr ⟨hne, Nat.not_lt.mpr hshort⟩
    · refine bind_eq_ok_iff.mpr ⟨normalized, hnormalized, ?_⟩
      exact bind_eq_ok_iff.mpr ⟨size, okOr_eq_ok_iff.mpr hfits, rfl⟩

theorem lt_u32Bound_of_le_max {length : Nat} (hlength : length ≤ maxRecordBytes) :
    length < u32Bound :=
  Nat.lt_of_le_of_lt hlength (by decide)

theorem tryU32_length {bytes : List UInt8} (hlength : bytes.length ≤ maxRecordBytes) :
    tryU32 bytes.length = some (UInt32.ofNat bytes.length) := by
  have hfits : 0 ≤ (bytes.length : Int) ∧ (bytes.length : Int) < u32Bound :=
    ⟨Int.natCast_nonneg _, Int.ofNat_lt.mpr (lt_u32Bound_of_le_max hlength)⟩
  rw [tryU32, if_pos hfits]
  rfl

/-- Preparing a normalized record again gives the record. -/
theorem prepareRecord_idempotent {digests : RecordDigests} {input : List UInt8}
    {record : PreparedRecord} (hprepared : prepareRecord digests input = .ok record) :
    prepareRecord digests record.bytes = .ok record := by
  have hparts := prepareRecord_eq_ok_iff.mp hprepared
  obtain ⟨hne, hshort, normalized, size, hnormalized, hfits, rfl⟩ := hparts
  rcases normalizeRecord_idempotent (lt_u32Bound_of_le_max hshort) hnormalized with
    ⟨hagain, hlength, hsome⟩ | hsame
  · exact prepareRecord_eq_ok_iff.mpr
      ⟨hsome, hlength.trans hshort, normalized, size, hagain, hfits, rfl⟩
  · exact hsame ▸ hprepared

/-- `SILK` audio is prepared exactly when it is made of frames, within the bound on
records. -/
theorem prepareRecord_silk_iff {digests : RecordDigests} {input : List UInt8}
    (hsilk : IsSilk input) :
    (∃ record, prepareRecord digests input = .ok record) ↔
      input.length ≤ maxRecordBytes ∧ ∃ frames, SilkFrames input frames := by
  constructor
  · rintro ⟨record, hprepared⟩
    obtain ⟨-, hshort, normalized, size, hnormalized, -⟩ :=
      prepareRecord_eq_ok_iff.mp hprepared
    obtain ⟨frames, hframes, -⟩ :=
      normalizeRecord_silk hsilk (lt_u32Bound_of_le_max hshort) hnormalized
    exact ⟨hshort, frames, hframes⟩
  · rintro ⟨hshort, frames, hframes⟩
    have hne : input ≠ [] := by
      rintro rfl
      rcases hsilk with hprefix | hprefix <;> exact absurd (List.prefix_nil.mp hprefix) (by decide)
    have hnormalized := normalizeRecord_frames hframes (lt_u32Bound_of_le_max hshort)
    have hlength := (tencentSilk_length_le hframes).trans hshort
    exact ⟨_, prepareRecord_eq_ok_iff.mpr ⟨hne, hshort, _, _, hnormalized,
      tryU32_length hlength, rfl⟩⟩

/-- The bytes of a prepared record of frames are the frames behind the uploaded header,
and its duration is counted in them. -/
theorem prepareRecord_frames {digests : RecordDigests} {input : List UInt8}
    {record : PreparedRecord} {frames : List (List UInt8)} (hframes : SilkFrames input frames)
    (hprepared : prepareRecord digests input = .ok record) :
    record.bytes = tencentSilkHeader ++ frames.flatMap encodeSilkFrame ∧
      record.descriptor.format = .tencentSilkV3 ∧
        record.descriptor.durationSeconds.toNat = (frames.length + 49) / 50 := by
  obtain ⟨-, hshort, normalized, size, hnormalized, -, rfl⟩ :=
    prepareRecord_eq_ok_iff.mp hprepared
  have hknown := normalizeRecord_frames hframes (lt_u32Bound_of_le_max hshort)
  rw [hnormalized] at hknown
  cases hknown
  refine ⟨rfl, rfl, ?_⟩
  have hfew : 2 * frames.length ≤ maxRecordBytes := by
    have hcount := frames_length_le frames
    have hlength := (tencentSilk_length_le hframes).trans hshort
    rw [tencentSilk, List.length_append] at hlength
    omega
  have hfits : (frames.length + 49) / 50 < 2 ^ 32 := by
    unfold maxRecordBytes at hfew
    omega
  exact UInt32.toNat_ofNat_of_lt' hfits

/-- A prepared record is prepared to itself again; `SILK` audio within the bound is
prepared exactly when it is made of frames, and they are uploaded as they are. -/
theorem records_prepared (digests : RecordDigests) :
    (∀ input record, prepareRecord digests input = .ok record →
        prepareRecord digests record.bytes = .ok record) ∧
      (∀ input, IsSilk input →
        ((∃ record, prepareRecord digests input = .ok record) ↔
          input.length ≤ maxRecordBytes ∧ ∃ frames, SilkFrames input frames)) ∧
      ∀ input record frames, SilkFrames input frames →
        prepareRecord digests input = .ok record →
          record.bytes = tencentSilkHeader ++ frames.flatMap encodeSilkFrame ∧
            record.descriptor.format = .tencentSilkV3 ∧
              record.descriptor.durationSeconds.toNat = (frames.length + 49) / 50 :=
  ⟨fun _ _ => prepareRecord_idempotent, fun _ => prepareRecord_silk_iff,
    fun _ _ _ => prepareRecord_frames⟩

def sampleDigests : RecordDigests where
  md5 := fun _ => Vector.replicate 16 0
  sha1 := fun _ => Vector.replicate 20 0

/-- Two standard frames of one byte. -/
def twoFrames : List UInt8 :=
  silkHeader ++ [1, 0, 0xaa, 1, 0, 0xbb, 0xff, 0xff]

theorem twoFrames_framed : SilkFrames twoFrames [[0xaa], [0xbb]] :=
  ⟨by decide, .inr ⟨by decide, by decide⟩⟩

theorem two_frames_prepared : ∃ record, prepareRecord sampleDigests twoFrames = .ok record :=
  ((records_prepared sampleDigests).2.1 twoFrames (.inr (List.prefix_append _ _))).mpr
    ⟨by decide, [[0xaa], [0xbb]], twoFrames_framed⟩

theorem emptyFrames_length (count : Nat) :
    (tencentSilk (List.replicate count [])).length = 10 + 2 * count := by
  rw [tencentSilk, List.length_append]
  have hframes : ((List.replicate count []).flatMap encodeSilkFrame).length = 2 * count := by
    induction count with
    | zero => rfl
    | succ count ih =>
        rw [List.replicate_succ, List.flatMap_cons, List.length_append, ih,
          encodeSilkFrame_length, List.length_nil]
        omega
  rw [hframes]
  rfl

/-- So many frames without a byte are more than the bound on records. -/
def manyFrames : List (List UInt8) :=
  List.replicate 26214400 []

/-- Complete frames above the bound on records are refused. -/
theorem large_record_refused :
    SilkFrames (tencentSilk manyFrames) manyFrames ∧
      prepareRecord sampleDigests (tencentSilk manyFrames) = .error .sizeLimit := by
  have hgeneral : ∀ count, 26214400 ≤ count →
      SilkFrames (tencentSilk (List.replicate count [])) (List.replicate count []) ∧
        prepareRecord sampleDigests (tencentSilk (List.replicate count [])) =
          .error .sizeLimit := by
    intro count hcount
    have hlength := emptyFrames_length count
    have hlarge : maxRecordBytes < (tencentSilk (List.replicate count [])).length := by
      rw [hlength, maxRecordBytes]
      omega
    refine ⟨⟨?_, .inl ⟨fun frame hframe => ?_, rfl⟩⟩, ?_⟩
    · intro hnil
      have hzero := congrArg List.length hnil
      rw [List.length_replicate, List.length_nil] at hzero
      omega
    · rw [(List.mem_replicate.mp hframe).2]
      exact Nat.zero_le _
    · rw [prepareRecord, rejectIf, if_pos (.inr hlarge)]
      rfl
  exact hgeneral 26214400 (Nat.le_refl _)

end Media
end Lirvena
