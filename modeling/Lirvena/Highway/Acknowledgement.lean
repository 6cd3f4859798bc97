import Lirvena.Highway.Upload

/-!
# Acknowledged blocks

A block is done when an endpoint answers it with a response that decodes and
whose error code is zero.  The decoder hands on the sequence, the offset and the
length of the response and drops its return code, and the upload looks at none of
them.  An upload that succeeds is therefore acknowledged unless the responses have a
stray one among them: one that decides a block, and carries a nonzero return code or
belongs to another block.
-/

namespace Lirvena
namespace Highway

open Lib

/-- The first outcome that decides a block accepts it. -/
structure AcceptedAt (codec : HighwayCodec) (outcome : Nat → PostOutcome)
    (endpoints index : Nat) : Prop where
  index_lt : index < endpoints
  undecided : ∀ earlier < index, decides codec (outcome earlier) = none
  accepts : decides codec (outcome index) = some (.ok ())

/-- The head of a response belongs to a block and reports no failure of it. -/
structure Correlated (block : UploadBlock) (head : ResponseHeadWire) : Prop where
  returnCode : ∀ segment, head.segment = some segment → segment.returnCode = 0
  sequence : ∀ base, head.base = some base → base.sequence = block.sequence
  offset : ∀ segment, head.segment = some segment → segment.offset = block.offset
  dataLength : ∀ segment, head.segment = some segment →
    segment.dataLength.toNat = block.body.length

/-- A response acknowledges a block. -/
def Acknowledges (codec : HighwayCodec) (block : UploadBlock) (outcome : PostOutcome) :
    Prop :=
  ∃ answer head, outcome = .answered true (some answer) ∧
    decodeResponseHead codec answer = .ok head ∧ head.errorCode = 0 ∧ Correlated block head

/-- A response that decodes without an error code, and reports a failure of the block or
belongs to another one. -/
def Stray (codec : HighwayCodec) (block : UploadBlock) (outcome : PostOutcome) : Prop :=
  ∃ answer head, outcome = .answered true (some answer) ∧
    answer.length ≤ maxResponseBytes ∧ decodeResponseHead codec answer = .ok head ∧
    head.errorCode = 0 ∧ head.extension.length ≤ maxExtensionBytes ∧ ¬ Correlated block head

/-- No stray response comes to a block before one that decides it. -/
def NoneStray (codec : HighwayCodec) (outcome : Nat → Nat → PostOutcome)
    (arguments : UploadArguments) : Prop :=
  ∀ pair ∈ arguments.bodies.zipIdx, ∀ endpoint < arguments.session.endpoints.length,
    (∀ earlier < endpoint, decides codec (outcome pair.2 earlier) = none) →
      ¬ Stray codec (arguments.block codec pair.2 pair.1) (outcome pair.2 endpoint)

variable {codec : HighwayCodec}

theorem AcceptedAt.unique {outcome : Nat → PostOutcome} {endpoints first second : Nat}
    (hfirst : AcceptedAt codec outcome endpoints first)
    (hsecond : AcceptedAt codec outcome endpoints second) : first = second := by
  rcases Nat.lt_trichotomy first second with hlt | heq | hlt
  · have hnone := hsecond.undecided first hlt
    rw [hfirst.accepts] at hnone
    cases hnone
  · exact heq
  · have hnone := hfirst.undecided second hlt
    rw [hsecond.accepts] at hnone
    cases hnone

/-- An outcome that accepts a block is a response without an error code. -/
theorem decides_eq_ok_iff {outcome : PostOutcome} :
    decides codec outcome = some (.ok ()) ↔
      ∃ answer head, outcome = .answered true (some answer) ∧
        answer.length ≤ maxResponseBytes ∧ decodeResponseHead codec answer = .ok head ∧
        head.errorCode = 0 ∧ head.extension.length ≤ maxExtensionBytes := by
  constructor
  · intro haccepts
    unfold decides at haccepts
    split at haccepts
    · next answer =>
        split at haccepts
        · cases haccepts
        · next hlength =>
            split at haccepts
            · next response hdecode =>
                obtain ⟨head, hhead, herror, hextension⟩ :=
                  decodeUploadResponse_isOk_iff.mp ⟨response, hdecode⟩
                exact ⟨answer, head, rfl, Nat.not_lt.mp hlength, hhead, herror, hextension⟩
            · cases haccepts
            · cases haccepts
    · cases haccepts
  · rintro ⟨answer, head, rfl, hlength, hhead, herror, hextension⟩
    obtain ⟨response, hdecode⟩ :=
      decodeUploadResponse_isOk_iff.mpr ⟨head, hhead, herror, hextension⟩
    simp only [decides, if_neg (Nat.not_lt.mpr hlength), hdecode]

/-! ## The loops -/

theorem acceptedAt_of_decided {outcome : Nat → PostOutcome} {endpoints : Nat}
    {result : Except HighwayError Unit} (hdecides : decides codec (outcome 0) = some result) :
    (∃ index, AcceptedAt codec outcome (endpoints + 1) index) ↔ result = .ok () := by
  constructor
  · rintro ⟨index, haccepted⟩
    cases index with
    | zero => exact Option.some.inj (hdecides.symm.trans haccepted.accepts)
    | succ index =>
        have hnone := haccepted.undecided 0 (Nat.succ_pos _)
        rw [hdecides] at hnone
        cases hnone
  · rintro rfl
    exact ⟨0, Nat.succ_pos _, fun earlier hlt => absurd hlt (Nat.not_lt_zero _), hdecides⟩

theorem acceptedAt_of_undecided {outcome : Nat → PostOutcome} {endpoints : Nat}
    (hnone : decides codec (outcome 0) = none) :
    (∃ index, AcceptedAt codec outcome (endpoints + 1) index) ↔
      ∃ index, AcceptedAt codec (fun later => outcome (later + 1)) endpoints index := by
  constructor
  · rintro ⟨index, haccepted⟩
    cases index with
    | zero =>
        have haccepts := haccepted.accepts
        rw [hnone] at haccepts
        cases haccepts
    | succ index =>
        exact ⟨index, Nat.lt_of_succ_lt_succ haccepted.index_lt,
          fun earlier hlt => haccepted.undecided (earlier + 1) (Nat.succ_lt_succ hlt),
          haccepted.accepts⟩
  · rintro ⟨index, haccepted⟩
    refine ⟨index + 1, Nat.succ_lt_succ haccepted.index_lt, fun earlier hlt => ?_,
      haccepted.accepts⟩
    cases earlier with
    | zero => exact hnone
    | succ earlier => exact haccepted.undecided earlier (Nat.lt_of_succ_lt_succ hlt)

theorem sendBlock_eq_ok_iff (outcome : Nat → PostOutcome) (uin : UInt64)
    (frame : List UInt8) (endpoints : List HighwayEndpoint) (start : Nat) :
    (sendBlock codec outcome uin frame start endpoints).2 = .ok () ↔
      ∃ index, AcceptedAt codec (fun later => outcome (start + later)) endpoints.length
        index := by
  induction endpoints generalizing start with
  | nil =>
      constructor
      · intro hsend
        cases hsend
      · rintro ⟨index, haccepted⟩
        exact absurd haccepted.index_lt (Nat.not_lt_zero _)
  | cons endpoint rest ih =>
      unfold sendBlock
      cases hdecides : decides codec (outcome start) with
      | some result => exact (acceptedAt_of_decided hdecides).symm
      | none =>
          have hshift : (fun later => outcome (start + (later + 1))) =
              fun later => outcome (start + 1 + later) := by
            funext later
            rw [Nat.add_assoc, Nat.add_comm 1 later]
          rw [List.length_cons, acceptedAt_of_undecided hdecides, hshift]
          exact ih (start + 1)

/-- A block is prepared, and one of its outcomes accepts it. -/
structure Sent (codec : HighwayCodec) (outcome : Nat → Nat → PostOutcome)
    (arguments : UploadArguments) (index : Nat) (body : List UInt8) : Prop where
  prepared : ∃ frame, arguments.prepareBlock codec index body = .ok frame
  accepted : ∃ endpoint, AcceptedAt codec (outcome index)
    arguments.session.endpoints.length endpoint

theorem prepareBlock_lt {arguments : UploadArguments} {index : Nat} {body frame : List UInt8}
    (hprepare : arguments.prepareBlock codec index body = .ok frame) : index + 1 < u32Bound := by
  obtain ⟨⟨⟩, hsequence, -⟩ := bind_eq_ok_iff.mp hprepare
  exact Nat.not_le.mp (rejectIf_eq_ok_iff.mp hsequence)

/-- The loop succeeds exactly when every block is sent. -/
theorem uploadFrom_isOk_iff {outcome : Nat → Nat → PostOutcome} {arguments : UploadArguments}
    (bodies : List (List UInt8)) (index : Nat) :
    (∃ total, (uploadFrom codec outcome arguments index index bodies).2 = .ok total) ↔
      ∀ pair ∈ bodies.zipIdx index, Sent codec outcome arguments pair.2 pair.1 := by
  induction bodies generalizing index with
  | nil =>
      constructor
      · rintro - pair hpair
        cases hpair
      · intro _
        exact ⟨index, rfl⟩
  | cons body rest ih =>
      rw [List.zipIdx_cons, List.forall_mem_cons, ← ih]
      cases hprepare : arguments.prepareBlock codec index body with
      | error error =>
          simp only [uploadFrom, hprepare]
          constructor
          · rintro ⟨total, hupload⟩
            cases hupload
          · rintro ⟨⟨⟨frame, hframe⟩, -⟩, -⟩
            rw [hprepare] at hframe
            cases hframe
      | ok frame =>
          -- a prepared block leaves room for the next sequence number
          have hroom : ¬ u32Bound ≤ index + 1 := Nat.not_le.mpr (prepareBlock_lt hprepare)
          have hsend : (sendBlock codec (outcome index) arguments.identity.uin frame 0
              arguments.session.endpoints).2 = .ok () ↔ _ := sendBlock_eq_ok_iff _ _ _ _ _
          simp only [Nat.zero_add] at hsend
          rcases hposted : sendBlock codec (outcome index) arguments.identity.uin frame 0
            arguments.session.endpoints with ⟨posts, result⟩
          rw [hposted] at hsend
          simp only [uploadFrom, hprepare, hposted]
          cases result with
          | error error =>
              constructor
              · rintro ⟨total, hupload⟩
                cases hupload
              · rintro ⟨⟨-, haccepted⟩, -⟩
                cases hsend.mpr haccepted
          | ok done =>
              cases done
              simp only [if_neg hroom]
              constructor
              · intro hupload
                exact ⟨⟨⟨frame, hprepare⟩, hsend.mp rfl⟩, hupload⟩
              · rintro ⟨-, hupload⟩
                exact hupload

/-- Everything that an upload asks of its inputs and of the network. -/
structure Completes (codec : HighwayCodec) (outcome : Nat → Nat → PostOutcome)
    (arguments : UploadArguments) : Prop where
  inputs : arguments.validateInputs = .ok ()
  sent : ∀ pair ∈ arguments.bodies.zipIdx, Sent codec outcome arguments pair.2 pair.1

theorem upload_isOk_iff {outcome : Nat → Nat → PostOutcome} {arguments : UploadArguments} :
    (∃ receipt, (upload codec outcome arguments).2 = .ok receipt) ↔
      Completes codec outcome arguments := by
  unfold upload
  cases hinputs : arguments.validateInputs with
  | error error =>
      constructor
      · rintro ⟨receipt, hupload⟩
        cases hupload
      · intro hcompletes
        have hok := hcompletes.inputs
        rw [hinputs] at hok
        cases hok
  | ok checked =>
      constructor
      · rintro ⟨receipt, hupload⟩
        obtain ⟨total, htotal, -⟩ := map_eq_ok_iff.mp hupload
        exact ⟨hinputs, (uploadFrom_isOk_iff arguments.bodies 0).mp ⟨total, htotal⟩⟩
      · intro hcompletes
        obtain ⟨total, htotal⟩ :=
          (uploadFrom_isOk_iff arguments.bodies 0).mpr hcompletes.sent
        exact ⟨_, map_eq_ok_iff.mpr ⟨total, htotal, rfl⟩⟩

/-- Every block of an object was accepted by a response that acknowledges it. -/
def Acknowledged (codec : HighwayCodec) (outcome : Nat → Nat → PostOutcome)
    (arguments : UploadArguments) : Prop :=
  ∀ pair ∈ arguments.bodies.zipIdx, ∃ endpoint,
    AcceptedAt codec (outcome pair.2) arguments.session.endpoints.length endpoint ∧
      Acknowledges codec (arguments.block codec pair.2 pair.1) (outcome pair.2 endpoint)

/-- An upload that succeeds is acknowledged exactly if no response that decides a block is
stray. -/
theorem upload_acknowledged_iff {outcome : Nat → Nat → PostOutcome}
    {arguments : UploadArguments} {receipt : UploadReceipt}
    (hupload : (upload codec outcome arguments).2 = .ok receipt) :
    Acknowledged codec outcome arguments ↔ NoneStray codec outcome arguments := by
  constructor
  · rintro hacknowledged pair hpair endpoint hlt hundecided
      ⟨answer, head, houtcome, hlength, hhead, herror, hextension, hstray⟩
    obtain ⟨other, hother, answer', head', houtcome', hhead', -, hcorrelated⟩ :=
      hacknowledged pair hpair
    -- the block has one accepting outcome, and it is the stray one
    have haccepted : AcceptedAt codec (outcome pair.2) arguments.session.endpoints.length
        endpoint :=
      ⟨hlt, hundecided,
        decides_eq_ok_iff.mpr ⟨answer, head, houtcome, hlength, hhead, herror, hextension⟩⟩
    obtain rfl := haccepted.unique hother
    rw [houtcome] at houtcome'
    cases houtcome'
    rw [hhead] at hhead'
    cases hhead'
    exact hstray hcorrelated
  · intro hnone pair hpair
    have hcompletes := upload_isOk_iff.mp ⟨receipt, hupload⟩
    obtain ⟨endpoint, haccepted⟩ := (hcompletes.sent pair hpair).accepted
    obtain ⟨answer, head, houtcome, hlength, hhead, herror, hextension⟩ :=
      decides_eq_ok_iff.mp haccepted.accepts
    refine ⟨endpoint, haccepted, answer, head, houtcome, hhead, herror, ?_⟩
    by_contra hstray
    exact hnone pair hpair endpoint haccepted.index_lt haccepted.undecided
      ⟨answer, head, houtcome, hlength, hhead, herror, hextension, hstray⟩

/-! ## A response with a return code, and one without -/

def sampleArguments : UploadArguments where
  client := ⟨256 * 1024, by decide, by decide⟩
  session := ⟨asciiBytes "ticket", [⟨1, 0x01010101, 443⟩]⟩
  identity := ⟨42, 200, 100, asciiBytes "login"⟩
  commandId := 1004
  extension := []
  bytes := asciiBytes "media"

def strayHead : ResponseHeadWire where
  base := none
  segment := some ⟨0, 0, 0, 5, 1, [], [], []⟩
  errorCode := 0
  allowRetry := 0
  extension := []

/-- `strayHead` in a frame without a body. -/
def strayAnswer : List UInt8 :=
  frameBytes 6 0 [0x12, 0x04, 0x20, 0x05, 0x28, 0x01] []

/-- The head of the answer to the only block of `sampleArguments`. -/
def fairHead : ResponseHeadWire where
  base := none
  segment := some ⟨0, 0, 0, 5, 0, [], [], []⟩
  errorCode := 0
  allowRetry := 0
  extension := []

/-- `fairHead` in a frame without a body. -/
def fairAnswer : List UInt8 :=
  frameBytes 4 0 [0x12, 0x02, 0x20, 0x05] []

/-- The library on the only block of `sampleArguments` and on the two answers. -/
def sampleCodec : HighwayCodec where
  encodeRequest _ :=
    [10, 29, 8, 1, 18, 2, 52, 50, 26, 12, 80, 105, 99, 85, 112, 46, 68, 97, 116, 97,
        85, 112, 32, 1, 48, 100, 56, 16, 64, 236, 7, 18, 48, 16, 5, 32, 5, 50, 6, 116,
        105, 99, 107, 101, 116, 66, 16, 98, 147, 58, 41, 81, 239, 1, 244, 234, 253, 155, 223, 77,
        60, 210, 240, 74, 16, 98, 147, 58, 41, 81, 239, 1, 244, 234, 253, 155, 223, 77, 60, 210,
        240, 42, 12, 8, 8, 18, 5, 108, 111, 103, 105, 110, 24, 200, 1]
  decodeResponse bytes :=
    if bytes = [0x12, 0x04, 0x20, 0x05, 0x28, 0x01] then some strayHead
    else if bytes = [0x12, 0x02, 0x20, 0x05] then some fairHead
    else none
  md5 _ :=
    ⟨[98, 147, 58, 41, 81, 239, 1, 244, 234, 253, 155, 223, 77, 60, 210, 240], rfl⟩

theorem chunks_of_le {size : Nat} {bytes : List UInt8} (hbytes : bytes ≠ [])
    (hsize : bytes.length ≤ size) : chunks size bytes = [bytes] := by
  have hpos := List.length_pos_iff.mpr hbytes
  have hsplit : ¬ (bytes = [] ∨ size = 0) := by
    rw [not_or]
    exact ⟨hbytes, by omega⟩
  have hend : chunks size [] = [] := by
    rw [chunks, dif_pos (Or.inl rfl)]
  rw [chunks, dif_neg hsplit, List.take_of_length_le hsize, List.drop_of_length_le hsize, hend]

theorem decodeResponseHead_strayAnswer :
    decodeResponseHead sampleCodec strayAnswer = .ok strayHead := by
  refine bind_eq_ok_iff.mpr ⟨(), rejectIf_eq_ok_iff.mpr (by decide), ?_⟩
  refine bind_eq_ok_iff.mpr ⟨(), rejectIf_eq_ok_iff.mpr (by decide), ?_⟩
  exact bind_eq_ok_iff.mpr ⟨(), rejectIf_eq_ok_iff.mpr (by decide), rfl⟩

theorem sampleArguments_bodies : sampleArguments.bodies = [asciiBytes "media"] :=
  chunks_of_le (by decide) (by decide)

/-- A response without an error code whose return code is one completes the
upload. -/
theorem stray_answer_completes :
    let outcome : Nat → Nat → PostOutcome := fun _ _ => .answered true (some strayAnswer)
    (upload sampleCodec outcome sampleArguments).2 = .ok ⟨5, 1⟩ ∧
      ¬ Acknowledged sampleCodec outcome sampleArguments := by
  refine ⟨?_, ?_⟩
  · unfold upload
    rw [sampleArguments_bodies]
    rfl
  · unfold Acknowledged
    rw [sampleArguments_bodies]
    intro hacknowledged
    obtain ⟨endpoint, -, answer, head, houtcome, hhead, -, hcorrelated⟩ :=
      hacknowledged (asciiBytes "media", 0) List.mem_cons_self
    cases houtcome
    rw [decodeResponseHead_strayAnswer] at hhead
    cases hhead
    exact absurd (hcorrelated.returnCode _ rfl) (by decide)

/-- The upload of `sampleArguments` that one endpoint answers fairly. -/
theorem fair_answer_completes :
    (upload sampleCodec (fun _ _ => .answered true (some fairAnswer)) sampleArguments).2 =
      .ok ⟨5, 1⟩ := by
  unfold upload
  rw [sampleArguments_bodies]
  rfl

theorem fair_answer_acknowledges :
    let outcome : Nat → Nat → PostOutcome := fun _ _ => .answered true (some fairAnswer)
    Acknowledged sampleCodec outcome sampleArguments ∧
      NoneStray sampleCodec outcome sampleArguments := by
  intro outcome
  have hiff := upload_acknowledged_iff fair_answer_completes
  have hnone : NoneStray sampleCodec outcome sampleArguments := by
    unfold NoneStray
    rw [sampleArguments_bodies]
    rintro pair hpair endpoint - - ⟨answer, head, houtcome, -, hhead, -, -, hstray⟩
    obtain rfl := List.mem_singleton.mp hpair
    cases houtcome
    have hfair : decodeResponseHead sampleCodec fairAnswer = .ok fairHead := by
      refine bind_eq_ok_iff.mpr ⟨(), rejectIf_eq_ok_iff.mpr (by decide), ?_⟩
      refine bind_eq_ok_iff.mpr ⟨(), rejectIf_eq_ok_iff.mpr (by decide), ?_⟩
      exact bind_eq_ok_iff.mpr ⟨(), rejectIf_eq_ok_iff.mpr (by decide), rfl⟩
    rw [hfair] at hhead
    cases hhead
    refine hstray ⟨?_, ?_, ?_, ?_⟩
    · rintro segment ⟨⟩
      rfl
    · rintro base ⟨⟩
    · rintro segment ⟨⟩
      rfl
    · rintro segment ⟨⟩
      rfl
  exact ⟨hiff.mpr hnone, hnone⟩

end Highway
end Lirvena
