import Lirvena.Highway.Acknowledgement

/-!
# The blocks of an object

The blocks that an upload sends lie one behind the other in the object, from its
first byte on, and are numbered from one.  A block may be posted to several
endpoints; every post of it carries the same frame, and the frame says of the
block what the block is.  When the upload succeeds, the blocks are the whole
object.
-/

namespace Lirvena
namespace Highway

open Lib

/-! ## Chunks -/

theorem chunks_nil (size : Nat) : chunks size [] = [] := by
  rw [chunks, dif_pos (Or.inl rfl)]

theorem chunks_cons {size : Nat} {bytes : List UInt8} (hbytes : bytes ≠ [])
    (hsize : 0 < size) :
    chunks size bytes = bytes.take size :: chunks size (bytes.drop size) := by
  have hsplit : ¬ (bytes = [] ∨ size = 0) := by
    rw [not_or]
    exact ⟨hbytes, Nat.ne_of_gt hsize⟩
  rw [chunks, dif_neg hsplit]

/-- A chunk and those behind it. -/
theorem chunks_eq_cons {size : Nat} {bytes body : List UInt8} {rest : List (List UInt8)}
    (hsize : 0 < size) (hchunks : chunks size bytes = body :: rest) :
    body = bytes.take size ∧ rest = chunks size (bytes.drop size) := by
  by_cases hbytes : bytes = []
  · rw [hbytes, chunks_nil] at hchunks
    cases hchunks
  · rw [chunks_cons hbytes hsize] at hchunks
    obtain ⟨hbody, hrest⟩ := List.cons.inj hchunks
    exact ⟨hbody.symm, hrest.symm⟩

/-! ## Blocks that tile an object -/

/-- Blocks one behind the other in an object, from an offset and a sequence on. -/
inductive Tiles (object : List UInt8) : Nat → Nat → List UploadBlock → Prop where
  | nil {offset sequence : Nat} : Tiles object offset sequence []
  | cons {offset sequence : Nat} {block : UploadBlock} {rest : List UploadBlock}
      (hoffset : block.offset.toNat = offset) (hsequence : block.sequence.toNat = sequence)
      (hfile : block.fileSize.toNat = object.length) (hnonempty : block.body ≠ [])
      (hbody : slice object offset (offset + block.body.length) = block.body)
      (hrest : Tiles object (offset + block.body.length) (sequence + 1) rest) :
      Tiles object offset sequence (block :: rest)

/-- The bodies of blocks that tile an object are what it holds from the offset
on. -/
theorem Tiles.flatten {object : List UInt8} {offset sequence : Nat}
    {blocks : List UploadBlock} (htiles : Tiles object offset sequence blocks) :
    (blocks.map UploadBlock.body).flatten =
      slice object offset (offset + (blocks.map UploadBlock.body).flatten.length) := by
  induction htiles with
  | nil => simp [slice]
  | @cons offset sequence block rest hoffset hsequence hfile hnonempty hbody hrest ih =>
      rw [List.map_cons, List.flatten_cons, List.length_append]
      -- the slice is that of the first body and that of the others behind it
      have hsplit : slice object offset (offset + (block.body.length +
          (rest.map UploadBlock.body).flatten.length)) =
          slice object offset (offset + block.body.length) ++
            slice object (offset + block.body.length) (offset + block.body.length +
              (rest.map UploadBlock.body).flatten.length) := by
        simp only [slice, Nat.add_sub_cancel_left, ← List.drop_drop]
        exact List.take_add
      rw [hsplit, hbody, ← ih]

/-- Behind the end of an object there is no block. -/
theorem Tiles.eq_nil {object : List UInt8} {offset sequence : Nat}
    {blocks : List UploadBlock} (htiles : Tiles object offset sequence blocks)
    (hend : object.length ≤ offset) : blocks = [] := by
  cases htiles with
  | nil => rfl
  | cons hoffset hsequence hfile hnonempty hbody hrest =>
      rw [slice, List.drop_eq_nil_of_le hend, List.take_nil] at hbody
      exact absurd hbody.symm hnonempty

/-! ## Frames -/

/-- A frame carries a valid block: its lengths are those of its head and of the
body, and the head has the place, the length and the digest of that body. -/
structure Carries (codec : HighwayCodec) (block : UploadBlock) (frame : List UInt8) :
    Prop where
  valid : validateBlock block = .ok ()
  framed : ∃ head base segment headLen bodyLen,
    head.base = some base ∧ head.segment = some segment ∧
    base.sequence = block.sequence ∧ segment.offset = block.offset ∧
    segment.fileSize = block.fileSize ∧ segment.dataLength.toNat = block.body.length ∧
    segment.blockMd5 = (codec.md5 block.body).bytes ∧
    headLen.toNat = (codec.encodeRequest head).length ∧
    bodyLen.toNat = block.body.length ∧
    frame = frameBytes headLen bodyLen (codec.encodeRequest head) block.body

theorem u32OfLen_eq_ok {length : Nat} {word : UInt32} (hword : u32OfLen length = .ok word) :
    word.toNat = length := by
  unfold u32OfLen at hword
  split at hword
  · next hfits =>
      cases hword
      exact UInt32.toNat_ofNat_of_lt' hfits
  · cases hword

theorem encodeUploadBlock_carries {codec : HighwayCodec} {block : UploadBlock}
    {frame : List UInt8} (hencode : encodeUploadBlock codec block = .ok frame) :
    Carries codec block frame := by
  obtain ⟨⟨⟩, hvalid, hencode⟩ := bind_eq_ok_iff.mp hencode
  obtain ⟨dataLength, hdata, hencode⟩ := bind_eq_ok_iff.mp hencode
  obtain ⟨⟨⟩, -, hencode⟩ := bind_eq_ok_iff.mp hencode
  obtain ⟨headLen, hhead, hencode⟩ := bind_eq_ok_iff.mp hencode
  obtain ⟨bodyLen, hbody, hencode⟩ := bind_eq_ok_iff.mp hencode
  cases hencode
  refine ⟨hvalid, requestHead codec block dataLength, _, _, headLen, bodyLen, rfl, rfl, rfl,
    rfl, rfl, ?_, rfl, ?_, ?_, rfl⟩
  · exact u32OfLen_eq_ok hdata
  · exact u32OfLen_eq_ok hhead
  · exact u32OfLen_eq_ok hbody

theorem prepareBlock_eq_ok {codec : HighwayCodec} {arguments : UploadArguments} {index : Nat}
    {body frame : List UInt8} (hprepare : arguments.prepareBlock codec index body = .ok frame) :
    index + 1 < u32Bound ∧ index * arguments.client.chunkBytes < u64Bound ∧
      Carries codec (arguments.block codec index body) frame := by
  have hsequence := prepareBlock_lt hprepare
  obtain ⟨⟨⟩, -, hprepare⟩ := bind_eq_ok_iff.mp hprepare
  obtain ⟨offset, hoffset, hprepare⟩ := bind_eq_ok_iff.mp hprepare
  obtain ⟨hfits, -⟩ := checkedMulU64_eq_some_iff.mp (okOr_eq_ok_iff.mp hoffset)
  exact ⟨hsequence, hfits, encodeUploadBlock_carries hprepare⟩

/-! ## Posts -/

/-- A block on its way: its frame, and how many endpoints it was posted to. -/
structure SentBlock where
  block : UploadBlock
  frame : List UInt8
  attempts : Nat

/-- The posts of a block: its frame, to one endpoint of the session after the
other. -/
def SentBlock.posts (arguments : UploadArguments) (sent : SentBlock) : List Post :=
  (arguments.session.endpoints.take sent.attempts).map fun endpoint =>
    ⟨endpoint, arguments.identity.uin, sent.frame⟩

theorem sendBlock_posts (codec : HighwayCodec) (outcome : Nat → PostOutcome) (uin : UInt64)
    (frame : List UInt8) (endpoints : List HighwayEndpoint) (start : Nat) :
    ∃ attempts ≤ endpoints.length, (endpoints ≠ [] → 0 < attempts) ∧
      (sendBlock codec outcome uin frame start endpoints).1 =
        (endpoints.take attempts).map fun endpoint => ⟨endpoint, uin, frame⟩ := by
  induction endpoints generalizing start with
  | nil => exact ⟨0, Nat.le_refl _, fun hnil => absurd rfl hnil, rfl⟩
  | cons endpoint rest ih =>
      unfold sendBlock
      cases hdecides : decides codec (outcome start) with
      | some result => exact ⟨1, by simp, fun _ => Nat.one_pos, rfl⟩
      | none =>
          obtain ⟨attempts, hle, -, hposts⟩ := ih (start + 1)
          refine ⟨attempts + 1, ?_, fun _ => Nat.succ_pos _, ?_⟩
          · simpa using hle
          · simp only [hposts, List.take_succ_cons, List.map_cons]

/-- A block that was sent: it was posted at least once, and its frame carries
it. -/
structure Delivered (codec : HighwayCodec) (arguments : UploadArguments)
    (sent : SentBlock) : Prop where
  attempts_pos : 0 < sent.attempts
  attempts_le : sent.attempts ≤ arguments.session.endpoints.length
  carries : Carries codec sent.block sent.frame

/-! ## The loop -/

/-- What the loop over the blocks sends of an object, from an index on. -/
structure SendsFrom (codec : HighwayCodec) (arguments : UploadArguments) (index : Nat)
    (sent : List SentBlock) (result : List Post × Except HighwayError Nat) : Prop where
  posts_eq : result.1 = sent.flatMap (SentBlock.posts arguments)
  delivered : ∀ block ∈ sent, Delivered codec arguments block
  tiles : Tiles arguments.bytes (index * arguments.client.chunkBytes) (index + 1)
    (sent.map SentBlock.block)
  complete : ∀ total, result.2 = .ok total →
    total = index + sent.length ∧ (index < u32Bound → total < u32Bound) ∧
    (sent.map fun block => block.block.body).flatten =
      arguments.bytes.drop (index * arguments.client.chunkBytes)

theorem SendsFrom.none {codec : HighwayCodec} {arguments : UploadArguments} {index : Nat}
    {error : HighwayError} : SendsFrom codec arguments index [] ([], .error error) where
  posts_eq := rfl
  delivered := fun _ hblock => (List.not_mem_nil hblock).elim
  tiles := .nil
  complete := fun total htotal => by cases htotal

section Loop

variable {codec : HighwayCodec} {arguments : UploadArguments} {index : Nat}
  {body frame : List UInt8}

/-- The first block of the rest of an object, and where the next one begins. -/
theorem tiles_cons (hfile : arguments.bytes.length < u64Bound)
    (hfits : index * arguments.client.chunkBytes < u64Bound) (hindex : index + 1 < u32Bound)
    (hnonempty : body ≠ [])
    (hbody : body = (arguments.bytes.drop (index * arguments.client.chunkBytes)).take
      arguments.client.chunkBytes)
    {rest : List UploadBlock}
    (hrest : Tiles arguments.bytes (index * arguments.client.chunkBytes + body.length)
      (index + 1 + 1) rest) :
    Tiles arguments.bytes (index * arguments.client.chunkBytes) (index + 1)
      (arguments.block codec index body :: rest) := by
  refine .cons ?_ ?_ ?_ hnonempty ?_ hrest
  · exact UInt64.toNat_ofNat_of_lt' hfits
  · exact UInt32.toNat_ofNat_of_lt' hindex
  · exact UInt64.toNat_ofNat_of_lt' hfile
  · show slice arguments.bytes _ (_ + body.length) = body
    rw [slice, Nat.add_sub_cancel_left, hbody, List.length_take, ← List.take_take,
      List.take_length]

theorem drop_next (object : List UInt8) (index size : Nat) :
    (object.drop (index * size)).drop size = object.drop ((index + 1) * size) := by
  rw [List.drop_drop, Nat.succ_mul]

/-- A full block ends where the next one begins, and a shorter one is the last. -/
theorem tiles_next {blocks : List UploadBlock} {sequence : Nat}
    (hbody : body = (arguments.bytes.drop (index * arguments.client.chunkBytes)).take
      arguments.client.chunkBytes)
    (htiles : Tiles arguments.bytes ((index + 1) * arguments.client.chunkBytes) sequence
      blocks) :
    Tiles arguments.bytes (index * arguments.client.chunkBytes + body.length) sequence
      blocks := by
  by_cases hend : arguments.bytes.length ≤ (index + 1) * arguments.client.chunkBytes
  · rw [htiles.eq_nil hend]
    exact .nil
  · have hlength : body.length = arguments.client.chunkBytes := by
      rw [Nat.succ_mul] at hend
      rw [hbody, List.length_take, List.length_drop]
      omega
    rw [hlength, ← Nat.succ_mul]
    exact htiles

/-- A round of the loop that could prepare its block: the block that it sends, whatever
comes back. -/
structure Round (codec : HighwayCodec) (arguments : UploadArguments) (index : Nat)
    (body : List UInt8) (current : SentBlock) : Prop where
  block_eq : current.block = arguments.block codec index body
  delivered : Delivered codec arguments current
  index_lt : index + 1 < u32Bound
  offset_lt : index * arguments.client.chunkBytes < u64Bound
  body_eq : body = (arguments.bytes.drop (index * arguments.client.chunkBytes)).take
    arguments.client.chunkBytes

theorem exists_round (outcome : Nat → PostOutcome)
    (hendpoints : arguments.session.endpoints ≠ [])
    (hbody : body = (arguments.bytes.drop (index * arguments.client.chunkBytes)).take
      arguments.client.chunkBytes)
    (hprepare : arguments.prepareBlock codec index body = .ok frame) :
    ∃ current, Round codec arguments index body current ∧
      (sendBlock codec outcome arguments.identity.uin frame 0
        arguments.session.endpoints).1 = current.posts arguments := by
  obtain ⟨hindex, hoffset, hcarries⟩ := prepareBlock_eq_ok hprepare
  obtain ⟨attempts, hle, hpos, hposts⟩ := sendBlock_posts codec outcome
    arguments.identity.uin frame arguments.session.endpoints 0
  refine ⟨⟨arguments.block codec index body, frame, attempts⟩, ?_, hposts⟩
  exact ⟨rfl, ⟨hpos hendpoints, hle, hcarries⟩, hindex, hoffset, hbody⟩

variable {current : SentBlock} {sent : List SentBlock}

theorem Round.block_body (hround : Round codec arguments index body current) :
    current.block.body = body := by
  rw [hround.block_eq]
  rfl

/-- The validator has refused a block without a body. -/
theorem Round.body_ne_nil (hround : Round codec arguments index body current) : body ≠ [] := by
  have hvalid := rejectIf_eq_ok_iff.mp hround.delivered.carries.valid
  rintro rfl
  exact hvalid (by simp [hround.block_body])

theorem Round.tiles (hround : Round codec arguments index body current)
    (hfile : arguments.bytes.length < u64Bound) {rest : List UploadBlock}
    (hrest : Tiles arguments.bytes ((index + 1) * arguments.client.chunkBytes)
      (index + 1 + 1) rest) :
    Tiles arguments.bytes (index * arguments.client.chunkBytes) (index + 1)
      (current.block :: rest) := by
  rw [hround.block_eq]
  exact tiles_cons hfile hround.offset_lt hround.index_lt hround.body_ne_nil hround.body_eq
    (tiles_next hround.body_eq hrest)

/-- The round is the last one, since no endpoint took its block. -/
theorem Round.sends_last (hround : Round codec arguments index body current)
    (hfile : arguments.bytes.length < u64Bound) {error : HighwayError} :
    SendsFrom codec arguments index [current] (current.posts arguments, .error error) where
  posts_eq := (List.flatMap_singleton _ _).symm
  delivered := by
    rintro block hblock
    obtain rfl := List.mem_singleton.mp hblock
    exact hround.delivered
  tiles := hround.tiles hfile .nil
  complete := fun total htotal => by cases htotal

/-- The round is followed by those that send the rest of the object. -/
theorem Round.sends_next (hround : Round codec arguments index body current)
    (hfile : arguments.bytes.length < u64Bound)
    {others : List Post × Except HighwayError Nat}
    (hsent : SendsFrom codec arguments (index + 1) sent others) :
    SendsFrom codec arguments index (current :: sent)
      (current.posts arguments ++ others.1, others.2) where
  posts_eq := by
    rw [List.flatMap_cons, ← hsent.posts_eq]
  delivered := List.forall_mem_cons.mpr ⟨hround.delivered, hsent.delivered⟩
  tiles := hround.tiles hfile hsent.tiles
  complete := by
    intro total htotal
    obtain ⟨hcount, hbound, hflatten⟩ := hsent.complete total htotal
    refine ⟨?_, fun _ => hbound hround.index_lt, ?_⟩
    · rw [hcount, List.length_cons]
      omega
    · rw [List.map_cons, List.flatten_cons, hflatten, ← drop_next, hround.block_body,
        hround.body_eq]
      exact List.take_append_drop _ _

/-- The loop sends the object from the index on, as far as it gets. -/
theorem uploadFrom_sends (outcome : Nat → Nat → PostOutcome)
    (hendpoints : arguments.session.endpoints ≠ [])
    (hfile : arguments.bytes.length < u64Bound) {bodies : List (List UInt8)} (index : Nat)
    (hbodies : bodies = chunks arguments.client.chunkBytes
      (arguments.bytes.drop (index * arguments.client.chunkBytes))) :
    ∃ sent, SendsFrom codec arguments index sent
      (uploadFrom codec outcome arguments index index bodies) := by
  have hsize : 0 < arguments.client.chunkBytes :=
    Nat.lt_of_lt_of_le (by decide) arguments.client.min_le
  induction bodies generalizing index with
  | nil =>
      refine ⟨[], rfl, fun _ hblock => (List.not_mem_nil hblock).elim, .nil, ?_⟩
      intro total htotal
      cases htotal
      refine ⟨rfl, id, ?_⟩
      by_contra hrest
      rw [chunks_cons (Ne.symm hrest) hsize] at hbodies
      cases hbodies
  | cons body rest ih =>
      obtain ⟨hbody, hrest⟩ := chunks_eq_cons hsize hbodies.symm
      rw [drop_next] at hrest
      cases hprepare : arguments.prepareBlock codec index body with
      | error error =>
          refine ⟨[], ?_⟩
          simp only [uploadFrom, hprepare]
          exact .none
      | ok frame =>
          obtain ⟨current, hround, hposts⟩ :=
            exists_round (outcome index) hendpoints hbody hprepare
          have hroom : ¬ u32Bound ≤ index + 1 := Nat.not_le.mpr hround.index_lt
          rcases hposted : sendBlock codec (outcome index) arguments.identity.uin frame 0
            arguments.session.endpoints with ⟨posts, result⟩
          have hcurrent : posts = current.posts arguments := by
            rw [hposted] at hposts
            exact hposts
          subst hcurrent
          simp only [uploadFrom, hprepare, hposted]
          cases result with
          | error error => exact ⟨[current], hround.sends_last hfile⟩
          | ok done =>
              cases done
              simp only [if_neg hroom]
              obtain ⟨sent, hsent⟩ := ih (index + 1) hrest
              exact ⟨current :: sent, hround.sends_next hfile hsent⟩

end Loop

/-! ## The upload -/

/-- Whatever the endpoints answer, the blocks that an upload sends tile the object
from its first byte on, each with the sequence number behind that of the one
before it; each is posted in a frame that carries it, with its own length and
digest, and that the validator accepts.  When the upload succeeds, the bodies are
the object, and the receipt counts its bytes and the blocks. -/
theorem upload_partitions (codec : HighwayCodec) (outcome : Nat → Nat → PostOutcome)
    (arguments : UploadArguments) :
    ∃ sent : List SentBlock,
      (upload codec outcome arguments).1 = sent.flatMap (SentBlock.posts arguments) ∧
      (∀ block ∈ sent, Delivered codec arguments block) ∧
      Tiles arguments.bytes 0 1 (sent.map SentBlock.block) ∧
      (sent.map fun block => block.block.body).flatten <+: arguments.bytes ∧
      ∀ receipt, (upload codec outcome arguments).2 = .ok receipt →
        (sent.map fun block => block.block.body).flatten = arguments.bytes ∧
        receipt.bytesUploaded.toNat = arguments.bytes.length ∧
        receipt.blocksUploaded.toNat = sent.length := by
  unfold upload
  cases hinputs : arguments.validateInputs with
  | error error =>
      refine ⟨[], rfl, fun _ hblock => (List.not_mem_nil hblock).elim, .nil, List.nil_prefix, ?_⟩
      rintro receipt hreceipt
      cases hreceipt
  | ok checked =>
      obtain ⟨⟨⟩, hgiven, hinputs⟩ := bind_eq_ok_iff.mp hinputs
      obtain ⟨⟨⟩, -, hinputs⟩ := bind_eq_ok_iff.mp hinputs
      have hendpoints := (not_or.mp (rejectIf_eq_ok_iff.mp hgiven)).2
      have hfile : arguments.bytes.length < u64Bound :=
        Nat.not_le.mp (rejectIf_eq_ok_iff.mp hinputs)
      have hbodies : arguments.bodies = chunks arguments.client.chunkBytes
          (arguments.bytes.drop (0 * arguments.client.chunkBytes)) := by
        rw [Nat.zero_mul, List.drop_zero]
        rfl
      obtain ⟨sent, hsent : SendsFrom codec arguments 0 sent _⟩ :=
        uploadFrom_sends outcome hendpoints hfile 0 hbodies
      have htiles := hsent.tiles
      rw [Nat.zero_mul] at htiles
      refine ⟨sent, hsent.posts_eq, hsent.delivered, htiles, ?_, ?_⟩
      · -- What tiles an object from its first byte on is a front of it.
        have hslice := htiles.flatten
        rw [List.map_map] at hslice
        have hfront : (sent.map fun block => block.block.body).flatten =
            slice arguments.bytes 0 _ := hslice
        rw [hfront, slice, List.drop_zero]
        exact List.take_prefix _ _
      · rintro receipt hreceipt
        obtain ⟨total, htotal, rfl⟩ := map_eq_ok_iff.mp hreceipt
        obtain ⟨hcount, hbound, hflatten⟩ := hsent.complete total htotal
        rw [Nat.zero_mul, List.drop_zero] at hflatten
        rw [Nat.zero_add] at hcount
        refine ⟨hflatten, UInt64.toNat_ofNat_of_lt' hfile, ?_⟩
        rw [← hcount]
        exact UInt32.toNat_ofNat_of_lt' (hbound (by decide))

end Highway
end Lirvena
