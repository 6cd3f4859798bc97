import Lirvena.Lib.Bytes
import Lirvena.Lib.Json
import Lirvena.Lib.Result

/-!
# Message records

What the account-local message store keeps for one message: the response that
`get_msg` answers with, the correlation that recalls the message and the
material that quotes it.  A record that breaks a limit cannot be built, and
neither can a quote.
-/

namespace Lirvena
namespace Store

open Lib

def maxMessages : Nat := 4096

def maxJsonBytes : Nat := 64 * 1024

def maxUidBytes : Nat := 128

def maxElements : Nat := 512

def maxElementBytes : Nat := 256 * 1024

def maxTotalBytes : Nat := 1024 * 1024

/-- Message-state configuration or persistence failure. -/
inductive MessageStoreError where
  | configuration
  | persistence
  deriving DecidableEq

/-! ## Recall correlations -/

/-- QQ correlation required to recall a retained message. -/
inductive RecallTarget where
  | group (groupCode : UInt32) (sequence : UInt64) (random : Option UInt32)
  | «private» (uid : String) (peerUin : Option UInt32) (sequence clientSequence : UInt64)
      (random timestamp : UInt32)
  | unavailable
  deriving DecidableEq

def validRecall : RecallTarget → Bool
  | .group groupCode sequence random =>
      groupCode ≠ 0 && sequence ≠ 0 && random.all (· ≠ 0)
  | .private uid peerUin sequence clientSequence random timestamp =>
      boundedUid maxUidBytes uid && peerUin.all (· ≠ 0) && sequence ≠ 0 &&
        clientSequence ≠ 0 && random ≠ 0 && timestamp ≠ 0
  | .unavailable => true

/-! ## Quotes -/

def validQuote (sequence : UInt32) (messageUid : UInt64) (senderUin : UInt32)
    (senderUid : String) (timestamp : UInt32) (elements : List (List UInt8)) : Bool :=
  sequence ≠ 0 && messageUid ≠ 0 && senderUin ≠ 0 && boundedUid maxUidBytes senderUid &&
    timestamp ≠ 0 && elements ≠ [] && elements.length ≤ maxElements &&
    elements.all (fun element => element ≠ [] && element.length ≤ maxElementBytes) &&
    (elements.map List.length).sum ≤ maxTotalBytes

/-- Retained QQ material required to build a real reply element. -/
structure QuoteTarget where
  sequence : UInt32
  messageUid : UInt64
  senderUin : UInt32
  senderUid : String
  timestamp : UInt32
  elements : List (List UInt8)
  valid : validQuote sequence messageUid senderUin senderUid timestamp elements = true
  deriving DecidableEq

namespace QuoteTarget

def new (sequence : UInt32) (messageUid : UInt64) (senderUin : UInt32) (senderUid : String)
    (timestamp : UInt32) (elements : List (List UInt8)) :
    Except MessageStoreError QuoteTarget :=
  if valid : validQuote sequence messageUid senderUin senderUid timestamp elements = true then
    .ok { sequence, messageUid, senderUin, senderUid, timestamp, elements, valid }
  else
    .error .configuration

theorem new_self (quote : QuoteTarget) :
    new quote.sequence quote.messageUid quote.senderUin quote.senderUid quote.timestamp
      quote.elements = .ok quote := by
  simp [new, quote.valid]

def encodeList : List (List UInt8) → Except MessageStoreError (List UInt8)
  | [] => .ok []
  | element :: rest => do
      rejectIf .configuration (u32Bound ≤ element.length)
      let tail ← encodeList rest
      return beBytes 4 element.length ++ (element ++ tail)

/-- The elements, each behind its length in four bytes. -/
def encodeElements (quote : QuoteTarget) : Except MessageStoreError (List UInt8) :=
  encodeList quote.elements

/-- The loop of `decode_elements`.  Every round consumes at least five bytes, so
that the length of the input is enough fuel. -/
def decodeLoop : Nat → List UInt8 → List (List UInt8) →
    Except MessageStoreError (List (List UInt8))
  | 0, remaining, elements =>
      if remaining = [] then .ok elements else .error .configuration
  | fuel + 1, remaining, elements =>
      if remaining = [] then .ok elements else do
        let (lengthBytes, remaining) ← okOr .configuration (splitFront 4 remaining)
        let length := beNat lengthBytes
        rejectIf .configuration
          (length = 0 ∨ maxElementBytes < length ∨ elements.length = maxElements)
        let (element, remaining) ← okOr .configuration (splitFront length remaining)
        decodeLoop fuel remaining (elements ++ [element])

def decodeElements (input : List UInt8) : Except MessageStoreError (List (List UInt8)) := do
  rejectIf .configuration (input = [] ∨ maxTotalBytes + maxElements * 4 < input.length)
  decodeLoop input.length input []

/-- What the limits of a quote say about its elements. -/
structure Bounded (elements : List (List UInt8)) : Prop where
  nonempty : elements ≠ []
  count : elements.length ≤ maxElements
  each : ∀ element ∈ elements, element ≠ [] ∧ element.length ≤ maxElementBytes
  total : (elements.map List.length).sum ≤ maxTotalBytes

theorem bounded (quote : QuoteTarget) : Bounded quote.elements := by
  have hvalid := quote.valid
  simp only [validQuote, Bool.and_eq_true, decide_eq_true_eq, List.all_eq_true] at hvalid
  obtain ⟨⟨⟨⟨-, hnonempty⟩, hcount⟩, heach⟩, htotal⟩ := hvalid
  exact ⟨hnonempty, hcount, heach, htotal⟩

theorem encodeList_length {elements : List (List UInt8)} {bytes : List UInt8}
    (hencode : encodeList elements = .ok bytes) :
    bytes.length = 4 * elements.length + (elements.map List.length).sum := by
  induction elements generalizing bytes with
  | nil =>
      cases hencode
      rfl
  | cons element rest ih =>
      obtain ⟨_, -, hencode⟩ := bind_eq_ok_iff.mp hencode
      obtain ⟨tail, htail, hencode⟩ := bind_eq_ok_iff.mp hencode
      cases hencode
      have hlen := ih htail
      simp only [List.length_append, beBytes_length, List.length_cons, List.map_cons,
        List.sum_cons]
      omega

theorem encodeList_ok {elements : List (List UInt8)}
    (heach : ∀ element ∈ elements, element.length ≤ maxElementBytes) :
    ∃ bytes, encodeList elements = .ok bytes := by
  induction elements with
  | nil => exact ⟨[], rfl⟩
  | cons element rest ih =>
      obtain ⟨tail, htail⟩ := ih (fun other hother => heach other (by simp [hother]))
      have hsmall := heach element (by simp)
      have hfits : ¬ u32Bound ≤ element.length := by
        unfold maxElementBytes at hsmall
        unfold u32Bound
        omega
      refine ⟨beBytes 4 element.length ++ (element ++ tail), ?_⟩
      unfold encodeList
      refine bind_eq_ok_iff.mpr ⟨(), rejectIf_eq_ok_iff.mpr hfits, ?_⟩
      exact bind_eq_ok_iff.mpr ⟨tail, htail, rfl⟩

theorem decodeLoop_encodeList {elements : List (List UInt8)}
    (heach : ∀ element ∈ elements, element ≠ [] ∧ element.length ≤ maxElementBytes)
    {bytes : List UInt8} (hencode : encodeList elements = .ok bytes)
    (seen : List (List UInt8)) (hcount : seen.length + elements.length ≤ maxElements)
    (fuel : Nat) (hfuel : elements.length ≤ fuel) :
    decodeLoop fuel bytes seen = .ok (seen ++ elements) := by
  induction elements generalizing bytes seen fuel with
  | nil =>
      cases hencode
      cases fuel <;> simp [decodeLoop]
  | cons element rest ih =>
      obtain ⟨_, -, hencode⟩ := bind_eq_ok_iff.mp hencode
      obtain ⟨tail, htail, hencode⟩ := bind_eq_ok_iff.mp hencode
      cases hencode
      obtain ⟨hnonempty, hsmall⟩ := heach element (by simp)
      have hpos : 0 < element.length := List.length_pos_iff.mpr hnonempty
      rw [List.length_cons] at hcount hfuel
      cases fuel with
      | zero => omega
      | succ fuel =>
          have hlength : beNat (beBytes 4 element.length) = element.length := by
            apply beNat_beBytes_of_lt
            unfold maxElementBytes at hsmall
            omega
          have hbytes : beBytes 4 element.length ++ (element ++ tail) ≠ [] := by
            intro hnil
            have := congrArg List.length hnil
            simp at this
          -- None of the three checks on a length fires on an encoded element.
          have hgood : ¬ (element.length = 0 ∨ maxElementBytes < element.length ∨
              seen.length = maxElements) := by
            omega
          have hrest := ih (fun other hother => heach other (by simp [hother])) htail
            (seen ++ [element]) (by simp; omega) fuel (by omega)
          unfold decodeLoop
          rw [if_neg hbytes]
          refine bind_eq_ok_iff.mpr ⟨_, okOr_eq_ok_iff.mpr
            (splitFront_append _ (beBytes_length 4 element.length)), ?_⟩
          show (rejectIf _ _ >>= _) = _
          rw [hlength]
          refine bind_eq_ok_iff.mpr ⟨(), rejectIf_eq_ok_iff.mpr hgood, ?_⟩
          refine bind_eq_ok_iff.mpr ⟨_, okOr_eq_ok_iff.mpr (splitFront_append tail rfl), ?_⟩
          simpa using hrest

/-- The stored elements of a quote are read back as they were. -/
theorem decodeElements_encodeElements (quote : QuoteTarget) {bytes : List UInt8}
    (hencode : quote.encodeElements = .ok bytes) :
    decodeElements bytes = .ok quote.elements := by
  have hbounded := quote.bounded
  have hlen := encodeList_length hencode
  have hpos : 0 < quote.elements.length := List.length_pos_iff.mpr hbounded.nonempty
  have hcount := hbounded.count
  have htotal := hbounded.total
  have hgood : ¬ (bytes = [] ∨ maxTotalBytes + maxElements * 4 < bytes.length) := by
    rintro (rfl | hlong)
    · simp at hlen
      omega
    · omega
  refine bind_eq_ok_iff.mpr ⟨(), rejectIf_eq_ok_iff.mpr hgood, ?_⟩
  simpa using decodeLoop_encodeList hbounded.each hencode [] (by simpa using hcount)
    bytes.length (by omega)

theorem encodeElements_ok (quote : QuoteTarget) : ∃ bytes, quote.encodeElements = .ok bytes :=
  encodeList_ok (fun element helement => (quote.bounded.each element helement).2)

end QuoteTarget

/-! ## Records -/

def validRecord (messageId : UInt32) (insertedAtMs : UInt64) (response : Json)
    (target : RecallTarget) : Bool :=
  messageId ≠ 0 && messageId ≤ 0x7fffffff && insertedAtMs ≠ 0 && response.asObject.isSome &&
    response.render.utf8ByteSize ≤ maxJsonBytes && validRecall target

/-- One canonical `OneBot` message response and its QQ recall correlation. -/
structure MessageRecord where
  messageId : UInt32
  insertedAtMs : UInt64
  response : Json
  «recall» : RecallTarget
  quote : Option QuoteTarget
  valid : validRecord messageId insertedAtMs response «recall» = true

namespace MessageRecord

def new (messageId : UInt32) (insertedAtMs : UInt64) (response : Json)
    (target : RecallTarget) : Except MessageStoreError MessageRecord :=
  if valid : validRecord messageId insertedAtMs response target = true then
    .ok { messageId, insertedAtMs, response, «recall» := target, quote := none, valid }
  else
    .error .configuration

theorem new_eq_ok_iff {messageId : UInt32} {insertedAtMs : UInt64} {response : Json}
    {target : RecallTarget} {record : MessageRecord} :
    new messageId insertedAtMs response target = .ok record ↔
      ∃ valid, record =
        { messageId, insertedAtMs, response, «recall» := target, quote := none, valid } := by
  unfold new
  split
  · next valid => simp [valid, eq_comm]
  · next invalid => simp [invalid]

theorem new_ok {messageId : UInt32} {insertedAtMs : UInt64} {response : Json}
    {target : RecallTarget} (hvalid : validRecord messageId insertedAtMs response target = true) :
    ∃ record, new messageId insertedAtMs response target = .ok record ∧
      record.insertedAtMs = insertedAtMs :=
  ⟨_, new_eq_ok_iff.mpr ⟨hvalid, rfl⟩, rfl⟩

def withQuote (record : MessageRecord) (quote : QuoteTarget) : MessageRecord :=
  { record with quote := some quote }

end MessageRecord

theorem validRecord_iff {messageId : UInt32} {insertedAtMs : UInt64} {response : Json}
    {target : RecallTarget} :
    validRecord messageId insertedAtMs response target = true ↔
      messageId ≠ 0 ∧ messageId ≤ 0x7fffffff ∧ insertedAtMs ≠ 0 ∧
        response.asObject.isSome = true ∧ response.renderedLen ≤ maxJsonBytes ∧
        validRecall target = true := by
  simp [validRecord, Json.render_utf8ByteSize, and_assoc]

end Store
end Lirvena
