import Lirvena.Runtime.ReplyResolution
import Lirvena.Runtime.SendSegments

/-!
# Replies to retained messages

A reply is compiled from the quote that the store retained with its message.  The
store and the compiler bound a quote separately.  The store takes as many elements
as an inbound message may have, and any timestamp of 32 bits; the compiler takes as
many as an outbound message may have, and an `i32`.
-/

namespace Lirvena
namespace Runtime

open Lib
open Message
open OneBot
open Store

/-- What the store says of a quote, without the bounds that the compiler sets again. -/
theorem validQuote_fields (quote : QuoteTarget) :
    quote.sequence ≠ 0 ∧ quote.messageUid ≠ 0 ∧ quote.senderUin ≠ 0 ∧
      boundedUid 128 quote.senderUid = true ∧ quote.timestamp ≠ 0 ∧ quote.elements ≠ [] ∧
      ∀ element ∈ quote.elements, element ≠ [] ∧ element.length ≤ maxElementBytes := by
  have hvalid := quote.valid
  simp only [validQuote, Bool.and_eq_true, decide_eq_true_eq, List.all_eq_true] at hvalid
  obtain ⟨⟨⟨⟨⟨⟨⟨⟨hsequence, huid⟩, hsender⟩, hsenderUid⟩, htime⟩, hnonempty⟩, -⟩, heach⟩, -⟩ :=
    hvalid
  exact ⟨hsequence, huid, hsender, hsenderUid, htime, hnonempty, heach⟩

/-- An element that the store retains is within the compiler's limit. -/
theorem validReplyElements_iff (quote : QuoteTarget) :
    validReplyElements quote.elements = true ↔
      quote.elements.length ≤ maxOutboundElements := by
  obtain ⟨-, -, -, -, -, hnonempty, heach⟩ := validQuote_fields quote
  have hsmall : maxElementBytes ≤ maxMediaMetadataBytes := by decide
  simp only [validReplyElements, Bool.and_eq_true, decide_eq_true_eq, List.all_eq_true]
  constructor
  · rintro ⟨⟨-, hcount⟩, -⟩
    exact hcount
  · intro hcount
    refine ⟨⟨hnonempty, hcount⟩, ?_⟩
    intro element helement
    exact ⟨(heach element helement).1, (heach element helement).2.trans hsmall⟩

/-- What the compiler asks of a quote and the store does not. -/
def Quotable (quote : QuoteTarget) : Prop :=
  quote.elements.length ≤ maxOutboundElements ∧ quote.timestamp.toNat < 2 ^ 31

instance (quote : QuoteTarget) : Decidable (Quotable quote) :=
  inferInstanceAs (Decidable (_ ∧ _))

theorem compileElement_reply_iff (wire : OutboundWire) (messageId : UInt32) (group : Bool)
    (quote : QuoteTarget) :
    (∃ produced, compileElement wire group
        (CompiledSegment.reply messageId group quote).borrowed = .ok produced) ↔
      Quotable quote := by
  obtain ⟨hsequence, huid, hsender, hsenderUid, htime, -, -⟩ :=
    validQuote_fields quote
  have hchecks : (group == group && quote.sequence ≠ 0 && quote.messageUid ≠ 0 &&
      quote.senderUin ≠ 0 && boundedUid 128 quote.senderUid && quote.timestamp ≠ 0 &&
      validReplyElements quote.elements) = validReplyElements quote.elements := by
    simp [hsequence, huid, hsender, hsenderUid, htime]
  unfold Quotable
  rw [← validReplyElements_iff]
  simp only [CompiledSegment.borrowed, compileElement, hchecks]
  constructor
  · rintro ⟨produced, hcompile⟩
    obtain ⟨⟨⟩, helements, hcompile⟩ := bind_eq_ok_iff.mp hcompile
    obtain ⟨⟨⟩, hnarrow, -⟩ := bind_eq_ok_iff.mp hcompile
    exact ⟨require_eq_ok_iff.mp helements, of_decide_eq_true (require_eq_ok_iff.mp hnarrow)⟩
  · rintro ⟨helements, hnarrow⟩
    exact ⟨_, bind_eq_ok_iff.mpr ⟨(), require_eq_ok_iff.mpr helements,
      bind_eq_ok_iff.mpr ⟨(), require_eq_ok_iff.mpr (decide_eq_true hnarrow), rfl⟩⟩⟩

/-- A reply carries no text of its own. -/
theorem compileElement_reply_text {wire : OutboundWire} {messageId : UInt32} {group : Bool}
    {quote : QuoteTarget} {produced : Nat × List ElementOut}
    (hcompile : compileElement wire group
      (CompiledSegment.reply messageId group quote).borrowed = .ok produced) :
    produced.1 = 0 := by
  simp only [CompiledSegment.borrowed, compileElement] at hcompile
  obtain ⟨⟨⟩, -, hcompile⟩ := bind_eq_ok_iff.mp hcompile
  obtain ⟨⟨⟩, -, hcompile⟩ := bind_eq_ok_iff.mp hcompile
  cases hcompile
  rfl

theorem quotable_of_compileElements {wire : OutboundWire} {messageId : UInt32} {group : Bool}
    {quote : QuoteTarget} {elements : List ElementOut}
    (hcompile : compileElements wire group
      [(CompiledSegment.reply messageId group quote).borrowed] = .ok elements) :
    Quotable quote := by
  obtain ⟨⟨⟩, -, hcompile⟩ := bind_eq_ok_iff.mp hcompile
  obtain ⟨produced, hproduced, -⟩ := bind_eq_ok_iff.mp hcompile
  rw [List.mapM_cons] at hproduced
  obtain ⟨first, hfirst, -⟩ := bind_eq_ok_iff.mp hproduced
  exact (compileElement_reply_iff wire messageId group quote).mp ⟨first, hfirst⟩

/-- A reply to any retained quote compiles exactly when the quote has at most 256
elements and a timestamp of 31 bits. -/
theorem retained_quote_compiles_iff (wire : OutboundWire) (messageId : UInt32) (group : Bool)
    (quote : QuoteTarget) :
    (∃ elements, compileElements wire group
        [(CompiledSegment.reply messageId group quote).borrowed] = .ok elements) ↔
      quote.elements.length ≤ 256 ∧ quote.timestamp.toNat < 2 ^ 31 := by
  constructor
  · rintro ⟨elements, hcompile⟩
    exact quotable_of_compileElements hcompile
  · intro hquotable
    obtain ⟨first, hfirst⟩ := (compileElement_reply_iff wire messageId group quote).mpr hquotable
    have hproduced : [(CompiledSegment.reply messageId group quote).borrowed].mapM
        (compileElement wire group) = .ok [first] := by
      rw [List.mapM_cons]
      exact bind_eq_ok_iff.mpr ⟨first, hfirst, rfl⟩
    -- the text limit of a message is spent on its other segments
    have htext : decide (([first].map Prod.fst).sum ≤ maxTextBytes) = true := by
      rw [List.map_singleton, List.sum_singleton, compileElement_reply_text hfirst]
      rfl
    refine ⟨[first].flatMap Prod.snd,
      bind_eq_ok_iff.mpr ⟨(), rfl, bind_eq_ok_iff.mpr ⟨_, hproduced, ?_⟩⟩⟩
    exact bind_eq_ok_iff.mpr ⟨(), require_eq_ok_iff.mpr htext, rfl⟩

/-- The quote of an inbound message is retained with its record. -/
theorem quoted_quote {record : MessageRecord} {message : InboundMessage} {quote : QuoteTarget}
    (hquote : inboundQuote message = some quote) : (quoted record message).quote = some quote := by
  simp only [quoted, hquote]
  rfl

/-! ## A message of 257 elements -/

/-- A member's message in a group. -/
def memberMessage (text : RichTextMessage) : InboundMessage :=
  .new MessageRegistry.ownIdentity 5 (MessageRegistry.memberEnvelope 100) (some text)

theorem inboundQuote_memberMessage (text : RichTextMessage) :
    inboundQuote (memberMessage text) = (QuoteTarget.new 5 (derivedMessageUid 9) 42 "u_member"
      1700000000 (text.elements.map RichTextElement.encoded)).toOption := by
  have htime : tryU32 (1700000000 : Int) = some 1700000000 := by decide
  have hrandom : wireU32 9 = some 9 := by decide
  simp [inboundQuote, memberMessage, InboundMessage.new, MessageRegistry.memberEnvelope,
    messageEnvelope, messageRoute, MessageRegistry.memberResponse, MessageRegistry.memberContent,
    MessageClass.fromWire, htime, hrandom, show 5 < u32Bound from by decide]

def longText : RichTextMessage where
  elements := List.replicate 257 { segment := .text "a", encoded := [10, 3, 10, 1, 97] }
  attributes := none
  file := none
  voice := none

/-- The quote of the message is retained, and no reply to it compiles. -/
theorem long_message_not_quotable :
    ∃ quote, (∀ record, (quoted record (memberMessage longText)).quote = some quote) ∧
      ∀ (wire : OutboundWire) (messageId : UInt32) (group : Bool) (elements : List ElementOut),
        compileElements wire group
          [(CompiledSegment.reply messageId group quote).borrowed] ≠ .ok elements := by
  have hvalid : validQuote 5 (derivedMessageUid 9) 42 "u_member" 1700000000
      (longText.elements.map RichTextElement.encoded) = true := by
    decide +kernel
  have hlength : (longText.elements.map RichTextElement.encoded).length = 257 := by
    rw [List.length_map, longText, List.length_replicate]
  let quote : QuoteTarget := ⟨5, derivedMessageUid 9, 42, "u_member", 1700000000, _, hvalid⟩
  refine ⟨quote, fun record => quoted_quote ?_, ?_⟩
  · rw [inboundQuote_memberMessage, quote.new_self]
    rfl
  · intro wire messageId group elements hcompile
    have hcount : quote.elements.length ≤ maxOutboundElements :=
      (quotable_of_compileElements hcompile).1
    have hlong : quote.elements.length = 257 := hlength
    rw [hlong] at hcount
    exact absurd hcount (by decide)

end Runtime
end Lirvena
