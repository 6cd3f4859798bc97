import Lirvena.Lib.Probe
import Lirvena.Message.Outbound
import Lirvena.OneBot.Projection
import Lirvena.Store.MessageStore

/-!
# The message registry

The writer of the message store.  An inbound message reuses the identifier of
the stored message with its correlation; an outbound one is stored under the
next free identifier without a look at its correlation.
-/

namespace Lirvena
namespace Runtime

open Lib
open Message
open OneBot
open Store

structure MessageRegistry where
  store : MessageStore

/-- Correlations of an accepted outbound message. -/
structure OutboundCorrelations where
  sequence : UInt32
  clientSequence : UInt32
  random : UInt32
  timestamp : UInt32

/-! ## Wire values -/

/-- A `u32`, or the bits of a negative `i32`. -/
def wireU32 (value : Int) : Option UInt32 :=
  match tryU32 value with
  | some word => some word
  | none =>
      if -(2 ^ 31) ≤ value ∧ value < 2 ^ 31 then
        some (UInt32.ofNat (value % 2 ^ 32).toNat)
      else
        none

def preferredId (sequence : UInt64) : UInt32 :=
  sequence.toUInt32 &&& 0x7fffffff

/-- The identifier that is probed after a taken one. -/
def followingId (messageId : UInt32) : UInt32 :=
  let next := (messageId + 1) &&& 0x7fffffff
  if next = 0 then 1 else next

/-! ## Correlations of inbound messages -/

def privatePeer (route : MessageRoute) (selfUin : UInt64) : Option (UInt32 × String) :=
  if route.fromUin.toUInt64 = selfUin then
    (route.toUid.filter (fun _ => route.toUin ≠ 0)).map (fun uid => (route.toUin, uid))
  else if route.toUin.toUInt64 = selfUin then
    (route.fromUid.filter (fun _ => route.fromUin ≠ 0)).map (fun uid => (route.fromUin, uid))
  else
    none

def groupInbound (envelope : MessageEnvelope) : RecallTarget :=
  match envelope.route.groupUin.filter (fun code => code ≠ 0 ∧ envelope.sequence ≠ 0) with
  | none => .unavailable
  | some groupCode =>
      .group groupCode envelope.sequence ((wireU32 envelope.random).filter (· ≠ 0))

def privateInbound (envelope : MessageEnvelope) (selfUin : UInt64) : RecallTarget :=
  match privatePeer envelope.route selfUin, wireU32 envelope.random,
    tryU32 envelope.timestamp with
  | some (peerUin, uid), some random, some timestamp =>
      if envelope.sequence = 0 ∨ envelope.directMessageSequence = 0 then
        .unavailable
      else
        .private uid (some peerUin) envelope.sequence envelope.directMessageSequence.toUInt64
          random timestamp
  | _, _, _ => .unavailable

def inboundTarget (identity : AccountIdentity) (envelope : MessageEnvelope) : RecallTarget :=
  match envelope.class with
  | .group => groupInbound envelope
  | .private => privateInbound envelope identity.qqId
  | _ => .unavailable

/-- The message identifier QQ derives from a random when the envelope has none. -/
def derivedMessageUid (random : UInt32) : UInt64 :=
  ((0x01000000 : UInt64) <<< 32) ||| random.toUInt64

def inboundQuote (message : InboundMessage) : Option QuoteTarget := do
  let envelope := message.envelope
  let sequence ← match envelope.class with
    | .group =>
        if envelope.sequence.toNat < u32Bound then some envelope.sequence.toUInt32 else none
    | .private => some envelope.directMessageSequence
    | _ => none
  let messageUid ← if envelope.messageUid ≠ 0 then some envelope.messageUid
    else (wireU32 envelope.random).map derivedMessageUid
  let timestamp ← tryU32 envelope.timestamp
  let senderUid ← envelope.route.fromUid
  let richText ← message.richText
  (QuoteTarget.new sequence messageUid envelope.route.fromUin senderUid timestamp
    (richText.elements.map RichTextElement.encoded)).toOption

def sameConversation (target : RecallTarget) (envelope : MessageEnvelope) (selfUin : UInt64) :
    Bool :=
  match target, envelope.class with
  | .group groupCode _ _, .group => envelope.route.groupUin = some groupCode
  | .private uid _ _ _ _ _, .private =>
      (privatePeer envelope.route selfUin).any (fun peer => peer.2 = uid)
  | _, _ => false

/-! ## Correlations of outbound messages -/

/-- The correlation under which an accepted outbound message is stored. -/
def outboundTarget (target : SendTextTarget) (correlations : OutboundCorrelations) :
    RecallTarget :=
  match target with
  | .group groupCode =>
      if correlations.sequence ≠ 0 then
        .group groupCode correlations.sequence.toUInt64
          (if correlations.random ≠ 0 then some correlations.random else none)
      else
        .unavailable
  | .private uin uid =>
      if correlations.sequence ≠ 0 ∧ correlations.clientSequence ≠ 0 ∧
          correlations.random ≠ 0 ∧ correlations.timestamp ≠ 0 then
        .private uid (some uin) correlations.sequence.toUInt64
          correlations.clientSequence.toUInt64 correlations.random correlations.timestamp
      else
        .unavailable

/-- The response with the identifier that the message is stored under. -/
def numberedResponse (fields : List (String × Json)) (messageId : UInt32) : Json :=
  .object (Json.insertField "real_id" (.integer messageId.toNat)
    (Json.insertField "message_id" (.integer messageId.toNat) fields))

/-! ## The registry -/

/-- The record with the quote of its message, when there is one. -/
def quoted (record : MessageRecord) (message : InboundMessage) : MessageRecord :=
  match inboundQuote message with
  | some quote => record.withQuote quote
  | none => record

@[simp] theorem quoted_messageId (record : MessageRecord) (message : InboundMessage) :
    (quoted record message).messageId = record.messageId := by
  unfold quoted
  split <;> rfl

@[simp] theorem quoted_recall (record : MessageRecord) (message : InboundMessage) :
    (quoted record message).recall = record.recall := by
  unfold quoted
  split <;> rfl

@[simp] theorem quoted_insertedAtMs (record : MessageRecord) (message : InboundMessage) :
    (quoted record message).insertedAtMs = record.insertedAtMs := by
  unfold quoted
  split <;> rfl

/-- `map_err` to a configuration error. -/
def configured {ε α : Type} : Except ε α → Except MessageStoreError α
  | .error _ => .error .configuration
  | .ok value => .ok value

namespace MessageRegistry

/-- The first free identifier from the preferred one on.  Its loop has no bound
in the source; one round more than there are rows is enough. -/
def nextId (registry : MessageRegistry) (preferred : UInt32) : UInt32 :=
  firstFree registry.store.contains followingId registry.store.rows.length
    (if preferred = 0 then 1 else preferred)

/-- The identifier of the record a lookup found, or a new one. -/
def idOrNext (registry : MessageRegistry) (sequence : UInt64)
    (found : Option MessageRecord) : UInt32 :=
  found.elim (registry.nextId (preferredId sequence)) MessageRecord.messageId

def inboundId (registry : MessageRegistry) (target : RecallTarget) (sequence : UInt64) :
    Except MessageStoreError UInt32 :=
  match target with
  | .group groupCode groupSequence _ =>
      registry.idOrNext sequence <$> registry.store.findGroup groupCode groupSequence
  | .private uid (some peerUin) serverSequence clientSequence random timestamp =>
      registry.idOrNext sequence <$>
        registry.store.findPrivate uid peerUin serverSequence clientSequence random timestamp
  | .private _ none _ _ _ _ | .unavailable => .ok (registry.nextId (preferredId sequence))

def prepareInbound (registry : MessageRegistry) (identity : AccountIdentity)
    (envelope : MessageEnvelope) : Except MessageStoreError (UInt32 × RecallTarget) := do
  let target := inboundTarget identity envelope
  let messageId ← registry.inboundId target envelope.sequence
  return (messageId, target)

/-- The identifier of the message that one element replies to. -/
def resolveReply (registry : MessageRegistry) (identity : AccountIdentity)
    (envelope : MessageEnvelope) (element : RichTextElement) :
    Except MessageStoreError (Option UInt32) :=
  match element.segment with
  | .reply reply => do
      let record ← registry.store.findQuote reply.messageUid reply.sequence
      return (record.filter (fun record =>
        sameConversation record.recall envelope identity.qqId)).map MessageRecord.messageId
  | _ => .ok none

def resolveReplyIds (registry : MessageRegistry) (identity : AccountIdentity)
    (envelope : MessageEnvelope) (richText : Option RichTextMessage) :
    Except MessageStoreError (List (Option UInt32)) :=
  match richText with
  | none => .ok []
  | some richText => richText.elements.mapM (registry.resolveReply identity envelope)

def retainInbound (registry : MessageRegistry) (message : InboundMessage)
    (target : RecallTarget) (insertedAtMs : UInt64) :
    Except MessageStoreError MessageRegistry := do
  let response ← configured (projectMessageRecord message .number)
  let record ← MessageRecord.new message.messageId insertedAtMs response target
  let store ← registry.store.put (quoted record message)
  return { store := store }

theorem configured_eq_ok_iff {ε α : Type} {first : Except ε α} {value : α} :
    configured first = .ok value ↔ first = .ok value := by
  cases first <;> simp [configured]

theorem retainInbound_eq_ok_iff {registry next : MessageRegistry} {message : InboundMessage}
    {target : RecallTarget} {insertedAtMs : UInt64} :
    registry.retainInbound message target insertedAtMs = .ok next ↔
      ∃ response record, projectMessageRecord message .number = .ok response ∧
        MessageRecord.new message.messageId insertedAtMs response target = .ok record ∧
          registry.store.put (quoted record message) = .ok next.store := by
  constructor
  · intro hretain
    obtain ⟨response, hresponse, hretain⟩ := bind_eq_ok_iff.mp hretain
    obtain ⟨record, hnew, hretain⟩ := bind_eq_ok_iff.mp hretain
    obtain ⟨store, hput, hnext⟩ := bind_eq_ok_iff.mp hretain
    cases hnext
    exact ⟨response, record, configured_eq_ok_iff.mp hresponse, hnew, hput⟩
  · rintro ⟨response, record, hresponse, hnew, hput⟩
    refine bind_eq_ok_iff.mpr ⟨response, configured_eq_ok_iff.mpr hresponse, ?_⟩
    refine bind_eq_ok_iff.mpr ⟨record, hnew, ?_⟩
    exact bind_eq_ok_iff.mpr ⟨next.store, hput, rfl⟩

def retainDecoded (registry : MessageRegistry) (identity : AccountIdentity)
    (envelope : MessageEnvelope) (richText : Option RichTextMessage) (insertedAtMs : UInt64) :
    Except MessageStoreError (MessageRegistry × InboundMessage) := do
  let (messageId, target) ← registry.prepareInbound identity envelope
  let replyIds ← registry.resolveReplyIds identity envelope richText
  let message ← configured
    ((InboundMessage.new identity messageId envelope richText).withReplyIds replyIds)
  let next ← registry.retainInbound message target insertedAtMs
  return (next, message)

def registerOutbound (registry : MessageRegistry) (target : SendTextTarget)
    (correlations : OutboundCorrelations) (insertedAtMs : UInt64) (response : Json) :
    Except MessageStoreError (MessageRegistry × UInt32) := do
  let recallTarget := outboundTarget target correlations
  let messageId := registry.nextId (preferredId correlations.sequence.toUInt64)
  let fields ← okOr .configuration response.asObject
  let record ← MessageRecord.new messageId insertedAtMs (numberedResponse fields messageId)
    recallTarget
  let store ← registry.store.put record
  return ({ store := store }, messageId)

def remove (registry : MessageRegistry) (messageId : UInt32) : MessageRegistry where
  store := registry.store.remove messageId

/-! ## Free identifiers -/

/-- An identifier that a record may carry. -/
def ValidId (messageId : UInt32) : Prop :=
  messageId ≠ 0 ∧ messageId ≤ 0x7fffffff

theorem validId_iff {messageId : UInt32} :
    ValidId messageId ↔ 1 ≤ messageId.toNat ∧ messageId.toNat < 2 ^ 31 := by
  have hle : messageId ≤ 0x7fffffff ↔ messageId.toNat ≤ 0x7fffffff := by
    rw [UInt32.le_iff_toNat_le]
    rfl
  have hne : messageId ≠ 0 ↔ messageId.toNat ≠ 0 := by
    rw [Ne, ← UInt32.toNat_inj]
    rfl
  rw [ValidId, hle, hne]
  omega

theorem toNat_and_mask (value : UInt32) : (value &&& 0x7fffffff).toNat = value.toNat % 2 ^ 31 := by
  have hmask : (0x7fffffff : UInt32).toNat = 2 ^ 31 - 1 := by decide
  rw [UInt32.toNat_and, hmask, Nat.and_two_pow_sub_one_eq_mod]

theorem followingId_toNat {messageId : UInt32} (hvalid : ValidId messageId) :
    (followingId messageId).toNat = messageId.toNat % (2 ^ 31 - 1) + 1 := by
  rw [validId_iff] at hvalid
  have hsum : (messageId + 1).toNat = messageId.toNat + 1 := by
    rw [UInt32.toNat_add]
    have hone : (1 : UInt32).toNat = 1 := rfl
    omega
  have hmasked : ((messageId + 1) &&& 0x7fffffff).toNat = (messageId.toNat + 1) % 2 ^ 31 := by
    rw [toNat_and_mask, hsum]
  unfold followingId
  -- The mask only bites behind the last identifier, which is followed by one.
  by_cases hlast : messageId.toNat = 2 ^ 31 - 1
  · have hzero : (messageId + 1) &&& 0x7fffffff = 0 := by
      apply UInt32.toNat_inj.mp
      rw [hmasked, hlast]
      rfl
    simp only [hzero, if_true]
    rw [hlast, Nat.mod_self]
    rfl
  · have hne : (messageId + 1) &&& 0x7fffffff ≠ 0 := by
      intro hzero
      have hnat := congrArg UInt32.toNat hzero
      rw [hmasked, Nat.mod_eq_of_lt (by omega)] at hnat
      have hzeroNat : (0 : UInt32).toNat = 0 := rfl
      omega
    simp only [hne, if_false]
    rw [hmasked, Nat.mod_eq_of_lt (by omega), Nat.mod_eq_of_lt (by omega)]

theorem followingId_valid {messageId : UInt32} (hvalid : ValidId messageId) :
    ValidId (followingId messageId) := by
  have hnext := followingId_toNat hvalid
  rw [validId_iff] at hvalid ⊢
  omega

theorem iterate_followingId {start : UInt32} (hvalid : ValidId start) (index : Nat) :
    ValidId (followingId^[index] start) ∧
      (followingId^[index] start).toNat = (start.toNat - 1 + index) % (2 ^ 31 - 1) + 1 := by
  induction index with
  | zero =>
      refine ⟨hvalid, ?_⟩
      rw [validId_iff] at hvalid
      rw [Function.iterate_zero_apply]
      omega
  | succ index ih =>
      obtain ⟨hprevious, hnat⟩ := ih
      rw [Function.iterate_succ_apply']
      refine ⟨followingId_valid hprevious, ?_⟩
      rw [followingId_toNat hprevious, hnat]
      omega

theorem preferredId_start_valid (sequence : UInt64) :
    ValidId (if preferredId sequence = 0 then 1 else preferredId sequence) := by
  split
  · exact ⟨by decide, by decide⟩
  · next hne =>
      have hmask : (preferredId sequence).toNat < 2 ^ 31 := by
        rw [preferredId, toNat_and_mask]
        omega
      have hpos : (preferredId sequence).toNat ≠ 0 := by
        intro hzero
        exact hne (UInt32.toNat_inj.mp hzero)
      rw [validId_iff]
      omega

/-- The search ends at an identifier that no row has: the identifiers from a valid one on
are a cycle, and one more of them than there are rows cannot all be taken. -/
theorem nextId_free_of_valid (registry : MessageRegistry) {preferred : UInt32}
    (hstart : ValidId (if preferred = 0 then 1 else preferred)) :
    registry.store.contains (registry.nextId preferred) = false := by
  have hbounded := registry.store.bounded
  refine firstFree_free (registry.store.rows.filterMap (fun row => tryU32 row.messageId)) ?_
    (List.length_filterMap_le _ _) ?_
  · intro messageId htaken
    obtain ⟨row, hrow, hid⟩ := List.any_eq_true.mp htaken
    simp only [decide_eq_true_eq] at hid
    exact List.mem_filterMap.mpr ⟨row, hrow, by rw [hid, tryU32_intColumn]⟩
  · intro first hfirst second hsecond hsame
    have hfirstNat := (iterate_followingId hstart first).2
    have hsecondNat := (iterate_followingId hstart second).2
    rw [hsame, hsecondNat] at hfirstNat
    rw [validId_iff] at hstart
    unfold Store.maxMessages at hbounded
    omega

theorem nextId_valid (registry : MessageRegistry) (sequence : UInt64) :
    ValidId (registry.nextId (preferredId sequence)) :=
  firstFree_mem (fun _ hvalid => followingId_valid hvalid) (preferredId_start_valid sequence) _

end MessageRegistry
end Runtime
end Lirvena
