import Lirvena.Runtime.InboundPreparation

/-!
# The resolution of replies

A reply names its source by a message identifier and a sequence.  The registry
resolves it to the stored message with that quote, and leaves it unresolved when
there is none; two of them are an error of the lookup, and the error ends the
retention of the message that carries the reply.
-/

namespace Lirvena
namespace Runtime

open Lib
open Message
open OneBot
open Store

/-- The identifier of the only stored message that a reply can mean, when it is
of the same conversation. -/
def expectedReply (store : MessageStore) (identity : AccountIdentity)
    (envelope : MessageEnvelope) (element : RichTextElement) : Option UInt32 :=
  match element.segment with
  | .reply reply =>
      match store.carrying (StoredRow.CarriesQuote reply.messageUid reply.sequence) with
      | [row] =>
          (row.record?.filter (fun record =>
            sameConversation record.recall envelope identity.qqId)).map MessageRecord.messageId
      | _ => none
  | _ => none

/-- At most one stored message carries what the element replies to. -/
def UnambiguousReply (store : MessageStore) (element : RichTextElement) : Prop :=
  ∀ reply, element.segment = .reply reply →
    (store.carrying (StoredRow.CarriesQuote reply.messageUid reply.sequence)).length ≤ 1

def UnambiguousReplies (store : MessageStore) (richText : Option RichTextMessage) : Prop :=
  ∀ element ∈ elementsOf richText, UnambiguousReply store element

def expectedReplies (store : MessageStore) (identity : AccountIdentity)
    (envelope : MessageEnvelope) (richText : Option RichTextMessage) : List (Option UInt32) :=
  (elementsOf richText).map (expectedReply store identity envelope)

namespace MessageRegistry

variable {registry : MessageRegistry} {identity : AccountIdentity}
  {envelope : MessageEnvelope}

theorem findQuote_eq (store : MessageStore) (reply : ReplySegment) :
    store.findQuote reply.messageUid reply.sequence =
      store.find (StoredRow.CarriesQuote reply.messageUid reply.sequence) := by
  have hgood : ¬ (reply.messageUid = 0 ∨ reply.sequence = 0) := by
    simp [reply.messageUid_ne, reply.sequence_ne]
  simp [MessageStore.findQuote, rejectIf, hgood, bind, Except.bind]

theorem resolveReply_eq_ok_iff (element : RichTextElement) (result : Option UInt32) :
    registry.resolveReply identity envelope element = .ok result ↔
      UnambiguousReply registry.store element ∧
        result = expectedReply registry.store identity envelope element := by
  cases hsegment : element.segment with
  | reply reply =>
      have hresolve : registry.resolveReply identity envelope element =
          (registry.store.find (StoredRow.CarriesQuote reply.messageUid reply.sequence) >>=
            fun record => pure ((record.filter (fun record =>
              sameConversation record.recall envelope identity.qqId)).map
                MessageRecord.messageId)) := by
        simp only [resolveReply, hsegment]
        rw [findQuote_eq]
      rw [hresolve]
      simp only [UnambiguousReply, expectedReply, hsegment, Segment.reply.injEq, forall_eq']
      -- No row, one row, or an ambiguous quote.
      rcases MessageStore.find_eq registry.store
          (StoredRow.CarriesQuote reply.messageUid reply.sequence) with
        ⟨hrows, hfind⟩ | ⟨row, record, hrows, hrow, hfind⟩ | ⟨hrows, hfind⟩
      · simp [hrows, hfind, bind, Except.bind, pure, Except.pure, eq_comm]
      · simp [hrows, hfind, StoredRow.record?_ofRecord hrow, bind, Except.bind, pure,
          Except.pure, eq_comm]
      · have hmany : ¬ (registry.store.carrying
            (StoredRow.CarriesQuote reply.messageUid reply.sequence)).length ≤ 1 := by
          omega
        simp [hmany, hfind, bind, Except.bind]
  | _ => simp [resolveReply, UnambiguousReply, expectedReply, hsegment, eq_comm]

theorem resolveReplyIds_eq_ok_iff {richText : Option RichTextMessage}
    {replyIds : List (Option UInt32)} :
    registry.resolveReplyIds identity envelope richText = .ok replyIds ↔
      UnambiguousReplies registry.store richText ∧
        replyIds = expectedReplies registry.store identity envelope richText := by
  cases richText with
  | none => simp [resolveReplyIds, UnambiguousReplies, expectedReplies, elementsOf, eq_comm]
  | some richText => exact mapM_eq_ok_iff resolveReply_eq_ok_iff

/-- A resolved identifier is the identifier of a record, and so not 0. -/
theorem expectedReply_ne_zero (store : MessageStore) (element : RichTextElement) :
    expectedReply store identity envelope element ≠ some 0 := by
  unfold expectedReply
  split
  · split
    · intro hzero
      obtain ⟨record, -, hid⟩ := Option.map_eq_some_iff.mp hzero
      exact (validRecord_iff.mp record.valid).1 hid
    · simp
  · simp

theorem withReplyIds_expected (store : MessageStore) (messageId : UInt32)
    (richText : Option RichTextMessage) :
    (InboundMessage.new identity messageId envelope richText).withReplyIds
        (expectedReplies store identity envelope richText) =
      .ok { account := identity, messageId := messageId, envelope := envelope
            richText := richText
            replyIds := expectedReplies store identity envelope richText } := by
  have hgood : ¬ ((expectedReplies store identity envelope richText).length ≠
      (elementsOf richText).length ∨
        some 0 ∈ expectedReplies store identity envelope richText) := by
    simp [expectedReplies, expectedReply_ne_zero]
  exact bind_eq_ok_iff.mpr ⟨(), rejectIf_eq_ok_iff.mpr hgood, rfl⟩

/-- The retention of a message whose replies are resolved as given. -/
def retainReplied (registry : MessageRegistry) (identity : AccountIdentity)
    (envelope : MessageEnvelope) (richText : Option RichTextMessage)
    (replyIds : List (Option UInt32)) (insertedAtMs : UInt64) :
    Except MessageStoreError (MessageRegistry × InboundMessage) := do
  let (messageId, target) ← registry.prepareInbound identity envelope
  let message := {
    account := identity, messageId := messageId, envelope := envelope
    richText := richText, replyIds := replyIds }
  let next ← registry.retainInbound message target insertedAtMs
  return (next, message)

theorem retainDecoded_of_unambiguous {richText : Option RichTextMessage} {insertedAtMs : UInt64}
    (hreplies : UnambiguousReplies registry.store richText) :
    registry.retainDecoded identity envelope richText insertedAtMs =
      registry.retainReplied identity envelope richText
        (expectedReplies registry.store identity envelope richText) insertedAtMs := by
  have hresolve : registry.resolveReplyIds identity envelope richText =
      .ok (expectedReplies registry.store identity envelope richText) :=
    resolveReplyIds_eq_ok_iff.mpr ⟨hreplies, rfl⟩
  unfold retainDecoded retainReplied
  cases registry.prepareInbound identity envelope with
  | error error => rfl
  | ok prepared =>
      obtain ⟨messageId, target⟩ := prepared
      simp [hresolve, withReplyIds_expected, configured, bind, Except.bind]

theorem retainDecoded_of_ambiguous {richText : Option RichTextMessage} {insertedAtMs : UInt64}
    (hreplies : ¬ UnambiguousReplies registry.store richText) :
    ∃ error, registry.retainDecoded identity envelope richText insertedAtMs = .error error := by
  cases hretain : registry.retainDecoded identity envelope richText insertedAtMs with
  | error error => exact ⟨error, rfl⟩
  | ok retained =>
      obtain ⟨_, -, hretain⟩ := bind_eq_ok_iff.mp hretain
      obtain ⟨_, hresolve, -⟩ := bind_eq_ok_iff.mp hretain
      exact absurd (resolveReplyIds_eq_ok_iff.mp hresolve).1 hreplies

/-- The replies of a message are resolved to the expected messages, and do not
stand in the way of its retention, exactly when each of them is unambiguous;
otherwise the message is lost. -/
theorem retainDecoded_replies_iff (registry : MessageRegistry) (identity : AccountIdentity)
    (envelope : MessageEnvelope) (richText : Option RichTextMessage) (insertedAtMs : UInt64) :
    (registry.resolveReplyIds identity envelope richText =
        .ok (expectedReplies registry.store identity envelope richText) ∧
      registry.retainDecoded identity envelope richText insertedAtMs =
        registry.retainReplied identity envelope richText
          (expectedReplies registry.store identity envelope richText) insertedAtMs ↔
      UnambiguousReplies registry.store richText) ∧
    (¬ UnambiguousReplies registry.store richText →
      ∃ error, registry.retainDecoded identity envelope richText insertedAtMs =
        .error error) := by
  refine ⟨⟨?_, ?_⟩, retainDecoded_of_ambiguous⟩
  · rintro ⟨hresolve, -⟩
    exact (resolveReplyIds_eq_ok_iff.mp hresolve).1
  · intro hreplies
    exact ⟨resolveReplyIds_eq_ok_iff.mpr ⟨hreplies, rfl⟩,
      retainDecoded_of_unambiguous hreplies⟩

/-! ## The same sequence and random in two groups -/

def memberResponse (groupCode : UInt32) : ResponseHead where
  fromUin := 42
  fromUid := some "u_member"
  toUin := 10001
  toUid := some "u_own"
  forward := none
  group := some { groupUin := groupCode, memberName := "member", groupName := "group" }

def memberContent : ContentHead where
  messageType := 82
  subType := none
  random := some 9
  sequence := some 5
  timestamp := some 1700000000
  packageCount := none
  packageIndex := none
  divisionSequence := none
  directMessageSequence := none
  messageUid := none
  forward := none

/-- A member's message with sequence 5 and random 9. -/
def memberBody (groupCode : UInt32) : PushBody where
  response := some (memberResponse groupCode)
  content := some memberContent
  body := none

def memberEnvelope (groupCode : UInt32) : MessageEnvelope :=
  messageEnvelope (memberResponse groupCode) memberContent emptyBody

theorem memberEnvelope_accepted (wire : MessageWire) (groupCode : UInt32) :
    ∃ key, readEnvelope wire (memberBody groupCode) = .ok (key, memberEnvelope groupCode) := by
  -- no check looks at the group code
  have hresponse : validResponse (memberResponse groupCode) = true := by
    show validResponse (memberResponse 0) = true
    decide +kernel
  exact ⟨_, MessageDecoder.readEnvelope_of_valid rfl rfl hresponse (by decide)⟩

def plainText : RichTextMessage where
  elements := [{ segment := .text "hello", encoded := [10, 7, 10, 5, 104, 101, 108, 108, 111] }]
  attributes := none
  file := none
  voice := none

/-- A reply to the message with sequence 5 and random 9. -/
def replyText : RichTextMessage where
  elements := [{
    segment := .reply ⟨5, 0x0100000000000009, by decide, by decide⟩
    encoded := [0xea, 2, 0] }]
  attributes := none
  file := none
  voice := none

/-- The registry after one message from each of the two groups. -/
def twoGroups : Except MessageStoreError MessageRegistry := do
  let (first, _) ←
    emptyRegistry.retainDecoded ownIdentity (memberEnvelope 100) (some plainText) 1
  let (second, _) ← first.retainDecoded ownIdentity (memberEnvelope 200) (some plainText) 2
  return second

/-- Two retained messages carry the same quote, and a reply to it fails. -/
theorem twoGroups_reply_fails :
    (do
      let registry ← twoGroups
      return (registry.resolveReplyIds ownIdentity (memberEnvelope 100) (some replyText),
        (registry.retainDecoded ownIdentity (memberEnvelope 100) (some replyText) 3).isOk)) =
      (.ok (.error .configuration, false) :
        Except MessageStoreError (Except MessageStoreError (List (Option UInt32)) × Bool)) := by
  decide +kernel

end MessageRegistry
end Runtime
end Lirvena
