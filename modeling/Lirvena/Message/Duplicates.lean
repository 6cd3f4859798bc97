import Lirvena.Lib.Run
import Lirvena.Message.Envelope
import Mathlib.Data.Sym.Sym2

/-!
# What the duplicate window takes for a duplicate

The decoder suppresses a push whose key was seen.  The key has the sender, the
metadata of the content head and a digest of the `content` field; it has neither the
group nor the recipient, and of the three payloads it covers one.  Two pushes that
agree on all of this are taken for one message, whatever conversation they belong to
and whatever they say.
-/

namespace Lirvena
namespace Message

open Lib

/-! ## Pushes -/

/-- A push, by the way in which it arrives. -/
inductive MessagePush where
  | outer (input : List UInt8)
  | embedded (input : List UInt8)
  deriving DecidableEq

def MessagePush.body (wire : MessageWire) : MessagePush → Except MessageDecodeError PushBody
  | .outer input => MessageDecoder.pushMessage wire input
  | .embedded input => MessageDecoder.embeddedMessage wire input

/-- The decoder on either kind of push. -/
def MessageDecoder.apply (wire : MessageWire) (decoder : MessageDecoder) :
    MessagePush → MessageDecoder × Except MessageDecodeError MessageDisposition
  | .outer input => decoder.decode wire input
  | .embedded input => decoder.decodeEmbedded wire input

/-- A push that passes every check before the duplicate window. -/
structure AcceptedPush (wire : MessageWire) where
  push : MessagePush
  body : PushBody
  response : ResponseHead
  content : ContentHead
  body_eq : push.body wire = .ok body
  response_eq : body.response = some response
  content_eq : body.content = some content
  response_valid : validResponse response = true
  content_valid : validContent content = true

/-- The two ends of a conversation, or the group it takes place in. -/
inductive Conversation where
  | group (groupUin : UInt32)
  | direct (peers : Sym2 UInt32)
  deriving DecidableEq

def MessageEnvelope.conversation (envelope : MessageEnvelope) : Conversation :=
  match envelope.route.groupUin with
  | some groupUin => .group groupUin
  | none => .direct s(envelope.route.fromUin, envelope.route.toUin)

namespace AcceptedPush

variable {wire : MessageWire}

def payload (accepted : AcceptedPush wire) : MessageBody :=
  accepted.body.body.getD emptyBody

def envelope (accepted : AcceptedPush wire) : MessageEnvelope :=
  messageEnvelope accepted.response accepted.content accepted.payload

def key (accepted : AcceptedPush wire) : DedupKey :=
  .new wire accepted.response accepted.content (accepted.payload.content.getD [])

/-- Messages of different conversations, or with different contents. -/
def Differs (first second : AcceptedPush wire) : Prop :=
  first.envelope.conversation ≠ second.envelope.conversation ∨
    first.envelope.payload ≠ second.envelope.payload

/-- The fields in which two pushes have to agree to be taken for one. -/
structure Alike (first second : AcceptedPush wire) : Prop where
  fromUin : first.response.fromUin = second.response.fromUin
  messageType : first.content.messageType = second.content.messageType
  subType : first.content.subType.getD 0 = second.content.subType.getD 0
  sequence : first.content.sequence.getD 0 = second.content.sequence.getD 0
  random : first.content.random.getD 0 = second.content.random.getD 0
  timestamp : first.content.timestamp.getD 0 = second.content.timestamp.getD 0
  packageIndex : first.content.packageIndex.getD 0 = second.content.packageIndex.getD 0
  contentDigest : (wire.sha256 (first.payload.content.getD [])).take 8 =
    (wire.sha256 (second.payload.content.getD [])).take 8

theorem key_eq_iff {first second : AcceptedPush wire} :
    first.key = second.key ↔ first.Alike second := by
  constructor
  · intro hkey
    simp only [key, DedupKey.new, DedupKey.mk.injEq] at hkey
    obtain ⟨huin, htype, hsub, hsequence, hrandom, htime, hindex, hdigest⟩ := hkey
    exact ⟨huin, htype, hsub, hsequence, hrandom, htime, hindex, hdigest⟩
  · rintro ⟨huin, htype, hsub, hsequence, hrandom, htime, hindex, hdigest⟩
    simp only [key, DedupKey.new, DedupKey.mk.injEq]
    exact ⟨huin, htype, hsub, hsequence, hrandom, htime, hindex, hdigest⟩

end AcceptedPush

/-! ## One push -/

namespace MessageDecoder

variable {wire : MessageWire}

theorem apply_eq (decoder : MessageDecoder) (push : MessagePush) :
    decoder.apply wire push =
      match push.body wire with
      | .error error => (decoder, .error error)
      | .ok body => decoder.admitBody wire body := by
  cases push with
  | outer input => rfl
  | embedded input => rfl

/-- The key is entered, and none is entered beside it. -/
theorem remember_eq_ok (decoder : MessageDecoder) (key : DedupKey) :
    ∃ next, decoder.remember key = .ok next ∧ next.seen ⊆ insert key decoder.seen ∧
      (decoder = .new → next.seen = {key}) := by
  have hcons : ∃ expired rest, decoder.order ++ [key] = expired :: rest :=
    List.exists_cons_of_ne_nil (by simp)
  obtain ⟨expired, rest, horder⟩ := hcons
  unfold remember
  simp only [horder]
  by_cases hfull : maxDedupEntries < (expired :: rest).length
  · refine ⟨_, if_pos hfull, Finset.erase_subset _ _, ?_⟩
    rintro rfl
    have hlength := congrArg List.length horder
    rw [← hlength] at hfull
    exact absurd (show maxDedupEntries < 1 from hfull) (by decide)
  · refine ⟨_, if_neg hfull, Finset.Subset.refl _, ?_⟩
    rintro rfl
    rfl

/-- What becomes of an accepted push depends only on its key. -/
theorem apply_accepted (decoder : MessageDecoder) (accepted : AcceptedPush wire) :
    (accepted.key ∈ decoder.seen ∧
        decoder.apply wire accepted.push = (decoder, .ok .duplicate)) ∨
      (accepted.key ∉ decoder.seen ∧ ∃ next, decoder.remember accepted.key = .ok next ∧
        decoder.apply wire accepted.push = (next, .ok (.new accepted.envelope))) := by
  have hread : readEnvelope wire accepted.body = .ok (accepted.key, accepted.envelope) :=
    readEnvelope_of_valid accepted.response_eq accepted.content_eq accepted.response_valid
      accepted.content_valid
  rw [apply_eq, accepted.body_eq]
  simp only [admitBody, hread]
  by_cases hseen : accepted.key ∈ decoder.seen
  · exact .inl ⟨hseen, if_pos hseen⟩
  · obtain ⟨next, hnext, -, -⟩ := decoder.remember_eq_ok accepted.key
    refine .inr ⟨hseen, next, hnext, ?_⟩
    rw [if_neg hseen, hnext]

/-- A push that is not accepted leaves the decoder as it was. -/
theorem accepted_or_rejected (decoder : MessageDecoder) (push : MessagePush) :
    (∃ accepted : AcceptedPush wire, accepted.push = push) ∨
      ∃ error, decoder.apply wire push = (decoder, .error error) := by
  rw [apply_eq]
  cases hbody : push.body wire with
  | error error => exact .inr ⟨error, rfl⟩
  | ok body =>
      cases hread : readEnvelope wire body with
      | error error =>
          right
          refine ⟨error, ?_⟩
          simp only [admitBody, hread]
      | ok read =>
          left
          obtain ⟨response, hresponse, hread⟩ := bind_eq_ok_iff.mp hread
          obtain ⟨content, hcontent, hread⟩ := bind_eq_ok_iff.mp hread
          obtain ⟨⟨⟩, hvalidResponse, hread⟩ := bind_eq_ok_iff.mp hread
          obtain ⟨⟨⟩, hvalidContent, -⟩ := bind_eq_ok_iff.mp hread
          exact ⟨⟨push, body, response, content, hbody, okOr_eq_ok_iff.mp hresponse,
            okOr_eq_ok_iff.mp hcontent,
            Bool.eq_true_of_not_eq_false (rejectIf_eq_ok_iff.mp hvalidResponse),
            Bool.eq_true_of_not_eq_false (rejectIf_eq_ok_iff.mp hvalidContent)⟩, rfl⟩

/-! ## Two pushes -/

/-- The second push is new to the decoder, and a duplicate once it has decoded the
first. -/
def Suppresses (wire : MessageWire) (decoder : MessageDecoder) (first second : MessagePush) :
    Prop :=
  (∃ envelope, (decoder.apply wire second).2 = .ok (.new envelope)) ∧
    ((decoder.apply wire first).1.apply wire second).2 = .ok .duplicate

theorem Suppresses.alike {decoder : MessageDecoder} {first second : AcceptedPush wire}
    (hsuppresses : decoder.Suppresses wire first.push second.push) : first.Alike second := by
  obtain ⟨⟨envelope, hnew⟩, hduplicate⟩ := hsuppresses
  have hfresh : second.key ∉ decoder.seen := by
    rcases decoder.apply_accepted second with ⟨-, hsecond⟩ | ⟨hfresh, -⟩
    · rw [hsecond] at hnew
      cases hnew
    · exact hfresh
  have hseen : second.key ∈ (decoder.apply wire first.push).1.seen := by
    rcases (decoder.apply wire first.push).1.apply_accepted second with
      ⟨hseen, -⟩ | ⟨-, next, -, hsecond⟩
    · exact hseen
    · rw [hsecond] at hduplicate
      cases hduplicate
  rcases decoder.apply_accepted first with ⟨-, hfirst⟩ | ⟨-, next, hnext, hfirst⟩
  · rw [hfirst] at hseen
    exact absurd hseen hfresh
  · -- only the key of the first push was entered
    rw [hfirst] at hseen
    obtain ⟨other, hother, hsubset, -⟩ := decoder.remember_eq_ok first.key
    obtain rfl : next = other := Except.ok.inj (hnext.symm.trans hother)
    rcases Finset.mem_insert.mp (hsubset hseen) with hkey | hold
    · exact AcceptedPush.key_eq_iff.mp hkey.symm
    · exact absurd hold hfresh

theorem suppresses_new_of_alike {first second : AcceptedPush wire}
    (halike : first.Alike second) : new.Suppresses wire first.push second.push := by
  have hkey := AcceptedPush.key_eq_iff.mpr halike
  constructor
  · rcases new.apply_accepted second with ⟨hseen, -⟩ | ⟨-, next, -, hsecond⟩
    · exact absurd hseen (Finset.notMem_empty _)
    · exact ⟨second.envelope, congrArg Prod.snd hsecond⟩
  · rcases new.apply_accepted first with ⟨hseen, -⟩ | ⟨-, next, hnext, hfirst⟩
    · exact absurd hseen (Finset.notMem_empty _)
    · obtain ⟨other, hother, -, hseen⟩ := new.remember_eq_ok first.key
      obtain rfl : next = other := Except.ok.inj (hnext.symm.trans hother)
      rw [hfirst]
      rcases next.apply_accepted second with ⟨-, hsecond⟩ | ⟨hfresh, -⟩
      · exact congrArg Prod.snd hsecond
      · rw [hseen rfl, Finset.mem_singleton] at hfresh
        exact absurd hkey.symm hfresh

/-- Two pushes of different conversations or contents are kept apart, by every
decoder and by their keys, exactly when they are not alike. -/
theorem distinct_pushes_kept_iff (wire : MessageWire) (first second : AcceptedPush wire) :
    (first.Differs second →
      (∀ decoder : MessageDecoder, ¬ decoder.Suppresses wire first.push second.push) ∧
        first.key ≠ second.key) ↔
      ¬ (first.Differs second ∧ first.Alike second) := by
  constructor
  · rintro hkept ⟨hdiffers, halike⟩
    exact (hkept hdiffers).1 new (suppresses_new_of_alike halike)
  · intro hapart hdiffers
    refine ⟨?_, ?_⟩
    · intro decoder hsuppresses
      exact hapart ⟨hdiffers, hsuppresses.alike⟩
    · intro hkey
      exact hapart ⟨hdiffers, AcceptedPush.key_eq_iff.mp hkey⟩

/-! ## Runs -/

/-- The decoder over the pushes of a generation. -/
def machine (wire : MessageWire) :
    Machine MessageDecoder MessagePush (Except MessageDecodeError MessageDisposition) where
  step := apply wire

/-- Every key of the window is that of a push which was answered as new. -/
def Remembers (wire : MessageWire)
    (trace : List (MessagePush × Except MessageDecodeError MessageDisposition))
    (decoder : MessageDecoder) : Prop :=
  ∀ key ∈ decoder.seen, ∃ earlier : AcceptedPush wire, earlier.key = key ∧
    (earlier.push, .ok (.new earlier.envelope)) ∈ trace

theorem remembers_step
    {trace : List (MessagePush × Except MessageDecodeError MessageDisposition)}
    {decoder : MessageDecoder} (hremembers : Remembers wire trace decoder)
    (push : MessagePush) :
    Remembers wire (trace ++ [(push, (decoder.apply wire push).2)])
      (decoder.apply wire push).1 := by
  have hkept : ∀ key ∈ decoder.seen, ∃ earlier : AcceptedPush wire, earlier.key = key ∧
      (earlier.push, .ok (.new earlier.envelope)) ∈
        trace ++ [(push, (decoder.apply wire push).2)] := by
    intro key hkey
    obtain ⟨earlier, hearlier, hmem⟩ := hremembers key hkey
    exact ⟨earlier, hearlier, List.mem_append_left _ hmem⟩
  intro key hkey
  have hpush : (∃ accepted : AcceptedPush wire, accepted.push = push) ∨
      ∃ error, decoder.apply wire push = (decoder, .error error) :=
    decoder.accepted_or_rejected push
  rcases hpush with ⟨accepted, rfl⟩ | ⟨error, hsame⟩
  · rcases decoder.apply_accepted accepted with ⟨-, hsame⟩ | ⟨-, next, hnext, hnew⟩
    · rw [hsame] at hkey
      exact hkept key hkey
    · obtain ⟨other, hother, hsubset, -⟩ := decoder.remember_eq_ok accepted.key
      obtain rfl : next = other := Except.ok.inj (hnext.symm.trans hother)
      rw [hnew] at hkey
      rcases Finset.mem_insert.mp (hsubset hkey) with rfl | hold
      · refine ⟨accepted, rfl, List.mem_append_right _ ?_⟩
        rw [hnew]
        exact List.mem_singleton_self _
      · exact hkept key hold
  · rw [hsame] at hkey
    exact hkept key hkey

/-- A push that is suppressed in a run is like one that was decoded before it. -/
theorem duplicate_has_original (wire : MessageWire) (pushes : List MessagePush)
    (accepted : AcceptedPush wire)
    (hduplicate : (((machine wire).run .new pushes).apply wire accepted.push).2 =
      .ok .duplicate) :
    ∃ earlier : AcceptedPush wire, earlier.Alike accepted ∧
      (earlier.push, .ok (.new earlier.envelope)) ∈ (machine wire).trace .new pushes := by
  have hremembers : Remembers wire ((machine wire).trace .new pushes)
      ((machine wire).run .new pushes) :=
    (machine wire).history_run (Remembers wire)
      (fun key hkey => absurd hkey (Finset.notMem_empty key))
      (fun _ _ push hremembers => remembers_step hremembers push) pushes
  rcases ((machine wire).run .new pushes).apply_accepted accepted with
    ⟨hseen, -⟩ | ⟨-, next, -, hnew⟩
  · obtain ⟨earlier, hkey, hmem⟩ := hremembers accepted.key hseen
    exact ⟨earlier, AcceptedPush.key_eq_iff.mp hkey, hmem⟩
  · rw [hnew] at hduplicate
    cases hduplicate

/-! ## One member in two groups -/

/-- The packet of a text in a group: sender 42, type 82, random 9, sequence 5 and
time 1. -/
def groupPacket (groupUin text : UInt8) : List UInt8 :=
  [0x0a, 6, 0x08, 42, 0x42, 2, 0x08, groupUin,
    0x12, 8, 0x08, 82, 0x20, 9, 0x28, 5, 0x30, 1,
    0x1a, 3, 0x0a, 1, text]

def groupBody (groupUin : UInt32) (text : UInt8) : PushBody where
  response := some {
    fromUin := 42, fromUid := none, toUin := 0, toUid := none, forward := none
    group := some { groupUin := groupUin, memberName := "", groupName := "" } }
  content := some {
    messageType := 82, subType := none, random := some 9, sequence := some 5
    timestamp := some 1, packageCount := none, packageIndex := none
    divisionSequence := none, directMessageSequence := none, messageUid := none
    forward := none }
  body := some { richText := some [text], content := none, encryptedContent := none }

/-- The library functions on the two packets; the digest is that of no content. -/
def groupWire : MessageWire where
  push := fun _ => none
  pushBody := fun input =>
    if input = groupPacket 100 1 then some (groupBody 100 1)
    else if input = groupPacket 101 2 then some (groupBody 101 2)
    else none
  sha256 := fun _ => [0xe3, 0xb0, 0xc4, 0x42, 0x98, 0xfc, 0x1c, 0x14]

def groupPush (groupUin text : UInt8) : MessagePush :=
  .embedded (groupPacket groupUin text)

/-- Different texts in different groups: the second one is suppressed. -/
theorem other_group_suppressed :
    (∃ first second : AcceptedPush groupWire, first.push = groupPush 100 1 ∧
      second.push = groupPush 101 2 ∧
      first.envelope.conversation ≠ second.envelope.conversation ∧
      first.envelope.payload ≠ second.envelope.payload) ∧
    new.Suppresses groupWire (groupPush 100 1) (groupPush 101 2) := by
  let first : AcceptedPush groupWire :=
    ⟨groupPush 100 1, groupBody 100 1, _, _, rfl, rfl, rfl, by decide +kernel, by decide⟩
  let second : AcceptedPush groupWire :=
    ⟨groupPush 101 2, groupBody 101 2, _, _, rfl, rfl, rfl, by decide +kernel, by decide⟩
  have halike : first.Alike second := ⟨rfl, rfl, rfl, rfl, rfl, rfl, rfl, rfl⟩
  refine ⟨⟨first, second, rfl, rfl, by decide, by decide⟩, ?_⟩
  exact suppresses_new_of_alike halike

end MessageDecoder
end Message
end Lirvena
