import Lirvena.Message.Duplicates
import Lirvena.Message.RichText

/-!
# Message history

One page of history is an answer to a request: it repeats the request, and each of its
messages is an embedded push that passes a duplicate window of its own and belongs to
what was asked for.  The window goes by the key of the decoder, in which the sequence
is one part of eight.
-/

namespace Lirvena
namespace Message

open Lib

def maxHistoryMessages : Nat := 100

def maxHistoryCount : Nat := 100

/-- Why a request or a page is refused; `arithmetic` is a difference or a sum outside
its machine word. -/
inductive HistoryError where
  | rejected
  | arithmetic
  deriving DecidableEq

/-- One decoded historical message and its optional rich-text body. -/
structure HistoricalMessage where
  envelope : MessageEnvelope
  richText : Option RichTextMessage
  deriving DecidableEq

structure GroupHistoryInfoWire where
  groupId : UInt32
  startSequence : UInt32
  endSequence : UInt32
  deriving DecidableEq

structure GroupHistoryRequestWire where
  info : Option GroupHistoryInfoWire
  backwards : Bool
  deriving DecidableEq

structure GroupHistoryResponseBodyWire where
  result : UInt32
  groupId : UInt32
  startSequence : UInt32
  endSequence : UInt32
  messages : List (List UInt8)
  deriving DecidableEq

structure GroupHistoryResponseWire where
  body : Option GroupHistoryResponseBodyWire
  deriving DecidableEq

structure FriendHistoryResponseWire where
  peerUid : String
  messages : List (List UInt8)
  deriving DecidableEq

/-! ## Requests -/

/-- The number of sequences in an interval; there is no sequence 0. -/
def intervalLen (startSequence endSequence : UInt32) : Except HistoryError Nat := do
  let first := max startSequence.toNat 1
  let span ← okOr .arithmetic (checkedSubU64 endSequence.toNat first)
  okOr .arithmetic (checkedAddU64 span 1)

def validateInterval (groupId startSequence endSequence : UInt32) :
    Except HistoryError Unit := do
  rejectIf .rejected (groupId = 0 ∨ endSequence = 0 ∨ endSequence < startSequence)
  let length ← intervalLen startSequence endSequence
  rejectIf .rejected (maxHistoryMessages < length)

/-- The request of one interval, before it is encoded. -/
def encodeGroupHistoryRequest (groupId startSequence endSequence : UInt32) :
    Except HistoryError GroupHistoryRequestWire := do
  validateInterval groupId startSequence endSequence
  return { info := some ⟨groupId, startSequence, endSequence⟩, backwards := true }

def validatePeerRequest (peerUid : String) (timestamp count : UInt32) :
    Except HistoryError Unit :=
  rejectIf .rejected (boundedUid maxUidLen peerUid = false ∨ timestamp = 0 ∨ count = 0 ∨
    maxHistoryCount < count.toNat)

/-! ## Pages -/

def historicalMessage (rich : RichTextWire) (envelope : MessageEnvelope) :
    Except HistoryError HistoricalMessage :=
  match envelope.payload.richText with
  | none => .ok { envelope := envelope, richText := none }
  | some input =>
      match decodeRichText rich input with
      | .error _ => .error .rejected
      | .ok message => .ok { envelope := envelope, richText := some message }

/-- The messages of a page; each has to be new to the window and to belong to what was
asked for. -/
def readHistory (wire : MessageWire) (rich : RichTextWire) (belongs : MessageEnvelope → Bool) :
    MessageDecoder → List (List UInt8) → Except HistoryError (List HistoricalMessage)
  | _, [] => .ok []
  | decoder, encoded :: rest =>
      match decoder.decodeEmbedded wire encoded with
      | (next, .ok (.new envelope)) => do
          rejectIf .rejected (belongs envelope = false)
          let message ← historicalMessage rich envelope
          let others ← readHistory wire rich belongs next rest
          return message :: others
      | _ => .error .rejected

/-- The message is one of the group with a sequence in the interval. -/
def inGroupInterval (groupId startSequence endSequence : UInt32) (envelope : MessageEnvelope) :
    Bool :=
  envelope.class = .group ∧ envelope.route.groupUin = some groupId ∧ envelope.sequence ≠ 0 ∧
    startSequence.toNat ≤ envelope.sequence.toNat ∧
    envelope.sequence.toNat ≤ endSequence.toNat

/-- Decodes and binds one group-history response to its request interval. -/
def decodeGroupHistoryResponse (wire : MessageWire) (rich : RichTextWire)
    (decode : List UInt8 → Option GroupHistoryResponseWire) (input : List UInt8)
    (groupId startSequence endSequence : UInt32) :
    Except HistoryError (List HistoricalMessage) := do
  validateInterval groupId startSequence endSequence
  let response ← okOr .rejected (decode input)
  let body ← okOr .rejected response.body
  rejectIf .rejected (body.result ≠ 0 ∨ body.groupId ≠ groupId ∨
    body.startSequence ≠ startSequence ∨ body.endSequence ≠ endSequence ∨
    maxHistoryMessages < body.messages.length)
  let length ← intervalLen startSequence endSequence
  rejectIf .rejected (length < body.messages.length)
  readHistory wire rich (inGroupInterval groupId startSequence endSequence) .new body.messages

/-- The message is one between the two accounts and not from after the anchor. -/
def inConversation (contactUin selfUin timestamp : UInt32) (envelope : MessageEnvelope) : Bool :=
  envelope.class = .private ∧
    ((envelope.route.fromUin = contactUin ∧ envelope.route.toUin = selfUin) ∨
      (envelope.route.fromUin = selfUin ∧ envelope.route.toUin = contactUin)) ∧
    0 < envelope.timestamp ∧ envelope.timestamp ≤ timestamp.toNat

/-- Decodes and binds one direct-message history response to its peer and anchor. -/
def decodeFriendHistoryResponse (wire : MessageWire) (rich : RichTextWire)
    (decode : List UInt8 → Option FriendHistoryResponseWire) (input : List UInt8)
    (peerUid : String) (contactUin selfUin timestamp count : UInt32) :
    Except HistoryError (List HistoricalMessage) := do
  validatePeerRequest peerUid timestamp count
  rejectIf .rejected (contactUin = 0 ∨ selfUin = 0 ∨ contactUin = selfUin)
  let response ← okOr .rejected (decode input)
  rejectIf .rejected (response.peerUid ≠ peerUid ∨ count.toNat < response.messages.length)
  readHistory wire rich (inConversation contactUin selfUin timestamp) .new response.messages

/-! ## What a page holds -/

/-- The wire value of a class. -/
def MessageClass.toWire : MessageClass → UInt32
  | .private => 166
  | .group => 82
  | .temporary => 141
  | .privateRecord => 208
  | .privateFile => 529
  | .groupJoinRequest => 84
  | .groupInvitationRequest => 525
  | .groupInvite => 87
  | .groupAdministratorChange => 44
  | .groupMemberIncrease => 33
  | .groupMemberDecrease => 34
  | .friendEvent => 528
  | .groupEvent => 732
  | .unknown value => value

@[simp]
theorem MessageClass.toWire_fromWire (value : UInt32) :
    (MessageClass.fromWire value).toWire = value := by
  unfold fromWire
  split <;> rfl

/-- The duplicate key of a message, read off its envelope. -/
def historyKey (wire : MessageWire) (message : HistoricalMessage) : DedupKey where
  fromUin := message.envelope.route.fromUin
  messageType := message.envelope.class.toWire
  subType := message.envelope.subType
  sequence := message.envelope.sequence
  random := message.envelope.random
  timestamp := message.envelope.timestamp
  packageIndex := message.envelope.packageIndex
  contentDigest := (wire.sha256 (message.envelope.payload.content.getD [])).take 8

/-- A page of messages, none of which is another one again. -/
structure HistoryPage (wire : MessageWire) (belongs : MessageEnvelope → Bool) (limit : Nat)
    (messages : List HistoricalMessage) : Prop where
  belongs : ∀ message ∈ messages, belongs message.envelope = true
  length_le : messages.length ≤ limit
  keys_nodup : (messages.map (historyKey wire)).Nodup

variable {wire : MessageWire} {rich : RichTextWire}

theorem readEnvelope_historyKey {body : PushBody} {key : DedupKey} {envelope : MessageEnvelope}
    (hread : readEnvelope wire body = .ok (key, envelope)) (richText : Option RichTextMessage) :
    key = historyKey wire { envelope := envelope, richText := richText } := by
  unfold readEnvelope at hread
  obtain ⟨response, -, hread⟩ := bind_eq_ok_iff.mp hread
  obtain ⟨content, -, hread⟩ := bind_eq_ok_iff.mp hread
  obtain ⟨_, -, hread⟩ := bind_eq_ok_iff.mp hread
  obtain ⟨_, -, hread⟩ := bind_eq_ok_iff.mp hread
  cases hread
  simp [DedupKey.new, historyKey, messageEnvelope, messageRoute]

/-- A push answered as new enters a key that the window did not hold. -/
theorem decodeEmbedded_new {decoder next : MessageDecoder} {encoded : List UInt8}
    {envelope : MessageEnvelope}
    (hnew : decoder.decodeEmbedded wire encoded = (next, .ok (.new envelope))) :
    ∃ body key, readEnvelope wire body = .ok (key, envelope) ∧ key ∉ decoder.seen ∧
      decoder.remember key = .ok next := by
  unfold MessageDecoder.decodeEmbedded at hnew
  split at hnew
  · cases hnew
  · next body _ =>
      unfold MessageDecoder.admitBody at hnew
      split at hnew
      · cases hnew
      · next key read hread =>
          split at hnew
          · cases hnew
          · next hfresh =>
              split at hnew
              · cases hnew
              · next remembered hremember =>
                  cases hnew
                  exact ⟨body, key, hread, hfresh, hremember⟩

/-- As long as the window has room, it forgets no key. -/
theorem remember_of_room {decoder next : MessageDecoder} {key : DedupKey}
    (hroom : decoder.order.length < maxDedupEntries) (hremember : decoder.remember key = .ok next) :
    next.seen = insert key decoder.seen ∧ next.order.length = decoder.order.length + 1 := by
  have hlength : (decoder.order ++ [key]).length = decoder.order.length + 1 := by simp
  unfold MessageDecoder.remember at hremember
  dsimp only at hremember
  rw [if_neg (by omega)] at hremember
  cases hremember
  exact ⟨rfl, hlength⟩

theorem historicalMessage_envelope {envelope : MessageEnvelope} {message : HistoricalMessage}
    (hmessage : historicalMessage rich envelope = .ok message) : message.envelope = envelope := by
  unfold historicalMessage at hmessage
  split at hmessage
  · cases hmessage
    rfl
  · split at hmessage
    · cases hmessage
    · cases hmessage
      rfl

/-- The messages of a page belong to it, and neither the window nor the page holds the key
of one of them twice. -/
theorem readHistory_spec {belongs : MessageEnvelope → Bool} {inputs : List (List UInt8)}
    {decoder : MessageDecoder} {messages : List HistoricalMessage}
    (hroom : decoder.order.length + inputs.length ≤ maxDedupEntries)
    (hread : readHistory wire rich belongs decoder inputs = .ok messages) :
    (∀ message ∈ messages, belongs message.envelope = true) ∧
      messages.length = inputs.length ∧ (messages.map (historyKey wire)).Nodup ∧
      ∀ message ∈ messages, historyKey wire message ∉ decoder.seen := by
  induction inputs generalizing decoder messages with
  | nil =>
      cases hread
      simp
  | cons encoded rest ih =>
      rw [List.length_cons] at hroom
      unfold readHistory at hread
      split at hread
      · next next envelope hnew =>
          simp only [bind_eq_ok_iff] at hread
          obtain ⟨_, hbelongs, message, hmessage, others, hothers, hresult⟩ := hread
          cases hresult
          obtain ⟨body, key, hkey, hfresh, hremember⟩ := decodeEmbedded_new hnew
          obtain ⟨hseen, hlength⟩ := remember_of_room (by omega) hremember
          obtain ⟨hall, hcount, hnodup, hnone⟩ := ih (by omega) hothers
          have hsame : historyKey wire message = key := by
            rw [readEnvelope_historyKey hkey message.richText,
              ← historicalMessage_envelope hmessage]
          have hgood : belongs message.envelope = true := by
            rw [historicalMessage_envelope hmessage]
            simpa using rejectIf_eq_ok_iff.mp hbelongs
          -- the others were new to a window that held this key
          have hothersFresh : ∀ other ∈ others, historyKey wire other ≠ key ∧
              historyKey wire other ∉ decoder.seen := by
            intro other hother
            have hmissing := hnone other hother
            rw [hseen, Finset.mem_insert, not_or] at hmissing
            exact hmissing
          refine ⟨List.forall_mem_cons.mpr ⟨hgood, hall⟩, by simp [hcount], ?_, ?_⟩
          · rw [List.map_cons, List.nodup_cons, hsame]
            refine ⟨fun hmem => ?_, hnodup⟩
            obtain ⟨other, hother, hagain⟩ := List.mem_map.mp hmem
            exact (hothersFresh other hother).1 hagain
          · refine List.forall_mem_cons.mpr ⟨?_, fun other hother => (hothersFresh other hother).2⟩
            rw [hsame]
            exact hfresh
      · cases hread

/-- A page from an empty window. -/
theorem readHistory_page {belongs : MessageEnvelope → Bool} {inputs : List (List UInt8)}
    {messages : List HistoricalMessage} {limit : Nat} (hinputs : inputs.length ≤ limit)
    (hlimit : limit ≤ maxHistoryMessages)
    (hread : readHistory wire rich belongs .new inputs = .ok messages) :
    HistoryPage wire belongs limit messages := by
  have hroom : (MessageDecoder.new).order.length + inputs.length ≤ maxDedupEntries := by
    have hempty : (MessageDecoder.new).order.length = 0 := rfl
    have hbounds : maxHistoryMessages ≤ maxDedupEntries := by decide
    omega
  obtain ⟨hall, hcount, hnodup, -⟩ := readHistory_spec hroom hread
  exact ⟨hall, hcount.trans_le hinputs, hnodup⟩

/-! ## The length of the interval -/

/-- Behind the checks of its callers the length is computed within its words. -/
theorem intervalLen_eq {startSequence endSequence : UInt32} (hend : endSequence ≠ 0)
    (hordered : ¬ endSequence < startSequence) :
    max startSequence.toNat 1 ≤ endSequence.toNat ∧
      intervalLen startSequence endSequence =
        .ok (endSequence.toNat - max startSequence.toNat 1 + 1) := by
  have hpositive : endSequence.toNat ≠ 0 := fun hzero => hend (UInt32.toNat_inj.mp hzero)
  rw [UInt32.lt_iff_toNat_lt] at hordered
  have hword := endSequence.toNat_lt
  have hfirst : max startSequence.toNat 1 ≤ endSequence.toNat := by omega
  have hsum : endSequence.toNat - max startSequence.toNat 1 + 1 < u64Bound := by
    unfold u64Bound
    omega
  refine ⟨hfirst, ?_⟩
  simp only [intervalLen, checkedSubU64, if_pos hfirst, checkedAddU64, if_pos hsum, okOr,
    bind, Except.bind]

theorem rejected_ne_arithmetic : HistoryError.rejected ≠ .arithmetic :=
  nofun

theorem historicalMessage_in_range (envelope : MessageEnvelope) :
    historicalMessage rich envelope ≠ .error .arithmetic := by
  unfold historicalMessage
  split
  · simp
  · split <;> simp

theorem readHistory_in_range (belongs : MessageEnvelope → Bool) (decoder : MessageDecoder)
    (inputs : List (List UInt8)) :
    readHistory wire rich belongs decoder inputs ≠ .error .arithmetic := by
  induction inputs generalizing decoder with
  | nil => simp [readHistory]
  | cons encoded rest ih =>
      unfold readHistory
      split
      · next next envelope _ =>
          refine bind_ne_error (rejectIf_ne_error rejected_ne_arithmetic _) fun _ _ => ?_
          refine bind_ne_error (historicalMessage_in_range envelope) fun _ _ => ?_
          exact bind_ne_error (ih next) fun _ _ => by simp [pure, Except.pure]
      · simp

/-- Where the length is asked for, it does not leave its words. -/
theorem validateInterval_in_range (groupId startSequence endSequence : UInt32) :
    validateInterval groupId startSequence endSequence ≠ .error .arithmetic := by
  refine bind_ne_error (rejectIf_ne_error rejected_ne_arithmetic _) fun _ hchecks => ?_
  have hgood := rejectIf_eq_ok_iff.mp hchecks
  simp only [not_or] at hgood
  obtain ⟨-, hend, hordered⟩ := hgood
  refine bind_ne_error ?_ fun _ _ => rejectIf_ne_error rejected_ne_arithmetic _
  rw [(intervalLen_eq hend hordered).2]
  simp

/-- The length of an interval that a request accepts. -/
theorem intervalLen_of_valid {groupId startSequence endSequence : UInt32}
    (hvalid : validateInterval groupId startSequence endSequence = .ok ()) :
    max startSequence.toNat 1 ≤ endSequence.toNat ∧
      endSequence.toNat - max startSequence.toNat 1 + 1 ≤ maxHistoryMessages ∧
      intervalLen startSequence endSequence =
        .ok (endSequence.toNat - max startSequence.toNat 1 + 1) := by
  simp only [validateInterval, bind_eq_ok_iff] at hvalid
  obtain ⟨_, hchecks, length, hlength, hbound⟩ := hvalid
  have hgood := rejectIf_eq_ok_iff.mp hchecks
  simp only [not_or] at hgood
  obtain ⟨-, hend, hordered⟩ := hgood
  obtain ⟨hfirst, hcomputed⟩ := intervalLen_eq hend hordered
  rw [hcomputed] at hlength
  cases hlength
  exact ⟨hfirst, Nat.not_lt.mp (rejectIf_eq_ok_iff.mp hbound), hcomputed⟩

theorem decodeGroupHistoryResponse_in_range
    (decode : List UInt8 → Option GroupHistoryResponseWire) (input : List UInt8)
    (groupId startSequence endSequence : UInt32) :
    decodeGroupHistoryResponse wire rich decode input groupId startSequence endSequence ≠
      .error .arithmetic := by
  refine bind_ne_error (validateInterval_in_range _ _ _) fun _ hvalid => ?_
  refine bind_ne_error (okOr_ne_error rejected_ne_arithmetic _) fun _ _ => ?_
  refine bind_ne_error (okOr_ne_error rejected_ne_arithmetic _) fun body _ => ?_
  refine bind_ne_error (rejectIf_ne_error rejected_ne_arithmetic _) fun _ _ => ?_
  refine bind_ne_error ?_ fun _ _ => ?_
  · rw [(intervalLen_of_valid hvalid).2.2]
    simp
  · exact bind_ne_error (rejectIf_ne_error rejected_ne_arithmetic _)
      fun _ _ => readHistory_in_range _ _ _

/-! ## What an answer holds -/

/-- A page of a group in an interval, against the interval. -/
structure GroupHistoryPage (wire : MessageWire) (groupId startSequence endSequence : UInt32)
    (messages : List HistoricalMessage) : Prop where
  in_group : ∀ message ∈ messages, message.envelope.class = .group ∧
    message.envelope.route.groupUin = some groupId
  in_interval : ∀ message ∈ messages, 0 < message.envelope.sequence.toNat ∧
    startSequence.toNat ≤ message.envelope.sequence.toNat ∧
    message.envelope.sequence.toNat ≤ endSequence.toNat
  /-- No two messages agree in the whole key, of which the sequence is one part. -/
  keys_nodup : (messages.map (historyKey wire)).Nodup
  interval_len : intervalLen startSequence endSequence =
    .ok (endSequence.toNat - max startSequence.toNat 1 + 1)
  first_le_end : max startSequence.toNat 1 ≤ endSequence.toNat
  length_le : messages.length ≤ endSequence.toNat - max startSequence.toNat 1 + 1

theorem decodeGroupHistoryResponse_page
    {decode : List UInt8 → Option GroupHistoryResponseWire} {input : List UInt8}
    {groupId startSequence endSequence : UInt32} {messages : List HistoricalMessage}
    (haccepted : decodeGroupHistoryResponse wire rich decode input groupId startSequence
      endSequence = .ok messages) :
    GroupHistoryPage wire groupId startSequence endSequence messages := by
  simp only [decodeGroupHistoryResponse, bind_eq_ok_iff] at haccepted
  obtain ⟨_, hvalid, response, -, body, -, _, -, length, hlength, _, hcount, hread⟩ := haccepted
  obtain ⟨hfirst, hlimit, hcomputed⟩ := intervalLen_of_valid hvalid
  rw [hcomputed] at hlength
  cases hlength
  have hcount := Nat.not_lt.mp (rejectIf_eq_ok_iff.mp hcount)
  obtain ⟨hbelongs, hlengthLe, hnodup⟩ := readHistory_page hcount hlimit hread
  refine ⟨?_, ?_, hnodup, hcomputed, hfirst, hlengthLe⟩
  · intro message hmem
    have hmessage := hbelongs message hmem
    rw [inGroupInterval, decide_eq_true_eq] at hmessage
    exact ⟨hmessage.1, hmessage.2.1⟩
  · intro message hmem
    have hmessage := hbelongs message hmem
    rw [inGroupInterval, decide_eq_true_eq] at hmessage
    obtain ⟨-, -, hnonzero, hstart, hend⟩ := hmessage
    refine ⟨Nat.pos_of_ne_zero fun hzero => hnonzero ?_, hstart, hend⟩
    exact UInt64.toNat_inj.mp hzero

/-- A request never leaves the words of its arithmetic, nor does a response, and the
messages of an accepted one belong to the group and to the interval, are at most as many
as it has sequences, and have pairwise distinct keys. -/
theorem group_history_in_interval (wire : MessageWire) (rich : RichTextWire)
    (decode : List UInt8 → Option GroupHistoryResponseWire) (input : List UInt8)
    (groupId startSequence endSequence : UInt32) :
    encodeGroupHistoryRequest groupId startSequence endSequence ≠ .error .arithmetic ∧
      decodeGroupHistoryResponse wire rich decode input groupId startSequence endSequence ≠
        .error .arithmetic ∧
      ∀ messages, decodeGroupHistoryResponse wire rich decode input groupId startSequence
        endSequence = .ok messages →
          GroupHistoryPage wire groupId startSequence endSequence messages := by
  refine ⟨?_, decodeGroupHistoryResponse_in_range decode input _ _ _,
    fun messages haccepted => decodeGroupHistoryResponse_page haccepted⟩
  exact bind_ne_error (validateInterval_in_range _ _ _) fun _ _ => by simp [pure, Except.pure]

/-! A page of group 88 with two messages of sequence 1, from the accounts 42 and 43. -/

deriving instance Inhabited for RichTextWire

def twinBytes (sender : UInt8) : List UInt8 :=
  [0x0a, 0x06, 0x08, sender, 0x42, 0x02, 0x08, 0x58, 0x12, 0x04, 0x08, 0x52, 0x28, 0x01]

def twinResponse (sender : UInt32) : ResponseHead where
  fromUin := sender
  fromUid := none
  toUin := 0
  toUid := none
  forward := none
  group := some { groupUin := 88, memberName := "", groupName := "" }

def twinContent : ContentHead where
  messageType := 82
  subType := none
  random := none
  sequence := some 1
  timestamp := none
  packageCount := none
  packageIndex := none
  divisionSequence := none
  directMessageSequence := none
  messageUid := none
  forward := none

/-- The SHA-256 digest of the empty input. -/
def emptyDigest : List UInt8 :=
  [0xe3, 0xb0, 0xc4, 0x42, 0x98, 0xfc, 0x1c, 0x14, 0x9a, 0xfb, 0xf4, 0xc8, 0x99, 0x6f, 0xb9,
    0x24, 0x27, 0xae, 0x41, 0xe4, 0x64, 0x9b, 0x93, 0x4c, 0xa4, 0x95, 0x99, 0x1b, 0x78, 0x52,
    0xb8, 0x55]

/-- The library functions on the bytes of the page. -/
def twinWire : MessageWire where
  push _ := none
  pushBody input :=
    if input = twinBytes 42 then some ⟨some (twinResponse 42), some twinContent, none⟩
    else if input = twinBytes 43 then some ⟨some (twinResponse 43), some twinContent, none⟩
    else none
  sha256 _ := emptyDigest

def twinPage : List UInt8 :=
  [0x1a, 0x26, 0x18, 0x58, 0x20, 0x01, 0x28, 0x02, 0x32, 0x0e] ++ twinBytes 42 ++
    [0x32, 0x0e] ++ twinBytes 43

def twinDecode (input : List UInt8) : Option GroupHistoryResponseWire :=
  if input = twinPage then some ⟨some ⟨0, 88, 1, 2, [twinBytes 42, twinBytes 43]⟩⟩ else none

def twinMessage (sender : UInt32) : HistoricalMessage where
  envelope := messageEnvelope (twinResponse sender) twinContent emptyBody
  richText := none

theorem group_history_in_interval_twins :
    GroupHistoryPage twinWire 88 1 2 [twinMessage 42, twinMessage 43] :=
  (group_history_in_interval twinWire default twinDecode twinPage 88 1 2).2.2 _
    (by decide +kernel)

/-- Two messages of one sequence are accepted when another part of their keys differs. -/
theorem twin_sequences_accepted :
    ∃ messages, decodeGroupHistoryResponse twinWire default twinDecode twinPage 88 1 2 =
        .ok messages ∧
      ¬ (messages.map fun message => message.envelope.sequence).Nodup :=
  ⟨[twinMessage 42, twinMessage 43], by decide +kernel, by decide⟩

/-- The messages of a direct page are those of the conversation, at most as many as were
asked for, and have pairwise distinct keys. -/
theorem decodeFriendHistoryResponse_page
    {decode : List UInt8 → Option FriendHistoryResponseWire} {input : List UInt8}
    {peerUid : String} {contactUin selfUin timestamp count : UInt32}
    {messages : List HistoricalMessage}
    (haccepted : decodeFriendHistoryResponse wire rich decode input peerUid contactUin selfUin
      timestamp count = .ok messages) :
    HistoryPage wire (inConversation contactUin selfUin timestamp) count.toNat messages := by
  simp only [decodeFriendHistoryResponse, bind_eq_ok_iff] at haccepted
  obtain ⟨_, hvalid, _, -, response, -, _, hbound, hread⟩ := haccepted
  have hrequest := rejectIf_eq_ok_iff.mp hvalid
  have hcount := rejectIf_eq_ok_iff.mp hbound
  simp only [not_or, Nat.not_lt] at hrequest hcount
  exact readHistory_page hcount.2 hrequest.2.2.2 hread

end Message
end Lirvena
