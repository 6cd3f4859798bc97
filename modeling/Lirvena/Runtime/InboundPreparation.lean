import Lirvena.Runtime.MessageRegistry

/-!
# The preparation of inbound messages

`prepareInbound` succeeds exactly when the correlation it builds is one that the
store accepts and at most one row carries it.  A group correlation is built from
checked fields only; a private one is built from the peer, the random and the
timestamp as the envelope has them.
-/

namespace Lirvena
namespace Runtime

open Lib
open Message
open OneBot
open Store

/-! ## Correlations that the store accepts -/

theorem groupInbound_valid (envelope : MessageEnvelope) :
    validRecall (groupInbound envelope) = true := by
  unfold groupInbound
  split
  · rfl
  · next groupCode hgroup =>
      rw [Option.filter_eq_some_iff] at hgroup
      obtain ⟨-, hkeys⟩ := hgroup
      simp only [decide_eq_true_eq] at hkeys
      simp [validRecall, hkeys.1, hkeys.2, Option.all_filter]

/-- A private correlation lacks a part of its key and is not looked up. -/
def Unaddressed (envelope : MessageEnvelope) (selfUin : UInt64) : Prop :=
  privatePeer envelope.route selfUin = none ∨ wireU32 envelope.random = none ∨
    tryU32 envelope.timestamp = none ∨ envelope.sequence = 0 ∨
      envelope.directMessageSequence = 0

instance (envelope : MessageEnvelope) (selfUin : UInt64) :
    Decidable (Unaddressed envelope selfUin) :=
  inferInstanceAs (Decidable (_ ∨ _ ∨ _ ∨ _ ∨ _))

theorem privateInbound_of_unaddressed {envelope : MessageEnvelope} {selfUin : UInt64}
    (hunaddressed : Unaddressed envelope selfUin) :
    privateInbound envelope selfUin = .unavailable := by
  unfold privateInbound
  split
  · next peerUin uid random timestamp hpeer hrandom htimestamp =>
      rcases hunaddressed with hnone | hnone | hnone | hzero | hzero
      · simp [hpeer] at hnone
      · simp [hrandom] at hnone
      · simp [htimestamp] at hnone
      · rw [if_pos (.inl hzero)]
      · rw [if_pos (.inr hzero)]
  · rfl

theorem privateInbound_of_addressed {envelope : MessageEnvelope} {selfUin : UInt64}
    (haddressed : ¬ Unaddressed envelope selfUin) :
    ∃ peerUin uid random timestamp,
      privatePeer envelope.route selfUin = some (peerUin, uid) ∧
        wireU32 envelope.random = some random ∧ tryU32 envelope.timestamp = some timestamp ∧
          privateInbound envelope selfUin =
            .private uid (some peerUin) envelope.sequence
              envelope.directMessageSequence.toUInt64 random timestamp := by
  unfold Unaddressed at haddressed
  push Not at haddressed
  obtain ⟨hpeer, hrandom, htimestamp, hsequence, hdirect⟩ := haddressed
  obtain ⟨⟨peerUin, uid⟩, hpeer⟩ := Option.ne_none_iff_exists'.mp hpeer
  obtain ⟨random, hrandom⟩ := Option.ne_none_iff_exists'.mp hrandom
  obtain ⟨timestamp, htimestamp⟩ := Option.ne_none_iff_exists'.mp htimestamp
  refine ⟨peerUin, uid, random, timestamp, hpeer, hrandom, htimestamp, ?_⟩
  unfold privateInbound
  rw [hpeer, hrandom, htimestamp]
  exact if_neg (by simp [hsequence, hdirect])

theorem privatePeer_ne_zero {route : MessageRoute} {selfUin : UInt64} {peerUin : UInt32}
    {uid : String} (hpeer : privatePeer route selfUin = some (peerUin, uid)) : peerUin ≠ 0 := by
  unfold privatePeer at hpeer
  split at hpeer
  · obtain ⟨_, hfiltered, hpair⟩ := Option.map_eq_some_iff.mp hpeer
    obtain ⟨-, hne⟩ := Option.filter_eq_some_iff.mp hfiltered
    cases hpair
    simpa using hne
  · split at hpeer
    · obtain ⟨_, hfiltered, hpair⟩ := Option.map_eq_some_iff.mp hpeer
      obtain ⟨-, hne⟩ := Option.filter_eq_some_iff.mp hfiltered
      cases hpair
      simpa using hne
    · cases hpeer

/-- The peer of an accepted envelope has a bounded identifier. -/
theorem privatePeer_bounded {wire : MessageWire} {body : PushBody} {key : DedupKey}
    {envelope : MessageEnvelope} (hread : readEnvelope wire body = .ok (key, envelope))
    {selfUin : UInt64} {peerUin : UInt32} {uid : String}
    (hpeer : privatePeer envelope.route selfUin = some (peerUin, uid)) :
    uid.utf8ByteSize ≤ Store.maxUidBytes := by
  obtain ⟨hfrom, hto⟩ := MessageDecoder.readEnvelope_uids hread
  unfold privatePeer at hpeer
  split at hpeer
  · obtain ⟨_, hfiltered, hpair⟩ := Option.map_eq_some_iff.mp hpeer
    obtain ⟨huid, -⟩ := Option.filter_eq_some_iff.mp hfiltered
    cases hpair
    exact hto uid huid
  · split at hpeer
    · obtain ⟨_, hfiltered, hpair⟩ := Option.map_eq_some_iff.mp hpeer
      obtain ⟨huid, -⟩ := Option.filter_eq_some_iff.mp hfiltered
      cases hpair
      exact hfrom uid huid
    · cases hpeer

/-! ## Lookups -/

theorem findGroup_eq {store : MessageStore} {groupCode : UInt32} {sequence : UInt64}
    (hcode : groupCode ≠ 0) (hsequence : sequence ≠ 0) :
    store.findGroup groupCode sequence =
      store.find (StoredRow.CarriesGroup groupCode sequence) := by
  have hgood : ¬ (groupCode = 0 ∨ sequence = 0) := by simp [hcode, hsequence]
  simp [MessageStore.findGroup, rejectIf, hgood, bind, Except.bind]

theorem findPrivate_eq {store : MessageStore} {uid : String} {peerUin : UInt32}
    {sequence clientSequence : UInt64} {random timestamp : UInt32}
    (hvalid : validRecall
      (.private uid (some peerUin) sequence clientSequence random timestamp) = true) :
    store.findPrivate uid peerUin sequence clientSequence random timestamp =
      store.find
        (StoredRow.CarriesPrivate uid peerUin sequence clientSequence random timestamp) := by
  simp [MessageStore.findPrivate, rejectIf, hvalid, bind, Except.bind]

namespace MessageRegistry

variable {registry : MessageRegistry} {identity : AccountIdentity}
  {envelope : MessageEnvelope}

/-- A correlation that the store accepts is looked up by its key. -/
theorem inboundId_of_correlation {target : RecallTarget} {correlation : Correlation}
    (hvalid : validRecall target = true) (hcorrelation : target.correlation = some correlation)
    (sequence : UInt64) :
    registry.inboundId target sequence =
      registry.idOrNext sequence <$> registry.store.find correlation.Carries := by
  rcases target with ⟨groupCode, groupSequence, random⟩ | ⟨uid, _ | peerUin, server, client,
    random, timestamp⟩ | _
  · cases hcorrelation
    simp only [validRecall, Bool.and_eq_true, decide_eq_true_eq] at hvalid
    rw [inboundId, findGroup_eq hvalid.1.1 hvalid.1.2]
    rfl
  · cases hcorrelation
  · cases hcorrelation
    rw [inboundId, findPrivate_eq hvalid]
    rfl
  · cases hcorrelation

theorem inboundId_of_no_correlation {target : RecallTarget}
    (hcorrelation : target.correlation = none) (sequence : UInt64) :
    registry.inboundId target sequence = .ok (registry.nextId (preferredId sequence)) := by
  rcases target with ⟨_, _, _⟩ | ⟨_, _ | _, _, _, _, _⟩ | _
  · cases hcorrelation
  · rfl
  · cases hcorrelation
  · rfl

theorem inboundTarget_valid_or_private :
    validRecall (inboundTarget identity envelope) = true ∨
      inboundTarget identity envelope = privateInbound envelope identity.qqId := by
  unfold inboundTarget
  split
  · exact .inl (groupInbound_valid envelope)
  · exact .inr rfl
  · exact .inl rfl

/-- The targets that `prepare_inbound` can prepare. -/
theorem prepareInbound_ok_iff :
    (∃ prepared, registry.prepareInbound identity envelope = .ok prepared) ↔
      validRecall (inboundTarget identity envelope) = true ∧
        ∀ correlation, (inboundTarget identity envelope).correlation = some correlation →
          (registry.store.carrying correlation.Carries).length ≤ 1 := by
  have hprepared : (∃ prepared, registry.prepareInbound identity envelope = .ok prepared) ↔
      ∃ messageId, registry.inboundId (inboundTarget identity envelope) envelope.sequence =
        .ok messageId := by
    constructor
    · rintro ⟨prepared, hprepare⟩
      obtain ⟨messageId, hid, -⟩ := bind_eq_ok_iff.mp hprepare
      exact ⟨messageId, hid⟩
    · rintro ⟨messageId, hid⟩
      exact ⟨_, bind_eq_ok_iff.mpr ⟨messageId, hid, rfl⟩⟩
  rw [hprepared]
  by_cases hvalid : validRecall (inboundTarget identity envelope) = true
  · cases hcorrelation : (inboundTarget identity envelope).correlation with
    | none => simp [hvalid, inboundId_of_no_correlation hcorrelation]
    | some correlation =>
        rw [inboundId_of_correlation hvalid hcorrelation]
        simp only [map_eq_ok_iff, hvalid, Option.some.injEq, forall_eq', true_and,
          ← MessageStore.find_ok_iff]
        constructor
        · rintro ⟨_, found, hfind, -⟩
          exact ⟨found, hfind⟩
        · rintro ⟨found, hfind⟩
          exact ⟨_, found, hfind, rfl⟩
  · -- only an addressed private target can be invalid, and its lookup fails
    have hprivate := inboundTarget_valid_or_private.resolve_left hvalid
    have haddressed : ¬ Unaddressed envelope identity.qqId := by
      intro hunaddressed
      rw [hprivate, privateInbound_of_unaddressed hunaddressed] at hvalid
      exact hvalid rfl
    obtain ⟨peerUin, uid, random, timestamp, -, -, -, htarget⟩ :=
      privateInbound_of_addressed haddressed
    rw [hprivate, htarget] at hvalid ⊢
    simp [inboundId, MessageStore.findPrivate, rejectIf, hvalid, bind, Except.bind,
      Functor.map, Except.map]

/-- What a message is prepared under: a free identifier when no row carries its
correlation, or the identifier of the only row that does. -/
theorem prepareInbound_cases {messageId : UInt32} {target : RecallTarget}
    (hprepare : registry.prepareInbound identity envelope = .ok (messageId, target)) :
    target = inboundTarget identity envelope ∧
      ((messageId = registry.nextId (preferredId envelope.sequence) ∧
          ∀ correlation, target.correlation = some correlation →
            registry.store.carrying correlation.Carries = []) ∨
        ∃ correlation row, target.correlation = some correlation ∧
          registry.store.carrying correlation.Carries = [row] ∧
            row.messageId = intColumn messageId ∧ ValidId messageId) := by
  have hvalid := (prepareInbound_ok_iff.mp ⟨_, hprepare⟩).1
  obtain ⟨id, hid, hpair⟩ := bind_eq_ok_iff.mp hprepare
  cases hpair
  refine ⟨rfl, ?_⟩
  cases hcorrelation : (inboundTarget identity envelope).correlation with
  | none =>
      rw [inboundId_of_no_correlation hcorrelation] at hid
      cases hid
      exact .inl ⟨rfl, by simp⟩
  | some correlation =>
      rw [inboundId_of_correlation hvalid hcorrelation, map_eq_ok_iff] at hid
      obtain ⟨found, hfind, rfl⟩ := hid
      -- The lookup finds no row, one row, or refuses.
      rcases MessageStore.find_eq registry.store correlation.Carries with
        ⟨hrows, hnone⟩ | ⟨row, record, hrows, hrow, hsome⟩ | ⟨-, herror⟩
      · rw [hnone] at hfind
        cases hfind
        refine .inl ⟨rfl, ?_⟩
        rintro _ ⟨⟩
        exact hrows
      · rw [hsome] at hfind
        cases hfind
        have hrecord := validRecord_iff.mp record.valid
        exact .inr ⟨correlation, row, rfl, hrows, StoredRow.messageId_ofRecord hrow,
          hrecord.1, hrecord.2.1⟩
      · rw [herror] at hfind
        cases hfind

/-- The identifier of a prepared message is valid, and no other message carries
its correlation. -/
theorem prepareInbound_eq_ok {messageId : UInt32} {target : RecallTarget}
    (hprepare : registry.prepareInbound identity envelope = .ok (messageId, target)) :
    target = inboundTarget identity envelope ∧ ValidId messageId ∧
      ∀ correlation, target.correlation = some correlation →
        registry.store.carrying correlation.Carries = [] ∨
          ∃ row, registry.store.carrying correlation.Carries = [row] ∧
            row.messageId = intColumn messageId := by
  obtain ⟨htarget, ⟨rfl, hfree⟩ | ⟨correlation, row, hcorrelation, hrows, hid, hvalid⟩⟩ :=
    prepareInbound_cases hprepare
  · exact ⟨htarget, nextId_valid _ _, fun other hother => .inl (hfree other hother)⟩
  · refine ⟨htarget, hvalid, ?_⟩
    intro other hother
    obtain rfl := Option.some.inj (hcorrelation.symm.trans hother)
    exact .inr ⟨row, hrows, hid⟩

/-! ## Private messages -/

/-- A private message either lacks a part of the correlation, or the parts it
has are what the store accepts and at most one row carries them. -/
def PrivatePrepares (store : MessageStore) (envelope : MessageEnvelope) (selfUin : UInt64) :
    Prop :=
  Unaddressed envelope selfUin ∨
    ∃ peerUin uid random timestamp,
      privatePeer envelope.route selfUin = some (peerUin, uid) ∧
        wireU32 envelope.random = some random ∧ tryU32 envelope.timestamp = some timestamp ∧
          (uid ≠ "" ∧ hasControl uid = false ∧ random ≠ 0 ∧ timestamp ≠ 0) ∧
            (store.carrying (StoredRow.CarriesPrivate uid peerUin envelope.sequence
              envelope.directMessageSequence.toUInt64 random timestamp)).length ≤ 1

theorem validRecall_private_iff {uid : String} {peerUin : UInt32}
    {sequence clientSequence : UInt64} {random timestamp : UInt32}
    (huid : uid.utf8ByteSize ≤ Store.maxUidBytes) (hpeer : peerUin ≠ 0) (hsequence : sequence ≠ 0)
    (hclient : clientSequence ≠ 0) :
    validRecall (.private uid (some peerUin) sequence clientSequence random timestamp) = true ↔
      uid ≠ "" ∧ hasControl uid = false ∧ random ≠ 0 ∧ timestamp ≠ 0 := by
  simp [validRecall, boundedUid, huid, hpeer, hsequence, hclient, and_assoc]

/-- The preparation of an accepted private message succeeds exactly on the
messages of `PrivatePrepares`. -/
theorem prepareInbound_private_ok_iff {wire : MessageWire} {body : PushBody} {key : DedupKey}
    {envelope : MessageEnvelope} (hread : readEnvelope wire body = .ok (key, envelope))
    (hclass : envelope.class = .private) (registry : MessageRegistry)
    (identity : AccountIdentity) :
    (∃ prepared, registry.prepareInbound identity envelope = .ok prepared) ↔
      PrivatePrepares registry.store envelope identity.qqId := by
  have htarget : inboundTarget identity envelope = privateInbound envelope identity.qqId := by
    simp [inboundTarget, hclass]
  rw [prepareInbound_ok_iff, htarget]
  by_cases hunaddressed : Unaddressed envelope identity.qqId
  · rw [privateInbound_of_unaddressed hunaddressed]
    simp [PrivatePrepares, hunaddressed, validRecall, RecallTarget.correlation]
  · obtain ⟨peerUin, uid, random, timestamp, hpeer, hrandom, htimestamp, htarget⟩ :=
      privateInbound_of_addressed hunaddressed
    have hnonzero := hunaddressed
    unfold Unaddressed at hnonzero
    push Not at hnonzero
    obtain ⟨-, -, -, hsequence, hdirect⟩ := hnonzero
    -- The sequence of the client is the direct one, widened.
    have hclient : envelope.directMessageSequence.toUInt64 ≠ 0 := by
      intro hzero
      apply hdirect
      apply UInt32.toNat_inj.mp
      simpa using congrArg UInt64.toNat hzero
    rw [htarget, validRecall_private_iff (privatePeer_bounded hread hpeer)
      (privatePeer_ne_zero hpeer) hsequence hclient]
    simp only [PrivatePrepares, hunaddressed, hpeer, hrandom, htimestamp, false_or,
      RecallTarget.correlation, Option.some.injEq, forall_eq', Prod.mk.injEq]
    constructor
    · rintro ⟨hfields, hrows⟩
      exact ⟨peerUin, uid, random, timestamp, ⟨rfl, rfl⟩, rfl, rfl, hfields, hrows⟩
    · rintro ⟨_, _, _, _, ⟨rfl, rfl⟩, rfl, rfl, hfields, hrows⟩
      exact ⟨hfields, hrows⟩

/-! ## A private message without a random -/

theorem ownIdentity_valid : validIdentity 10001 "own" = true := by decide

def ownIdentity : AccountIdentity where
  qqId := 10001
  nickname := "own"
  valid := ownIdentity_valid

def emptyRegistry : MessageRegistry where
  store := .empty

/-- A friend's message with the given random field. -/
def friendBody (random : Option Int) : PushBody where
  response := some {
    fromUin := 42, fromUid := some "u_friend", toUin := 10001, toUid := some "u_own"
    forward := none, group := none }
  content := some {
    messageType := 166, subType := none, random := random, sequence := some 5
    timestamp := some 1700000000, packageCount := none, packageIndex := none
    divisionSequence := none, directMessageSequence := some 7, messageUid := none
    forward := none }
  body := none

/-- Library functions under which every packet holds the given body. -/
def bodyWire (body : PushBody) : MessageWire where
  push := fun _ => some { message := some body }
  pushBody := fun _ => some body
  sha256 := fun bytes => bytes

def friendEnvelope (random : Option Int) : Except MessageDecodeError (DedupKey × MessageEnvelope) :=
  readEnvelope (bodyWire (friendBody random)) (friendBody random)

theorem prepareInbound_private_ok_iff_friend :
    ∃ key envelope, friendEnvelope (some 9) = .ok (key, envelope) ∧
      ((∃ prepared, emptyRegistry.prepareInbound ownIdentity envelope = .ok prepared) ↔
        PrivatePrepares emptyRegistry.store envelope ownIdentity.qqId) := by
  refine ⟨_, _, rfl, ?_⟩
  have hread : friendEnvelope (some 9) = .ok _ := rfl
  exact prepareInbound_private_ok_iff hread rfl emptyRegistry ownIdentity

/-- A message without a random is accepted with the random 0, which the store
refuses as part of a correlation. -/
theorem friend_without_random_fails :
    ∃ key envelope, friendEnvelope none = .ok (key, envelope) ∧ envelope.class = .private ∧
      emptyRegistry.prepareInbound ownIdentity envelope = .error .configuration :=
  ⟨_, _, rfl, rfl, by decide +kernel⟩

end MessageRegistry
end Runtime
end Lirvena
