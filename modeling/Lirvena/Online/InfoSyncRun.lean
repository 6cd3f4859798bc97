import Lirvena.Lib.Run
import Lirvena.Online.InfoSync

/-!
# Runs of the synchronization merger

The merger takes one push after another against the same cursors.  A push that
is rejected changes nothing, because the packet is validated as a whole before
a cursor moves; a push that is accepted delivers what the validation counted,
and gives every map exactly the keys that the validation projected.
-/

namespace Lirvena
namespace Online

open Lib

/-- One synchronization push and the caller's free room for it. -/
structure InfoSyncPush where
  body : List UInt8
  availableMessageSlots : Nat
  availableMessageBytes : Nat

/-- The cursors that one push after another is merged into. -/
structure MergerState where
  cursors : InfoSyncPushState
  sync : OnlineSyncState

/-- Applies one push to the cursors in place. -/
def MergerState.apply (decodePacket : List UInt8 → Option Packet) (state : MergerState)
    (push : InfoSyncPush) : MergerState × Except OnlinePacketError InfoSyncPushOutcome :=
  let ((cursors, sync), outcome) := applyInfoSync decodePacket push.body state.cursors
    state.sync push.availableMessageSlots push.availableMessageBytes
  (⟨cursors, sync⟩, outcome)

def merger (decodePacket : List UInt8 → Option Packet) :
    Machine MergerState InfoSyncPush (Except OnlinePacketError InfoSyncPushOutcome) where
  step := MergerState.apply decodePacket

/-- The cursors of a new generation. -/
def MergerState.new (sync : OnlineSyncState) : MergerState where
  cursors := .new
  sync := sync

/-! ## Keys of the maps -/

/-- A fold whose step keeps what is observed keeps it. -/
theorem foldl_keeps {State Item Observed : Type} (observe : State → Observed)
    (step : State → Item → State)
    (hstep : ∀ state item, observe (step state item) = observe state)
    (state : State) (items : List Item) :
    observe (items.foldl step state) = observe state := by
  induction items generalizing state with
  | nil => rfl
  | cons item rest ih => rw [List.foldl_cons, ih, hstep]

section Keys

variable {Key Value Item State : Type} [DecidableEq Key]

theorem upsert_keys (map : Finmap (fun _ : Key => Value)) (key : Key) (initial : Value)
    (update : Value → Value) :
    (upsert map key initial update).keys = map.keys ∪ {key} := by
  ext other
  simp [upsert, Finmap.mem_keys, Finmap.mem_insert]

/-- A fold whose step adds the key of an item, if it has one, adds all keys. -/
theorem keys_foldl (keysOf : State → Finset Key) (step : State → Item → State)
    (keyOf : Item → Option Key)
    (hstep : ∀ state item, keysOf (step state item) =
      keysOf state ∪ (keyOf item).toList.toFinset)
    (state : State) (items : List Item) :
    keysOf (items.foldl step state) = keysOf state ∪ (items.filterMap keyOf).toFinset := by
  induction items generalizing state with
  | nil => simp
  | cons item rest ih =>
      rw [List.foldl_cons, ih, hstep, Finset.union_assoc, ← List.toFinset_append]
      cases hkey : keyOf item with
      | none => simp [hkey]
      | some key => simp [hkey]

/-- The projected length is the number of keys once the new ones are merged. -/
theorem projectedLen_eq_card (map : Finmap (fun _ : Key => Value)) (keys : List Key) :
    projectedLen map keys = (map.keys ∪ keys.toFinset).card := by
  have hnew : keys.toFinset.filter (fun key => key ∉ map.keys) =
      keys.toFinset \ map.keys := by
    ext key
    simp
  rw [projectedLen, newKeys, hnew, Finset.card_union, Finset.card_sdiff,
    Finset.inter_comm map.keys]
  have hinter : (keys.toFinset ∩ map.keys).card ≤ keys.toFinset.card :=
    Finset.card_le_card Finset.inter_subset_left
  omega

end Keys

theorem peerKeys_eq_filterMap (peers : List PeerActivity) :
    peerKeys peers = peers.filterMap
      (fun peer => if peer.peerUid = "" then none else some peer.peerUid) := by
  induction peers with
  | nil => rfl
  | cons peer rest ih =>
      by_cases hempty : peer.peerUid = ""
      · simpa [peerKeys, hempty] using ih
      · simpa [peerKeys, hempty] using ih

theorem activeGroupKeys_eq_filterMap (groups : List GroupActivity) :
    activeGroupKeys groups = groups.filterMap
      (fun group => if group.groupUin = 0 then none else some group.groupUin) := by
  induction groups with
  | nil => rfl
  | cons group rest ih =>
      by_cases hzero : group.groupUin = 0
      · simpa [activeGroupKeys, hzero] using ih
      · simpa [activeGroupKeys, hzero] using ih

theorem mergePeerActivity_keys (map : Finmap (fun _ : String => Nat))
    (peers : List PeerActivity) :
    (mergePeerActivity map peers).keys = map.keys ∪ (peerKeys peers).toFinset := by
  rw [peerKeys_eq_filterMap]
  refine keys_foldl Finmap.keys _ _ ?_ map peers
  intro map peer
  by_cases hempty : peer.peerUid = ""
  · simp [hempty]
  · simp [hempty, mergeMax, upsert_keys]

theorem mergeGroupActivity_keys (map : Finmap (fun _ : Nat => Nat))
    (groups : List GroupActivity) :
    (mergeGroupActivity map groups).keys = map.keys ∪ (activeGroupKeys groups).toFinset := by
  rw [activeGroupKeys_eq_filterMap]
  refine keys_foldl Finmap.keys _ _ ?_ map groups
  intro map group
  by_cases hzero : group.groupUin = 0
  · simp [hzero]
  · simp [hzero, mergeMax, upsert_keys]

section Applied

variable (packet : Packet) (state : InfoSyncPushState) (sync : OnlineSyncState)
  (counts : MessageCounts) (payloadLen : Nat)

theorem applyGroupNodes_groupCursors_keys (nodes : List GroupNode) :
    (applyGroupNodes state sync nodes).1.groupCursors.keys =
      state.groupCursors.keys ∪ (nodes.map GroupNode.groupCode).toFinset := by
  have hkeys := keys_foldl (fun (result : InfoSyncPushState × OnlineSyncState) =>
    result.1.groupCursors.keys) applyGroupNode (fun node => some node.groupCode)
    (fun result node => by simp [applyGroupNode, upsert_keys])
  simp only [applyGroupNodes, hkeys, List.filterMap_eq_map']

theorem applyValid_groupCursors_keys :
    (applyValid packet state sync counts payloadLen).1.groupCursors.keys =
      state.groupCursors.keys ∪ (packet.groupNodes.map GroupNode.groupCode ++
        packet.groupItems.map GroupNotification.groupCode).toFinset := by
  have hdirects := foldl_keeps (fun (result : InfoSyncPushState × OnlineSyncState) =>
    result.1.groupCursors) applyDirectNotification (fun _ _ => rfl)
  have hgroups := keys_foldl (fun (result : InfoSyncPushState × OnlineSyncState) =>
    result.1.groupCursors.keys) applyGroupNotification (fun item => some item.groupCode)
    (fun result item => by simp [applyGroupNotification, upsert_keys])
  simp only [applyValid, hdirects, hgroups, applyGroupNodes_groupCursors_keys,
    List.filterMap_eq_map', List.toFinset_append, Finset.union_assoc]

/-- The steps over group cursors leave the other maps alone. -/
theorem applyGroups_keeps {Observed : Type} (observe : InfoSyncPushState → Observed)
    (hobserve : ∀ state groupCursors, observe { state with groupCursors } = observe state) :
    observe (packet.groupItems.foldl applyGroupNotification
      (applyGroupNodes state sync packet.groupNodes)).1 = observe state := by
  have hitems := foldl_keeps (fun (result : InfoSyncPushState × OnlineSyncState) =>
    observe result.1) applyGroupNotification (fun _ _ => hobserve _ _)
  have hnodes := foldl_keeps (fun (result : InfoSyncPushState × OnlineSyncState) =>
    observe result.1) applyGroupNode (fun _ _ => hobserve _ _)
  simp only [hitems, applyGroupNodes, hnodes]

theorem applyValid_directCursors_keys :
    (applyValid packet state sync counts payloadLen).1.directCursors.keys =
      state.directCursors.keys ∪ (packet.systemItems.map directKey).toFinset := by
  have hdirects := keys_foldl (fun (result : InfoSyncPushState × OnlineSyncState) =>
    result.1.directCursors.keys) applyDirectNotification (fun item => some (directKey item))
    (fun result item => by simp [applyDirectNotification, upsert_keys])
  have hgroups := applyGroups_keeps packet state sync
    (fun state => state.directCursors.keys) (fun _ _ => rfl)
  simp only [applyValid, hdirects, hgroups, List.filterMap_eq_map']

/-- The steps over all cursors leave the recent activity alone. -/
theorem applyCursors_keeps {Observed : Type} (observe : InfoSyncPushState → Observed)
    (hgroup : ∀ state groupCursors, observe { state with groupCursors } = observe state)
    (hdirect : ∀ state directCursors,
      observe { state with directCursors } = observe state) :
    observe (packet.systemItems.foldl applyDirectNotification
      (packet.groupItems.foldl applyGroupNotification
        (applyGroupNodes state sync packet.groupNodes))).1 = observe state := by
  have hdirects := foldl_keeps (fun (result : InfoSyncPushState × OnlineSyncState) =>
    observe result.1) applyDirectNotification (fun _ _ => hdirect _ _)
  rw [hdirects]
  exact applyGroups_keeps packet state sync observe hgroup

theorem applyValid_recent_keys :
    let next := (applyValid packet state sync counts payloadLen).1
    next.recentPrimary.keys =
        state.recentPrimary.keys ∪ (peerKeys packet.primaryPeers).toFinset ∧
      next.recentSecondary.keys =
        state.recentSecondary.keys ∪ (peerKeys packet.secondaryPeers).toFinset ∧
      next.recentGroups.keys =
        state.recentGroups.keys ∪ (activeGroupKeys packet.recentGroups).toFinset := by
  have hprimary := applyCursors_keeps packet state sync
    InfoSyncPushState.recentPrimary (fun _ _ => rfl) (fun _ _ => rfl)
  have hsecondary := applyCursors_keeps packet state sync
    InfoSyncPushState.recentSecondary (fun _ _ => rfl) (fun _ _ => rfl)
  have hgroups := applyCursors_keeps packet state sync
    InfoSyncPushState.recentGroups (fun _ _ => rfl) (fun _ _ => rfl)
  simp only [applyValid, mergePeerActivity_keys, mergeGroupActivity_keys, hprimary,
    hsecondary, hgroups, and_self]

end Applied

/-! ## The limits of the maps -/

/-- Every map is within its limit. -/
structure WithinCapacity (state : InfoSyncPushState) : Prop where
  groupCursors : state.groupCursors.keys.card ≤ maxPersistentCursors
  directCursors : state.directCursors.keys.card ≤ maxPersistentCursors
  recentPrimary : state.recentPrimary.keys.card ≤ maxPersistentCursors
  recentSecondary : state.recentSecondary.keys.card ≤ maxPersistentCursors
  recentGroups : state.recentGroups.keys.card ≤ maxPersistentCursors

/-- The projected lengths of the validation are the lengths after the merge. -/
theorem withinCapacity_applyValid {packet : Packet} {state : InfoSyncPushState}
    {slots bytes : Nat} {counts : MessageCounts}
    (hvalidated : Validated packet state slots bytes counts) (sync : OnlineSyncState)
    (payloadLen : Nat) :
    WithinCapacity (applyValid packet state sync counts payloadLen).1 := by
  have hcapacity := hvalidated.capacity
  simp only [validatePersistentCapacity, Bool.and_eq_true, decide_eq_true_eq,
    projectedLen_eq_card] at hcapacity
  obtain ⟨⟨⟨⟨⟨-, hgroup⟩, hdirect⟩, hprimary⟩, hsecondary⟩, hgroups⟩ := hcapacity
  obtain ⟨hprimaryKeys, hsecondaryKeys, hgroupsKeys⟩ :=
    applyValid_recent_keys packet state sync counts payloadLen
  constructor
  · rw [applyValid_groupCursors_keys]
    exact hgroup
  · rw [applyValid_directCursors_keys]
    exact hdirect
  · rw [hprimaryKeys]
    exact hprimary
  · rw [hsecondaryKeys]
    exact hsecondary
  · rw [hgroupsKeys]
    exact hgroups

/-- One push either changes nothing or is a validated packet merged whole. -/
theorem MergerState.apply_cases (decodePacket : List UInt8 → Option Packet)
    (state : MergerState) (push : InfoSyncPush) :
    (∃ error, state.apply decodePacket push = (state, .error error)) ∨
      ∃ packet counts, decodePacket push.body = some packet ∧
        Validated packet state.cursors push.availableMessageSlots
          push.availableMessageBytes counts ∧
        state.apply decodePacket push =
          (⟨(applyValid packet state.cursors state.sync counts push.body.length).1,
              (applyValid packet state.cursors state.sync counts push.body.length).2⟩,
            .ok {
              summary := summarize packet state.sync counts push.body.length
              messages := takeMessages packet }) := by
  unfold MergerState.apply
  rcases applyInfoSync_cases decodePacket push.body state.cursors state.sync
      push.availableMessageSlots push.availableMessageBytes with
    ⟨error, hcase⟩ | ⟨packet, counts, hdecode, hvalidated, hcase⟩
  · rw [hcase]
    exact .inl ⟨error, rfl⟩
  · rw [hcase]
    exact .inr ⟨packet, counts, hdecode, hvalidated, rfl⟩

theorem withinCapacity_step (decodePacket : List UInt8 → Option Packet)
    (state : MergerState) (push : InfoSyncPush) (hstate : WithinCapacity state.cursors) :
    WithinCapacity (state.apply decodePacket push).1.cursors := by
  rcases state.apply_cases decodePacket push with
    ⟨error, happly⟩ | ⟨packet, counts, -, hvalidated, happly⟩
  · rw [happly]
    exact hstate
  · rw [happly]
    exact withinCapacity_applyValid hvalidated state.sync push.body.length

theorem withinCapacity_run (decodePacket : List UInt8 → Option Packet)
    (sync : OnlineSyncState) (pushes : List InfoSyncPush) :
    WithinCapacity ((merger decodePacket).run (.new sync) pushes).cursors := by
  have hstart : WithinCapacity (MergerState.new sync).cursors := by
    constructor <;> exact Nat.zero_le _
  exact (merger decodePacket).invariant_run hstart (withinCapacity_step decodePacket) pushes

/-- A push from any state is rejected without a trace, or delivers exactly its
deliverable messages in wire order, within the offered room and as many as its
summary says; and no run from a new state brings a map over its limit. -/
theorem merger_atomic_and_bounded (decodePacket : List UInt8 → Option Packet) :
    (∀ (state : MergerState) (push : InfoSyncPush),
      match state.apply decodePacket push with
      | (next, .error _) => next = state
      | (_, .ok outcome) =>
          (∃ packet, decodePacket push.body = some packet ∧
            outcome.messages =
              (packet.groupItems.flatMap GroupNotification.messages ++
                packet.systemItems.flatMap SystemNotification.messages).filter
                (fun message => message ≠ [] && message.length ≤ maxEmbeddedMessageLen)) ∧
          outcome.messages.length ≤ push.availableMessageSlots ∧
          (outcome.messages.map List.length).sum ≤ push.availableMessageBytes ∧
          outcome.summary.deliveredMessageCount = outcome.messages.length ∧
          outcome.summary.deliveredMessageBytes =
            (outcome.messages.map List.length).sum) ∧
    ∀ (sync : OnlineSyncState) (pushes : List InfoSyncPush),
      WithinCapacity ((merger decodePacket).run (.new sync) pushes).cursors := by
  refine ⟨?_, withinCapacity_run decodePacket⟩
  intro state push
  rcases state.apply_cases decodePacket push with
    ⟨error, happly⟩ | ⟨packet, counts, hdecode, hvalidated, happly⟩
  · rw [happly]
  · rw [happly]
    obtain ⟨hlength, hsum⟩ := hvalidated.counts_eq
    exact ⟨⟨packet, hdecode, rfl⟩, hlength ▸ hvalidated.slots_le,
      hsum ▸ hvalidated.bytes_le, rfl, hsum⟩

end Online
end Lirvena
