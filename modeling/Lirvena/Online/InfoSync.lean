import Lirvena.Lib.Result
import Mathlib.Data.Finmap

/-!
# Synchronization pushes

An information-synchronization push updates the account's cursors and embeds
messages that the runtime queues in wire order.  The packet is validated as a
whole, against the free room of the message queue too, before any state changes.
-/

namespace Lirvena
namespace Online

open Lib

/-- The longest body of a synchronization push. -/
def maxInfoSyncBodyLen : Nat := 2 * 1024 * 1024

/-- The most items of each collection of a packet, and the most deliverable messages. -/
def maxCollectionItems : Nat := 4096

/-- The most keys of each map that is kept between packets. -/
def maxPersistentCursors : Nat := 8192

/-- A longer embedded message is counted, but not delivered. -/
def maxEmbeddedMessageLen : Nat := 1024 * 1024

/-- The longest auxiliary state. -/
def maxAuxiliaryStateLen : Nat := 2 * 1024 * 1024

/-- The longest error text of a packet. -/
def maxErrorTextLen : Nat := 64 * 1024

/-- The longest id of a peer. -/
def maxPeerTextLen : Nat := 512

/-- Rejected online packet input or response. -/
inductive OnlinePacketError where
  | rejected
  deriving DecidableEq

/-! ## Wire structures -/

/-- Where the server stands in a group. -/
structure GroupNode where
  groupCode : Nat
  groupSequence : Nat
  readMessageSequence : Nat
  mask : Nat
  longestMessageTime : Nat
  hasMessage : Bool
  latestMessageTime : Nat
  longestMessageSequence : Nat
  importantMessageLatestSequence : Nat
  groupMaxEventSequence : Nat
  needCheckSequenceOnAioOpen : Nat

/-- The messages of a group that were missed, as a range of sequences. -/
structure GroupNotification where
  groupCode : Nat
  startSequence : Nat
  endSequence : Nat
  messages : List (List UInt8)
  lastSpeakTimestamp : Nat

/-- The private messages of a peer that were missed. -/
structure SystemNotification where
  peerUin : Nat
  peerUid : String
  lastSpeakTimestamp : Nat
  messages : List (List UInt8)

/-- When a peer was last active. -/
structure PeerActivity where
  peerUid : String
  timestamp : Nat

/-- When a group was last active. -/
structure GroupActivity where
  groupUin : Nat
  timestamp : Nat

/-- The peers and groups of the recent conversations. -/
structure RecentActivity where
  primaryPeers : List PeerActivity
  secondaryPeers : List PeerActivity
  groups : List GroupActivity

/-- The protobuf message of a synchronization push. -/
structure Packet where
  result : Nat
  errorMessage : String
  pushFlag : Nat
  pushSequence : Nat
  retryFlag : Nat
  groupNodes : List GroupNode
  groupNotifications : Option (List GroupNotification)
  systemNotifications : Option (List SystemNotification)
  auxiliaryState : Option (List UInt8)
  useInitialCacheData : Nat
  /-- The peer identifier of the guild node. -/
  guildNode : Option Nat
  recentActivity : Option RecentActivity
  roamMessageOptimizeFlag : Nat
  groupGuildFlag : Nat

/-! ## State -/

/-- Cursors of one online generation that synchronization pushes move. -/
structure OnlineSyncState where
  groupLastMessageTime : Nat
  directLastMessageTime : Nat
  previousDirectMessageTime : Nat
  lastGroupCode : Nat
  deriving DecidableEq

/-- What is told about a merged packet: counts and flags, no content. -/
structure InfoSyncPushSummary where
  result : Nat
  pushFlag : Nat
  pushSequence : Nat
  retryFlag : Nat
  useInitialCacheData : Nat
  groupNodeCount : Nat
  groupNotificationCount : Nat
  directNotificationCount : Nat
  embeddedMessageCount : Nat
  deliveredMessageCount : Nat
  deliveredMessageBytes : Nat
  recentPrimaryPeerCount : Nat
  recentSecondaryPeerCount : Nat
  recentGroupCount : Nat
  roamMessageOptimizeFlag : Nat
  groupGuildFlag : Nat
  errorMessageLen : Nat
  payloadLen : Nat
  auxiliaryStateLen : Nat
  guildPeerPresent : Bool
  groupReplayAfterTimestamp : Nat
  directReplayAfterTimestamp : Nat
  deriving DecidableEq

/-- How far a group is synchronized. -/
structure GroupCursor where
  groupCode : Nat
  groupSequence : Nat
  readMessageSequence : Nat
  mask : Nat
  longestMessageTime : Nat
  latestMessageTime : Nat
  longestMessageSequence : Nat
  importantMessageLatestSequence : Nat
  groupMaxEventSequence : Nat
  hasMessage : Bool
  needCheckSequenceOnAioOpen : Nat
  notificationStartSequence : Nat
  notificationEndSequence : Nat
  lastSpeakTimestamp : Nat
  deriving DecidableEq

/-- How far a private conversation is synchronized. -/
structure DirectCursor where
  peerUin : Nat
  peerUid : String
  lastSpeakTimestamp : Nat
  deriving DecidableEq

/-- Bounded per-generation state retained from synchronization pushes. -/
structure InfoSyncPushState where
  latest : InfoSyncPushSummary
  groupCursors : Finmap (fun _ : Nat => GroupCursor)
  directCursors : Finmap (fun _ : String => DirectCursor)
  recentPrimary : Finmap (fun _ : String => Nat)
  recentSecondary : Finmap (fun _ : String => Nat)
  recentGroups : Finmap (fun _ : Nat => Nat)
  auxiliaryState : List UInt8
  guildPeerId : Nat

/-- `Default`: no cursor, and the summary of an empty packet. -/
def InfoSyncPushState.new : InfoSyncPushState where
  latest := {
    result := 0
    pushFlag := 0
    pushSequence := 0
    retryFlag := 0
    useInitialCacheData := 0
    groupNodeCount := 0
    groupNotificationCount := 0
    directNotificationCount := 0
    embeddedMessageCount := 0
    deliveredMessageCount := 0
    deliveredMessageBytes := 0
    recentPrimaryPeerCount := 0
    recentSecondaryPeerCount := 0
    recentGroupCount := 0
    roamMessageOptimizeFlag := 0
    groupGuildFlag := 0
    errorMessageLen := 0
    payloadLen := 0
    auxiliaryStateLen := 0
    guildPeerPresent := false
    groupReplayAfterTimestamp := 0
    directReplayAfterTimestamp := 0 }
  groupCursors := ∅
  directCursors := ∅
  recentPrimary := ∅
  recentSecondary := ∅
  recentGroups := ∅
  auxiliaryState := []
  guildPeerId := 0

/-- The cursor of a group that was not heard of. -/
def GroupCursor.new (groupCode : Nat) : GroupCursor where
  groupCode := groupCode
  groupSequence := 0
  readMessageSequence := 0
  mask := 0
  longestMessageTime := 0
  latestMessageTime := 0
  longestMessageSequence := 0
  importantMessageLatestSequence := 0
  groupMaxEventSequence := 0
  hasMessage := false
  needCheckSequenceOnAioOpen := 0
  notificationStartSequence := 0
  notificationEndSequence := 0
  lastSpeakTimestamp := 0

/-- Sequences and times only grow; the mask and the check for gaps are those of the node. -/
def GroupCursor.mergeNode (cursor : GroupCursor) (node : GroupNode) : GroupCursor :=
  { cursor with
    groupSequence := max cursor.groupSequence node.groupSequence
    readMessageSequence := max cursor.readMessageSequence node.readMessageSequence
    mask := node.mask
    longestMessageTime := max cursor.longestMessageTime node.longestMessageTime
    latestMessageTime := max cursor.latestMessageTime node.latestMessageTime
    longestMessageSequence := max cursor.longestMessageSequence node.longestMessageSequence
    importantMessageLatestSequence :=
      max cursor.importantMessageLatestSequence node.importantMessageLatestSequence
    groupMaxEventSequence := max cursor.groupMaxEventSequence node.groupMaxEventSequence
    hasMessage := cursor.hasMessage || node.hasMessage
    needCheckSequenceOnAioOpen := node.needCheckSequenceOnAioOpen }

/-- The range of a cursor grows around that of the notification. -/
def GroupCursor.mergeNotification (cursor : GroupCursor) (notification : GroupNotification) :
    GroupCursor :=
  { cursor with
    -- zero means that no notification has been merged yet
    notificationStartSequence :=
      if cursor.notificationStartSequence = 0 then notification.startSequence
      else min cursor.notificationStartSequence notification.startSequence
    notificationEndSequence := max cursor.notificationEndSequence notification.endSequence
    lastSpeakTimestamp := max cursor.lastSpeakTimestamp notification.lastSpeakTimestamp }

/-- The cursor of a conversation that was not heard of. -/
def DirectCursor.new : DirectCursor where
  peerUin := 0
  peerUid := ""
  lastSpeakTimestamp := 0

/-- The first notification names the peer for good. -/
def DirectCursor.merge (cursor : DirectCursor) (notification : SystemNotification) :
    DirectCursor where
  peerUin :=
    if cursor.peerUin = 0 ∧ cursor.peerUid = "" then notification.peerUin else cursor.peerUin
  peerUid :=
    if cursor.peerUin = 0 ∧ cursor.peerUid = "" then notification.peerUid else cursor.peerUid
  lastSpeakTimestamp := max cursor.lastSpeakTimestamp notification.lastSpeakTimestamp

/-- A conversation is kept under the id of its peer, or under the number where it has no id. -/
def directKey (notification : SystemNotification) : String :=
  if notification.peerUid = "" then toString notification.peerUin else notification.peerUid

/-- `entry(key).or_insert(initial)` followed by an update of the entry. -/
def upsert {Key Value : Type} [DecidableEq Key] (map : Finmap (fun _ : Key => Value))
    (key : Key) (initial : Value) (update : Value → Value) : Finmap (fun _ : Key => Value) :=
  map.insert key (update ((map.lookup key).getD initial))

/-! ## Validation -/

/-- The number of distinct keys that a map does not hold yet. -/
def newKeys {Key Value : Type} [DecidableEq Key] (map : Finmap (fun _ : Key => Value))
    (keys : List Key) : Nat :=
  (keys.toFinset.filter (fun key => key ∉ map.keys)).card

/-- The number of keys of a map once the given ones are merged. -/
def projectedLen {Key Value : Type} [DecidableEq Key] (map : Finmap (fun _ : Key => Value))
    (keys : List Key) : Nat :=
  map.keys.card + newKeys map keys

namespace Packet

variable (packet : Packet)

/-- The notifications of groups, none where the part is absent. -/
def groupItems : List GroupNotification :=
  packet.groupNotifications.getD []

/-- The notifications of peers, none where the part is absent. -/
def systemItems : List SystemNotification :=
  packet.systemNotifications.getD []

/-- The primary recent peers, none where the part is absent. -/
def primaryPeers : List PeerActivity :=
  packet.recentActivity.elim [] RecentActivity.primaryPeers

/-- The secondary recent peers, none where the part is absent. -/
def secondaryPeers : List PeerActivity :=
  packet.recentActivity.elim [] RecentActivity.secondaryPeers

/-- The recent groups, none where the part is absent. -/
def recentGroups : List GroupActivity :=
  packet.recentActivity.elim [] RecentActivity.groups

/-- All embedded messages in wire order. -/
def embeddedMessages : List (List UInt8) :=
  packet.groupItems.flatMap GroupNotification.messages ++
    packet.systemItems.flatMap SystemNotification.messages

end Packet

/-- A message that is handed on: not empty and not too long. -/
def deliverable (message : List UInt8) : Bool :=
  message ≠ [] && message.length ≤ maxEmbeddedMessageLen

/-- The messages that a packet delivers, those of groups first. -/
def takeMessages (packet : Packet) : List (List UInt8) :=
  packet.embeddedMessages.filter deliverable

/-- What the validation counts of the embedded messages. -/
structure MessageCounts where
  embedded : Nat
  deliverable : Nat
  deliveredBytes : Nat

/-- The counting loop with its overflow checks. -/
def countMessages (counts : MessageCounts) :
    List (List UInt8) → Except OnlinePacketError MessageCounts
  | [] => .ok counts
  | message :: rest => do
      let embedded ← okOr .rejected (checkedAddU64 counts.embedded 1)
      if Online.deliverable message then
        let deliverable ← okOr .rejected (checkedAddU64 counts.deliverable 1)
        let deliveredBytes ← okOr .rejected (checkedAddU64 counts.deliveredBytes message.length)
        countMessages ⟨embedded, deliverable, deliveredBytes⟩ rest
      else
        countMessages { counts with embedded := embedded } rest

/-- The counts of a packet; a count that overflows rejects it. -/
def messageCounts (packet : Packet) : Except OnlinePacketError MessageCounts :=
  countMessages ⟨0, 0, 0⟩ packet.embeddedMessages

/-- The bounds of the recent activity. -/
def validateRecent (packet : Packet) : Bool :=
  packet.primaryPeers.length ≤ maxCollectionItems &&
    packet.secondaryPeers.length ≤ maxCollectionItems &&
    packet.recentGroups.length ≤ maxCollectionItems &&
    (packet.primaryPeers ++ packet.secondaryPeers).all
      (fun peer => peer.peerUid.utf8ByteSize ≤ maxPeerTextLen)

/-- The named peers of a list. -/
def peerKeys (peers : List PeerActivity) : List String :=
  (peers.map PeerActivity.peerUid).filter (· ≠ "")

/-- The groups under which activity is kept. -/
def activeGroupKeys (groups : List GroupActivity) : List Nat :=
  (groups.map GroupActivity.groupUin).filter (· ≠ 0)

/-- No map grows beyond its limit when the packet is merged. -/
def validatePersistentCapacity (packet : Packet) (state : InfoSyncPushState) : Bool :=
  packet.systemItems.all (fun item => item.peerUid.utf8ByteSize ≤ maxPeerTextLen) &&
    projectedLen state.groupCursors (packet.groupNodes.map GroupNode.groupCode ++
      packet.groupItems.map GroupNotification.groupCode) ≤ maxPersistentCursors &&
    projectedLen state.directCursors (packet.systemItems.map directKey)
      ≤ maxPersistentCursors &&
    projectedLen state.recentPrimary (peerKeys packet.primaryPeers) ≤ maxPersistentCursors &&
    projectedLen state.recentSecondary (peerKeys packet.secondaryPeers)
      ≤ maxPersistentCursors &&
    projectedLen state.recentGroups (activeGroupKeys packet.recentGroups)
      ≤ maxPersistentCursors

/-- All checks of a packet, before anything is merged. -/
def validatePacket (packet : Packet) (state : InfoSyncPushState)
    (availableMessageSlots availableMessageBytes : Nat) :
    Except OnlinePacketError MessageCounts := do
  rejectIf .rejected (maxErrorTextLen < packet.errorMessage.utf8ByteSize ∨
    maxCollectionItems < packet.groupNodes.length ∨
    maxCollectionItems < packet.groupItems.length ∨
    maxCollectionItems < packet.systemItems.length ∨
    maxAuxiliaryStateLen < (packet.auxiliaryState.getD []).length)
  rejectIf .rejected (validateRecent packet = false)
  rejectIf .rejected (validatePersistentCapacity packet state = false)
  let counts ← messageCounts packet
  rejectIf .rejected (maxCollectionItems < counts.deliverable ∨
    availableMessageSlots < counts.deliverable ∨
    availableMessageBytes < counts.deliveredBytes)
  return counts

/-! ## Application -/

/-- The node with the latest message; the first of several equal ones. -/
def latestNode : List GroupNode → Option GroupNode
  | [] => none
  | first :: rest =>
      some (rest.foldl (fun current candidate =>
        if current.latestMessageTime < candidate.latestMessageTime then candidate
        else current) first)

/-- Merges a node into its cursor and into the cursors of the account. -/
def applyGroupNode (result : InfoSyncPushState × OnlineSyncState) (node : GroupNode) :
    InfoSyncPushState × OnlineSyncState :=
  ({ result.1 with
      groupCursors := upsert result.1.groupCursors node.groupCode
        (GroupCursor.new node.groupCode) (fun cursor => cursor.mergeNode node) },
    { result.2 with
      groupLastMessageTime := max result.2.groupLastMessageTime
        (max node.latestMessageTime node.longestMessageTime) })

/-- The group of the latest node becomes the last group, if its number is a word. -/
def applyGroupNodes (state : InfoSyncPushState) (sync : OnlineSyncState)
    (nodes : List GroupNode) : InfoSyncPushState × OnlineSyncState :=
  let sync :=
    match latestNode nodes with
    | some latest =>
        if latest.groupCode < u32Bound then
          { sync with lastGroupCode := latest.groupCode }
        else
          sync
    | none => sync
  nodes.foldl applyGroupNode (state, sync)

/-- Merges a notification of a group. -/
def applyGroupNotification (result : InfoSyncPushState × OnlineSyncState)
    (notification : GroupNotification) : InfoSyncPushState × OnlineSyncState :=
  ({ result.1 with
      groupCursors := upsert result.1.groupCursors notification.groupCode
        (GroupCursor.new notification.groupCode)
        (fun cursor => cursor.mergeNotification notification) },
    { result.2 with
      groupLastMessageTime :=
        max result.2.groupLastMessageTime notification.lastSpeakTimestamp })

/-- Merges a notification of a peer, which moves both times of private messages. -/
def applyDirectNotification (result : InfoSyncPushState × OnlineSyncState)
    (notification : SystemNotification) : InfoSyncPushState × OnlineSyncState :=
  ({ result.1 with
      directCursors := upsert result.1.directCursors (directKey notification)
        DirectCursor.new (fun cursor => cursor.merge notification) },
    { result.2 with
      directLastMessageTime :=
        max result.2.directLastMessageTime notification.lastSpeakTimestamp
      previousDirectMessageTime :=
        max result.2.previousDirectMessageTime notification.lastSpeakTimestamp })

/-- `merge_max`: the later of two times stays. -/
def mergeMax {Key : Type} [DecidableEq Key] (map : Finmap (fun _ : Key => Nat)) (key : Key)
    (value : Nat) : Finmap (fun _ : Key => Nat) :=
  upsert map key 0 (max · value)

/-- Merges the activity of peers; one without an id is left out. -/
def mergePeerActivity (map : Finmap (fun _ : String => Nat)) (peers : List PeerActivity) :
    Finmap (fun _ : String => Nat) :=
  peers.foldl (fun map peer =>
    if peer.peerUid = "" then map else mergeMax map peer.peerUid peer.timestamp) map

/-- Merges the activity of groups; one without a number is left out. -/
def mergeGroupActivity (map : Finmap (fun _ : Nat => Nat)) (groups : List GroupActivity) :
    Finmap (fun _ : Nat => Nat) :=
  groups.foldl (fun map group =>
    if group.groupUin = 0 then map else mergeMax map group.groupUin group.timestamp) map

/-- The summary of a packet, with the times that the cursors had before it. -/
def summarize (packet : Packet) (sync : OnlineSyncState) (counts : MessageCounts)
    (payloadLen : Nat) : InfoSyncPushSummary where
  result := packet.result
  pushFlag := packet.pushFlag
  pushSequence := packet.pushSequence
  retryFlag := packet.retryFlag
  useInitialCacheData := packet.useInitialCacheData
  groupNodeCount := packet.groupNodes.length
  groupNotificationCount := packet.groupItems.length
  directNotificationCount := packet.systemItems.length
  embeddedMessageCount := counts.embedded
  deliveredMessageCount := (takeMessages packet).length
  deliveredMessageBytes := counts.deliveredBytes
  recentPrimaryPeerCount := packet.primaryPeers.length
  recentSecondaryPeerCount := packet.secondaryPeers.length
  recentGroupCount := packet.recentGroups.length
  roamMessageOptimizeFlag := packet.roamMessageOptimizeFlag
  groupGuildFlag := packet.groupGuildFlag
  errorMessageLen := packet.errorMessage.utf8ByteSize
  payloadLen := payloadLen
  auxiliaryStateLen := (packet.auxiliaryState.getD []).length
  guildPeerPresent := packet.guildNode.any (· ≠ 0)
  groupReplayAfterTimestamp := sync.groupLastMessageTime
  directReplayAfterTimestamp := max sync.directLastMessageTime sync.previousDirectMessageTime

/-- What a valid packet leaves behind. -/
def applyValid (packet : Packet) (state : InfoSyncPushState) (sync : OnlineSyncState)
    (counts : MessageCounts) (payloadLen : Nat) : InfoSyncPushState × OnlineSyncState :=
  let nodes := applyGroupNodes state sync packet.groupNodes
  let groups := packet.groupItems.foldl applyGroupNotification nodes
  let directs := packet.systemItems.foldl applyDirectNotification groups
  ({ directs.1 with
      latest := summarize packet sync counts payloadLen
      recentPrimary := mergePeerActivity directs.1.recentPrimary packet.primaryPeers
      recentSecondary := mergePeerActivity directs.1.recentSecondary packet.secondaryPeers
      recentGroups := mergeGroupActivity directs.1.recentGroups packet.recentGroups
      auxiliaryState :=
        match packet.auxiliaryState with
        | none | some [] => directs.1.auxiliaryState
        | some auxiliary => auxiliary
      guildPeerId := (packet.guildNode.filter (· ≠ 0)).getD directs.1.guildPeerId },
    directs.2)

/-- Bounded result of applying one synchronization push. -/
structure InfoSyncPushOutcome where
  summary : InfoSyncPushSummary
  messages : List (List UInt8)

/-- Merges a decoded packet into the cursors in place. -/
def InfoSyncPushState.apply (state : InfoSyncPushState) (packet : Packet)
    (sync : OnlineSyncState)
    (availableMessageSlots availableMessageBytes payloadLen : Nat) :
    (InfoSyncPushState × OnlineSyncState) × Except OnlinePacketError InfoSyncPushOutcome :=
  match validatePacket packet state availableMessageSlots availableMessageBytes with
  | .error error => ((state, sync), .error error)
  | .ok counts =>
      let summary := summarize packet sync counts payloadLen
      (applyValid packet state sync counts payloadLen,
        .ok { summary, messages := takeMessages packet })

/-- Applies one synchronization push to the cursors in place. -/
def applyInfoSync (decodePacket : List UInt8 → Option Packet) (body : List UInt8)
    (state : InfoSyncPushState) (sync : OnlineSyncState)
    (availableMessageSlots availableMessageBytes : Nat) :
    (InfoSyncPushState × OnlineSyncState) × Except OnlinePacketError InfoSyncPushOutcome :=
  if body = [] ∨ maxInfoSyncBodyLen < body.length then
    ((state, sync), .error .rejected)
  else
    match decodePacket body with
    | none => ((state, sync), .error .rejected)
    | some packet =>
        state.apply packet sync availableMessageSlots availableMessageBytes body.length

theorem countMessages_eq_ok {counts result : MessageCounts} {messages : List (List UInt8)}
    (hcount : countMessages counts messages = .ok result) :
    result.deliverable = counts.deliverable + (messages.filter deliverable).length ∧
      result.deliveredBytes =
        counts.deliveredBytes + ((messages.filter deliverable).map List.length).sum := by
  induction messages generalizing counts with
  | nil =>
      cases hcount
      simp
  | cons message rest ih =>
      unfold countMessages at hcount
      obtain ⟨embedded, hembedded, hcount⟩ := bind_eq_ok_iff.mp hcount
      by_cases hmessage : deliverable message = true
      · rw [if_pos hmessage] at hcount
        obtain ⟨count, hadd, hcount⟩ := bind_eq_ok_iff.mp hcount
        obtain ⟨bytes, hbytes, hcount⟩ := bind_eq_ok_iff.mp hcount
        obtain ⟨-, rfl⟩ := checkedAddU64_eq_some_iff.mp (okOr_eq_ok_iff.mp hadd)
        obtain ⟨-, rfl⟩ := checkedAddU64_eq_some_iff.mp (okOr_eq_ok_iff.mp hbytes)
        obtain ⟨hdeliverable, hdelivered⟩ := ih hcount
        rw [List.filter_cons_of_pos hmessage]
        simp only [List.length_cons, List.map_cons, List.sum_cons] at *
        omega
      · rw [if_neg hmessage] at hcount
        rw [List.filter_cons_of_neg hmessage]
        have htail := ih hcount
        exact htail

/-- What an admitted packet has passed. -/
structure Validated (packet : Packet) (state : InfoSyncPushState)
    (slots bytes : Nat) (counts : MessageCounts) : Prop where
  recent : validateRecent packet = true
  capacity : validatePersistentCapacity packet state = true
  counted : messageCounts packet = .ok counts
  deliverable_le : counts.deliverable ≤ maxCollectionItems
  slots_le : counts.deliverable ≤ slots
  bytes_le : counts.deliveredBytes ≤ bytes

theorem validatePacket_eq_ok {packet : Packet} {state : InfoSyncPushState}
    {slots bytes : Nat} {counts : MessageCounts}
    (hvalidate : validatePacket packet state slots bytes = .ok counts) :
    Validated packet state slots bytes counts := by
  unfold validatePacket at hvalidate
  obtain ⟨_, -, hvalidate⟩ := bind_eq_ok_iff.mp hvalidate
  obtain ⟨⟨⟩, hrecent, hvalidate⟩ := bind_eq_ok_iff.mp hvalidate
  obtain ⟨⟨⟩, hcapacity, hvalidate⟩ := bind_eq_ok_iff.mp hvalidate
  obtain ⟨result, hcounts, hvalidate⟩ := bind_eq_ok_iff.mp hvalidate
  obtain ⟨⟨⟩, hroom, hvalidate⟩ := bind_eq_ok_iff.mp hvalidate
  cases hvalidate
  have hfree := rejectIf_eq_ok_iff.mp hroom
  exact {
    recent := by simpa using rejectIf_eq_ok_iff.mp hrecent
    capacity := by simpa using rejectIf_eq_ok_iff.mp hcapacity
    counted := hcounts
    deliverable_le := by omega
    slots_le := by omega
    bytes_le := by omega }

/-- Every check of a push stands before the first cursor that moves: it leaves the cursors as
they are and fails, or is a validated packet merged whole. -/
theorem applyInfoSync_cases (decodePacket : List UInt8 → Option Packet) (body : List UInt8)
    (state : InfoSyncPushState) (sync : OnlineSyncState) (slots bytes : Nat) :
    (∃ error, applyInfoSync decodePacket body state sync slots bytes =
      ((state, sync), .error error)) ∨
      ∃ packet counts, decodePacket body = some packet ∧
        Validated packet state slots bytes counts ∧
        applyInfoSync decodePacket body state sync slots bytes =
          (applyValid packet state sync counts body.length,
            .ok {
              summary := summarize packet sync counts body.length
              messages := takeMessages packet }) := by
  unfold applyInfoSync
  split
  · exact .inl ⟨.rejected, rfl⟩
  cases hdecode : decodePacket body with
  | none => exact .inl ⟨.rejected, rfl⟩
  | some packet =>
      simp only [InfoSyncPushState.apply]
      cases hvalidate : validatePacket packet state slots bytes with
      | error error => exact .inl ⟨error, rfl⟩
      | ok counts =>
          exact .inr ⟨packet, counts, rfl, validatePacket_eq_ok hvalidate, rfl⟩

/-- The counts of the validation are those of the delivered messages. -/
theorem Validated.counts_eq {packet : Packet} {state : InfoSyncPushState}
    {slots bytes : Nat} {counts : MessageCounts}
    (hvalidated : Validated packet state slots bytes counts) :
    counts.deliverable = (takeMessages packet).length ∧
      counts.deliveredBytes = ((takeMessages packet).map List.length).sum := by
  obtain ⟨hlength, hsum⟩ := countMessages_eq_ok hvalidated.counted
  simpa [takeMessages] using And.intro hlength hsum

/-- The messages of an accepted packet are no more than the offered slots, and
carry no more bytes than offered. -/
theorem applyInfoSync_messages {decodePacket : List UInt8 → Option Packet}
    {body : List UInt8} {state : InfoSyncPushState} {sync : OnlineSyncState}
    {slots bytes : Nat} {outcome : InfoSyncPushOutcome}
    (happly : (applyInfoSync decodePacket body state sync slots bytes).2 = .ok outcome) :
    outcome.messages.length ≤ slots ∧
      (outcome.messages.map List.length).sum ≤ bytes := by
  rcases applyInfoSync_cases decodePacket body state sync slots bytes with
    ⟨error, hcase⟩ | ⟨packet, counts, -, hvalidated, hcase⟩
  · rw [hcase] at happly
    cases happly
  rw [hcase] at happly
  cases happly
  obtain ⟨hlength, hsum⟩ := hvalidated.counts_eq
  exact ⟨hlength ▸ hvalidated.slots_le, hsum ▸ hvalidated.bytes_le⟩

end Online
end Lirvena
