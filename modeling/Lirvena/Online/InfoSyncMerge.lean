import Lirvena.Online.InfoSyncRun
import Mathlib.Order.Bounds.Basic

/-!
# What the merged cursors say

The notification range of a group starts from nothing and takes one
notification after another.  Its end and every timestamp only grow.  Its start
is a minimum with zero for "no notification yet", so a notification that itself
starts at zero puts the range back into the state of no notification: the merged
start is the least one, in every order, exactly when a group's notifications do
not mix zero with other starts.
-/

namespace Lirvena
namespace Online

open Lib

/-- The notification range of a group. -/
structure NotificationRange where
  start : Nat
  latest : Nat
  deriving DecidableEq

def GroupCursor.notificationRange (cursor : GroupCursor) : NotificationRange where
  start := cursor.notificationStartSequence
  latest := cursor.notificationEndSequence

/-- The cursor of a group; one that was never merged into has a new one's values. -/
def InfoSyncPushState.groupCursor (state : InfoSyncPushState) (groupCode : Nat) :
    GroupCursor :=
  (state.groupCursors.lookup groupCode).getD (.new groupCode)

/-- The notifications for one group that the accepted pushes of a trace carry, in
the order in which they are merged. -/
def mergedNotifications (decodePacket : List UInt8 → Option Packet) (groupCode : Nat)
    (trace : List (InfoSyncPush × Except OnlinePacketError InfoSyncPushOutcome)) :
    List GroupNotification :=
  trace.flatMap (fun entry =>
    match entry.2 with
    | .ok _ =>
        ((decodePacket entry.1.body).elim [] Packet.groupItems).filter
          (fun item => item.groupCode = groupCode)
    | .error _ => [])

/-- The values of a field of the notifications. -/
def valuesOf (field : GroupNotification → Nat) (notifications : List GroupNotification) :
    Set Nat :=
  {value | ∃ item ∈ notifications, field item = value}

/-- The range is the one any order of the notifications gives, from the least
start to the greatest end. -/
structure RangeMerged (groupCode : Nat) (notifications : List GroupNotification)
    (range : NotificationRange) : Prop where
  orderFree : ∀ order : List GroupNotification, order.Perm notifications →
    (order.foldl GroupCursor.mergeNotification (.new groupCode)).notificationRange = range
  least : notifications ≠ [] →
    IsLeast (valuesOf GroupNotification.startSequence notifications) range.start
  greatest : notifications ≠ [] →
    IsGreatest (valuesOf GroupNotification.endSequence notifications) range.latest

/-- All the starts are zero, or none is. -/
def UnmixedStarts (notifications : List GroupNotification) : Prop :=
  (∀ item ∈ notifications, item.startSequence = 0) ∨
    ∀ item ∈ notifications, item.startSequence ≠ 0

/-! ## Merging the notifications of one group -/

theorem mergeNotification_start (cursor : GroupCursor) (item : GroupNotification) :
    (cursor.mergeNotification item).notificationStartSequence =
      if cursor.notificationStartSequence = 0 then item.startSequence
      else min cursor.notificationStartSequence item.startSequence := rfl

/-- A notification that starts at zero brings the range to zero. -/
theorem foldl_start_of_zero (cursor : GroupCursor) (items : List GroupNotification)
    {last : GroupNotification} (hlast : last.startSequence = 0) :
    ((items ++ [last]).foldl GroupCursor.mergeNotification cursor).notificationStartSequence =
      0 := by
  rw [List.foldl_append, List.foldl_cons, List.foldl_nil, mergeNotification_start, hlast]
  split
  · rfl
  · exact Nat.min_zero _

/-- Behind a notification with another start the range starts above zero. -/
theorem foldl_start_ne_zero {items : List GroupNotification}
    (hitems : ∀ item ∈ items, item.startSequence ≠ 0) (hsome : items ≠ [])
    (cursor : GroupCursor) :
    (items.foldl GroupCursor.mergeNotification cursor).notificationStartSequence ≠ 0 := by
  obtain ⟨before, last, rfl⟩ : ∃ before last, items = before ++ [last] :=
    ⟨items.dropLast, items.getLast hsome, (List.dropLast_append_getLast hsome).symm⟩
  have hlast : last.startSequence ≠ 0 := hitems last (by simp)
  rw [List.foldl_append, List.foldl_cons, List.foldl_nil, mergeNotification_start]
  split
  · exact hlast
  · next hcursor => omega

theorem valuesOf_append_singleton (field : GroupNotification → Nat)
    (before : List GroupNotification) (last : GroupNotification) :
    valuesOf field (before ++ [last]) = valuesOf field before ∪ {field last} := by
  ext value
  simp only [valuesOf, List.mem_append, List.mem_singleton, Set.mem_ofPred_eq,
    Set.mem_union, Set.mem_singleton_iff]
  constructor
  · rintro ⟨item, hitem | rfl, rfl⟩
    · exact Or.inl ⟨item, hitem, rfl⟩
    · exact Or.inr rfl
  · rintro (⟨item, hitem, rfl⟩ | rfl)
    · exact ⟨item, Or.inl hitem, rfl⟩
    · exact ⟨last, Or.inr rfl, rfl⟩

theorem valuesOf_singleton (field : GroupNotification → Nat) (item : GroupNotification) :
    valuesOf field [item] = {field item} := by
  ext value
  simp [valuesOf, eq_comm]

/-- Without zero starts, or with nothing else, the merged start is the least. -/
theorem foldl_isLeast_start {items : List GroupNotification} (groupCode : Nat)
    (hunmixed : UnmixedStarts items) (hsome : items ≠ []) :
    IsLeast (valuesOf GroupNotification.startSequence items)
      (items.foldl GroupCursor.mergeNotification
        (.new groupCode)).notificationStartSequence := by
  induction items using List.reverseRecOn with
  | nil => exact absurd rfl hsome
  | append_singleton before last ih =>
      rcases hunmixed with hzero | hnonzero
      · have hlast := hzero last (by simp)
        rw [foldl_start_of_zero _ before hlast]
        exact ⟨⟨last, by simp, hlast⟩, fun value _ => Nat.zero_le value⟩
      · have hbefore : ∀ item ∈ before, item.startSequence ≠ 0 :=
          fun item hitem => hnonzero item (by simp [hitem])
        rw [List.foldl_append, List.foldl_cons, List.foldl_nil, mergeNotification_start]
        by_cases hempty : before = []
        · subst hempty
          rw [List.nil_append, valuesOf_singleton]
          exact isLeast_singleton
        · rw [if_neg (foldl_start_ne_zero hbefore hempty _), valuesOf_append_singleton]
          exact (ih (Or.inr hbefore) hempty).union isLeast_singleton

theorem foldl_isGreatest_latest {items : List GroupNotification} (groupCode : Nat)
    (hsome : items ≠ []) :
    IsGreatest (valuesOf GroupNotification.endSequence items)
      (items.foldl GroupCursor.mergeNotification
        (.new groupCode)).notificationEndSequence := by
  induction items using List.reverseRecOn with
  | nil => exact absurd rfl hsome
  | append_singleton before last ih =>
      rw [List.foldl_append, List.foldl_cons, List.foldl_nil]
      change IsGreatest _ (max _ last.endSequence)
      by_cases hempty : before = []
      · subst hempty
        rw [List.nil_append, valuesOf_singleton]
        change IsGreatest _ (max 0 last.endSequence)
        rw [Nat.zero_max]
        exact isGreatest_singleton
      · rw [valuesOf_append_singleton]
        exact (ih hempty).union isGreatest_singleton

theorem UnmixedStarts.perm {first second : List GroupNotification}
    (hunmixed : UnmixedStarts first) (hperm : second.Perm first) : UnmixedStarts second := by
  rcases hunmixed with hzero | hnonzero
  · exact Or.inl (fun item hitem => hzero item (hperm.mem_iff.mp hitem))
  · exact Or.inr (fun item hitem => hnonzero item (hperm.mem_iff.mp hitem))

theorem valuesOf_perm (field : GroupNotification → Nat)
    {first second : List GroupNotification} (hperm : second.Perm first) :
    valuesOf field second = valuesOf field first := by
  ext value
  simp only [valuesOf, hperm.mem_iff]

/-- What merging the notifications in any order gives is a merged range exactly
when their starts are not mixed. -/
theorem rangeMerged_iff (groupCode : Nat) (notifications : List GroupNotification) :
    RangeMerged groupCode notifications
        (notifications.foldl GroupCursor.mergeNotification
          (.new groupCode)).notificationRange ↔
      UnmixedStarts notifications := by
  constructor
  · intro hmerged
    by_contra hmixed
    obtain ⟨hnonzero, hzero⟩ := not_or.mp hmixed
    push Not at hnonzero hzero
    obtain ⟨other, hother, hstart⟩ := hnonzero
    obtain ⟨zero, hzero, hzeroStart⟩ := hzero
    -- zero last gives zero, the others last gives one of them
    let others := notifications.filter (fun item => item.startSequence ≠ 0)
    let zeros := notifications.filter (fun item => !decide (item.startSequence ≠ 0))
    have hperm : (others ++ zeros).Perm notifications :=
      List.filter_append_perm _ notifications
    have hflipped : (zeros ++ others).Perm notifications :=
      List.perm_append_comm.trans hperm
    have hothers : ∀ item ∈ others, item.startSequence ≠ 0 := by
      intro item hitem
      simpa using (List.mem_filter.mp hitem).2
    have hothersSome : others ≠ [] := List.ne_nil_of_mem
      (List.mem_filter.mpr ⟨hother, by simpa using hstart⟩)
    have hzerosSome : zeros ≠ [] := List.ne_nil_of_mem
      (List.mem_filter.mpr ⟨hzero, by simpa using hzeroStart⟩)
    have hlow := hmerged.orderFree _ hperm
    have hhigh := hmerged.orderFree _ hflipped
    have hlowStart := congrArg NotificationRange.start (hlow.trans hhigh.symm)
    change GroupCursor.notificationStartSequence _ =
      GroupCursor.notificationStartSequence _ at hlowStart
    have hlast : (zeros.getLast hzerosSome).startSequence = 0 := by
      simpa using (List.mem_filter.mp (List.getLast_mem hzerosSome)).2
    rw [← List.dropLast_append_getLast hzerosSome, ← List.append_assoc,
      foldl_start_of_zero _ _ hlast, List.foldl_append] at hlowStart
    exact foldl_start_ne_zero hothers hothersSome _ hlowStart.symm
  · intro hunmixed
    refine ⟨?_, foldl_isLeast_start groupCode hunmixed, foldl_isGreatest_latest groupCode⟩
    intro order hperm
    by_cases hempty : notifications = []
    · subst hempty
      rw [hperm.eq_nil]
    · have horder : order ≠ [] := by
        intro hnil
        subst hnil
        exact hempty hperm.symm.eq_nil
      have hleast := foldl_isLeast_start groupCode (hunmixed.perm hperm) horder
      have hgreatest := foldl_isGreatest_latest groupCode horder
      rw [valuesOf_perm _ hperm] at hleast hgreatest
      have hstart := hleast.unique (foldl_isLeast_start groupCode hunmixed hempty)
      have hlatest := hgreatest.unique (foldl_isGreatest_latest groupCode hempty)
      simp only [GroupCursor.notificationRange, hstart, hlatest]

/-! ## The entries of the maps -/

/-- An update of one entry, where an absent entry counts as its initial value. -/
theorem lookup_upsert {Key Value : Type} [DecidableEq Key]
    (map : Finmap (fun _ : Key => Value)) (initial : Key → Value) (key other : Key)
    (update : Value → Value) :
    ((upsert map key (initial key) update).lookup other).getD (initial other) =
      if key = other then update ((map.lookup other).getD (initial other))
      else (map.lookup other).getD (initial other) := by
  by_cases hsame : key = other
  · subst hsame
    simp [upsert, Finmap.lookup_insert]
  · rw [if_neg hsame, upsert, Finmap.lookup_insert_of_ne _ (Ne.symm hsame)]

def mergeRange (range : NotificationRange) (item : GroupNotification) : NotificationRange where
  start := if range.start = 0 then item.startSequence else min range.start item.startSequence
  latest := max range.latest item.endSequence

theorem foldl_mergeRange (cursor : GroupCursor) (items : List GroupNotification) :
    (items.foldl GroupCursor.mergeNotification cursor).notificationRange =
      items.foldl mergeRange cursor.notificationRange :=
  (List.foldl_hom GroupCursor.notificationRange (fun _ _ => rfl)).symm

theorem groupCursor_applyGroupNotification
    (result : InfoSyncPushState × OnlineSyncState) (item : GroupNotification)
    (groupCode : Nat) :
    (applyGroupNotification result item).1.groupCursor groupCode =
      if item.groupCode = groupCode then
        (result.1.groupCursor groupCode).mergeNotification item
      else result.1.groupCursor groupCode :=
  lookup_upsert result.1.groupCursors GroupCursor.new item.groupCode groupCode
    (fun cursor => cursor.mergeNotification item)

theorem groupCursor_applyGroupNode (result : InfoSyncPushState × OnlineSyncState)
    (node : GroupNode) (groupCode : Nat) :
    (applyGroupNode result node).1.groupCursor groupCode =
      if node.groupCode = groupCode then (result.1.groupCursor groupCode).mergeNode node
      else result.1.groupCursor groupCode :=
  lookup_upsert result.1.groupCursors GroupCursor.new node.groupCode groupCode
    (fun cursor => cursor.mergeNode node)

/-- A merged packet extends a group's range by the notifications for the group. -/
theorem notificationRange_applyValid (packet : Packet) (state : InfoSyncPushState)
    (sync : OnlineSyncState) (counts : MessageCounts) (payloadLen groupCode : Nat) :
    ((applyValid packet state sync counts payloadLen).1.groupCursor
        groupCode).notificationRange =
      (packet.groupItems.filter (fun item => item.groupCode = groupCode)).foldl mergeRange
        (state.groupCursor groupCode).notificationRange := by
  have hdirects := foldl_keeps (fun (result : InfoSyncPushState × OnlineSyncState) =>
    (result.1.groupCursor groupCode).notificationRange) applyDirectNotification
    (fun _ _ => rfl)
  have hnodes := foldl_keeps (fun (result : InfoSyncPushState × OnlineSyncState) =>
    (result.1.groupCursor groupCode).notificationRange) applyGroupNode
    (fun result node => by
      rw [groupCursor_applyGroupNode]
      split <;> rfl)
  -- Only the group items of this code move the range; the folds before and after keep it.
  have hitems : ∀ (result : InfoSyncPushState × OnlineSyncState)
      (items : List GroupNotification),
      ((items.foldl applyGroupNotification result).1.groupCursor
          groupCode).notificationRange =
        (items.filter (fun item => item.groupCode = groupCode)).foldl mergeRange
          (result.1.groupCursor groupCode).notificationRange := by
    intro result items
    rw [List.foldl_filter]
    refine (List.foldl_hom (fun (result : InfoSyncPushState × OnlineSyncState) =>
      (result.1.groupCursor groupCode).notificationRange) ?_).symm
    intro result item
    rw [groupCursor_applyGroupNotification]
    by_cases hsame : item.groupCode = groupCode
    · simp only [hsame, decide_true, if_true]
      rfl
    · simp only [hsame, decide_false, if_false, Bool.false_eq_true]
  change ((packet.systemItems.foldl applyDirectNotification
    (packet.groupItems.foldl applyGroupNotification
      (applyGroupNodes state sync packet.groupNodes))).1.groupCursor
        groupCode).notificationRange = _
  rw [hdirects, hitems, applyGroupNodes, hnodes]

/-- In every run the range of a group is what its merged notifications give. -/
theorem merger_notificationRange (decodePacket : List UInt8 → Option Packet)
    (sync : OnlineSyncState) (pushes : List InfoSyncPush) (groupCode : Nat) :
    (((merger decodePacket).run (.new sync) pushes).cursors.groupCursor
        groupCode).notificationRange =
      ((mergedNotifications decodePacket groupCode
        ((merger decodePacket).trace (.new sync) pushes)).foldl
          GroupCursor.mergeNotification (.new groupCode)).notificationRange := by
  refine (merger decodePacket).history_run (fun trace state =>
    (state.cursors.groupCursor groupCode).notificationRange =
      ((mergedNotifications decodePacket groupCode trace).foldl
        GroupCursor.mergeNotification (.new groupCode)).notificationRange) rfl ?_ pushes
  intro trace state push hrange
  -- The run is extended by one push at its end.
  have hsplit : mergedNotifications decodePacket groupCode
      (trace ++ [(push, ((merger decodePacket).step state push).2)]) =
      mergedNotifications decodePacket groupCode trace ++
        mergedNotifications decodePacket groupCode
          [(push, ((merger decodePacket).step state push).2)] := by
    simp [mergedNotifications]
  rw [hsplit, List.foldl_append, foldl_mergeRange, ← hrange]
  rcases state.apply_cases decodePacket push with
    ⟨error, happly⟩ | ⟨packet, counts, hdecode, hvalidated, happly⟩
  · have hstep : (merger decodePacket).step state push = (state, .error error) := happly
    rw [hstep]
    rfl
  · have hstep : (merger decodePacket).step state push = _ := happly
    rw [hstep]
    simp [mergedNotifications, hdecode, notificationRange_applyValid]

/-! ## Timestamps and sequences -/

/-- No timestamp and no sequence of a group's cursor has decreased. -/
structure GroupCursor.Advances (old new : GroupCursor) : Prop where
  groupSequence : old.groupSequence ≤ new.groupSequence
  readMessageSequence : old.readMessageSequence ≤ new.readMessageSequence
  longestMessageTime : old.longestMessageTime ≤ new.longestMessageTime
  latestMessageTime : old.latestMessageTime ≤ new.latestMessageTime
  longestMessageSequence : old.longestMessageSequence ≤ new.longestMessageSequence
  importantMessageLatestSequence :
    old.importantMessageLatestSequence ≤ new.importantMessageLatestSequence
  groupMaxEventSequence : old.groupMaxEventSequence ≤ new.groupMaxEventSequence
  notificationEndSequence : old.notificationEndSequence ≤ new.notificationEndSequence
  lastSpeakTimestamp : old.lastSpeakTimestamp ≤ new.lastSpeakTimestamp

theorem GroupCursor.Advances.refl (cursor : GroupCursor) : cursor.Advances cursor := by
  constructor <;> exact Nat.le_refl _

theorem GroupCursor.Advances.trans {first second third : GroupCursor}
    (hfirst : first.Advances second) (hsecond : second.Advances third) :
    first.Advances third where
  groupSequence := hfirst.groupSequence.trans hsecond.groupSequence
  readMessageSequence := hfirst.readMessageSequence.trans hsecond.readMessageSequence
  longestMessageTime := hfirst.longestMessageTime.trans hsecond.longestMessageTime
  latestMessageTime := hfirst.latestMessageTime.trans hsecond.latestMessageTime
  longestMessageSequence :=
    hfirst.longestMessageSequence.trans hsecond.longestMessageSequence
  importantMessageLatestSequence :=
    hfirst.importantMessageLatestSequence.trans hsecond.importantMessageLatestSequence
  groupMaxEventSequence := hfirst.groupMaxEventSequence.trans hsecond.groupMaxEventSequence
  notificationEndSequence :=
    hfirst.notificationEndSequence.trans hsecond.notificationEndSequence
  lastSpeakTimestamp := hfirst.lastSpeakTimestamp.trans hsecond.lastSpeakTimestamp

theorem GroupCursor.advances_mergeNode (cursor : GroupCursor) (node : GroupNode) :
    cursor.Advances (cursor.mergeNode node) := by
  constructor <;> first | exact Nat.le_max_left _ _ | exact Nat.le_refl _

theorem GroupCursor.advances_mergeNotification (cursor : GroupCursor)
    (item : GroupNotification) : cursor.Advances (cursor.mergeNotification item) := by
  constructor <;> first | exact Nat.le_refl _ | exact Nat.le_max_left _ _

/-- The last speech recorded for a direct peer. -/
def InfoSyncPushState.directTimestamp (state : InfoSyncPushState) (key : String) : Nat :=
  ((state.directCursors.lookup key).getD .new).lastSpeakTimestamp

/-- The recorded activity of a peer or a group. -/
def activityTimestamp {Key : Type} [DecidableEq Key] (map : Finmap (fun _ : Key => Nat))
    (key : Key) : Nat :=
  (map.lookup key).getD 0

/-- No timestamp and no sequence of any cursor has decreased. -/
structure Advances (old new : InfoSyncPushState × OnlineSyncState) : Prop where
  group : ∀ groupCode,
    (old.1.groupCursor groupCode).Advances (new.1.groupCursor groupCode)
  direct : ∀ key, old.1.directTimestamp key ≤ new.1.directTimestamp key
  recentPrimary : ∀ key,
    activityTimestamp old.1.recentPrimary key ≤ activityTimestamp new.1.recentPrimary key
  recentSecondary : ∀ key,
    activityTimestamp old.1.recentSecondary key ≤
      activityTimestamp new.1.recentSecondary key
  recentGroups : ∀ key,
    activityTimestamp old.1.recentGroups key ≤ activityTimestamp new.1.recentGroups key
  groupLastMessageTime : old.2.groupLastMessageTime ≤ new.2.groupLastMessageTime
  directLastMessageTime : old.2.directLastMessageTime ≤ new.2.directLastMessageTime
  previousDirectMessageTime :
    old.2.previousDirectMessageTime ≤ new.2.previousDirectMessageTime

namespace Advances

theorem refl (result : InfoSyncPushState × OnlineSyncState) : Advances result result where
  group _ := GroupCursor.Advances.refl _
  direct _ := Nat.le_refl _
  recentPrimary _ := Nat.le_refl _
  recentSecondary _ := Nat.le_refl _
  recentGroups _ := Nat.le_refl _
  groupLastMessageTime := Nat.le_refl _
  directLastMessageTime := Nat.le_refl _
  previousDirectMessageTime := Nat.le_refl _

theorem trans {first second third : InfoSyncPushState × OnlineSyncState}
    (hfirst : Advances first second) (hsecond : Advances second third) :
    Advances first third where
  group groupCode := (hfirst.group groupCode).trans (hsecond.group groupCode)
  direct key := (hfirst.direct key).trans (hsecond.direct key)
  recentPrimary key := (hfirst.recentPrimary key).trans (hsecond.recentPrimary key)
  recentSecondary key := (hfirst.recentSecondary key).trans (hsecond.recentSecondary key)
  recentGroups key := (hfirst.recentGroups key).trans (hsecond.recentGroups key)
  groupLastMessageTime := hfirst.groupLastMessageTime.trans hsecond.groupLastMessageTime
  directLastMessageTime :=
    hfirst.directLastMessageTime.trans hsecond.directLastMessageTime
  previousDirectMessageTime :=
    hfirst.previousDirectMessageTime.trans hsecond.previousDirectMessageTime

theorem foldl {Item : Type} {step : InfoSyncPushState × OnlineSyncState → Item →
      InfoSyncPushState × OnlineSyncState}
    (hstep : ∀ result item, Advances result (step result item))
    (result : InfoSyncPushState × OnlineSyncState) (items : List Item) :
    Advances result (items.foldl step result) := by
  induction items generalizing result with
  | nil => exact refl result
  | cons item rest ih => exact (hstep result item).trans (ih _)

theorem applyGroupNode (result : InfoSyncPushState × OnlineSyncState) (node : GroupNode) :
    Advances result (applyGroupNode result node) :=
  { refl result with
    group := by
      intro groupCode
      rw [groupCursor_applyGroupNode]
      split
      · exact GroupCursor.advances_mergeNode _ node
      · exact GroupCursor.Advances.refl _
    groupLastMessageTime := Nat.le_max_left _ _ }

theorem applyGroupNotification (result : InfoSyncPushState × OnlineSyncState)
    (item : GroupNotification) : Advances result (applyGroupNotification result item) :=
  { refl result with
    group := by
      intro groupCode
      rw [groupCursor_applyGroupNotification]
      split
      · exact GroupCursor.advances_mergeNotification _ item
      · exact GroupCursor.Advances.refl _
    groupLastMessageTime := Nat.le_max_left _ _ }

theorem applyDirectNotification (result : InfoSyncPushState × OnlineSyncState)
    (item : SystemNotification) : Advances result (applyDirectNotification result item) :=
  { refl result with
    direct := by
      intro key
      have hlookup := lookup_upsert result.1.directCursors (fun _ => DirectCursor.new)
        (directKey item) key (fun cursor => cursor.merge item)
      change _ ≤ DirectCursor.lastSpeakTimestamp (((upsert result.1.directCursors
        (directKey item) DirectCursor.new (fun cursor => cursor.merge item)).lookup
          key).getD .new)
      rw [hlookup]
      split
      · exact Nat.le_max_left _ _
      · exact Nat.le_refl _
    directLastMessageTime := Nat.le_max_left _ _
    previousDirectMessageTime := Nat.le_max_left _ _ }

end Advances

theorem activityTimestamp_mergeMax {Key : Type} [DecidableEq Key]
    (map : Finmap (fun _ : Key => Nat)) (key other : Key) (value : Nat) :
    activityTimestamp map other ≤ activityTimestamp (mergeMax map key value) other := by
  have hlookup := lookup_upsert map (fun _ => 0) key other (max · value)
  change _ ≤ ((upsert map key 0 (max · value)).lookup other).getD 0
  rw [hlookup]
  split
  · exact Nat.le_max_left _ _
  · exact Nat.le_refl _

/-- A fold of merges that may skip items lets no timestamp decrease. -/
theorem activityTimestamp_foldl {Key Item : Type} [DecidableEq Key]
    {step : Finmap (fun _ : Key => Nat) → Item → Finmap (fun _ : Key => Nat)}
    (hstep : ∀ map item, step map item = map ∨
      ∃ key value, step map item = mergeMax map key value)
    (map : Finmap (fun _ : Key => Nat)) (items : List Item) (other : Key) :
    activityTimestamp map other ≤ activityTimestamp (items.foldl step map) other := by
  induction items generalizing map with
  | nil => exact Nat.le_refl _
  | cons item rest ih =>
      refine le_trans ?_ (ih (step map item))
      rcases hstep map item with hskip | ⟨key, value, hmerge⟩
      · rw [hskip]
      · rw [hmerge]
        exact activityTimestamp_mergeMax map key other value

theorem activityTimestamp_mergePeerActivity (map : Finmap (fun _ : String => Nat))
    (peers : List PeerActivity) (other : String) :
    activityTimestamp map other ≤ activityTimestamp (mergePeerActivity map peers) other := by
  refine activityTimestamp_foldl ?_ map peers other
  intro map peer
  by_cases hempty : peer.peerUid = ""
  · exact Or.inl (if_pos hempty)
  · exact Or.inr ⟨_, _, if_neg hempty⟩

theorem activityTimestamp_mergeGroupActivity (map : Finmap (fun _ : Nat => Nat))
    (groups : List GroupActivity) (other : Nat) :
    activityTimestamp map other ≤ activityTimestamp (mergeGroupActivity map groups) other := by
  refine activityTimestamp_foldl ?_ map groups other
  intro map group
  by_cases hzero : group.groupUin = 0
  · exact Or.inl (if_pos hzero)
  · exact Or.inr ⟨_, _, if_neg hzero⟩

theorem advances_applyGroupNodes (state : InfoSyncPushState) (sync : OnlineSyncState)
    (nodes : List GroupNode) :
    Advances (state, sync) (applyGroupNodes state sync nodes) := by
  unfold applyGroupNodes
  refine Advances.trans ?_ (Advances.foldl Advances.applyGroupNode _ nodes)
  split
  · split
    · exact { Advances.refl (state, sync) with }
    · exact Advances.refl _
  · exact Advances.refl _

/-- A merged packet lets no timestamp and no sequence decrease. -/
theorem advances_applyValid (packet : Packet) (state : InfoSyncPushState)
    (sync : OnlineSyncState) (counts : MessageCounts) (payloadLen : Nat) :
    Advances (state, sync) (applyValid packet state sync counts payloadLen) := by
  let nodes := applyGroupNodes state sync packet.groupNodes
  let groups := packet.groupItems.foldl applyGroupNotification nodes
  let directs := packet.systemItems.foldl applyDirectNotification groups
  have hnodes : Advances (state, sync) nodes := advances_applyGroupNodes state sync _
  have hgroups : Advances nodes groups :=
    Advances.foldl Advances.applyGroupNotification nodes _
  have hdirects : Advances groups directs :=
    Advances.foldl Advances.applyDirectNotification groups _
  refine (hnodes.trans (hgroups.trans hdirects)).trans ?_
  exact {
    Advances.refl directs with
    recentPrimary := activityTimestamp_mergePeerActivity _ _
    recentSecondary := activityTimestamp_mergePeerActivity _ _
    recentGroups := activityTimestamp_mergeGroupActivity _ _ }

theorem MergerState.apply_advances (decodePacket : List UInt8 → Option Packet)
    (state : MergerState) (push : InfoSyncPush) :
    Advances (state.cursors, state.sync)
      ((state.apply decodePacket push).1.cursors, (state.apply decodePacket push).1.sync) := by
  rcases state.apply_cases decodePacket push with
    ⟨error, happly⟩ | ⟨packet, counts, -, -, happly⟩
  · rw [happly]
    exact Advances.refl _
  · rw [happly]
    exact advances_applyValid packet state.cursors state.sync counts push.body.length

/-! ## Runs -/

theorem mergedNotifications_prefix (decodePacket : List UInt8 → Option Packet)
    (sync : OnlineSyncState) {reached pushes : List InfoSyncPush}
    (hreached : reached <+: pushes) (groupCode : Nat) :
    mergedNotifications decodePacket groupCode
        ((merger decodePacket).trace (.new sync) reached) <+:
      mergedNotifications decodePacket groupCode
        ((merger decodePacket).trace (.new sync) pushes) := by
  obtain ⟨rest, rfl⟩ := hreached
  rw [Machine.trace_append, mergedNotifications, mergedNotifications, List.flatMap_append]
  exact List.prefix_append _ _

theorem UnmixedStarts.of_front {first second : List GroupNotification}
    (hunmixed : UnmixedStarts second) (hfront : first <+: second) : UnmixedStarts first := by
  rcases hunmixed with hzero | hnonzero
  · exact Or.inl (fun item hitem => hzero item (hfront.subset hitem))
  · exact Or.inr (fun item hitem => hnonzero item (hfront.subset hitem))

/-- In every state that a run reaches, each group's range is the merged range of
the notifications so far, in whatever order, and no push lets a timestamp or a
sequence decrease: exactly when no group's merged notifications mix a start of
zero with other starts. -/
theorem merger_ranges_merged_iff (decodePacket : List UInt8 → Option Packet)
    (sync : OnlineSyncState) (pushes : List InfoSyncPush) :
    ((∀ reached, reached <+: pushes → ∀ groupCode,
        RangeMerged groupCode
          (mergedNotifications decodePacket groupCode
            ((merger decodePacket).trace (.new sync) reached))
          (((merger decodePacket).run (.new sync) reached).cursors.groupCursor
            groupCode).notificationRange) ∧
      ∀ reached push, reached ++ [push] <+: pushes →
        let before := (merger decodePacket).run (.new sync) reached
        let after := (merger decodePacket).run (.new sync) (reached ++ [push])
        Advances (before.cursors, before.sync) (after.cursors, after.sync)) ↔
      ∀ groupCode, UnmixedStarts (mergedNotifications decodePacket groupCode
        ((merger decodePacket).trace (.new sync) pushes)) := by
  constructor
  · rintro ⟨hmerged, -⟩ groupCode
    -- The whole run is one of its fronts.
    have hrange := hmerged pushes (List.prefix_refl pushes) groupCode
    rw [merger_notificationRange] at hrange
    exact (rangeMerged_iff groupCode _).mp hrange
  · intro hunmixed
    refine ⟨?_, ?_⟩
    · intro reached hreached groupCode
      rw [merger_notificationRange]
      refine (rangeMerged_iff groupCode _).mpr ((hunmixed groupCode).of_front ?_)
      exact mergedNotifications_prefix decodePacket sync hreached groupCode
    · intro reached push hreached before after
      have hafter : after = (before.apply decodePacket push).1 := by
        change (merger decodePacket).run (.new sync) (reached ++ [push]) = _
        rw [Machine.run_append]
        rfl
      rw [hafter]
      exact before.apply_advances decodePacket push

/-! ## A notification that starts at zero -/

def notificationPacket (item : GroupNotification) : Packet where
  result := 0
  errorMessage := ""
  pushFlag := 0
  pushSequence := 0
  retryFlag := 0
  groupNodes := []
  groupNotifications := some [item]
  systemNotifications := none
  auxiliaryState := none
  useInitialCacheData := 0
  guildNode := none
  recentActivity := none
  roamMessageOptimizeFlag := 0
  groupGuildFlag := 0

/-- A notification of group 42 whose start is absent on the wire, and read as 0. -/
def zeroStartBytes : List UInt8 := [0x3a, 0x06, 0x1a, 0x04, 0x18, 0x2a, 0x28, 0x09]

/-- A notification of group 42 from sequence 5 to sequence 7. -/
def laterStartBytes : List UInt8 :=
  [0x3a, 0x08, 0x1a, 0x06, 0x18, 0x2a, 0x20, 0x05, 0x28, 0x07]

def decodeNotification (body : List UInt8) : Option Packet :=
  if body = zeroStartBytes then
    some (notificationPacket ⟨42, 0, 9, [], 0⟩)
  else if body = laterStartBytes then
    some (notificationPacket ⟨42, 5, 7, [], 0⟩)
  else
    none

/-- The synchronization state of a new session. -/
def initialSyncState : OnlineSyncState where
  groupLastMessageTime := 0
  directLastMessageTime := 0
  previousDirectMessageTime := 0
  lastGroupCode := 0

def zeroStartRun : List InfoSyncPush :=
  [⟨zeroStartBytes, 8, 1024⟩, ⟨laterStartBytes, 8, 1024⟩]

/-- The notification from 0 is merged first and the one from 5 behind it: the
range of the group starts at 5, and at 0 in the other order. -/
theorem zeroStartRun_not_merged :
    ¬ RangeMerged 42
        (mergedNotifications decodeNotification 42
          ((merger decodeNotification).trace (.new initialSyncState) zeroStartRun))
        (((merger decodeNotification).run (.new initialSyncState) zeroStartRun).cursors.groupCursor
          42).notificationRange := by
  rw [merger_notificationRange]
  intro hmerged
  have hnotifications : mergedNotifications decodeNotification 42
      ((merger decodeNotification).trace (.new initialSyncState) zeroStartRun) =
      [⟨42, 0, 9, [], 0⟩, ⟨42, 5, 7, [], 0⟩] := by
    rfl
  rw [hnotifications] at hmerged
  have hbound : 5 ≤ 0 := (hmerged.least (by simp)).2 ⟨⟨42, 0, 9, [], 0⟩, by simp, rfl⟩
  omega

end Online
end Lirvena
