import Lirvena.Lib.Newest
import Lirvena.Store.Row

/-!
# The message store

The bounded `messages` table of one account.  `put` replaces the row of the same
identifier and prunes the oldest rows; the lookups select at most two rows and
treat two as ambiguity.  `find_eq` says what every lookup returns: it depends
only on the rows that carry the key.  SQL statements are assumed to succeed.
-/

namespace Lirvena
namespace Store

open Lib

/-- The order of `ORDER BY inserted_at_ms DESC, message_id DESC`. -/
def Newer (first second : StoredRow) : Prop :=
  second.insertedAtMs < first.insertedAtMs ∨
    (second.insertedAtMs = first.insertedAtMs ∧ second.messageId ≤ first.messageId)

instance : DecidableRel Newer :=
  fun _ _ => inferInstanceAs (Decidable (_ ∨ (_ ∧ _)))

/-- The order of `ORDER BY inserted_at_ms DESC`. -/
def NotOlder (first second : StoredRow) : Prop :=
  second.insertedAtMs ≤ first.insertedAtMs

instance : DecidableRel NotOlder :=
  fun _ _ => inferInstanceAs (Decidable (_ ≤ _))

/-- The identifiers that `prune` deletes. -/
def expired (rows : List StoredRow) : List Int :=
  ((rows.insertionSort Newer).drop maxMessages).map StoredRow.messageId

def pruneRows (rows : List StoredRow) : List StoredRow :=
  rows.filter (fun row => row.messageId ∉ expired rows)

theorem pruneRows_sublist (rows : List StoredRow) : (pruneRows rows).Sublist rows :=
  List.filter_sublist

/-- None of the rows behind the newest ones is left. -/
theorem filter_drop_expired (rows : List StoredRow) :
    ((rows.insertionSort Newer).drop maxMessages).filter
      (fun row => row.messageId ∉ expired rows) = [] := by
  refine List.filter_eq_nil_iff.mpr fun row hrow => ?_
  have hexpired : row.messageId ∈ expired rows := List.mem_map_of_mem hrow
  simpa using hexpired

/-- Pruning leaves at most the newest rows. -/
theorem pruneRows_length (rows : List StoredRow) : (pruneRows rows).length ≤ maxMessages := by
  have hperm := List.perm_insertionSort Newer rows
  have hsplit := List.take_append_drop maxMessages (rows.insertionSort Newer)
  have hfirst := List.length_filter_le (fun row : StoredRow => row.messageId ∉ expired rows)
    ((rows.insertionSort Newer).take maxMessages)
  have htake := List.length_take_le maxMessages (rows.insertionSort Newer)
  have hlen := (hperm.filter (fun row => row.messageId ∉ expired rows)).length_eq
  rw [← hsplit, List.filter_append, filter_drop_expired, List.append_nil] at hlen
  unfold pruneRows
  omega

/-- A row that `put` could have written. -/
def Stored (row : StoredRow) : Prop :=
  ∃ record, StoredRow.ofRecord record = .ok row

/-- Private, bounded message state owned by one account actor. -/
structure MessageStore where
  rows : List StoredRow
  stored : ∀ row ∈ rows, Stored row
  ids : (rows.map StoredRow.messageId).Nodup
  bounded : rows.length ≤ maxMessages

namespace MessageStore

def empty : MessageStore where
  rows := []
  stored := by simp
  ids := List.nodup_nil
  bounded := Nat.zero_le _

/-- The rows that carry a key. -/
def carrying (store : MessageStore) (key : StoredRow → Prop) [DecidablePred key] :
    List StoredRow :=
  store.rows.filter (fun row => key row)

/-! ## Reading -/

def contains (store : MessageStore) (messageId : UInt32) : Bool :=
  store.rows.any (fun row => row.messageId = intColumn messageId)

def get (store : MessageStore) (messageId : UInt32) :
    Except MessageStoreError (Option MessageRecord) :=
  match store.rows.find? (fun row => row.messageId = intColumn messageId) with
  | none => .ok none
  | some row => (row.intoRecord messageId).map some

/-- The identifiers that a `SELECT … ORDER BY inserted_at_ms DESC LIMIT 2` returns. -/
def selectIds (store : MessageStore) (key : StoredRow → Prop) [DecidablePred key] :
    List Int :=
  (((store.carrying key).insertionSort NotOlder).take 2).map StoredRow.messageId

/-- The common end of the lookups. -/
def find (store : MessageStore) (key : StoredRow → Prop) [DecidablePred key] :
    Except MessageStoreError (Option MessageRecord) :=
  match store.selectIds key with
  | [] => .ok none
  | [id] => do
      let messageId ← okOr .configuration (tryU32 id)
      store.get messageId
  | _ => .error .configuration

def findQuote (store : MessageStore) (messageUid : UInt64) (sequence : UInt32) :
    Except MessageStoreError (Option MessageRecord) := do
  rejectIf .configuration (messageUid = 0 ∨ sequence = 0)
  store.find (StoredRow.CarriesQuote messageUid sequence)

def findGroup (store : MessageStore) (groupCode : UInt32) (sequence : UInt64) :
    Except MessageStoreError (Option MessageRecord) := do
  rejectIf .configuration (groupCode = 0 ∨ sequence = 0)
  store.find (StoredRow.CarriesGroup groupCode sequence)

def findPrivate (store : MessageStore) (uid : String) (peerUin : UInt32)
    (sequence clientSequence : UInt64) (random timestamp : UInt32) :
    Except MessageStoreError (Option MessageRecord) := do
  let target := RecallTarget.private uid (some peerUin) sequence clientSequence random timestamp
  rejectIf .configuration (validRecall target = false)
  store.find (StoredRow.CarriesPrivate uid peerUin sequence clientSequence random timestamp)

def findPrivateRecall (store : MessageStore) (clientSequence : UInt64)
    (random timestamp : UInt32) : Except MessageStoreError (Option MessageRecord) := do
  rejectIf .configuration (clientSequence = 0 ∨ random = 0 ∨ timestamp = 0)
  store.find (StoredRow.CarriesRecall clientSequence random timestamp)

/-! ## Writing -/

def prune (store : MessageStore) : MessageStore where
  rows := pruneRows store.rows
  stored := fun row hrow => store.stored row ((pruneRows_sublist _).subset hrow)
  ids := store.ids.sublist ((pruneRows_sublist _).map _)
  bounded := pruneRows_length _

/-- The table after `INSERT OR REPLACE`, before the oldest rows are deleted. -/
def replaceRow (rows : List StoredRow) (row : StoredRow) : List StoredRow :=
  rows.filter (fun other => other.messageId ≠ row.messageId) ++ [row]

theorem replaceRow_eq (rows : List StoredRow) (row : StoredRow) :
    replaceRow rows row = replaceKey StoredRow.messageId rows row :=
  rfl

theorem replaceRow_ids {rows : List StoredRow} (row : StoredRow)
    (hids : (rows.map StoredRow.messageId).Nodup) :
    ((replaceRow rows row).map StoredRow.messageId).Nodup :=
  nodup_replaceKey row hids

def insertRow (store : MessageStore) (row : StoredRow) (hrow : Stored row) :
    MessageStore where
  rows := pruneRows (replaceRow store.rows row)
  stored := by
    intro other hother
    have hmem := (pruneRows_sublist _).subset hother
    rw [replaceRow_eq, mem_replaceKey_iff] at hmem
    rcases hmem with ⟨hkept, -⟩ | rfl
    · exact store.stored other hkept
    · exact hrow
  ids := (replaceRow_ids row store.ids).sublist ((pruneRows_sublist _).map _)
  bounded := pruneRows_length _

/-- Inserts or replaces one record and prunes the oldest entries. -/
def put (store : MessageStore) (record : MessageRecord) :
    Except MessageStoreError MessageStore :=
  match hrow : StoredRow.ofRecord record with
  | .error error => .error error
  | .ok row => .ok (store.insertRow row ⟨record, hrow⟩)

def remove (store : MessageStore) (messageId : UInt32) : MessageStore where
  rows := store.rows.filter (fun row => row.messageId ≠ intColumn messageId)
  stored := fun row hrow => store.stored row (List.mem_of_mem_filter hrow)
  ids := store.ids.sublist (List.filter_sublist.map _)
  bounded := (List.length_filter_le _ _).trans store.bounded

/-! ## What a lookup returns -/

variable {store : MessageStore} {key : StoredRow → Prop} [DecidablePred key]

theorem mem_carrying_iff {row : StoredRow} :
    row ∈ store.carrying key ↔ row ∈ store.rows ∧ key row := by
  simp [carrying]

theorem find?_eq_some {row : StoredRow} {messageId : Int} (hmem : row ∈ store.rows)
    (hid : row.messageId = messageId) :
    store.rows.find? (fun other => other.messageId = messageId) = some row := by
  cases hfound : store.rows.find? (fun other => other.messageId = messageId) with
  | none =>
      have hnone := List.find?_eq_none.mp hfound row hmem
      simp [hid] at hnone
  | some other =>
      have hother := List.mem_of_find?_eq_some hfound
      have hsame : other.messageId = row.messageId := by
        have htest := List.find?_some hfound
        simp only [decide_eq_true_eq] at htest
        rw [htest, hid]
      have hinj := List.inj_on_of_nodup_map store.ids hother hmem hsame
      rw [hinj]

theorem get_eq {record : MessageRecord} {row : StoredRow} (hmem : row ∈ store.rows)
    (hrow : StoredRow.ofRecord record = .ok row) :
    store.get record.messageId = .ok (some record) := by
  have hread := StoredRow.intoRecord_ofRecord hrow
  have hid := StoredRow.messageId_ofRecord hrow
  rw [get, find?_eq_some hmem hid]
  simp [hread, Except.map]

/-- A lookup finds nothing, the record of the only row that carries the key, or
an ambiguity. -/
theorem find_eq (store : MessageStore) (key : StoredRow → Prop) [DecidablePred key] :
    (store.carrying key = [] ∧ store.find key = .ok none) ∨
      (∃ row record, store.carrying key = [row] ∧ StoredRow.ofRecord record = .ok row ∧
        store.find key = .ok (some record)) ∨
      (2 ≤ (store.carrying key).length ∧ store.find key = .error .configuration) := by
  rcases hcarrying : store.carrying key with _ | ⟨row, _ | ⟨other, rest⟩⟩
  · left
    simp [find, selectIds, hcarrying]
  · right
    left
    -- The one row of the key was written from a record, which is read back by its identifier.
    have hmem : row ∈ store.rows := by
      have hcarried : row ∈ store.carrying key := by simp [hcarrying]
      exact (mem_carrying_iff.mp hcarried).1
    obtain ⟨record, hrow⟩ := store.stored row hmem
    have hid := StoredRow.messageId_ofRecord hrow
    refine ⟨row, record, rfl, hrow, ?_⟩
    have hselect : store.selectIds key = [row.messageId] := by
      simp [selectIds, hcarrying]
    unfold find
    rw [hselect]
    refine bind_eq_ok_iff.mpr ⟨record.messageId, ?_, get_eq hmem hrow⟩
    rw [hid, tryU32_intColumn]
    rfl
  · right
    right
    refine ⟨by simp, ?_⟩
    -- Two identifiers are enough for the query to see that the key is ambiguous.
    have hlen : (store.selectIds key).length = 2 := by
      rw [selectIds, List.length_map, List.length_take, List.length_insertionSort, hcarrying,
        List.length_cons, List.length_cons]
      omega
    unfold find
    split
    · next hids => simp [hids] at hlen
    · next hids => simp [hids] at hlen
    · rfl

theorem find_ok_iff (store : MessageStore) (key : StoredRow → Prop) [DecidablePred key] :
    (∃ found, store.find key = .ok found) ↔ (store.carrying key).length ≤ 1 := by
  rcases find_eq store key with ⟨hrows, hfind⟩ | ⟨row, record, hrows, -, hfind⟩ | ⟨hrows, hfind⟩
  · simp [hrows, hfind]
  · simp [hrows, hfind]
  · simp [hfind]
    omega

/-! ## What a write leaves -/

theorem prune_carrying_length (store : MessageStore) (key : StoredRow → Prop)
    [DecidablePred key] :
    (store.prune.carrying key).length ≤ (store.carrying key).length :=
  ((pruneRows_sublist store.rows).filter _).length_le

theorem remove_carrying_length (store : MessageStore) (messageId : UInt32)
    (key : StoredRow → Prop) [DecidablePred key] :
    ((store.remove messageId).carrying key).length ≤ (store.carrying key).length :=
  (List.filter_sublist.filter _).length_le

/-- The rows that carry a key after a write are at most the kept ones and the
new one. -/
theorem insertRow_carrying_length (store : MessageStore) {row : StoredRow} (hrow : Stored row)
    (key : StoredRow → Prop) [DecidablePred key] :
    ((store.insertRow row hrow).carrying key).length ≤
      ((store.carrying key).filter (fun other => other.messageId ≠ row.messageId)).length +
        if key row then 1 else 0 := by
  have hpruned := ((pruneRows_sublist (replaceRow store.rows row)).filter
    (fun other => key other)).length_le
  have hsplit : (replaceRow store.rows row).filter (fun other => key other) =
      (store.carrying key).filter (fun other => other.messageId ≠ row.messageId) ++
        [row].filter (fun other => key other) := by
    rw [replaceRow, List.filter_append, carrying, List.filter_comm]
  have hlast : ([row].filter (fun other => key other)).length = if key row then 1 else 0 := by
    by_cases hkey : key row <;> simp [hkey]
  rw [hsplit, List.length_append, hlast] at hpruned
  exact hpruned

theorem put_eq_ok_iff {record : MessageRecord} {next : MessageStore} :
    store.put record = .ok next ↔
      ∃ row, ∃ hrow : StoredRow.ofRecord record = .ok row,
        next = store.insertRow row ⟨record, hrow⟩ := by
  unfold put
  split
  · next error herror => simp [herror]
  · next row hrow =>
      constructor
      · intro hput
        cases hput
        exact ⟨row, hrow, rfl⟩
      · rintro ⟨other, hother, rfl⟩
        have hsame : other = row := by
          rw [hrow] at hother
          cases hother
          rfl
        subst hsame
        rfl

theorem put_ok_iff {record : MessageRecord} :
    (∃ next, store.put record = .ok next) ↔ record.insertedAtMs.toNat < i64Bound := by
  rw [← StoredRow.ofRecord_ok_iff]
  constructor
  · rintro ⟨next, hput⟩
    obtain ⟨row, hrow, -⟩ := put_eq_ok_iff.mp hput
    exact ⟨row, hrow⟩
  · rintro ⟨row, hrow⟩
    exact ⟨_, put_eq_ok_iff.mpr ⟨row, hrow, rfl⟩⟩

end MessageStore
end Store
end Lirvena
