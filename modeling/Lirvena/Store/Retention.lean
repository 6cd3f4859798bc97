import Lirvena.Lib.Run
import Lirvena.Store.MessageStore

/-!
# What the message table retains

A run of puts beside the table that nothing would ever be deleted from.  After every
put the rows are the newest of the rows before it and the new one.  They are the
newest of everything put, the last row of each identifier, exactly as long as no put
sets a retained row back behind one that was deleted: the table has forgotten that
one and cannot bring it back.
-/

namespace Lirvena
namespace Store

open Lib
open MessageStore (replaceRow replaceRow_eq replaceRow_ids)

instance : IsTrans StoredRow Newer where
  trans first second third hfirst hsecond := by
    unfold Newer at *
    omega

instance : Std.Total Newer where
  total first second := by
    unfold Newer
    omega

/-- Pruning keeps exactly the newest rows. -/
theorem isNewest_pruneRows {rows : List StoredRow}
    (hids : (rows.map StoredRow.messageId).Nodup) :
    IsNewest Newer maxMessages (pruneRows rows) rows := by
  refine (isNewest_take_insertionSort Newer maxMessages rows).perm ?_
  have hperm := List.perm_insertionSort Newer rows
  have hsplit := List.take_append_drop maxMessages (rows.insertionSort Newer)
  have hnodup := (hperm.map StoredRow.messageId).nodup_iff.mpr hids
  rw [← hsplit, List.map_append] at hnodup
  obtain ⟨-, -, hapart⟩ := List.nodup_append.mp hnodup
  have hfirst : ((rows.insertionSort Newer).take maxMessages).filter
      (fun row => row.messageId ∉ expired rows) =
        (rows.insertionSort Newer).take maxMessages := by
    refine List.filter_eq_self.mpr fun row hrow => ?_
    rw [decide_eq_true_eq]
    intro hexpired
    exact hapart _ (List.mem_map_of_mem hrow) _ hexpired rfl
  have hfilter := hperm.filter fun row => row.messageId ∉ expired rows
  rw [← hsplit, List.filter_append, hfirst, filter_drop_expired,
    List.append_nil] at hfilter
  exact hfilter

/-! ## Runs of puts -/

/-- The table under puts; a rejected put leaves it as it is. -/
def messageTable : Machine MessageStore MessageRecord (Except MessageStoreError Unit) where
  step store record :=
    match store.put record with
    | .ok next => (next, .ok ())
    | .error error => (store, .error error)

/-- The table after these puts. -/
def tableAfter (records : List MessageRecord) : MessageStore :=
  messageTable.run .empty records

/-- The rows of everything put, the last one of each identifier. -/
def everPut (records : List MessageRecord) : List StoredRow :=
  records.foldl
    (fun rows record =>
      match StoredRow.ofRecord record with
      | .ok row => replaceRow rows row
      | .error _ => rows)
    []

theorem tableAfter_append (records : List MessageRecord) (record : MessageRecord) :
    tableAfter (records ++ [record]) = (messageTable.step (tableAfter records) record).1 := by
  rw [tableAfter, Machine.run_append]
  rfl

theorem tableAfter_of_error (records : List MessageRecord) {record : MessageRecord}
    {error : MessageStoreError} (hrow : StoredRow.ofRecord record = .error error) :
    tableAfter (records ++ [record]) = tableAfter records ∧
      everPut (records ++ [record]) = everPut records := by
  constructor
  · rw [tableAfter_append]
    cases hput : (tableAfter records).put record with
    | error rejected =>
        show ((match (tableAfter records).put record with
          | .ok next => (next, .ok ())
          | .error error => (tableAfter records, .error error) :
            MessageStore × Except MessageStoreError Unit)).1 = _
        rw [hput]
    | ok next =>
        obtain ⟨row, hwritten, -⟩ := MessageStore.put_eq_ok_iff.mp hput
        rw [hrow] at hwritten
        cases hwritten
  · rw [everPut, List.foldl_append, List.foldl_cons, List.foldl_nil, hrow]
    rfl

theorem tableAfter_of_ok (records : List MessageRecord) {record : MessageRecord}
    {row : StoredRow} (hrow : StoredRow.ofRecord record = .ok row) :
    (tableAfter (records ++ [record])).rows =
        pruneRows (replaceRow (tableAfter records).rows row) ∧
      everPut (records ++ [record]) = replaceRow (everPut records) row := by
  constructor
  · have hput : (tableAfter records).put record =
        .ok ((tableAfter records).insertRow row ⟨record, hrow⟩) :=
      MessageStore.put_eq_ok_iff.mpr ⟨row, hrow, rfl⟩
    rw [tableAfter_append]
    show ((match (tableAfter records).put record with
      | .ok next => (next, .ok ())
      | .error error => (tableAfter records, .error error) :
        MessageStore × Except MessageStoreError Unit)).1.rows = _
    rw [hput]
    rfl
  · rw [everPut, List.foldl_append, List.foldl_cons, List.foldl_nil, hrow]
    rfl

theorem everPut_ids (records : List MessageRecord) :
    ((everPut records).map StoredRow.messageId).Nodup := by
  induction records using List.reverseRecOn with
  | nil => exact List.nodup_nil
  | append_singleton records record ih =>
      cases hrow : StoredRow.ofRecord record with
      | error error =>
          rw [(tableAfter_of_error _ hrow).2]
          exact ih
      | ok row =>
          rw [(tableAfter_of_ok _ hrow).2]
          exact replaceRow_ids row ih

/-- Whatever is in the table is the last row of its identifier. -/
theorem tableAfter_subset (records : List MessageRecord) :
    (tableAfter records).rows ⊆ everPut records := by
  induction records using List.reverseRecOn with
  | nil => exact List.nil_subset _
  | append_singleton records record ih =>
      cases hrow : StoredRow.ofRecord record with
      | error error =>
          obtain ⟨htable, hever⟩ := tableAfter_of_error records hrow
          rw [htable, hever]
          exact ih
      | ok row =>
          obtain ⟨htable, hever⟩ := tableAfter_of_ok records hrow
          rw [htable, hever]
          intro other hother
          have hmem := (pruneRows_sublist _).subset hother
          rw [replaceRow_eq, mem_replaceKey_iff] at hmem ⊢
          exact hmem.imp_left fun hkept => ⟨ih hkept.1, hkept.2⟩

/-! ## Retention -/

/-- No put sets a retained row back behind a row that is not retained any more. -/
def OrderKept (records : List MessageRecord) : Prop :=
  ∀ front record back, records = front ++ record :: back →
    ∀ row, StoredRow.ofRecord record = .ok row →
      KeepsOrder Newer StoredRow.messageId (tableAfter front).rows (everPut front) row

theorem orderKept_append_iff {records : List MessageRecord} {record : MessageRecord} :
    OrderKept (records ++ [record]) ↔ OrderKept records ∧
      ∀ row, StoredRow.ofRecord record = .ok row →
        KeepsOrder Newer StoredRow.messageId (tableAfter records).rows (everPut records) row := by
  constructor
  · intro horder
    refine ⟨?_, fun row hrow => horder records record [] rfl row hrow⟩
    rintro front other back rfl row hrow
    exact horder front other (back ++ [record]) (by simp) row hrow
  · rintro ⟨horder, hlast⟩ front other back heq row hrow
    rcases List.eq_nil_or_concat back with rfl | ⟨tail, final, rfl⟩
    · obtain ⟨rfl, hsame⟩ := List.append_inj' heq rfl
      cases hsame
      exact hlast row hrow
    · rw [List.concat_eq_append, ← List.cons_append, ← List.append_assoc] at heq
      obtain ⟨rfl, -⟩ := List.append_inj' heq rfl
      exact horder front other tail rfl row hrow

/-- What one put leaves of the table. -/
theorem isNewest_step {records : List MessageRecord} {record : MessageRecord} {row : StoredRow}
    (hrow : StoredRow.ofRecord record = .ok row) :
    IsNewest Newer maxMessages (tableAfter (records ++ [record])).rows
      (replaceRow (tableAfter records).rows row) := by
  rw [(tableAfter_of_ok _ hrow).1]
  exact isNewest_pruneRows (replaceRow_ids row (tableAfter records).ids)

/-- The newest of everything put, as long as the order is kept. -/
theorem isNewest_of_orderKept {records : List MessageRecord} (horder : OrderKept records) :
    IsNewest Newer maxMessages (tableAfter records).rows (everPut records) := by
  induction records using List.reverseRecOn with
  | nil => exact isNewest_nil Newer maxMessages
  | append_singleton records record ih =>
      obtain ⟨hbefore, hlast⟩ := orderKept_append_iff.mp horder
      cases hrow : StoredRow.ofRecord record with
      | error error =>
          obtain ⟨htable, hever⟩ := tableAfter_of_error records hrow
          rw [htable, hever]
          exact ih hbefore
      | ok row =>
          rw [(tableAfter_of_ok _ hrow).2]
          exact (ih hbefore).replace (everPut_ids records) (isNewest_step hrow)
            (hlast row hrow)

theorem isNewest_iff_orderKept (records : List MessageRecord) :
    (∀ front, front <+: records →
        IsNewest Newer maxMessages (tableAfter front).rows (everPut front)) ↔
      OrderKept records := by
  constructor
  · rintro hnewest front record back rfl row hrow
    have hfront := hnewest front (List.prefix_append _ _)
    have hnext := hnewest (front ++ [record]) ⟨back, by simp⟩
    rw [(tableAfter_of_ok _ hrow).2] at hnext
    exact hfront.keepsOrder (everPut_ids front) (isNewest_step hrow) hnext
  · rintro horder front ⟨back, rfl⟩
    refine isNewest_of_orderKept ?_
    rintro start record rest rfl row hrow
    exact horder start record (rest ++ back) (by simp) row hrow

/-! ## The last record of an identifier -/

/-- The record was put, and no later put of its identifier was accepted. -/
def LastPut (records : List MessageRecord) (record : MessageRecord) : Prop :=
  ∃ front back, records = front ++ record :: back ∧
    ∀ later ∈ back, later.insertedAtMs.toNat < i64Bound → later.messageId ≠ record.messageId

theorem lastPut_append {records : List MessageRecord} {record later : MessageRecord}
    (hlast : LastPut records record)
    (hlater : later.insertedAtMs.toNat < i64Bound → later.messageId ≠ record.messageId) :
    LastPut (records ++ [later]) record := by
  obtain ⟨front, back, rfl, hback⟩ := hlast
  refine ⟨front, back ++ [later], by simp, ?_⟩
  intro other hother
  rcases List.mem_append.mp hother with hbefore | hend
  · exact hback other hbefore
  · rw [List.mem_singleton.mp hend]
    exact hlater

theorem lastPut_of_mem_everPut {records : List MessageRecord} {row : StoredRow}
    (hrow : row ∈ everPut records) :
    ∃ record, LastPut records record ∧ StoredRow.ofRecord record = .ok row := by
  induction records using List.reverseRecOn with
  | nil => exact (List.not_mem_nil hrow).elim
  | append_singleton records later ih =>
      cases hlater : StoredRow.ofRecord later with
      | error error =>
          -- A put that is refused leaves every row and every last put as it was.
          rw [(tableAfter_of_error _ hlater).2] at hrow
          obtain ⟨record, hlast, hwritten⟩ := ih hrow
          refine ⟨record, lastPut_append hlast ?_, hwritten⟩
          intro htime
          obtain ⟨other, hother⟩ := StoredRow.ofRecord_ok_iff.mpr htime
          rw [hlater] at hother
          cases hother
      | ok written =>
          rw [(tableAfter_of_ok _ hlater).2, replaceRow_eq, mem_replaceKey_iff] at hrow
          -- A row of another identifier was put before, and that of this one is the new row.
          rcases hrow with ⟨hbefore, hid⟩ | rfl
          · obtain ⟨record, hlast, hwritten⟩ := ih hbefore
            refine ⟨record, lastPut_append hlast ?_, hwritten⟩
            intro _ hsame
            rw [StoredRow.messageId_ofRecord hwritten, StoredRow.messageId_ofRecord hlater,
              hsame] at hid
            exact hid rfl
          · exact ⟨later, ⟨records, [], rfl, by simp⟩, hlater⟩

/-! ## Reading records back -/

/-- `into_record`, where `read` is `serde_json::from_str` on the stored text. -/
def StoredRow.intoRecordWith (read : String → Option Json) (row : StoredRow)
    (messageId : UInt32) : Except MessageStoreError MessageRecord := do
  let quote ← row.loadQuote
  let target ← row.loadRecall
  let response ← okOr .configuration (read row.response.render)
  let insertedAtMs ← insertionTime row.insertedAtMs
  let record ← MessageRecord.new messageId insertedAtMs response target
  return { record with quote := quote }

/-- Loads one retained message. -/
def MessageStore.getWith (read : String → Option Json) (store : MessageStore)
    (messageId : UInt32) : Except MessageStoreError (Option MessageRecord) :=
  match store.rows.find? (fun row => row.messageId = intColumn messageId) with
  | none => .ok none
  | some row => (row.intoRecordWith read messageId).map some

/-- A row gives its record back exactly when the text of the response does. -/
theorem StoredRow.intoRecordWith_ofRecord {read : String → Option Json}
    {record : MessageRecord} {row : StoredRow} (hrow : ofRecord record = .ok row) :
    row.intoRecordWith read record.messageId = .ok record ↔
      read record.response.render = some record.response := by
  obtain ⟨insertedAtMs, quoteElements, hquote, htime, rfl⟩ := exists_columns hrow
  have hresponse : (columns record insertedAtMs quoteElements).response = record.response := rfl
  unfold intoRecordWith
  constructor
  · intro hrecord
    obtain ⟨quote, hread, hrecord⟩ := bind_eq_ok_iff.mp hrecord
    obtain ⟨target, htarget, hrecord⟩ := bind_eq_ok_iff.mp hrecord
    obtain ⟨response, hparsed, hrecord⟩ := bind_eq_ok_iff.mp hrecord
    obtain ⟨time, -, hrecord⟩ := bind_eq_ok_iff.mp hrecord
    obtain ⟨built, hbuilt, hrecord⟩ := bind_eq_ok_iff.mp hrecord
    obtain ⟨hvalid, rfl⟩ := MessageRecord.new_eq_ok_iff.mp hbuilt
    -- The record that is built holds the response that was parsed.
    have hsame : response = record.response :=
      congrArg MessageRecord.response (Except.ok.inj hrecord)
    rw [← hsame] at hresponse ⊢
    rw [hresponse] at hparsed
    exact okOr_eq_ok_iff.mp hparsed
  · intro hparsed
    -- Of the columns only the response depends on the parser.
    have hnew : MessageRecord.new record.messageId record.insertedAtMs record.response
        record.recall = .ok { record with quote := none } := by
      simp [MessageRecord.new, record.valid]
    refine bind_eq_ok_iff.mpr ⟨record.quote, loadQuote_columns hquote, ?_⟩
    refine bind_eq_ok_iff.mpr ⟨record.recall, loadRecall_columns, ?_⟩
    refine bind_eq_ok_iff.mpr ⟨record.response, okOr_eq_ok_iff.mpr hparsed, ?_⟩
    refine bind_eq_ok_iff.mpr ⟨record.insertedAtMs, insertionTime_toI64 htime, ?_⟩
    exact bind_eq_ok_iff.mpr ⟨_, hnew, rfl⟩

theorem MessageStore.getWith_eq {store : MessageStore} {read : String → Option Json}
    {record : MessageRecord} {row : StoredRow} (hmem : row ∈ store.rows)
    (hrow : StoredRow.ofRecord record = .ok row) :
    store.getWith read record.messageId = .ok (some record) ↔
      read record.response.render = some record.response := by
  rw [← StoredRow.intoRecordWith_ofRecord hrow, getWith,
    find?_eq_some hmem (StoredRow.messageId_ofRecord hrow)]
  show (row.intoRecordWith read record.messageId).map some = .ok (some record) ↔ _
  cases row.intoRecordWith read record.messageId with
  | error error => simp [Except.map]
  | ok loaded => simp [Except.map]

/-- After every put the table holds the newest rows of what it held, with the row of
the record in the place of its identifier; a rejected put, which is one whose time does
not fit the column, changes nothing.  The tables of a run are the newest of everything
put, the last row of each identifier, exactly when the run keeps the order; and a
retained record is the last one put for its identifier and is returned whole exactly
when its response is read back from its text. -/
theorem puts_retain_newest (records : List MessageRecord) :
    (∀ record, (∀ row, StoredRow.ofRecord record = .ok row →
          IsNewest Newer maxMessages (tableAfter (records ++ [record])).rows
            (replaceRow (tableAfter records).rows row)) ∧
        ((∃ row, StoredRow.ofRecord record = .ok row) ↔
          record.insertedAtMs.toNat < i64Bound) ∧
        (¬ record.insertedAtMs.toNat < i64Bound →
          tableAfter (records ++ [record]) = tableAfter records)) ∧
    ((∀ front, front <+: records →
        IsNewest Newer maxMessages (tableAfter front).rows (everPut front)) ↔
      OrderKept records) ∧
    ∀ row ∈ (tableAfter records).rows, ∃ record, LastPut records record ∧
      StoredRow.ofRecord record = .ok row ∧ ∀ read : String → Option Json,
        (tableAfter records).getWith read record.messageId = .ok (some record) ↔
          read record.response.render = some record.response := by
  refine ⟨fun record => ⟨fun row hrow => isNewest_step hrow, StoredRow.ofRecord_ok_iff, ?_⟩,
    isNewest_iff_orderKept records, ?_⟩
  · intro hlate
    cases hrow : StoredRow.ofRecord record with
    | error error => exact (tableAfter_of_error _ hrow).1
    | ok row => exact absurd (StoredRow.ofRecord_ok_iff.mp ⟨row, hrow⟩) hlate
  · intro row hrow
    obtain ⟨record, hlast, hwritten⟩ := lastPut_of_mem_everPut (tableAfter_subset records hrow)
    exact ⟨record, hlast, hwritten, fun read => MessageStore.getWith_eq hrow hwritten⟩

/-! ## A row that cannot be brought back -/

section Forgotten

theorem ofRecord_of_noQuote {record : MessageRecord} (hquote : record.quote = none)
    (htime : record.insertedAtMs.toNat < i64Bound) :
    StoredRow.ofRecord record =
      .ok (StoredRow.columns record record.insertedAtMs.toNat none) := by
  have hcolumn : toI64 record.insertedAtMs = .ok record.insertedAtMs.toNat := if_pos htime
  refine bind_eq_ok_iff.mpr ⟨none, ?_, bind_eq_ok_iff.mpr ⟨_, hcolumn, rfl⟩⟩
  rw [hquote]
  rfl

/-- Puts of different identifiers replace nothing. -/
theorem everPut_of_nodup {records : List MessageRecord} {rowOf : MessageRecord → StoredRow}
    (hrows : ∀ record ∈ records, StoredRow.ofRecord record = .ok (rowOf record))
    (hids : (records.map MessageRecord.messageId).Nodup) :
    everPut records = records.map rowOf := by
  induction records using List.reverseRecOn with
  | nil => rfl
  | append_singleton records record ih =>
      rw [List.map_append, List.map_singleton] at hids
      obtain ⟨hbefore, -, hfresh⟩ := List.nodup_append.mp hids
      have hrow := hrows record (by simp)
      have hprior := fun other hother => hrows other (List.mem_append_left [record] hother)
      rw [(tableAfter_of_ok _ hrow).2, ih hprior hbefore, List.map_append]
      show (records.map rowOf).filter _ ++ [rowOf record] = _
      rw [List.filter_eq_self.mpr]
      · rfl
      · intro row hmem
        obtain ⟨other, hother, rfl⟩ := List.mem_map.mp hmem
        rw [decide_eq_true_eq, StoredRow.messageId_ofRecord (hprior other hother),
          StoredRow.messageId_ofRecord hrow, Ne, intColumn_inj]
        exact hfresh _ (List.mem_map_of_mem hother) _ List.mem_cons_self

/-- Puts of different identifiers keep the order. -/
theorem orderKept_of_nodup {records : List MessageRecord}
    (hids : (records.map MessageRecord.messageId).Nodup) : OrderKept records := by
  rintro front record back rfl row hrow hretained
  obtain ⟨other, hother, hsame⟩ := List.mem_map.mp hretained
  obtain ⟨earlier, ⟨start, rest, rfl, -⟩, hwritten⟩ :=
    lastPut_of_mem_everPut (tableAfter_subset front hother)
  rw [StoredRow.messageId_ofRecord hwritten, StoredRow.messageId_ofRecord hrow,
    intColumn_inj] at hsame
  rw [List.map_append] at hids
  exact absurd hsame ((List.nodup_append.mp hids).2.2 _ (by simp) _ (by simp))

/-- A record of an empty response. -/
def plainRecord (messageId : UInt32) (insertedAtMs : UInt64)
    (hid : messageId ≠ 0 ∧ messageId ≤ 0x7fffffff) (htime : insertedAtMs ≠ 0) :
    MessageRecord where
  messageId := messageId
  insertedAtMs := insertedAtMs
  response := .object []
  «recall» := .unavailable
  quote := none
  valid := validRecord_iff.mpr ⟨hid.1, hid.2, htime, rfl, by decide, rfl⟩

theorem smallId (number : Fin 4097) : (UInt32.ofNat (number.val + 1)).toNat = number.val + 1 :=
  UInt32.toNat_ofNat_of_lt' (by have := number.isLt; show _ < 2 ^ 32; omega)

theorem smallTime (number : Fin 4097) :
    (UInt64.ofNat (number.val + 2)).toNat = number.val + 2 :=
  UInt64.toNat_ofNat_of_lt' (by have := number.isLt; show _ < 2 ^ 64; omega)

/-- One message more than the table holds, with growing identifiers and times. -/
def numbered (number : Fin 4097) : MessageRecord :=
  plainRecord (UInt32.ofNat (number.val + 1)) (UInt64.ofNat (number.val + 2))
    ⟨fun hzero => by
        have hnat := congrArg UInt32.toNat hzero
        rw [smallId] at hnat
        exact Nat.succ_ne_zero _ hnat,
      UInt32.le_iff_toNat_le.mpr (by
        rw [smallId]
        have := number.isLt
        show number.val + 1 ≤ 2147483647
        omega)⟩
    (fun hzero => by
      have hnat := congrArg UInt64.toNat hzero
      rw [smallTime] at hnat
      exact Nat.succ_ne_zero _ hnat)

def numberedRow (number : Fin 4097) : StoredRow :=
  StoredRow.columns (numbered number) (number.val + 2 : Nat) none

theorem ofRecord_numbered (number : Fin 4097) :
    StoredRow.ofRecord (numbered number) = .ok (numberedRow number) := by
  have hnat : (numbered number).insertedAtMs.toNat = number.val + 2 := smallTime number
  have htime : (numbered number).insertedAtMs.toNat < i64Bound := by
    rw [hnat]
    have := number.isLt
    unfold i64Bound
    omega
  rw [ofRecord_of_noQuote rfl htime, hnat]
  rfl

/-- The newest message once more, now with a time before all others. -/
def setBack : MessageRecord :=
  plainRecord 4097 1 (by decide) (by decide)

def forgottenRun : List MessageRecord :=
  (List.finRange 4097).map numbered

theorem forgottenRun_ids : (forgottenRun.map MessageRecord.messageId).Nodup := by
  rw [forgottenRun, List.map_map]
  refine (List.nodup_finRange 4097).map ?_
  intro first second heq
  have hnat := congrArg UInt32.toNat heq
  have hsame : (UInt32.ofNat (first.val + 1)).toNat = (UInt32.ofNat (second.val + 1)).toNat :=
    hnat
  rw [smallId, smallId] at hsame
  exact Fin.ext (by omega)

theorem everPut_forgottenRun : everPut forgottenRun = (List.finRange 4097).map numberedRow := by
  have hrows : ∀ record ∈ forgottenRun, StoredRow.ofRecord record =
      .ok (StoredRow.columns record record.insertedAtMs.toNat none) := by
    intro record hrecord
    obtain ⟨number, -, rfl⟩ := List.mem_map.mp hrecord
    rw [ofRecord_numbered]
    have hnat : (numbered number).insertedAtMs.toNat = number.val + 2 := smallTime number
    rw [hnat]
    rfl
  rw [everPut_of_nodup hrows forgottenRun_ids, forgottenRun, List.map_map]
  refine List.map_congr_left fun number _ => ?_
  have hnat : (numbered number).insertedAtMs.toNat = number.val + 2 := smallTime number
  show StoredRow.columns (numbered number) (numbered number).insertedAtMs.toNat none = _
  rw [hnat]
  rfl

theorem numberedRow_newer {first second : Fin 4097}
    (hnewer : Newer (numberedRow first) (numberedRow second)) : second ≤ first := by
  have hfirst : (numberedRow first).insertedAtMs = (first.val + 2 : Nat) := rfl
  have hsecond : (numberedRow second).insertedAtMs = (second.val + 2 : Nat) := rfl
  rw [Newer, hfirst, hsecond] at hnewer
  rw [Fin.le_def]
  omega

/-- After the 4097 messages the table holds the last one, and not the first one. -/
theorem tableAfter_forgottenRun :
    numberedRow 4096 ∈ (tableAfter forgottenRun).rows ∧
      numberedRow 0 ∉ (tableAfter forgottenRun).rows := by
  have hnewest := isNewest_of_orderKept (orderKept_of_nodup forgottenRun_ids)
  have hids := everPut_ids forgottenRun
  rw [everPut_forgottenRun] at hnewest hids
  obtain ⟨dropped, hperm, hlength, hfull, hnewer⟩ := hnewest
  have hcount := hperm.length_eq
  rw [List.length_map, List.length_finRange, List.length_append] at hcount
  have hmax : maxMessages = 4096 := rfl
  have hdropped : dropped ≠ [] := by
    rintro rfl
    rw [List.length_nil] at hcount
    omega
  have hkeptLength := hfull hdropped
  have hnodup := (hperm.map StoredRow.messageId).nodup_iff.mp hids
  rw [List.map_append] at hnodup
  obtain ⟨-, -, hapart⟩ := List.nodup_append.mp hnodup
  have hnumber : ∀ row ∈ (tableAfter forgottenRun).rows ++ dropped,
      ∃ number, numberedRow number = row := by
    intro row hrow
    obtain ⟨number, -, hnumbered⟩ := List.mem_map.mp (hperm.mem_iff.mpr hrow)
    exact ⟨number, hnumbered⟩
  have hall : ∀ number, numberedRow number ∈ (tableAfter forgottenRun).rows ++ dropped :=
    fun number => hperm.mem_iff.mp (List.mem_map_of_mem (List.mem_finRange number))
  constructor
  · rcases List.mem_append.mp (hall 4096) with hkept | hlast
    · exact hkept
    · -- some row is kept, and it would be newer than the last one
      obtain ⟨row, hrow⟩ := List.exists_mem_of_length_pos
        (show 0 < (tableAfter forgottenRun).rows.length by omega)
      obtain ⟨number, rfl⟩ := hnumber row (List.mem_append_left _ hrow)
      have hle := numberedRow_newer (hnewer _ hrow _ hlast)
      have hsame : number = 4096 := Fin.le_antisymm (Fin.le_last number) hle
      subst hsame
      exact absurd rfl (hapart _ (List.mem_map_of_mem hrow) _ (List.mem_map_of_mem hlast))
  · intro hkept
    -- some row is dropped, and the first one would be newer
    obtain ⟨row, hrow⟩ := List.exists_mem_of_ne_nil dropped hdropped
    obtain ⟨number, rfl⟩ := hnumber row (List.mem_append_right _ hrow)
    have hle := numberedRow_newer (hnewer _ hkept _ hrow)
    have hsame : number = 0 := Fin.le_zero_iff.mp hle
    subst hsame
    exact absurd rfl (hapart _ (List.mem_map_of_mem hkept) _ (List.mem_map_of_mem hrow))

/-- When the last of the 4097 messages is put again with an older time, the table no
longer holds the newest of everything put: the first one is newer, and it is gone. -/
theorem set_back_not_newest :
    ¬ IsNewest Newer maxMessages (tableAfter (forgottenRun ++ [setBack])).rows
      (everPut (forgottenRun ++ [setBack])) := by
  intro hnewest
  have hrow : StoredRow.ofRecord setBack = .ok (StoredRow.columns setBack 1 none) :=
    ofRecord_of_noQuote rfl (by decide)
  rw [(tableAfter_of_ok _ hrow).2] at hnewest
  obtain ⟨hlast, hfirst⟩ := tableAfter_forgottenRun
  have hever : numberedRow 0 ∈ everPut forgottenRun := by
    rw [everPut_forgottenRun]
    exact List.mem_map_of_mem (List.mem_finRange 0)
  have horder := (isNewest_of_orderKept (orderKept_of_nodup forgottenRun_ids)).keepsOrder
    (everPut_ids forgottenRun) (isNewest_step hrow) hnewest
  have hnewer := horder (List.mem_map.mpr ⟨_, hlast, rfl⟩) (numberedRow 0) hever ?_
  · revert hnewer
    decide
  · intro hmem
    obtain ⟨row, hmemRow, hid⟩ := List.mem_map.mp hmem
    have hsame := List.inj_on_of_nodup_map (everPut_ids forgottenRun)
      (tableAfter_subset forgottenRun hmemRow) hever hid
    exact hfirst (hsame ▸ hmemRow)

end Forgotten

end Store
end Lirvena
