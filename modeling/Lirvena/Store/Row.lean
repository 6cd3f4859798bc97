import Lirvena.Store.Record

/-!
# Stored rows

The columns of the `messages` table.  A record is written as one row, and
`intoRecord` reads the row back through the same validators;
`intoRecord_ofRecord` proves that a written row is read as the record it came
from.  Two words are stored as big-endian bytes.  The response column keeps the
JSON value in place of its text: `serde_json` reads back the text it wrote.
-/

namespace Lirvena
namespace Store

open Lib

/-- The correlation columns of a row. -/
structure RecallFields where
  kind : Int
  groupCode : Option UInt32
  uid : Option String
  peerUin : Option UInt32
  sequence : Option UInt64
  clientSequence : Option UInt64
  random : Option UInt32
  timestamp : Option UInt32

def RecallFields.fromTarget : RecallTarget → RecallFields
  | .group groupCode sequence random =>
      { kind := 1, groupCode := some groupCode, uid := none, peerUin := none
        sequence := some sequence, clientSequence := none, random := random
        timestamp := none }
  | .private uid peerUin sequence clientSequence random timestamp =>
      { kind := 2, groupCode := none, uid := some uid, peerUin := peerUin
        sequence := some sequence, clientSequence := some clientSequence
        random := some random, timestamp := some timestamp }
  | .unavailable =>
      { kind := 0, groupCode := none, uid := none, peerUin := none, sequence := none
        clientSequence := none, random := none, timestamp := none }

structure StoredRow where
  messageId : Int
  insertedAtMs : Int
  response : Json
  kind : Int
  groupCode : Option Int
  uid : Option String
  peerUin : Option Int
  sequence : Option (List UInt8)
  clientSequence : Option (List UInt8)
  random : Option Int
  timestamp : Option Int
  quoteSequence : Option Int
  quoteMessageUid : Option (List UInt8)
  quoteSenderUin : Option Int
  quoteSenderUid : Option String
  quoteTimestamp : Option Int
  quoteElements : Option (List UInt8)

/-! ## Column values -/

/-- `i64::from` on a `u32`. -/
def intColumn (value : UInt32) : Int :=
  value.toNat

/-- `u64::to_be_bytes`. -/
def wordColumn (value : UInt64) : List UInt8 :=
  beBytes 8 value.toNat

/-- `i64::try_from` on a `u64`. -/
def toI64 (value : UInt64) : Except MessageStoreError Int :=
  if value.toNat < i64Bound then .ok value.toNat else .error .configuration

def fromI64 (value : Option Int) : Except MessageStoreError UInt32 :=
  okOr .configuration (value.bind tryU32)

def optionalU32 : Option Int → Except MessageStoreError (Option UInt32)
  | none => .ok none
  | some value => (okOr .configuration (tryU32 value)).map some

def decodeU64 (value : Option (List UInt8)) : Except MessageStoreError UInt64 := do
  let bytes ← okOr .configuration value
  rejectIf .configuration (bytes.length ≠ 8)
  return UInt64.ofNat (beNat bytes)

/-- `u64::try_from` on the insertion time. -/
def insertionTime (value : Int) : Except MessageStoreError UInt64 :=
  if 0 ≤ value then .ok (UInt64.ofNat value.toNat) else .error .configuration

theorem intColumn_injective {first second : UInt32} (hcolumn : intColumn first = intColumn second) :
    first = second := by
  apply UInt32.toNat_inj.mp
  unfold intColumn at hcolumn
  omega

theorem wordColumn_injective {first second : UInt64}
    (hcolumn : wordColumn first = wordColumn second) : first = second := by
  have hfirst := first.toNat_lt
  have hsecond := second.toNat_lt
  have hnat := congrArg beNat hcolumn
  unfold wordColumn at hnat
  rw [beNat_beBytes_of_lt (by omega), beNat_beBytes_of_lt (by omega)] at hnat
  exact UInt64.toNat_inj.mp hnat

theorem tryU32_intColumn (value : UInt32) : tryU32 (intColumn value) = some value :=
  tryU32_natCast value

theorem fromI64_intColumn (value : UInt32) : fromI64 (some (intColumn value)) = .ok value := by
  rw [fromI64, Option.bind_some, tryU32_intColumn]
  rfl

theorem optionalU32_intColumn (value : Option UInt32) :
    optionalU32 (value.map intColumn) = .ok value := by
  cases value with
  | none => rfl
  | some value =>
      rw [Option.map_some, optionalU32, tryU32_intColumn]
      rfl

theorem decodeU64_wordColumn (value : UInt64) :
    decodeU64 (some (wordColumn value)) = .ok value := by
  have hvalue := value.toNat_lt
  have hnat : beNat (wordColumn value) = value.toNat := beNat_beBytes_of_lt (by omega)
  have hlength : ¬ (wordColumn value).length ≠ 8 := by simp [wordColumn]
  refine bind_eq_ok_iff.mpr ⟨wordColumn value, rfl, ?_⟩
  refine bind_eq_ok_iff.mpr ⟨(), rejectIf_eq_ok_iff.mpr hlength, ?_⟩
  rw [hnat, UInt64.ofNat_toNat]
  rfl

theorem insertionTime_toI64 {value : UInt64} {column : Int} (hcolumn : toI64 value = .ok column) :
    insertionTime column = .ok value := by
  unfold toI64 at hcolumn
  split at hcolumn
  · cases hcolumn
    simp [insertionTime]
  · cases hcolumn

/-! ## Writing and reading -/

namespace StoredRow

def noFields (row : StoredRow) : Bool :=
  row.groupCode.isNone && row.uid.isNone && row.peerUin.isNone && row.sequence.isNone &&
    row.clientSequence.isNone && row.random.isNone && row.timestamp.isNone

def loadQuote (row : StoredRow) : Except MessageStoreError (Option QuoteTarget) :=
  let values := [row.quoteSequence.isSome, row.quoteMessageUid.isSome,
    row.quoteSenderUin.isSome, row.quoteSenderUid.isSome, row.quoteTimestamp.isSome,
    row.quoteElements.isSome]
  if values.all (fun value => !value) then
    .ok none
  else if !values.all id then
    .error .configuration
  else do
    let sequence ← fromI64 row.quoteSequence
    let messageUid ← decodeU64 row.quoteMessageUid
    let senderUin ← fromI64 row.quoteSenderUin
    let senderUid ← okOr .configuration row.quoteSenderUid
    let timestamp ← fromI64 row.quoteTimestamp
    let stored ← okOr .configuration row.quoteElements
    let elements ← QuoteTarget.decodeElements stored
    let quote ← QuoteTarget.new sequence messageUid senderUin senderUid timestamp elements
    return some quote

def loadRecall (row : StoredRow) : Except MessageStoreError RecallTarget :=
  if row.kind = 0 ∧ row.noFields = true then
    .ok .unavailable
  else if row.kind = 1 ∧ row.uid = none ∧ row.clientSequence = none ∧ row.timestamp = none then do
    let groupCode ← fromI64 row.groupCode
    let sequence ← decodeU64 row.sequence
    let random ← optionalU32 row.random
    return .group groupCode sequence random
  else if row.kind = 2 ∧ row.groupCode = none then do
    let uid ← okOr .configuration row.uid
    let peerUin ← optionalU32 row.peerUin
    let sequence ← decodeU64 row.sequence
    let clientSequence ← decodeU64 row.clientSequence
    let random ← fromI64 row.random
    let timestamp ← fromI64 row.timestamp
    return .private uid peerUin sequence clientSequence random timestamp
  else
    .error .configuration

def intoRecord (row : StoredRow) (messageId : UInt32) :
    Except MessageStoreError MessageRecord := do
  let quote ← row.loadQuote
  let target ← row.loadRecall
  let insertedAtMs ← insertionTime row.insertedAtMs
  let record ← MessageRecord.new messageId insertedAtMs row.response target
  return { record with quote := quote }

/-- The values that `put` binds to its `INSERT`. -/
def columns (record : MessageRecord) (insertedAtMs : Int)
    (quoteElements : Option (List UInt8)) : StoredRow :=
  let fields := RecallFields.fromTarget record.recall
  { messageId := intColumn record.messageId
    insertedAtMs := insertedAtMs
    response := record.response
    kind := fields.kind
    groupCode := fields.groupCode.map intColumn
    uid := fields.uid
    peerUin := fields.peerUin.map intColumn
    sequence := fields.sequence.map wordColumn
    clientSequence := fields.clientSequence.map wordColumn
    random := fields.random.map intColumn
    timestamp := fields.timestamp.map intColumn
    quoteSequence := record.quote.map (fun quote => intColumn quote.sequence)
    quoteMessageUid := record.quote.map (fun quote => wordColumn quote.messageUid)
    quoteSenderUin := record.quote.map (fun quote => intColumn quote.senderUin)
    quoteSenderUid := record.quote.map QuoteTarget.senderUid
    quoteTimestamp := record.quote.map (fun quote => intColumn quote.timestamp)
    quoteElements := quoteElements }

def encodeQuote : Option QuoteTarget → Except MessageStoreError (Option (List UInt8))
  | none => .ok none
  | some quote => quote.encodeElements.map some

/-- The row of a record; the insertion time has to fit a signed column. -/
def ofRecord (record : MessageRecord) : Except MessageStoreError StoredRow := do
  let quoteElements ← encodeQuote record.quote
  let insertedAtMs ← toI64 record.insertedAtMs
  return columns record insertedAtMs quoteElements

theorem encodeQuote_ok (quote : Option QuoteTarget) : ∃ bytes, encodeQuote quote = .ok bytes := by
  cases quote with
  | none => exact ⟨none, rfl⟩
  | some quote =>
      obtain ⟨bytes, hbytes⟩ := quote.encodeElements_ok
      exact ⟨some bytes, by simp [encodeQuote, hbytes, Except.map]⟩

/-- Only the insertion time can keep a record from being written. -/
theorem ofRecord_ok_iff {record : MessageRecord} :
    (∃ row, ofRecord record = .ok row) ↔ record.insertedAtMs.toNat < i64Bound := by
  obtain ⟨bytes, hbytes⟩ := encodeQuote_ok record.quote
  have hrow : ofRecord record = (toI64 record.insertedAtMs >>= fun insertedAtMs =>
      pure (columns record insertedAtMs bytes)) := by
    simp [ofRecord, hbytes, bind, Except.bind]
  rw [hrow]
  by_cases hsmall : record.insertedAtMs.toNat < i64Bound
  · have htime : toI64 record.insertedAtMs = .ok record.insertedAtMs.toNat := if_pos hsmall
    simp [htime, hsmall, bind, Except.bind, pure, Except.pure]
  · have htime : toI64 record.insertedAtMs = .error .configuration := if_neg hsmall
    simp only [htime, hsmall, bind, Except.bind]
    simp

theorem exists_columns {record : MessageRecord} {row : StoredRow}
    (hrow : ofRecord record = .ok row) :
    ∃ insertedAtMs quoteElements, encodeQuote record.quote = .ok quoteElements ∧
      toI64 record.insertedAtMs = .ok insertedAtMs ∧
        row = columns record insertedAtMs quoteElements := by
  obtain ⟨quoteElements, hquote, hrow⟩ := bind_eq_ok_iff.mp hrow
  obtain ⟨insertedAtMs, htime, hrow⟩ := bind_eq_ok_iff.mp hrow
  cases hrow
  exact ⟨insertedAtMs, quoteElements, hquote, htime, rfl⟩

theorem loadQuote_columns {record : MessageRecord} {insertedAtMs : Int}
    {quoteElements : Option (List UInt8)} (hquote : encodeQuote record.quote = .ok quoteElements) :
    (columns record insertedAtMs quoteElements).loadQuote = .ok record.quote := by
  cases hrecord : record.quote with
  | none =>
      rw [hrecord] at hquote
      cases hquote
      simp [loadQuote, columns, hrecord]
  | some quote =>
      rw [hrecord] at hquote
      obtain ⟨bytes, hbytes⟩ := quote.encodeElements_ok
      have helements : quoteElements = some bytes := by
        simp [encodeQuote, hbytes, Except.map] at hquote
        exact hquote.symm
      have hread := quote.decodeElements_encodeElements hbytes
      have hnew := quote.new_self
      simp [loadQuote, columns, hrecord, helements, fromI64_intColumn, decodeU64_wordColumn,
        okOr, hread, hnew, bind, Except.bind, pure, Except.pure]

theorem loadRecall_columns {record : MessageRecord} {insertedAtMs : Int}
    {quoteElements : Option (List UInt8)} :
    (columns record insertedAtMs quoteElements).loadRecall = .ok record.recall := by
  cases hrecall : record.recall with
  | group groupCode sequence random =>
      have hrandom := optionalU32_intColumn random
      simp [loadRecall, columns, hrecall, RecallFields.fromTarget, fromI64_intColumn,
        decodeU64_wordColumn, hrandom, bind, Except.bind, pure, Except.pure]
  | «private» uid peerUin sequence clientSequence random timestamp =>
      have hpeer := optionalU32_intColumn peerUin
      simp [loadRecall, columns, hrecall, RecallFields.fromTarget, fromI64_intColumn,
        decodeU64_wordColumn, hpeer, okOr, bind, Except.bind, pure, Except.pure]
  | unavailable =>
      simp [loadRecall, columns, hrecall, RecallFields.fromTarget, noFields]

/-- A written row is read back as the record it was written from. -/
theorem intoRecord_ofRecord {record : MessageRecord} {row : StoredRow}
    (hrow : ofRecord record = .ok row) : row.intoRecord record.messageId = .ok record := by
  obtain ⟨insertedAtMs, quoteElements, hquote, htime, rfl⟩ := exists_columns hrow
  have hnew : MessageRecord.new record.messageId record.insertedAtMs record.response
      record.recall = .ok { record with quote := none } := by
    simp [MessageRecord.new, record.valid]
  refine bind_eq_ok_iff.mpr ⟨record.quote, loadQuote_columns hquote, ?_⟩
  refine bind_eq_ok_iff.mpr ⟨record.recall, loadRecall_columns, ?_⟩
  refine bind_eq_ok_iff.mpr ⟨record.insertedAtMs, insertionTime_toI64 htime, ?_⟩
  exact bind_eq_ok_iff.mpr ⟨_, hnew, rfl⟩

/-- The record of a row; every written row has one. -/
def record? (row : StoredRow) : Option MessageRecord :=
  (tryU32 row.messageId).bind (fun messageId => (row.intoRecord messageId).toOption)

theorem messageId_ofRecord {record : MessageRecord} {row : StoredRow}
    (hrow : ofRecord record = .ok row) : row.messageId = intColumn record.messageId := by
  obtain ⟨_, _, -, -, rfl⟩ := exists_columns hrow
  rfl

theorem record?_ofRecord {record : MessageRecord} {row : StoredRow}
    (hrow : ofRecord record = .ok row) : row.record? = some record := by
  rw [record?, messageId_ofRecord hrow, tryU32_intColumn, Option.bind_some,
    intoRecord_ofRecord hrow]
  rfl

/-! ## Correlation keys -/

/-- The row that `find_group` looks for. -/
def CarriesGroup (groupCode : UInt32) (sequence : UInt64) (row : StoredRow) : Prop :=
  row.kind = 1 ∧ row.groupCode = some (intColumn groupCode) ∧
    row.sequence = some (wordColumn sequence)

/-- The row that `find_private` looks for. -/
def CarriesPrivate (uid : String) (peerUin : UInt32) (sequence clientSequence : UInt64)
    (random timestamp : UInt32) (row : StoredRow) : Prop :=
  row.kind = 2 ∧ row.uid = some uid ∧ row.peerUin = some (intColumn peerUin) ∧
    row.sequence = some (wordColumn sequence) ∧
      row.clientSequence = some (wordColumn clientSequence) ∧
        row.random = some (intColumn random) ∧ row.timestamp = some (intColumn timestamp)

/-- The row that `find_private_recall` looks for. -/
def CarriesRecall (clientSequence : UInt64) (random timestamp : UInt32) (row : StoredRow) :
    Prop :=
  row.kind = 2 ∧ row.clientSequence = some (wordColumn clientSequence) ∧
    row.random = some (intColumn random) ∧ row.timestamp = some (intColumn timestamp)

/-- The row that `find_quote` looks for. -/
def CarriesQuote (messageUid : UInt64) (sequence : UInt32) (row : StoredRow) : Prop :=
  row.quoteMessageUid = some (wordColumn messageUid) ∧
    row.quoteSequence = some (intColumn sequence)

instance (groupCode : UInt32) (sequence : UInt64) :
    DecidablePred (CarriesGroup groupCode sequence) :=
  fun _ => inferInstanceAs (Decidable (_ ∧ _ ∧ _))

instance (uid : String) (peerUin : UInt32) (sequence clientSequence : UInt64)
    (random timestamp : UInt32) :
    DecidablePred (CarriesPrivate uid peerUin sequence clientSequence random timestamp) :=
  fun _ => inferInstanceAs (Decidable (_ ∧ _ ∧ _ ∧ _ ∧ _ ∧ _ ∧ _))

instance (clientSequence : UInt64) (random timestamp : UInt32) :
    DecidablePred (CarriesRecall clientSequence random timestamp) :=
  fun _ => inferInstanceAs (Decidable (_ ∧ _ ∧ _ ∧ _))

instance (messageUid : UInt64) (sequence : UInt32) :
    DecidablePred (CarriesQuote messageUid sequence) :=
  fun _ => inferInstanceAs (Decidable (_ ∧ _))

end StoredRow

/-- The keys under which `find_group` and `find_private` look a message up. -/
inductive Correlation where
  | group (groupCode : UInt32) (sequence : UInt64)
  | «private» (uid : String) (peerUin : UInt32) (sequence clientSequence : UInt64)
      (random timestamp : UInt32)
  deriving DecidableEq

def Correlation.Carries : Correlation → StoredRow → Prop
  | .group groupCode sequence => StoredRow.CarriesGroup groupCode sequence
  | .private uid peerUin sequence clientSequence random timestamp =>
      StoredRow.CarriesPrivate uid peerUin sequence clientSequence random timestamp

instance (correlation : Correlation) : DecidablePred correlation.Carries :=
  match correlation with
  | .group groupCode sequence =>
      inferInstanceAs (DecidablePred (StoredRow.CarriesGroup groupCode sequence))
  | .private uid peerUin sequence clientSequence random timestamp =>
      inferInstanceAs (DecidablePred
        (StoredRow.CarriesPrivate uid peerUin sequence clientSequence random timestamp))

/-- A record without a numeric peer cannot be looked up. -/
def RecallTarget.correlation : RecallTarget → Option Correlation
  | .group groupCode sequence _ => some (.group groupCode sequence)
  | .private uid (some peerUin) sequence clientSequence random timestamp =>
      some (.private uid peerUin sequence clientSequence random timestamp)
  | .private _ none _ _ _ _ | .unavailable => none

@[simp] theorem intColumn_inj {first second : UInt32} :
    intColumn first = intColumn second ↔ first = second :=
  ⟨intColumn_injective, congrArg intColumn⟩

@[simp] theorem wordColumn_inj {first second : UInt64} :
    wordColumn first = wordColumn second ↔ first = second :=
  ⟨wordColumn_injective, congrArg wordColumn⟩

/-- A written row carries exactly the correlation of its record. -/
theorem carries_columns_iff {correlation : Correlation} {record : MessageRecord}
    {insertedAtMs : Int} {quoteElements : Option (List UInt8)} :
    correlation.Carries (StoredRow.columns record insertedAtMs quoteElements) ↔
      record.recall.correlation = some correlation := by
  cases correlation with
  | group groupCode sequence =>
      rcases hrecall : record.recall with ⟨code, number, _⟩ | ⟨_, _ | _, _, _, _, _⟩ | _ <;>
        simp [Correlation.Carries, StoredRow.CarriesGroup, StoredRow.columns,
          RecallFields.fromTarget, RecallTarget.correlation, hrecall]
  | «private» uid peerUin sequence clientSequence random timestamp =>
      rcases hrecall : record.recall with ⟨code, number, _⟩ | ⟨_, _ | _, _, _, _, _⟩ | _ <;>
        simp [Correlation.Carries, StoredRow.CarriesPrivate, StoredRow.columns,
          RecallFields.fromTarget, RecallTarget.correlation, hrecall]

end Store
end Lirvena
