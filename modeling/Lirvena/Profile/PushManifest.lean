import Lirvena.Lib.Encoding
import Lirvena.Online.PushPlan
import Lirvena.Wire.Layout

/-!
# The manifest of a push plan

A push plan is carried in a slot of its profile.  A plan that is within the bound of its
manifest is read back from it, and a manifest that is read is the one of its plan.
-/

namespace Lirvena
namespace Profile

open Lib Online Wire

/-- `behavior as u8`. -/
def behaviorByte : PushBehavior → UInt8
  | .echoBody => 1
  | .protobufPairAck => 2
  | .configAck => 3
  | .observe => 4
  | .protectiveOffline => 5
  | .message => 6
  | .legacyVideoAck => 7
  | .infoSyncState => 8

/-- `PushBehavior::from_wire`. -/
def behaviorOf (value : UInt8) : Except PushPlanError PushBehavior :=
  match value.toNat with
  | 1 => .ok .echoBody
  | 2 => .ok .protobufPairAck
  | 3 => .ok .configAck
  | 4 => .ok .observe
  | 5 => .ok .protectiveOffline
  | 6 => .ok .message
  | 7 => .ok .legacyVideoAck
  | 8 => .ok .infoSyncState
  | _ => .error .rejected

@[simp] theorem behaviorOf_byte (behavior : PushBehavior) :
    behaviorOf (behaviorByte behavior) = .ok behavior := by
  cases behavior <;> rfl

/-- The longest route that is read from a manifest. -/
def maxManifestRouteLen : Nat := 128

def putRoute (route : String) (writer : WireWriter) : Except WireError WireWriter :=
  writer.putPrefixedBytes .u8Payload (utf8Bytes route)

def readRoute {ε : Type} (error : ε) (unread : List UInt8) : Except ε (String × List UInt8) :=
  readText error .u8Payload maxManifestRouteLen unread

def routeLayout (route : String) : List UInt8 :=
  textLayout .u8Payload route

theorem route_length {route : String} (hvalid : validRoute route = true) :
    route.utf8ByteSize ≤ 128 := by
  simp only [validRoute, Bool.and_eq_true, decide_eq_true_eq] at hvalid
  exact hvalid.1.2

theorem puts_route {maximum : Nat} {route : String} (hvalid : validRoute route = true) :
    WireWriter.Puts maximum (putRoute route) (routeLayout route) := by
  refine WireWriter.puts_prefixed _ ?_
  intro _
  have hlength := route_length hvalid
  show route.utf8ByteSize < 256 ^ 1
  omega

theorem readRoute_layout {ε : Type} {error : ε} {route : String} (hvalid : validRoute route = true)
    (rest : List UInt8) :
    readRoute error (routeLayout route ++ rest) = .ok (route, rest) := by
  have hlength := route_length hvalid
  refine readText_layout rest hlength ?_
  show route.utf8ByteSize < 256 ^ 1
  omega

/-! ## Entries -/

def putEntry (entry : PushPlanEntry) (writer : WireWriter) : Except WireError WireWriter := do
  let writer ← putRoute entry.route writer
  let writer ← writer.putU8 (behaviorByte entry.behavior)
  let writer ← putOptional putRoute entry.responseRoute writer
  let writer ← writer.putU32 entry.parameter
  writer.putU32 (UInt32.ofNat entry.maximumBodyLen)

def readEntry (unread : List UInt8) : Except PushPlanError (PushPlanEntry × List UInt8) := do
  let (route, unread) ← readRoute .rejected unread
  let (behavior, unread) ← orReject .rejected (WireReader.readU8 unread)
  let behavior ← behaviorOf behavior
  let (responseRoute, unread) ← readOptional .rejected (readRoute .rejected) unread
  let (parameter, unread) ← orReject .rejected (WireReader.readU32 unread)
  let (maximumBodyLen, unread) ← orReject .rejected (WireReader.readU32 unread)
  let entry ← PushPlanEntry.new
    ⟨route, behavior, responseRoute, parameter, maximumBodyLen.toNat⟩
  return (entry, unread)

def entryLayout (entry : PushPlanEntry) : List UInt8 :=
  routeLayout entry.route ++ ([behaviorByte entry.behavior] ++
    (optionalLayout routeLayout entry.responseRoute ++
      (beBytes 4 entry.parameter.toNat ++
        beBytes 4 (UInt32.ofNat entry.maximumBodyLen).toNat)))

/-- The routes and the bound of an entry. -/
theorem entry_valid (entry : PushPlanEntry) : validRoute entry.route = true ∧
    (∀ route, entry.responseRoute = some route → validRoute route = true) ∧
      entry.maximumBodyLen ≤ maxPushBodyLen := by
  have hvalid := entry.valid
  simp only [PushPlanEntrySpec.validate, Bool.and_eq_true, decide_eq_true_eq] at hvalid
  obtain ⟨⟨⟨⟨⟨hroute, hresponse⟩, -⟩, -⟩, -⟩, hbody⟩ := hvalid
  refine ⟨hroute, ?_, hbody⟩
  intro route hsome
  rw [hsome] at hresponse
  exact hresponse

theorem puts_entry {maximum : Nat} (entry : PushPlanEntry) :
    WireWriter.Puts maximum (putEntry entry) (entryLayout entry) := by
  obtain ⟨hroute, hresponse, -⟩ := entry_valid entry
  exact (puts_route hroute).andThen ((WireWriter.puts_u8 _).andThen
    ((puts_optional fun route hsome => puts_route (hresponse route hsome)).andThen
      ((WireWriter.puts_u32 _).andThen (WireWriter.puts_u32 _))))

theorem readEntry_layout (entry : PushPlanEntry) (rest : List UInt8) :
    readEntry (entryLayout entry ++ rest) = .ok (entry, rest) := by
  obtain ⟨hroute, hresponse, hbody⟩ := entry_valid entry
  have hoptional : ∀ behind, readOptional PushPlanError.rejected (readRoute .rejected)
      (optionalLayout routeLayout entry.responseRoute ++ behind) =
        .ok (entry.responseRoute, behind) :=
    fun behind => readOptional_layout behind fun route hsome =>
      readRoute_layout (hresponse route hsome) behind
  have hword : (UInt32.ofNat entry.maximumBodyLen).toNat = entry.maximumBodyLen := by
    refine UInt32.toNat_ofNat_of_lt' (lt_of_le_of_lt hbody ?_)
    decide
  have hnew : PushPlanEntry.new entry.toPushPlanEntrySpec = .ok entry := dif_pos entry.valid
  simp only [readEntry, entryLayout, List.append_assoc, readRoute_layout hroute, ok_bind,
    readU8_layout, orReject_ok, behaviorOf_byte, hoptional, readU32_layout]
  rw [hword]
  show (PushPlanEntry.new entry.toPushPlanEntrySpec >>= fun entry => pure (entry, rest)) = _
  rw [hnew]
  rfl

/-! ## Plans -/

def pushMagic : List UInt8 := asciiBytes "LQPS"

def pushVersion : UInt16 := 1

def maxPushPlanLen : Nat := 4 * 1024

/-- Numeric slot that carries the push routes and the compiled behaviors of a profile. -/
def pushPlanSlotId : UInt32 := 4

/-- Encodes one validated push plan into its canonical slot. -/
def encodePushPlan (plan : PushPlan) : Except PushPlanError (List UInt8) := do
  let writer ← orReject .rejected
    (putHead pushMagic pushVersion (.new maxPushPlanLen (by decide)))
  let count ← okOr .rejected (tryU8 plan.entries.length)
  let writer ← orReject .rejected (writer.putU8 count >>= putMany putEntry plan.entries)
  return writer.output

def readPushPlan (bytes : List UInt8) : Except PushPlanError PushPlan := do
  rejectIf .rejected (maxPushPlanLen < bytes.length)
  let unread ← readHead .rejected pushMagic pushVersion bytes
  let (count, unread) ← orReject .rejected (WireReader.readU8 unread)
  let (entries, unread) ← readMany readEntry count.toNat unread
  orReject .rejected (WireReader.finish unread)
  PushPlan.new entries

/-- `decode`, of the bytes of a slot. -/
def decodePushPlanSlot : List UInt8 → Except PushPlanError PushPlan :=
  readCanonical .rejected encodePushPlan readPushPlan

def pushPlanLayout (plan : PushPlan) : List UInt8 :=
  headLayout pushMagic pushVersion ++
    ([UInt8.ofNat plan.entries.length] ++ plan.entries.flatMap entryLayout)

theorem push_entries_length (plan : PushPlan) : plan.entries.length ≤ maxEntries := by
  have hvalid := plan.valid
  simp only [validateEntries, Bool.and_eq_true, decide_eq_true_eq] at hvalid
  exact hvalid.1.2

/-- Only the bound of the manifest decides whether a plan is encoded. -/
theorem encodePushPlan_eq_ok_iff {plan : PushPlan} {bytes : List UInt8} :
    encodePushPlan plan = .ok bytes ↔
      bytes = pushPlanLayout plan ∧ bytes.length ≤ maxPushPlanLen := by
  have hcount : tryU8 plan.entries.length = some (UInt8.ofNat plan.entries.length) := by
    have hlength := push_entries_length plan
    refine tryU8_of_lt (lt_of_le_of_lt hlength ?_)
    decide
  have hentries : WireWriter.Puts maxPushPlanLen _ _ :=
    puts_thenMany (WireWriter.puts_u8 (UInt8.ofNat plan.entries.length))
      fun entry (_ : entry ∈ plan.entries) => puts_entry entry
  unfold pushPlanLayout
  rw [← puts_twice (by decide) (puts_head pushMagic pushVersion) hentries]
  simp only [encodePushPlan, bind_eq_ok_iff, orReject_eq_ok_iff, hcount, okOr]
  constructor
  · rintro ⟨between, hbetween, count, hcounted, writer, hwriter, hreturn⟩
    cases hcounted
    exact ⟨between, hbetween, writer, hwriter, Except.ok.inj hreturn⟩
  · rintro ⟨between, hbetween, writer, hwriter, rfl⟩
    exact ⟨between, hbetween, _, rfl, writer, hwriter, rfl⟩

/-- A plan is read back, and what is read is the encoding of its plan. -/
theorem pushPlan_lossless : Lossless encodePushPlan decodePushPlanSlot := by
  refine lossless_readCanonical fun plan bytes hencode => ?_
  obtain ⟨rfl, hroom⟩ := encodePushPlan_eq_ok_iff.mp hencode
  have hcount : (UInt8.ofNat plan.entries.length).toNat = plan.entries.length := by
    refine UInt8.toNat_ofNat_of_lt' (lt_of_le_of_lt (push_entries_length plan) ?_)
    decide
  have hentries : readMany readEntry plan.entries.length
      (plan.entries.flatMap entryLayout) = .ok (plan.entries, []) := by
    have hread := readMany_layout
      (fun entry (_ : entry ∈ plan.entries) => readEntry_layout entry) []
    rwa [List.append_nil] at hread
  have hbound : rejectIf PushPlanError.rejected
      (maxPushPlanLen < (pushPlanLayout plan).length) = .ok () :=
    rejectIf_eq_ok_iff.mpr (Nat.not_lt.mpr hroom)
  have hfinish : WireReader.finish [] = .ok () := rfl
  rw [readPushPlan, hbound, ok_bind]
  unfold pushPlanLayout
  simp only [readHead_layout, ok_bind, readU8_layout, orReject_ok, hcount, hentries, hfinish]
  exact dif_pos plan.valid

end Profile
end Lirvena
