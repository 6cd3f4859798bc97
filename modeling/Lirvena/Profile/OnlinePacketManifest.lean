import Lirvena.Profile.PushManifest

/-!
# The manifest of an online packet plan

The plan has the routes of the online packets and the numbers that the profile selects for
them.  Signed numbers are laid out in two's complement.
-/

namespace Lirvena
namespace Profile

open Lib Online Wire

/-- Rejected signed profile online packet plan. -/
inductive OnlinePacketPlanError where
  | rejected
  deriving DecidableEq

structure OnlinePacketTuningSpec where
  syncFlag : UInt32
  localeId : Int32
  initialVendorType : Int32
  initialRegisterType : Int32
  statusVendorType : Int32
  statusRegisterType : Int32
  auxiliaryFlag : UInt32
  heartbeatType : Int32
  deriving DecidableEq

def OnlinePacketTuningSpec.validate (spec : OnlinePacketTuningSpec) : Bool :=
  spec.syncFlag ≠ 0 && 0 < spec.localeId && 0 ≤ spec.initialVendorType &&
    0 ≤ spec.initialRegisterType && 0 ≤ spec.statusVendorType &&
      0 ≤ spec.statusRegisterType && spec.auxiliaryFlag ≠ 0 && 0 < spec.heartbeatType

/-- Version-selected numeric online values. -/
structure OnlinePacketTuning where
  spec : OnlinePacketTuningSpec
  valid : spec.validate = true
  deriving DecidableEq

def OnlinePacketTuning.new (spec : OnlinePacketTuningSpec) :
    Except OnlinePacketPlanError OnlinePacketTuning :=
  if hvalid : spec.validate = true then .ok ⟨spec, hvalid⟩ else .error .rejected

structure OnlinePacketPlanSpec where
  initialSyncRoute : String
  delayedSyncRoute : String
  statusRegisterRoute : Option String
  heartbeatRoute : String
  tuning : OnlinePacketTuning
  deriving DecidableEq

def OnlinePacketPlanSpec.validate (spec : OnlinePacketPlanSpec) : Bool :=
  validRoute spec.initialSyncRoute && validRoute spec.delayedSyncRoute &&
    spec.statusRegisterRoute.all validRoute && validRoute spec.heartbeatRoute

/-- Routes and numbers for the compiled online codecs. -/
structure OnlinePacketPlan extends OnlinePacketPlanSpec where
  valid : toOnlinePacketPlanSpec.validate = true
  deriving DecidableEq

def OnlinePacketPlan.new (spec : OnlinePacketPlanSpec) :
    Except OnlinePacketPlanError OnlinePacketPlan :=
  if hvalid : spec.validate = true then .ok ⟨spec, hvalid⟩ else .error .rejected

/-! ## Numbers -/

def putI32 (value : Int32) (writer : WireWriter) : Except WireError WireWriter :=
  writer.putBytes (beBytes 4 value.toUInt32.toNat)

def readI32 (unread : List UInt8) : Except OnlinePacketPlanError (Int32 × List UInt8) := do
  let (value, unread) ← orReject .rejected (WireReader.readI32 unread)
  return (Int32.ofInt value, unread)

theorem readI32_layout (value : Int32) (rest : List UInt8) :
    readI32 (beBytes 4 value.toUInt32.toNat ++ rest) = .ok (value, rest) := by
  have hread : WireReader.readI32 (beBytes 4 value.toUInt32.toNat ++ rest) =
      .ok (value.toInt, rest) :=
    WireReader.readI32_eq_ok_iff.mpr ⟨value.toUInt32, rfl, rfl⟩
  rw [readI32, hread, orReject_ok, ok_bind]
  show Except.ok (Int32.ofInt value.toInt, rest) = _
  rw [Int32.ofInt_toInt]

def putTuning (tuning : OnlinePacketTuning) (writer : WireWriter) :
    Except WireError WireWriter := do
  let writer ← writer.putU32 tuning.spec.syncFlag
  let writer ← putI32 tuning.spec.localeId writer
  let writer ← putI32 tuning.spec.initialVendorType writer
  let writer ← putI32 tuning.spec.initialRegisterType writer
  let writer ← putI32 tuning.spec.statusVendorType writer
  let writer ← putI32 tuning.spec.statusRegisterType writer
  let writer ← writer.putU32 tuning.spec.auxiliaryFlag
  putI32 tuning.spec.heartbeatType writer

def readTuning (unread : List UInt8) :
    Except OnlinePacketPlanError (OnlinePacketTuning × List UInt8) := do
  let (syncFlag, unread) ← orReject .rejected (WireReader.readU32 unread)
  let (localeId, unread) ← readI32 unread
  let (initialVendorType, unread) ← readI32 unread
  let (initialRegisterType, unread) ← readI32 unread
  let (statusVendorType, unread) ← readI32 unread
  let (statusRegisterType, unread) ← readI32 unread
  let (auxiliaryFlag, unread) ← orReject .rejected (WireReader.readU32 unread)
  let (heartbeatType, unread) ← readI32 unread
  let tuning ← OnlinePacketTuning.new ⟨syncFlag, localeId, initialVendorType,
    initialRegisterType, statusVendorType, statusRegisterType, auxiliaryFlag, heartbeatType⟩
  return (tuning, unread)

def tuningLayout (spec : OnlinePacketTuningSpec) : List UInt8 :=
  beBytes 4 spec.syncFlag.toNat ++ (beBytes 4 spec.localeId.toUInt32.toNat ++
    (beBytes 4 spec.initialVendorType.toUInt32.toNat ++
      (beBytes 4 spec.initialRegisterType.toUInt32.toNat ++
        (beBytes 4 spec.statusVendorType.toUInt32.toNat ++
          (beBytes 4 spec.statusRegisterType.toUInt32.toNat ++
            (beBytes 4 spec.auxiliaryFlag.toNat ++
              beBytes 4 spec.heartbeatType.toUInt32.toNat))))))

theorem puts_i32 {maximum : Nat} (value : Int32) :
    WireWriter.Puts maximum (putI32 value) (beBytes 4 value.toUInt32.toNat) :=
  WireWriter.puts_bytes _

theorem puts_tuning {maximum : Nat} (tuning : OnlinePacketTuning) :
    WireWriter.Puts maximum (putTuning tuning) (tuningLayout tuning.spec) :=
  (WireWriter.puts_u32 _).andThen ((puts_i32 _).andThen ((puts_i32 _).andThen
    ((puts_i32 _).andThen ((puts_i32 _).andThen ((puts_i32 _).andThen
      ((WireWriter.puts_u32 _).andThen (puts_i32 _)))))))

theorem readTuning_layout (tuning : OnlinePacketTuning) (rest : List UInt8) :
    readTuning (tuningLayout tuning.spec ++ rest) = .ok (tuning, rest) := by
  have hnew : OnlinePacketTuning.new tuning.spec = .ok tuning := dif_pos tuning.valid
  simp only [readTuning, tuningLayout, List.append_assoc, readU32_layout, orReject_ok, ok_bind,
    readI32_layout]
  show (OnlinePacketTuning.new tuning.spec >>= fun tuning => pure (tuning, rest)) = _
  rw [hnew]
  rfl

/-! ## Plans -/

def packetMagic : List UInt8 := asciiBytes "LQPW"

def packetVersion : UInt16 := 1

def maxPacketPlanLen : Nat := 512

/-- Numeric slot that carries the packet routes of a profile. -/
def onlinePacketPlanSlotId : UInt32 := 3

def putPacketPlan (plan : OnlinePacketPlan) (writer : WireWriter) :
    Except WireError WireWriter := do
  let writer ← putHead packetMagic packetVersion writer
  let writer ← putRoute plan.initialSyncRoute writer
  let writer ← putRoute plan.delayedSyncRoute writer
  let writer ← putOptional putRoute plan.statusRegisterRoute writer
  let writer ← putRoute plan.heartbeatRoute writer
  putTuning plan.tuning writer

/-- Encodes one validated packet plan into its canonical slot. -/
def encodeOnlinePacketPlan (plan : OnlinePacketPlan) :
    Except OnlinePacketPlanError (List UInt8) := do
  let writer ← orReject .rejected (putPacketPlan plan (.new maxPacketPlanLen (by decide)))
  return writer.output

def readPacketPlan (bytes : List UInt8) : Except OnlinePacketPlanError OnlinePacketPlan := do
  rejectIf .rejected (maxPacketPlanLen < bytes.length)
  let unread ← readHead .rejected packetMagic packetVersion bytes
  let (initialSyncRoute, unread) ← readRoute .rejected unread
  let (delayedSyncRoute, unread) ← readRoute .rejected unread
  let (statusRegisterRoute, unread) ← readOptional .rejected (readRoute .rejected) unread
  let (heartbeatRoute, unread) ← readRoute .rejected unread
  let (tuning, unread) ← readTuning unread
  orReject .rejected (WireReader.finish unread)
  OnlinePacketPlan.new
    ⟨initialSyncRoute, delayedSyncRoute, statusRegisterRoute, heartbeatRoute, tuning⟩

/-- `decode`, of the bytes of a slot. -/
def decodePacketPlanSlot : List UInt8 → Except OnlinePacketPlanError OnlinePacketPlan :=
  readCanonical .rejected encodeOnlinePacketPlan readPacketPlan

def packetPlanLayout (plan : OnlinePacketPlan) : List UInt8 :=
  headLayout packetMagic packetVersion ++ (routeLayout plan.initialSyncRoute ++
    (routeLayout plan.delayedSyncRoute ++
      (optionalLayout routeLayout plan.statusRegisterRoute ++
        (routeLayout plan.heartbeatRoute ++ tuningLayout plan.tuning.spec))))

/-- The routes of a plan. -/
structure ValidRoutes (plan : OnlinePacketPlan) : Prop where
  initialSync : validRoute plan.initialSyncRoute = true
  delayedSync : validRoute plan.delayedSyncRoute = true
  statusRegister : ∀ route, plan.statusRegisterRoute = some route → validRoute route = true
  heartbeat : validRoute plan.heartbeatRoute = true

theorem OnlinePacketPlan.validRoutes (plan : OnlinePacketPlan) : ValidRoutes plan := by
  have hvalid := plan.valid
  simp only [OnlinePacketPlanSpec.validate, Bool.and_eq_true] at hvalid
  obtain ⟨⟨⟨hinitial, hdelayed⟩, hstatus⟩, hheartbeat⟩ := hvalid
  refine ⟨hinitial, hdelayed, ?_, hheartbeat⟩
  intro route hsome
  rw [hsome] at hstatus
  exact hstatus

theorem encodeOnlinePacketPlan_eq_ok_iff {plan : OnlinePacketPlan} {bytes : List UInt8} :
    encodeOnlinePacketPlan plan = .ok bytes ↔
      bytes = packetPlanLayout plan ∧ bytes.length ≤ maxPacketPlanLen := by
  have hroutes := plan.validRoutes
  have hputs : WireWriter.Puts maxPacketPlanLen (putPacketPlan plan) (packetPlanLayout plan) :=
    (puts_head _ _).andThen ((puts_route hroutes.initialSync).andThen
      ((puts_route hroutes.delayedSync).andThen
        ((puts_optional fun route hsome => puts_route (hroutes.statusRegister route hsome)).andThen
          ((puts_route hroutes.heartbeat).andThen (puts_tuning plan.tuning)))))
  simp only [encodeOnlinePacketPlan, bind_eq_ok_iff, orReject_eq_ok_iff, hputs.new_eq_ok_iff]
  constructor
  · rintro ⟨writer, ⟨hroom, rfl⟩, hreturn⟩
    cases hreturn
    exact ⟨rfl, hroom⟩
  · rintro ⟨rfl, hroom⟩
    exact ⟨_, ⟨hroom, rfl⟩, rfl⟩

theorem packetPlan_lossless : Lossless encodeOnlinePacketPlan decodePacketPlanSlot := by
  refine lossless_readCanonical fun plan bytes hencode => ?_
  obtain ⟨rfl, hroom⟩ := encodeOnlinePacketPlan_eq_ok_iff.mp hencode
  have hroutes := plan.validRoutes
  have hstatus : ∀ behind, readOptional OnlinePacketPlanError.rejected (readRoute .rejected)
      (optionalLayout routeLayout plan.statusRegisterRoute ++ behind) =
        .ok (plan.statusRegisterRoute, behind) :=
    fun behind => readOptional_layout behind fun route hsome =>
      readRoute_layout (hroutes.statusRegister route hsome) behind
  have htuning : readTuning (tuningLayout plan.tuning.spec) = .ok (plan.tuning, []) := by
    have hread := readTuning_layout plan.tuning []
    rwa [List.append_nil] at hread
  have hbound : rejectIf OnlinePacketPlanError.rejected
      (maxPacketPlanLen < (packetPlanLayout plan).length) = .ok () :=
    rejectIf_eq_ok_iff.mpr (Nat.not_lt.mpr hroom)
  have hfinish : WireReader.finish [] = .ok () := rfl
  rw [readPacketPlan, hbound, ok_bind]
  unfold packetPlanLayout
  simp only [readHead_layout, ok_bind, readRoute_layout hroutes.initialSync,
    readRoute_layout hroutes.delayedSync, hstatus, readRoute_layout hroutes.heartbeat, htuning,
    hfinish, orReject_ok]
  exact dif_pos plan.valid

end Profile
end Lirvena
