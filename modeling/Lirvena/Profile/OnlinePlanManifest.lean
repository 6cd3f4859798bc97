import Lirvena.Domain.OnlinePlan
import Lirvena.Profile.LinuxManifest

/-!
# The manifest of an online plan

The plan has the identifiers of the actions and the bounds of its intervals.  Its manifest
has one of two lengths, both within the bound, so that every plan can be carried.
-/

namespace Lirvena
namespace Profile

open Lib Ceylith Domain Wire

/-- Rejected or missing canonical online plan. -/
inductive OnlinePlanManifestError where
  | rejected
  deriving DecidableEq

def onlinePlanMagic : List UInt8 := asciiBytes "LQOP"

def onlinePlanVersion : UInt16 := 1

def maxOnlinePlanLen : Nat := 256

/-- Numeric slot that carries the online plan of a profile. -/
def onlinePlanSlotId : UInt32 := 2

/-! ## Fields -/

/-- `PlanActionId::new`. -/
def planActionId (bytes : List UInt8) : Except OnlinePlanManifestError PlanActionId :=
  if hvalid : bytes.length = 16 ∧ bytes ≠ List.replicate 16 0 then
    .ok ⟨bytes, hvalid.1, hvalid.2⟩
  else
    .error .rejected

def putAction (action : PlanActionId) (writer : WireWriter) : Except WireError WireWriter :=
  writer.putBytes action.bytes

def readAction (unread : List UInt8) :
    Except OnlinePlanManifestError (PlanActionId × List UInt8) := do
  let (bytes, unread) ← orReject .rejected (WireReader.readBytes 16 unread)
  let action ← planActionId bytes
  return (action, unread)

def putInterval (milliseconds : Nat) (writer : WireWriter) : Except WireError WireWriter :=
  writer.putU64 (UInt64.ofNat milliseconds)

def readInterval (unread : List UInt8) : Except OnlinePlanManifestError (Nat × List UInt8) :=
  orReject .rejected (WireReader.readWord 8 unread)

theorem readAction_layout (action : PlanActionId) (rest : List UInt8) :
    readAction (action.bytes ++ rest) = .ok (action, rest) := by
  have hread : WireReader.readBytes 16 (action.bytes ++ rest) = .ok (action.bytes, rest) :=
    WireReader.readBytes_eq_ok_iff.mpr ⟨rfl, action.length_eq⟩
  have hnew : planActionId action.bytes = .ok action :=
    dif_pos ⟨action.length_eq, action.nonzero⟩
  rw [readAction, hread, orReject_ok, ok_bind]
  dsimp only
  rw [hnew]
  rfl

theorem readInterval_layout {milliseconds : Nat} (hday : milliseconds ≤ maxCompiledIntervalMs)
    (rest : List UInt8) :
    readInterval (beBytes 8 (UInt64.ofNat milliseconds).toNat ++ rest) =
      .ok (milliseconds, rest) := by
  have hword : milliseconds < u64Bound := Nat.lt_of_le_of_lt hday (by decide)
  have hvalue : (UInt64.ofNat milliseconds).toNat = milliseconds :=
    UInt64.toNat_ofNat_of_lt' hword
  rw [hvalue, readInterval, orReject_eq_ok_iff, WireReader.readWord_eq_ok_iff]
  exact ⟨hword, rfl⟩

theorem puts_action {maximum : Nat} (action : PlanActionId) :
    WireWriter.Puts maximum (putAction action) action.bytes :=
  WireWriter.puts_bytes _

theorem puts_interval {maximum : Nat} (milliseconds : Nat) :
    WireWriter.Puts maximum (putInterval milliseconds)
      (beBytes 8 (UInt64.ofNat milliseconds).toNat) :=
  WireWriter.puts_bytes _

/-! ## Plans -/

def putOnlinePlan (plan : OnlinePlan) (writer : WireWriter) : Except WireError WireWriter := do
  let writer ← putHead onlinePlanMagic onlinePlanVersion writer
  let writer ← putAction plan.initialSync writer
  let writer ← putAction plan.delayedSync writer
  let writer ← putAction plan.securityBootstrap writer
  let writer ← putOptional putAction plan.statusConfirmation writer
  let writer ← putAction plan.businessHeartbeat writer
  let writer ← putInterval plan.initialHeartbeatMs writer
  let writer ← putInterval plan.minimumHeartbeatMs writer
  let writer ← putInterval plan.maximumHeartbeatMs writer
  let writer ← putInterval plan.minimumDelayedSyncMs writer
  putInterval plan.maximumDelayedSyncMs writer

/-- Encodes one validated online plan into its canonical slot. -/
def encodeOnlinePlan (plan : OnlinePlan) : Except OnlinePlanManifestError (List UInt8) := do
  let writer ← orReject .rejected (putOnlinePlan plan (.new maxOnlinePlanLen (by decide)))
  return writer.output

def readOnlinePlan (bytes : List UInt8) : Except OnlinePlanManifestError OnlinePlan := do
  rejectIf .rejected (maxOnlinePlanLen < bytes.length)
  let unread ← readHead .rejected onlinePlanMagic onlinePlanVersion bytes
  let (initialSync, unread) ← readAction unread
  let (delayedSync, unread) ← readAction unread
  let (securityBootstrap, unread) ← readAction unread
  let (statusConfirmation, unread) ← readOptional .rejected readAction unread
  let (businessHeartbeat, unread) ← readAction unread
  let (initialHeartbeatMs, unread) ← readInterval unread
  let (minimumHeartbeatMs, unread) ← readInterval unread
  let (maximumHeartbeatMs, unread) ← readInterval unread
  let (minimumDelayedSyncMs, unread) ← readInterval unread
  let (maximumDelayedSyncMs, unread) ← readInterval unread
  let plan ← orReject .rejected (OnlinePlan.new ⟨initialSync, delayedSync, securityBootstrap,
    statusConfirmation, businessHeartbeat, initialHeartbeatMs, minimumHeartbeatMs,
    maximumHeartbeatMs, minimumDelayedSyncMs, maximumDelayedSyncMs⟩)
  orReject .rejected (WireReader.finish unread)
  return plan

/-- `decode`, of the bytes of a slot. -/
def decodeOnlinePlanSlot : List UInt8 → Except OnlinePlanManifestError OnlinePlan :=
  readCanonical .rejected encodeOnlinePlan readOnlinePlan

/-- Decodes the online plan that a profile carries. -/
def decodeOnlinePlan (profile : LinuxNtProfile) :
    Except OnlinePlanManifestError OnlinePlan := do
  let id ← orReject .rejected (OpaqueSlotId.new onlinePlanSlotId)
  let slot ← okOr .rejected (getSlot profile.slots id)
  decodeOnlinePlanSlot slot.value

def onlinePlanLayout (plan : OnlinePlan) : List UInt8 :=
  headLayout onlinePlanMagic onlinePlanVersion ++ (plan.initialSync.bytes ++
    (plan.delayedSync.bytes ++ (plan.securityBootstrap.bytes ++
      (optionalLayout PlanActionId.bytes plan.statusConfirmation ++
        (plan.businessHeartbeat.bytes ++
          (beBytes 8 (UInt64.ofNat plan.initialHeartbeatMs).toNat ++
            (beBytes 8 (UInt64.ofNat plan.minimumHeartbeatMs).toNat ++
              (beBytes 8 (UInt64.ofNat plan.maximumHeartbeatMs).toNat ++
                (beBytes 8 (UInt64.ofNat plan.minimumDelayedSyncMs).toNat ++
                  beBytes 8 (UInt64.ofNat plan.maximumDelayedSyncMs).toNat)))))))))

theorem onlinePlan_new (plan : OnlinePlan) :
    OnlinePlan.new plan.toOnlinePlanSpec = .ok plan := by
  unfold OnlinePlan.new
  split
  · rfl
  · next error hrejected =>
      have hsame : Except.ok () = Except.error error := plan.valid.symm.trans hrejected
      cases hsame

theorem onlinePlanLayout_length (plan : OnlinePlan) : (onlinePlanLayout plan).length =
    if plan.statusConfirmation.isSome then 127 else 111 := by
  have hmagic : onlinePlanMagic.length = 4 := by decide
  cases hstatus : plan.statusConfirmation <;>
    simp [onlinePlanLayout, optionalLayout, headLayout, hmagic, hstatus, PlanActionId.length_eq]

theorem encodeOnlinePlan_eq (plan : OnlinePlan) :
    encodeOnlinePlan plan = .ok (onlinePlanLayout plan) := by
  have hputs : WireWriter.Puts maxOnlinePlanLen (putOnlinePlan plan) (onlinePlanLayout plan) :=
    (puts_head _ _).andThen ((puts_action _).andThen ((puts_action _).andThen
      ((puts_action _).andThen ((puts_optional fun action _ => puts_action action).andThen
        ((puts_action _).andThen ((puts_interval _).andThen ((puts_interval _).andThen
          ((puts_interval _).andThen ((puts_interval _).andThen (puts_interval _))))))))))
  have hroom : (onlinePlanLayout plan).length ≤ maxOnlinePlanLen := by
    rw [onlinePlanLayout_length]
    split <;> decide
  simp only [encodeOnlinePlan, bind_eq_ok_iff, orReject_eq_ok_iff, hputs.new_eq_ok_iff]
  exact ⟨_, ⟨hroom, rfl⟩, rfl⟩

theorem onlinePlan_lossless : Lossless encodeOnlinePlan decodeOnlinePlanSlot := by
  refine lossless_readCanonical fun plan bytes hencode => ?_
  obtain rfl := Except.ok.inj ((encodeOnlinePlan_eq plan).symm.trans hencode)
  have hdays := plan.compiledIntervals
  have hstatus : ∀ behind, readOptional OnlinePlanManifestError.rejected readAction
      (optionalLayout PlanActionId.bytes plan.statusConfirmation ++ behind) =
        .ok (plan.statusConfirmation, behind) :=
    fun behind => readOptional_layout behind fun action _ => readAction_layout action behind
  have hlast : readInterval (beBytes 8 (UInt64.ofNat plan.maximumDelayedSyncMs).toNat) =
      .ok (plan.maximumDelayedSyncMs, []) := by
    have hread := readInterval_layout hdays.maximumDelayedSync []
    rwa [List.append_nil] at hread
  have hbound : rejectIf OnlinePlanManifestError.rejected
      (maxOnlinePlanLen < (onlinePlanLayout plan).length) = .ok () := by
    rw [rejectIf_eq_ok_iff, onlinePlanLayout_length]
    split <;> decide
  have hfinish : WireReader.finish [] = .ok () := rfl
  rw [readOnlinePlan, hbound, ok_bind]
  unfold onlinePlanLayout
  simp only [readHead_layout, ok_bind, readAction_layout, hstatus,
    readInterval_layout hdays.initialHeartbeat, readInterval_layout hdays.minimumHeartbeat,
    readInterval_layout hdays.maximumHeartbeat, readInterval_layout hdays.minimumDelayedSync,
    hlast]
  show (orReject OnlinePlanManifestError.rejected (OnlinePlan.new plan.toOnlinePlanSpec) >>=
    fun plan => orReject OnlinePlanManifestError.rejected (WireReader.finish []) >>=
      fun _ => pure plan) = .ok plan
  rw [onlinePlan_new, orReject_ok, ok_bind, hfinish]
  rfl

/-- The online plan of a profile is the one whose encoding its slot holds. -/
theorem decodeOnlinePlan_eq_ok_iff {profile : LinuxNtProfile} {plan : OnlinePlan} :
    decodeOnlinePlan profile = .ok plan ↔ ∃ slot,
      getSlot profile.slots ⟨onlinePlanSlotId, by decide⟩ = some slot ∧
        slot.value = onlinePlanLayout plan := by
  have hid : OpaqueSlotId.new onlinePlanSlotId = .ok ⟨onlinePlanSlotId, by decide⟩ := rfl
  have hslot : ∀ bytes, decodeOnlinePlanSlot bytes = .ok plan ↔ bytes = onlinePlanLayout plan := by
    intro bytes
    rw [← onlinePlan_lossless plan bytes, encodeOnlinePlan_eq, Except.ok.injEq, eq_comm]
  simp only [decodeOnlinePlan, hid, orReject_ok, ok_bind, bind_eq_ok_iff, okOr_eq_ok_iff, hslot]

/-- Every online plan has one manifest, of 111 bytes and 16 more with a confirmation of the
status, and a profile has the plan exactly if its slot holds that manifest. -/
theorem online_plan_manifest_exact (plan : OnlinePlan) :
    ∃ manifest, encodeOnlinePlan plan = .ok manifest ∧
      manifest.length = (if plan.statusConfirmation.isSome then 127 else 111) ∧
      ∀ profile, decodeOnlinePlan profile = .ok plan ↔ ∃ slot,
        getSlot profile.slots ⟨onlinePlanSlotId, by decide⟩ = some slot ∧
          slot.value = manifest := by
  refine ⟨onlinePlanLayout plan, encodeOnlinePlan_eq plan, onlinePlanLayout_length plan, ?_⟩
  exact fun profile => decodeOnlinePlan_eq_ok_iff

end Profile
end Lirvena
