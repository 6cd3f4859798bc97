import Lirvena.Config.DeviceGenerator
import Lirvena.Lib.Run

/-!
# Several processes on one device file

A process loads its device file, and where there is none it generates a profile, writes it
under a temporary name and links it to the name of the device, which fails where that name is
taken.  Processes on one file interleave at every system call; each call can fail, a write can
come to a part of its bytes, and a process can be killed between any two calls.

As long as no two of them draw the same temporary name, the device file appears whole or not
at all, it is never replaced or written again, and all processes that return a profile return
the same one.
-/

namespace Lirvena
namespace Config

open Domain
open Lib

/-- `io::ErrorKind`, as far as it is looked at. -/
inductive IoKind where
  | notFound
  | alreadyExists
  | invalidInput
  | other
  deriving DecidableEq

/-- The names in the directory of the device file. -/
inductive Name where
  | device
  | temporary (suffix : Vector UInt8 8)
  deriving DecidableEq

/-- What a name stands for: a regular file, or a link or directory. -/
inductive Entry where
  | file (inode : Nat)
  | special
  deriving DecidableEq

/-- Names are links to files; the next file gets the number of the files before it. -/
structure Disk where
  directory : Name → Option Entry
  contents : Nat → List UInt8
  allocated : Nat

def Disk.bind (disk : Disk) (name : Name) (entry : Option Entry) : Disk :=
  { disk with directory := Function.update disk.directory name entry }

def Disk.create (disk : Disk) (name : Name) : Disk where
  directory := Function.update disk.directory name (some (.file disk.allocated))
  contents := Function.update disk.contents disk.allocated []
  allocated := disk.allocated + 1

def Disk.append (disk : Disk) (inode : Nat) (bytes : List UInt8) : Disk :=
  { disk with contents := Function.update disk.contents inode (disk.contents inode ++ bytes) }

namespace Disk

variable {disk : Disk} {name other : Name} {inode file : Nat}

theorem bind_same (disk : Disk) (name : Name) (entry : Option Entry) :
    (disk.bind name entry).directory name = entry :=
  Function.update_self _ _ _

theorem bind_other (hother : other ≠ name) (entry : Option Entry) :
    (disk.bind name entry).directory other = disk.directory other :=
  Function.update_of_ne hother _ _

theorem create_same (disk : Disk) (name : Name) :
    (disk.create name).directory name = some (.file disk.allocated) :=
  Function.update_self _ _ _

theorem create_other (hother : other ≠ name) :
    (disk.create name).directory other = disk.directory other :=
  Function.update_of_ne hother _ _

theorem create_contents (hold : inode ≠ disk.allocated) :
    (disk.create name).contents inode = disk.contents inode :=
  Function.update_of_ne hold _ _

theorem append_same (disk : Disk) (inode : Nat) (bytes : List UInt8) :
    (disk.append inode bytes).contents inode = disk.contents inode ++ bytes :=
  Function.update_self _ _ _

theorem append_other (hother : file ≠ inode) (bytes : List UInt8) :
    (disk.append inode bytes).contents file = disk.contents file :=
  Function.update_of_ne hother _ _

end Disk

theorem device_ne_temporary (suffix : Vector UInt8 8) : Name.device ≠ .temporary suffix := by
  intro hsame
  cases hsame

theorem temporary_ne {first second : Vector UInt8 8} (hne : first ≠ second) :
    Name.temporary first ≠ Name.temporary second :=
  fun hsame => hne (Name.temporary.inj hsame)

/-- Where a process stands in `load_or_generate`, by the system call that comes next; `again`
is the load after a device file that another process was first to link. -/
inductive Stage where
  | looking (again : Bool)
  | reading (again : Bool)
  | generating
  | naming (profile : DeviceProfile)
  | opening (profile : DeviceProfile)
  | encoding (profile : DeviceProfile) (inode : Nat)
  | writing (profile : DeviceProfile) (inode : Nat) (rest : List UInt8)
  | syncing (profile : DeviceProfile)
  | linking (profile : DeviceProfile)
  | removing (profile : DeviceProfile)
  /-- The temporary path is dropped, and `create` fails. -/
  | dropping (error : IoKind)
  | finished (result : Except IoKind DeviceProfile)
  | killed

/-- What the system makes of one call: its failure, how many bytes a write takes, and whether
the parent of the device file is a directory. -/
structure Call where
  failure : Option IoKind
  amount : Nat
  parentIsDir : Bool

def maxDeviceFileBytes : Nat := 8 * 1024

/-- `load` failed: `load_or_generate` goes on to generate a profile, once. -/
def loadFailed (again : Bool) (error : IoKind) : Stage :=
  if error = .notFound ∧ again = false then .generating else .finished (.error error)

/-- `create` failed: `load_or_generate` loads what another process was first to link. -/
def createFailed (error : IoKind) : Stage :=
  if error = .alreadyExists then .looking true else .finished (.error error)

section Creator

variable (json : DeviceJson) (random : Vector UInt8 24) (suffix : Vector UInt8 8)

/-- One system call of a process with its own random bytes. -/
def advance (disk : Disk) (call : Call) : Stage → Disk × Stage
  | .looking again =>
      match call.failure, disk.directory .device with
      | some error, _ => (disk, loadFailed again error)
      | none, none => (disk, loadFailed again .notFound)
      | none, some .special => (disk, loadFailed again .invalidInput)
      | none, some (.file inode) =>
          if (disk.contents inode).length > maxDeviceFileBytes then
            (disk, loadFailed again .invalidInput)
          else (disk, .reading again)
  | .reading again =>
      match call.failure, disk.directory .device with
      | some error, _ => (disk, loadFailed again error)
      | none, none => (disk, loadFailed again .notFound)
      | none, some .special => (disk, loadFailed again .other)
      | none, some (.file inode) =>
          match decode json (disk.contents inode) with
          | .ok profile => (disk, .finished (.ok profile))
          | .error _ => (disk, loadFailed again .invalidInput)
  | .generating =>
      match call.failure, generate random with
      | some error, _ => (disk, .finished (.error error))
      | none, .ok profile => (disk, .naming profile)
      | none, .error _ => (disk, .finished (.error .invalidInput))
  | .naming profile =>
      if call.parentIsDir = false then (disk, createFailed .invalidInput)
      else
        match call.failure with
        | some error => (disk, createFailed error)
        | none => (disk, .opening profile)
  | .opening profile =>
      match call.failure, disk.directory (.temporary suffix) with
      | some error, _ => (disk, .dropping error)
      | none, some _ => (disk, .dropping .alreadyExists)
      | none, none => (disk.create (.temporary suffix), .encoding profile disk.allocated)
  | .encoding profile inode =>
      match encode json profile with
      | .ok bytes => (disk, .writing profile inode bytes)
      | .error _ => (disk, .dropping .invalidInput)
  | .writing profile inode rest =>
      match call.failure with
      | some error => (disk, .dropping error)
      | none =>
          (disk.append inode (rest.take call.amount),
            if rest.drop call.amount = [] then .syncing profile
            else .writing profile inode (rest.drop call.amount))
  | .syncing profile =>
      match call.failure with
      | some error => (disk, .dropping error)
      | none => (disk, .linking profile)
  | .linking profile =>
      match call.failure, disk.directory (.temporary suffix), disk.directory .device with
      | some error, _, _ => (disk, .dropping error)
      | none, none, _ => (disk, .dropping .notFound)
      | none, some _, some _ => (disk, .dropping .alreadyExists)
      | none, some entry, none => (disk.bind .device (some entry), .removing profile)
  | .removing profile =>
      match call.failure, disk.directory (.temporary suffix) with
      | some error, _ => (disk, .dropping error)
      | none, none => (disk, .dropping .notFound)
      | none, some _ => (disk.bind (.temporary suffix) none, .finished (.ok profile))
  | .dropping error =>
      match call.failure with
      | some _ => (disk, createFailed error)
      | none => (disk.bind (.temporary suffix) none, createFailed error)
  | .finished result => (disk, .finished result)
  | .killed => (disk, .killed)

end Creator

/-! ## Processes on one disk -/

structure Store (count : Nat) where
  disk : Disk
  stages : Fin count → Stage

inductive StoreInput (count : Nat) where
  | call (process : Fin count) (call : Call)
  | kill (process : Fin count)

variable {count : Nat} (json : DeviceJson) (random : Fin count → Vector UInt8 24)
  (suffix : Fin count → Vector UInt8 8)

def creators : Machine (Store count) (StoreInput count) Unit where
  step store
    | .call process call =>
        let done := advance json (random process) (suffix process) store.disk call
          (store.stages process)
        (⟨done.1, Function.update store.stages process done.2⟩, ())
    | .kill process => (⟨store.disk, Function.update store.stages process .killed⟩, ())

/-- All processes begin with a load. -/
def started (disk : Disk) : Store count where
  disk := disk
  stages _ := .looking false

/-! ## What a process knows of the disk -/

/-- The file stands under the temporary name and under no other. -/
def Disk.Private (disk : Disk) (suffix : Vector UInt8 8) (inode : Nat) : Prop :=
  disk.directory (.temporary suffix) = some (.file inode) ∧
    ∀ name, disk.directory name = some (.file inode) → name = .temporary suffix

/-- Every file that has a name has been allocated. -/
def Disk.Allocated (disk : Disk) : Prop :=
  ∀ name inode, disk.directory name = some (.file inode) → inode < disk.allocated

/-- The device file has these bytes. -/
def Disk.Device (disk : Disk) (bytes : List UInt8) : Prop :=
  ∃ inode, disk.directory .device = some (.file inode) ∧ disk.contents inode = bytes

/-- What the stage of a process says of the disk. -/
def Stage.Holds (json : DeviceJson) (random : Vector UInt8 24) (suffix : Vector UInt8 8)
    (disk : Disk) : Stage → Prop
  | .looking false | .reading false | .generating =>
      disk.directory (.temporary suffix) = none
  | .naming profile | .opening profile =>
      disk.directory (.temporary suffix) = none ∧ generate random = .ok profile
  | .encoding profile inode =>
      disk.Private suffix inode ∧ disk.contents inode = [] ∧ generate random = .ok profile
  | .writing profile inode rest =>
      disk.Private suffix inode ∧ encode json profile = .ok (disk.contents inode ++ rest) ∧
        generate random = .ok profile
  | .syncing profile | .linking profile =>
      ∃ inode, disk.Private suffix inode ∧ encode json profile = .ok (disk.contents inode) ∧
        generate random = .ok profile
  | .removing profile =>
      ∃ bytes, disk.Device bytes ∧ encode json profile = .ok bytes ∧
        generate random = .ok profile
  | .finished (.ok profile) => ∃ bytes, disk.Device bytes ∧ decode json bytes = .ok profile
  | _ => True

/-- What a process with the given temporary name leaves alone. -/
structure Framed (own : Vector UInt8 8) (disk next : Disk) : Prop where
  names : ∀ suffix, suffix ≠ own →
    next.directory (.temporary suffix) = disk.directory (.temporary suffix)
  files : ∀ suffix, suffix ≠ own → ∀ inode, disk.Private suffix inode →
    next.Private suffix inode ∧ next.contents inode = disk.contents inode
  device : ∀ entry, disk.directory .device = some entry → next.directory .device = some entry
  deviceBytes : ∀ bytes, disk.Device bytes → next.Device bytes

section Frame

variable {json : DeviceJson} {random : Vector UInt8 24} {own suffix : Vector UInt8 8}
variable {disk next : Disk} {stage : Stage}

/-- What another process knows of the disk stays true. -/
theorem Stage.Holds.framed (hholds : stage.Holds json random suffix disk)
    (hframed : Framed own disk next) (hother : suffix ≠ own) :
    stage.Holds json random suffix next := by
  have hname := hframed.names suffix hother
  unfold Stage.Holds at hholds ⊢
  split at hholds
  · rwa [hname]
  · rwa [hname]
  · rwa [hname]
  · rwa [hname]
  · rwa [hname]
  · obtain ⟨hprivate, hempty, hgenerated⟩ := hholds
    obtain ⟨hkept, hsame⟩ := hframed.files suffix hother _ hprivate
    exact ⟨hkept, hsame.trans hempty, hgenerated⟩
  · obtain ⟨hprivate, hencoded, hgenerated⟩ := hholds
    obtain ⟨hkept, hsame⟩ := hframed.files suffix hother _ hprivate
    exact ⟨hkept, by rw [hsame]; exact hencoded, hgenerated⟩
  · obtain ⟨inode, hprivate, hencoded, hgenerated⟩ := hholds
    obtain ⟨hkept, hsame⟩ := hframed.files suffix hother _ hprivate
    exact ⟨inode, hkept, by rw [hsame]; exact hencoded, hgenerated⟩
  · obtain ⟨inode, hprivate, hencoded, hgenerated⟩ := hholds
    obtain ⟨hkept, hsame⟩ := hframed.files suffix hother _ hprivate
    exact ⟨inode, hkept, by rw [hsame]; exact hencoded, hgenerated⟩
  · obtain ⟨bytes, hdevice, hencoded⟩ := hholds
    exact ⟨bytes, hframed.deviceBytes bytes hdevice, hencoded⟩
  · obtain ⟨bytes, hdevice, hdecoded⟩ := hholds
    exact ⟨bytes, hframed.deviceBytes bytes hdevice, hdecoded⟩
  · trivial

theorem Framed.refl (own : Vector UInt8 8) (disk : Disk) : Framed own disk disk :=
  ⟨fun _ _ => rfl, fun _ _ _ hprivate => ⟨hprivate, rfl⟩, fun _ hentry => hentry,
    fun _ hdevice => hdevice⟩

theorem framed_create (hallocated : disk.Allocated) :
    Framed own disk (disk.create (.temporary own)) where
  names suffix hother := Disk.create_other (temporary_ne hother)
  files := by
    intro suffix hother inode hprivate
    have hold := hallocated _ _ hprivate.1
    refine ⟨⟨(Disk.create_other (temporary_ne hother)).trans hprivate.1, ?_⟩,
      Disk.create_contents (Nat.ne_of_lt hold)⟩
    intro name hname
    by_cases hown : name = .temporary own
    · rw [hown, Disk.create_same] at hname
      cases hname
      exact absurd hold (Nat.lt_irrefl _)
    · rw [Disk.create_other hown] at hname
      exact hprivate.2 name hname
  device entry hentry := (Disk.create_other (device_ne_temporary own)).trans hentry
  deviceBytes := by
    rintro bytes ⟨inode, hentry, hbytes⟩
    exact ⟨inode, (Disk.create_other (device_ne_temporary own)).trans hentry,
      (Disk.create_contents (Nat.ne_of_lt (hallocated _ _ hentry))).trans hbytes⟩

theorem framed_append {inode : Nat} (hprivate : disk.Private own inode) (bytes : List UInt8) :
    Framed own disk (disk.append inode bytes) where
  names _ _ := rfl
  files := by
    intro suffix hother other hkept
    refine ⟨hkept, Disk.append_other ?_ bytes⟩
    rintro rfl
    exact temporary_ne hother (hprivate.2 _ hkept.1)
  device _ hentry := hentry
  deviceBytes := by
    rintro other ⟨device, hentry, hbytes⟩
    refine ⟨device, hentry, (Disk.append_other ?_ bytes).trans hbytes⟩
    rintro rfl
    cases hprivate.2 _ hentry

theorem framed_link {inode : Nat} (hprivate : disk.Private own inode)
    (habsent : disk.directory .device = none) :
    Framed own disk (disk.bind .device (some (.file inode))) where
  names suffix _ := Disk.bind_other (device_ne_temporary suffix).symm _
  files := by
    intro suffix hother other hkept
    refine ⟨⟨(Disk.bind_other (device_ne_temporary suffix).symm _).trans hkept.1, ?_⟩, rfl⟩
    intro name hname
    by_cases hdevice : name = .device
    · rw [hdevice, Disk.bind_same] at hname
      cases hname
      exact absurd (hprivate.2 _ hkept.1) (temporary_ne hother)
    · rw [Disk.bind_other hdevice] at hname
      exact hkept.2 name hname
  device entry hentry := by
    rw [habsent] at hentry
    cases hentry
  deviceBytes := by
    rintro bytes ⟨other, hentry, -⟩
    rw [habsent] at hentry
    cases hentry

theorem framed_unlink (own : Vector UInt8 8) (disk : Disk) :
    Framed own disk (disk.bind (.temporary own) none) where
  names suffix hother := Disk.bind_other (temporary_ne hother) _
  files := by
    intro suffix hother inode hprivate
    refine ⟨⟨(Disk.bind_other (temporary_ne hother) _).trans hprivate.1, ?_⟩, rfl⟩
    intro name hname
    by_cases hown : name = .temporary own
    · rw [hown, Disk.bind_same] at hname
      cases hname
    · rw [Disk.bind_other hown] at hname
      exact hprivate.2 name hname
  device entry hentry := (Disk.bind_other (device_ne_temporary own) _).trans hentry
  deviceBytes := by
    rintro bytes ⟨inode, hentry, hbytes⟩
    exact ⟨inode, (Disk.bind_other (device_ne_temporary own) _).trans hentry, hbytes⟩

/-- What one call of a process comes to. -/
structure Advances (json : DeviceJson) (random : Vector UInt8 24) (own : Vector UInt8 8)
    (disk : Disk) (done : Disk × Stage) : Prop where
  framed : Framed own disk done.1
  allocated : done.1.Allocated
  holds : done.2.Holds json random own done.1
  linked : disk.directory .device = none → ∀ entry, done.1.directory .device = some entry →
    ∃ bytes profile, done.1.Device bytes ∧ generate random = .ok profile ∧
      encode json profile = .ok bytes

theorem Advances.same (hallocated : disk.Allocated) (hholds : stage.Holds json random own disk) :
    Advances json random own disk (disk, stage) where
  framed := .refl own disk
  allocated := hallocated
  holds := hholds
  linked habsent entry hentry := by
    rw [habsent] at hentry
    cases hentry

theorem holds_loadFailed {again : Bool} (error : IoKind)
    (hholds : (Stage.looking again).Holds json random own disk) :
    (loadFailed again error).Holds json random own disk := by
  unfold loadFailed
  split
  · next hmissing =>
      rw [hmissing.2] at hholds
      exact hholds
  · trivial

theorem holds_createFailed (error : IoKind) :
    (createFailed error).Holds json random own disk := by
  unfold createFailed
  split <;> trivial

theorem Advances.unlinked (hallocated : disk.Allocated)
    (hholds : stage.Holds json random own (disk.bind (.temporary own) none)) :
    Advances json random own disk (disk.bind (.temporary own) none, stage) where
  framed := framed_unlink own disk
  allocated := by
    intro name inode hname
    by_cases hown : name = .temporary own
    · rw [hown, Disk.bind_same] at hname
      cases hname
    · rw [Disk.bind_other hown] at hname
      exact hallocated name inode hname
  holds := hholds
  linked habsent entry hentry := by
    rw [Disk.bind_other (device_ne_temporary own), habsent] at hentry
    cases hentry

theorem Advances.created (hallocated : disk.Allocated) {profile : DeviceProfile}
    (hgenerated : generate random = .ok profile) :
    Advances json random own disk
      (disk.create (.temporary own), .encoding profile disk.allocated) where
  framed := framed_create hallocated
  allocated := by
    intro name inode hname
    show inode < disk.allocated + 1
    by_cases hown : name = .temporary own
    · rw [hown, Disk.create_same] at hname
      cases hname
      exact Nat.lt_succ_self _
    · rw [Disk.create_other hown] at hname
      exact Nat.lt_succ_of_lt (hallocated name inode hname)
  holds := by
    refine ⟨⟨Disk.create_same _ _, fun name hname => ?_⟩, Function.update_self _ _ _, hgenerated⟩
    by_contra hother
    rw [Disk.create_other hother] at hname
    exact absurd (hallocated name _ hname) (Nat.lt_irrefl _)
  linked habsent entry hentry := by
    rw [Disk.create_other (device_ne_temporary own), habsent] at hentry
    cases hentry

theorem Advances.appended (hallocated : disk.Allocated) {inode : Nat}
    (hprivate : disk.Private own inode) (bytes : List UInt8)
    (hholds : stage.Holds json random own (disk.append inode bytes)) :
    Advances json random own disk (disk.append inode bytes, stage) where
  framed := framed_append hprivate bytes
  allocated := hallocated
  holds := hholds
  linked habsent entry hentry := by
    have hsame : disk.directory .device = some entry := hentry
    rw [habsent] at hsame
    cases hsame

theorem Advances.linkedFile (hallocated : disk.Allocated) {inode : Nat} {profile : DeviceProfile}
    (hprivate : disk.Private own inode) (habsent : disk.directory .device = none)
    (hencoded : encode json profile = .ok (disk.contents inode))
    (hgenerated : generate random = .ok profile) :
    Advances json random own disk
      (disk.bind .device (some (.file inode)), .removing profile) := by
  have hdevice : (disk.bind .device (some (.file inode))).Device (disk.contents inode) :=
    ⟨inode, Disk.bind_same _ _ _, rfl⟩
  constructor
  case framed => exact framed_link hprivate habsent
  case allocated =>
    intro name other hname
    by_cases hname' : name = .device
    · rw [hname', Disk.bind_same] at hname
      cases hname
      exact hallocated _ _ hprivate.1
    · rw [Disk.bind_other hname'] at hname
      exact hallocated name other hname
  case holds => exact ⟨_, hdevice, hencoded, hgenerated⟩
  case linked => exact fun _ _ _ => ⟨_, profile, hdevice, hgenerated, hencoded⟩

/-- A profile is read back from what is written of it. -/
theorem decode_encoded {profile : DeviceProfile} {bytes : List UInt8}
    (hgenerated : generate random = .ok profile) (hreads : json.ReadsBack (.fromProfile profile))
    (hencoded : encode json profile = .ok bytes) : decode json bytes = .ok profile := by
  obtain ⟨written, hwritten, hread⟩ := hreads
  obtain ⟨encoded, hencode, hreturn⟩ := bind_eq_ok_iff.mp hencoded
  rw [okOr_eq_ok_iff, hwritten] at hencode
  cases hencode
  cases hreturn
  exact bind_eq_ok_iff.mpr ⟨_, okOr_eq_ok_iff.mpr hread,
    DeviceFile.intoProfile_fromProfile (generate_eq_ok_iff.mp hgenerated).1⟩

/-- One call of a process keeps what it knows, and what the others know. -/
theorem advance_spec (hallocated : disk.Allocated) (hholds : stage.Holds json random own disk)
    (hreads : ∀ profile, generate random = .ok profile → json.ReadsBack (.fromProfile profile))
    (call : Call) : Advances json random own disk (advance json random own disk call stage) := by
  cases stage with
  | looking again =>
      rw [advance]
      split
      · exact .same hallocated (holds_loadFailed _ hholds)
      · exact .same hallocated (holds_loadFailed _ hholds)
      · exact .same hallocated (holds_loadFailed _ hholds)
      · split
        · exact .same hallocated (holds_loadFailed _ hholds)
        · refine .same hallocated ?_
          cases again with
          | true => trivial
          | false => exact hholds
  | reading again =>
      have hlooking : (Stage.looking again).Holds json random own disk := by
        cases again with
        | true => trivial
        | false => exact hholds
      rw [advance]
      split
      · exact .same hallocated (holds_loadFailed _ hlooking)
      · exact .same hallocated (holds_loadFailed _ hlooking)
      · exact .same hallocated (holds_loadFailed _ hlooking)
      · next inode hcall hentry =>
          split
          · next profile hdecoded =>
              exact .same hallocated ⟨_, ⟨inode, hentry, rfl⟩, hdecoded⟩
          · exact .same hallocated (holds_loadFailed _ hlooking)
  | generating =>
      rw [advance]
      split
      · exact .same hallocated trivial
      · next profile hcall hgenerated => exact .same hallocated ⟨hholds, hgenerated⟩
      · exact .same hallocated trivial
  | naming profile =>
      rw [advance]
      split
      · exact .same hallocated (holds_createFailed _)
      · split
        · exact .same hallocated (holds_createFailed _)
        · exact .same hallocated hholds
  | opening profile =>
      rw [advance]
      split
      · exact .same hallocated trivial
      · exact .same hallocated trivial
      · exact .created hallocated hholds.2
  | encoding profile inode =>
      obtain ⟨hprivate, hempty, hgenerated⟩ := hholds
      rw [advance]
      split
      · next bytes hencoded =>
          refine .same hallocated ⟨hprivate, ?_, hgenerated⟩
          rw [hempty]
          exact hencoded
      · exact .same hallocated trivial
  | writing profile inode rest =>
      obtain ⟨hprivate, hencoded, hgenerated⟩ := hholds
      rw [advance]
      split
      · exact .same hallocated trivial
      · refine .appended hallocated hprivate _ ?_
        have hwritten : encode json profile =
            .ok ((disk.append inode (rest.take call.amount)).contents inode ++
              rest.drop call.amount) := by
          rw [Disk.append_same, List.append_assoc, List.take_append_drop]
          exact hencoded
        split
        · next hdone =>
            rw [hdone, List.append_nil] at hwritten
            exact ⟨inode, hprivate, hwritten, hgenerated⟩
        · exact ⟨hprivate, hwritten, hgenerated⟩
  | syncing profile =>
      rw [advance]
      split
      · exact .same hallocated trivial
      · exact .same hallocated hholds
  | linking profile =>
      obtain ⟨inode, hprivate, hencoded, hgenerated⟩ := hholds
      rw [advance]
      rw [hprivate.1]
      split
      · exact .same hallocated trivial
      · exact .same hallocated trivial
      · exact .same hallocated trivial
      · next entry hcall hentry habsent =>
          cases hentry
          exact .linkedFile hallocated hprivate habsent hencoded hgenerated
  | removing profile =>
      obtain ⟨bytes, hdevice, hencoded, hgenerated⟩ := hholds
      rw [advance]
      split
      · exact .same hallocated trivial
      · exact .same hallocated trivial
      · refine .unlinked hallocated ⟨bytes, ?_, ?_⟩
        · exact (framed_unlink own disk).deviceBytes bytes hdevice
        · exact decode_encoded hgenerated (hreads profile hgenerated) hencoded
  | dropping error =>
      rw [advance]
      split
      · exact .same hallocated (holds_createFailed _)
      · exact .unlinked hallocated (holds_createFailed _)
  | finished result => exact .same hallocated hholds
  | killed => exact .same hallocated trivial

end Frame

/-! ## Runs of the processes -/

/-- What holds of the disk and of every process, from a disk at the start. -/
structure Kept (start : Disk) (store : Store count) : Prop where
  allocated : store.disk.Allocated
  holds : ∀ process,
    (store.stages process).Holds json (random process) (suffix process) store.disk
  linked : start.directory .device = none → ∀ entry,
    store.disk.directory .device = some entry → ∃ bytes process profile,
      store.disk.Device bytes ∧ generate (random process) = .ok profile ∧
        encode json profile = .ok bytes

/-- What is under the name of the device stays there. -/
structure Stays (store next : Store count) : Prop where
  entry : ∀ entry, store.disk.directory .device = some entry →
    next.disk.directory .device = some entry
  bytes : ∀ bytes, store.disk.Device bytes → next.disk.Device bytes

section Run

variable {json random suffix} {start : Disk} {store : Store count}

theorem Kept.step (hkept : Kept json random suffix start store)
    (hsuffix : Function.Injective suffix)
    (hreads : ∀ process profile, generate (random process) = .ok profile →
      json.ReadsBack (.fromProfile profile)) (input : StoreInput count) :
    Kept json random suffix start ((creators json random suffix).step store input).1 ∧
      Stays store ((creators json random suffix).step store input).1 := by
  cases input with
  | kill process =>
      refine ⟨⟨hkept.allocated, fun other => ?_, hkept.linked⟩, fun _ hentry => hentry,
        fun _ hdevice => hdevice⟩
      show (Function.update store.stages process .killed other).Holds json _ _ store.disk
      by_cases hother : other = process
      · rw [hother, Function.update_self]
        trivial
      · rw [Function.update_of_ne hother]
        exact hkept.holds other
  | call process call =>
      have hadvances := advance_spec hkept.allocated (hkept.holds process) (hreads process) call
      refine ⟨⟨hadvances.allocated, fun other => ?_, ?_⟩, hadvances.framed.device,
        hadvances.framed.deviceBytes⟩
      · show (Function.update store.stages process _ other).Holds json _ _ _
        by_cases hother : other = process
        · rw [hother, Function.update_self]
          exact hadvances.holds
        · rw [Function.update_of_ne hother]
          exact (hkept.holds other).framed hadvances.framed fun hsame => hother (hsuffix hsame)
      · intro hnone entry hentry
        cases hbefore : store.disk.directory .device with
        | none =>
            obtain ⟨bytes, profile, hdevice, hgenerated, hencoded⟩ :=
              hadvances.linked hbefore entry hentry
            exact ⟨bytes, process, profile, hdevice, hgenerated, hencoded⟩
        | some earlier =>
            obtain ⟨bytes, writer, profile, hdevice, hwritten⟩ := hkept.linked hnone _ hbefore
            exact ⟨bytes, writer, profile, hadvances.framed.deviceBytes bytes hdevice, hwritten⟩

theorem kept_started (hallocated : start.Allocated)
    (hnames : ∀ process, start.directory (.temporary (suffix process)) = none) :
    Kept json random suffix start (started start) where
  allocated := hallocated
  holds := hnames
  linked habsent entry hentry := by
    rw [show (started start : Store count).disk.directory .device = none from habsent] at hentry
    cases hentry

theorem Disk.Device.unique {disk : Disk} {first second : List UInt8} (hfirst : disk.Device first)
    (hsecond : disk.Device second) : first = second := by
  obtain ⟨inode, hentry, rfl⟩ := hfirst
  obtain ⟨other, hother, rfl⟩ := hsecond
  rw [hentry] at hother
  cases hother
  rfl

/-- Processes on one device file, with different temporary names, whatever is on the disk at
the start: a profile that is returned is that of the device file, so that all of them return
the same one; what stands under the name of the device stays there with its bytes; and where
nothing did, nothing but a whole file of a generated profile comes to stand there. -/
theorem device_file_agreed (disk : Disk) (hallocated : disk.Allocated)
    (hsuffix : Function.Injective suffix)
    (hnames : ∀ process, disk.directory (.temporary (suffix process)) = none)
    (hreads : ∀ process profile, generate (random process) = .ok profile →
      json.ReadsBack (.fromProfile profile)) (inputs : List (StoreInput count)) :
    let machine := creators json random suffix
    let reached := machine.run (started disk) inputs
    (∀ process profile, reached.stages process = .finished (.ok profile) →
      ∃ bytes, reached.disk.Device bytes ∧ decode json bytes = .ok profile) ∧
    (∀ first second profile other, reached.stages first = .finished (.ok profile) →
      reached.stages second = .finished (.ok other) → profile = other) ∧
    (∀ before, before <+: inputs → Stays (machine.run (started disk) before) reached) ∧
    (disk.directory .device = none → ∀ entry, reached.disk.directory .device = some entry →
      ∃ bytes process profile, reached.disk.Device bytes ∧
        generate (random process) = .ok profile ∧ encode json profile = .ok bytes) := by
  intro machine reached
  have hrun : ∀ before, Kept json random suffix disk (machine.run (started disk) before) :=
    fun before => machine.invariant_run (kept_started hallocated hnames)
      (fun _ input hkept => (hkept.step hsuffix hreads input).1) before
  have hreturned : ∀ process profile, reached.stages process = .finished (.ok profile) →
      ∃ bytes, reached.disk.Device bytes ∧ decode json bytes = .ok profile := by
    intro process profile hfinished
    have hholds := (hrun inputs).holds process
    rw [show (machine.run (started disk) inputs).stages process = _ from hfinished] at hholds
    exact hholds
  refine ⟨hreturned, ?_, ?_, (hrun inputs).linked⟩
  · intro first second profile other hfirst hsecond
    obtain ⟨bytes, hdevice, hdecoded⟩ := hreturned first profile hfirst
    obtain ⟨otherBytes, hother, hotherDecoded⟩ := hreturned second other hsecond
    rw [hdevice.unique hother, hotherDecoded] at hdecoded
    exact (Except.ok.inj hdecoded).symm
  · rintro before ⟨rest, hsplit⟩
    show Stays _ (machine.run (started disk) inputs)
    rw [← hsplit]
    clear hsplit
    induction rest using List.reverseRecOn with
    | nil =>
        rw [List.append_nil]
        exact ⟨fun _ hentry => hentry, fun _ hdevice => hdevice⟩
    | append_singleton rest input ih =>
        rw [← List.append_assoc, Machine.run_append]
        have hstays := ((hrun (before ++ rest)).step hsuffix hreads input).2
        exact ⟨fun entry hentry => hstays.entry entry (ih.entry entry hentry),
          fun bytes hdevice => hstays.bytes bytes (ih.bytes bytes hdevice)⟩

/-! ## A process that is left alone -/

/-- A call that does what it is asked for. -/
structure Call.Succeeds (call : Call) (bytes : List UInt8) : Prop where
  failure : call.failure = none
  amount : bytes.length ≤ call.amount
  parentIsDir : call.parentIsDir = true

theorem step_call {disk next : Disk} {stages : Fin count → Stage} {process : Fin count}
    {stage after : Stage} {call : Call}
    (hadvance : advance json (random process) (suffix process) disk call stage = (next, after)) :
    ((creators json random suffix).step ⟨disk, Function.update stages process stage⟩
      (.call process call)).1 = ⟨next, Function.update stages process after⟩ := by
  simp only [creators, Function.update_self, hadvance, Function.update_idem]

variable {disk : Disk} {stages : Fin count → Stage} {process : Fin count} {call : Call}
variable {profile : DeviceProfile} {bytes : List UInt8}

/-- Where there is no device file, nine calls write the one that is generated. -/
theorem run_create (hcall : call.Succeeds bytes) (habsent : disk.directory .device = none)
    (hname : disk.directory (.temporary (suffix process)) = none)
    (hgenerated : generate (random process) = .ok profile)
    (hencoded : encode json profile = .ok bytes) :
    ∃ next, (creators json random suffix).run
        ⟨disk, Function.update stages process (.looking false)⟩
        (List.replicate 9 (.call process call)) =
      ⟨next, Function.update stages process (.finished (.ok profile))⟩ ∧ next.Device bytes := by
  obtain ⟨hfailure, hamount, hparent⟩ := hcall
  let own := suffix process
  let created := disk.create (.temporary own)
  let written := created.append disk.allocated bytes
  let linked := written.bind .device (some (.file disk.allocated))
  have hcreatedName : created.directory (.temporary own) = some (.file disk.allocated) :=
    Disk.create_same _ _
  have hcreatedDevice : created.directory .device = none :=
    (Disk.create_other (device_ne_temporary own)).trans habsent
  have hlinkedName : linked.directory (.temporary own) = some (.file disk.allocated) :=
    (Disk.bind_other (device_ne_temporary own).symm _).trans hcreatedName
  have hbytes : written.contents disk.allocated = bytes := by
    rw [Disk.append_same, show created.contents disk.allocated = [] from
      Function.update_self _ _ _, List.nil_append]
  have hlook : advance json (random process) own disk call (.looking false) =
      (disk, .generating) := by
    simp [advance, hfailure, habsent, loadFailed]
  have hgenerate : advance json (random process) own disk call .generating =
      (disk, .naming profile) := by
    simp [advance, hfailure, hgenerated]
  have hnaming : advance json (random process) own disk call (.naming profile) =
      (disk, .opening profile) := by
    simp [advance, hfailure, hparent]
  have hopen : advance json (random process) own disk call (.opening profile) =
      (created, .encoding profile disk.allocated) := by
    simp [advance, hfailure, own, hname, created]
  have hencode : advance json (random process) own created call
      (.encoding profile disk.allocated) =
        (created, .writing profile disk.allocated bytes) := by
    simp [advance, hencoded]
  have hwrite : advance json (random process) own created call
      (.writing profile disk.allocated bytes) = (written, .syncing profile) := by
    simp [advance, hfailure, List.take_of_length_le hamount, hamount, written]
  have hsync : advance json (random process) own written call (.syncing profile) =
      (written, .linking profile) := by
    simp [advance, hfailure]
  have hlink : advance json (random process) own written call (.linking profile) =
      (linked, .removing profile) := by
    have hwrittenName : written.directory (.temporary own) = some (.file disk.allocated) :=
      hcreatedName
    have hwrittenDevice : written.directory .device = none := hcreatedDevice
    simp [advance, hfailure, hwrittenName, hwrittenDevice, linked]
  have hremove : advance json (random process) own linked call (.removing profile) =
      (linked.bind (.temporary own) none, .finished (.ok profile)) := by
    simp [advance, hfailure, hlinkedName]
  refine ⟨linked.bind (.temporary own) none, ?_, disk.allocated, ?_, hbytes⟩
  · simp only [List.replicate, Machine.run_cons, Machine.run_nil, step_call hlook,
      step_call hgenerate, step_call hnaming, step_call hopen, step_call hencode,
      step_call hwrite, step_call hsync, step_call hlink, step_call hremove]
  · exact (Disk.bind_other (device_ne_temporary own) _).trans (Disk.bind_same _ _ _)

/-- Where there is a device file, two calls load it. -/
theorem run_load (hfailure : call.failure = none) (hdevice : disk.Device bytes)
    (hsize : bytes.length ≤ maxDeviceFileBytes) (hdecoded : decode json bytes = .ok profile) :
    (creators json random suffix).run ⟨disk, Function.update stages process (.looking false)⟩
        (List.replicate 2 (.call process call)) =
      ⟨disk, Function.update stages process (.finished (.ok profile))⟩ := by
  obtain ⟨inode, hentry, rfl⟩ := hdevice
  have hlook : advance json (random process) (suffix process) disk call (.looking false) =
      (disk, .reading false) := by
    simp [advance, hfailure, hentry, Nat.not_lt.mpr hsize]
  have hread : advance json (random process) (suffix process) disk call (.reading false) =
      (disk, .finished (.ok profile)) := by
    simp [advance, hfailure, hentry, hdecoded]
  simp only [List.replicate, Machine.run_cons, Machine.run_nil, step_call hlook, step_call hread]

/-! ## Two processes -/

/-- The file of a profile of zeros, in which the first pair of the GUID is a parameter. -/
def zeroFile (pair : String) : DeviceFile where
  toPortraitText := generatedPortrait (selectTemplate 0) 0
  schemaVersion := 4
  guid := pair ++ "000000-0000-4000-8000-000000000000"
  macAddress := "02:00:00:00:00:00"
  power := .desktop

def zeroFront : String :=
  "\x7b\n  \"schema_version\": 4,\n  \"guid\": \""

def zeroBack : String :=
  "000000-0000-4000-8000-000000000000\",\n  \"mac_address\": \"02:00:00:00:00:00\",\n" ++
  "  \"archetype\": \"uos-m720q\",\n  \"profile_category\": \"domestic-enterprise\",\n" ++
  "  \"hostname\": \"uos-office-10\",\n  \"device_name\": \"ThinkCentre M720q\",\n" ++
  "  \"hardware_model\": \"Lenovo ThinkCentre M720q\",\n" ++
  "  \"os_release\": \"Linux 5.10.0-amd64-desktop x86_64\",\n" ++
  "  \"distro\": \"UOS Desktop 20\",\n  \"desktop_environment\": \"DDE\",\n" ++
  "  \"session_type\": \"x11\",\n  \"login_name\": \"user\",\n" ++
  "  \"network_interface\": \"enp0s31f6\",\n" ++
  "  \"root_filesystem_bytes\": \"499963174912\",\n  \"memory_total_kib\": \"16325684\",\n" ++
  "  \"timezone\": \"Asia/Shanghai\",\n" ++
  "  \"power\": \x7b\n    \"kind\": \"desktop\"\n  \x7d\n\x7d"

/-- `serde_json`'s text of the file. -/
def zeroText (pair : String) : String :=
  zeroFront ++ pair ++ zeroBack

/-- The reader and the writer on the files of two GUIDs. -/
def zeroJson : DeviceJson where
  fromSlice bytes :=
    if bytes = utf8Bytes (zeroText "00") ++ [0x0a] then some (zeroFile "00")
    else if bytes = utf8Bytes (zeroText "01") ++ [0x0a] then some (zeroFile "01")
    else none
  toVecPretty file :=
    if file = zeroFile "00" then some (utf8Bytes (zeroText "00"))
    else if file = zeroFile "01" then some (utf8Bytes (zeroText "01"))
    else none

theorem zeroText_ne : zeroText "01" ≠ zeroText "00" := by
  intro hsame
  have hchars := congrArg String.toList hsame
  simp only [zeroText, String.toList_append] at hchars
  exact absurd (List.append_cancel_left (List.append_cancel_right hchars)) (by decide)

theorem zeroFile_ne : zeroFile "01" ≠ zeroFile "00" := by
  intro hsame
  have hguid : "01" ++ "000000-0000-4000-8000-000000000000" =
      "00" ++ "000000-0000-4000-8000-000000000000" := congrArg DeviceFile.guid hsame
  have hchars := congrArg String.toList hguid
  rw [String.toList_append, String.toList_append] at hchars
  exact absurd (List.append_cancel_right hchars) (by decide)

theorem zeroJson_readsBack {pair : String} (hpair : pair = "00" ∨ pair = "01") :
    zeroJson.toVecPretty (zeroFile pair) = some (utf8Bytes (zeroText pair)) ∧
      zeroJson.fromSlice (utf8Bytes (zeroText pair) ++ [0x0a]) = some (zeroFile pair) := by
  unfold zeroJson
  dsimp only
  rcases hpair with rfl | rfl
  · rw [if_pos rfl, if_pos rfl]
    exact ⟨rfl, rfl⟩
  · have hbytes : utf8Bytes (zeroText "01") ++ [0x0a] ≠ utf8Bytes (zeroText "00") ++ [0x0a] :=
      fun hsame => zeroText_ne (utf8Bytes_inj (List.append_cancel_right hsame))
    rw [if_neg zeroFile_ne, if_pos rfl, if_neg hbytes, if_pos rfl]
    exact ⟨rfl, rfl⟩

theorem zero_lt_random : 0 < 24 := by decide

/-- Two processes that draw different GUIDs. -/
def zeroRandom (process : Fin 2) : Vector UInt8 24 :=
  (Vector.replicate 24 0).set 0 (UInt8.ofNat process.val) zero_lt_random

def zeroSuffix (process : Fin 2) : Vector UInt8 8 :=
  Vector.replicate 8 (UInt8.ofNat process.val)

theorem fromProfile_zero (process : Fin 2) {profile : DeviceProfile}
    (hgenerated : generate (zeroRandom process) = .ok profile) :
    DeviceFile.fromProfile profile = zeroFile (if process = 0 then "00" else "01") := by
  obtain ⟨-, hguid, hmac, htext, hpower⟩ := generate_eq_ok_iff.mp hgenerated
  unfold DeviceFile.fromProfile
  rw [hguid, hmac, htext, hpower]
  match process with
  | 0 => rfl
  | 1 => rfl

/-- An empty directory. -/
def emptyDisk : Disk where
  directory _ := none
  contents _ := []
  allocated := 0

def succeeds : Call := ⟨none, 4096, true⟩

set_option maxRecDepth 8000 in
theorem zeroBytes_length_le : (utf8Bytes (zeroText "00") ++ [0x0a]).length ≤ 4096 := by
  have hfront : zeroFront.utf8ByteSize ≤ 100 := by decide
  have hback : zeroBack.utf8ByteSize ≤ 700 := by decide
  have hpair : "00".utf8ByteSize = 2 := by decide
  rw [List.length_append, utf8Bytes_length, zeroText, String.utf8ByteSize_append,
    String.utf8ByteSize_append, hpair, List.length_singleton]
  omega

/-- The first process writes its file, and the second one loads it. -/
def turns : List (StoreInput 2) :=
  List.replicate 9 (.call 0 succeeds) ++ List.replicate 2 (.call 1 succeeds)

theorem turns_agreed : ∃ profile,
    let reached := (creators zeroJson zeroRandom zeroSuffix).run (started emptyDisk) turns
    reached.stages 0 = .finished (.ok profile) ∧ reached.stages 1 = .finished (.ok profile) := by
  have hsuffix : Function.Injective zeroSuffix := by
    intro first second hsame
    have hbyte := congrArg (fun suffix : Vector UInt8 8 => suffix[0]) hsame
    revert hbyte
    revert first second
    decide
  have hreads : ∀ process profile, generate (zeroRandom process) = .ok profile →
      zeroJson.ReadsBack (.fromProfile profile) := by
    intro process profile hgenerated
    rw [fromProfile_zero process hgenerated]
    exact ⟨_, zeroJson_readsBack (by split <;> simp)⟩
  obtain ⟨profile, hgenerated⟩ := returns_generate (zeroRandom 0)
  have hencoded : encode zeroJson profile = .ok (utf8Bytes (zeroText "00") ++ [0x0a]) := by
    refine bind_eq_ok_iff.mpr ⟨utf8Bytes (zeroText "00"), okOr_eq_ok_iff.mpr ?_, rfl⟩
    rw [fromProfile_zero 0 hgenerated]
    exact (zeroJson_readsBack (.inl rfl)).1
  let stages : Fin 2 → Stage := fun _ => .looking false
  let finished := Function.update stages 0 (.finished (.ok profile))
  have hstart : (started emptyDisk : Store 2) =
      ⟨emptyDisk, Function.update stages 0 (.looking false)⟩ := by
    rw [started, Function.update_eq_self_iff.mpr rfl]
  have hcreated : ∃ next, (creators zeroJson zeroRandom zeroSuffix).run (started emptyDisk)
        (List.replicate 9 (.call 0 succeeds)) = ⟨next, finished⟩ ∧
      next.Device (utf8Bytes (zeroText "00") ++ [0x0a]) := by
    rw [hstart]
    exact run_create ⟨rfl, zeroBytes_length_le, rfl⟩ rfl rfl hgenerated hencoded
  obtain ⟨next, hcreate, hdevice⟩ := hcreated
  -- what the first process returns is what the second one loads
  have hreturned := (device_file_agreed emptyDisk (fun name inode hname => by cases hname)
    hsuffix (fun _ => rfl) hreads (List.replicate 9 (.call 0 succeeds))).1 0 profile
    (by rw [hcreate]; rfl)
  rw [hcreate] at hreturned
  obtain ⟨bytes, hbytes, hdecoded⟩ := hreturned
  rw [hbytes.unique hdevice] at hdecoded
  have hloaded : (creators zeroJson zeroRandom zeroSuffix).run
        ⟨next, Function.update finished 1 (.looking false)⟩
        (List.replicate 2 (.call 1 succeeds)) =
      ⟨next, Function.update finished 1 (.finished (.ok profile))⟩ :=
    run_load rfl hdevice (zeroBytes_length_le.trans (by decide)) hdecoded
  have hother : Function.update finished 1 (.looking false) = finished :=
    Function.update_eq_self_iff.mpr rfl
  rw [hother] at hloaded
  refine ⟨profile, ?_⟩
  rw [turns, Machine.run_append, hcreate, hloaded]
  exact ⟨rfl, rfl⟩

end Run

end Config
end Lirvena
