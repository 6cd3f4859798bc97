import Lirvena.Telemetry.ActivityRun
import Lirvena.Telemetry.Worker

/-!
# Active accounts of the telemetry worker

The worker changes its set of active accounts before it changes the count in the store, and
the store refuses a change that occurred before its last activity.  A flush moves that mark
to its own time, past the events that wait in the queue.  `Accepts` is when the store takes a
change; the count is the size of the set in the runs in which it takes every one.
-/

namespace Lirvena
namespace Telemetry

open Lib Account Lirvena.Runtime

/-! ## One change of the store -/

/-- The store takes an account that comes or leaves at a time. -/
structure Accepts (runtime : RuntimeState) (occurredAtMs : Nat) (active : Bool) : Prop where
  nonzero : occurredAtMs ≠ 0
  later : runtime.lastActivityMs ≤ occurredAtMs
  word : occurredAtMs < i64Bound
  room : active = true → runtime.activeAccounts + 1 < i64Bound
  days : active = false → runtime.activeAccounts = 1 → ∀ since,
    runtime.activeSinceMs = some since → occurredAtMs ≤ since ∨ occurredAtMs ≤ dayLimit

/-- What an open store keeps. -/
structure Live (runtime : RuntimeState) : Prop where
  mark : runtime.lastActivityMs ≠ 0
  word : runtime.lastActivityMs < i64Bound
  few : runtime.activeAccounts < i64Bound
  since : 0 < runtime.activeAccounts → ∃ since, runtime.activeSinceMs = some since ∧
    since ≠ 0 ∧ since ≤ runtime.lastActivityMs

theorem activePieces_ok_iff {cursor endedAtMs : Nat} (hnonzero : cursor ≠ 0) :
    (activePieces cursor endedAtMs).2 = .ok () ↔ endedAtMs ≤ cursor ∨ endedAtMs ≤ dayLimit := by
  fun_induction activePieces cursor endedAtMs with
  | case1 cursor hcursor error herror =>
      have hlimit : dayLimit ≤ cursor := by
        by_contra hday
        obtain ⟨boundary, hok⟩ : ∃ boundary, pieceBoundary cursor endedAtMs = .ok boundary :=
          pieceBoundary_isOk hnonzero (Nat.not_le.mp hday)
        cases herror.symm.trans hok
      simp only [reduceCtorEq, false_iff]
      omega
  | case2 cursor hcursor boundary hboundary ih =>
      have hadvance := lt_pieceBoundary hcursor hboundary
      obtain ⟨-, hday, hmin⟩ := pieceBoundary_eq_ok hboundary
      have hnext : (cursor / millisPerDay + 1) * millisPerDay ≤ dayLimit :=
        Nat.mul_le_mul_right _ hday
      rw [ih (by omega)]
      omega
  | case3 cursor hdone => simpa using .inl (Nat.not_lt.mp hdone)

/-- The statements of an operation change the runtime state all at once, or not at all. -/
theorem closeAndUpdate_runtime (database : Database) (closes : Bool) (endedAtMs : Nat)
    (update : Except TelemetryStoreError RuntimeState) :
    (∃ runtime, update = .ok runtime ∧
      (closes = true → (addActiveInterval database.runtime.activeSinceMs endedAtMs).2 = .ok ()) ∧
      (closeAndUpdate database closes endedAtMs update).1.runtime = runtime ∧
      (closeAndUpdate database closes endedAtMs update).2.result = .ok ()) ∨
    (¬ ((∃ runtime, update = .ok runtime) ∧
        (closes = true → (addActiveInterval database.runtime.activeSinceMs endedAtMs).2 = .ok ())) ∧
      (closeAndUpdate database closes endedAtMs update).1.runtime = database.runtime ∧
      (closeAndUpdate database closes endedAtMs update).2.result ≠ .ok ()) := by
  unfold closeAndUpdate
  cases closes with
  | false =>
      cases update with
      | ok runtime => exact .inl ⟨runtime, rfl, nofun, rfl, rfl⟩
      | error error =>
          refine .inr ⟨?_, rfl, nofun⟩
          rintro ⟨⟨runtime, hok⟩, -⟩
          cases hok
  | true =>
      simp only [if_true, forall_const]
      cases hclosed : (addActiveInterval database.runtime.activeSinceMs endedAtMs).2 with
      | ok _ =>
          cases update with
          | ok runtime => exact .inl ⟨runtime, rfl, rfl, rfl, rfl⟩
          | error error =>
              refine .inr ⟨?_, rfl, nofun⟩
              rintro ⟨⟨runtime, hok⟩, -⟩
              cases hok
      | error error =>
          refine .inr ⟨?_, rfl, nofun⟩
          rintro ⟨-, hok⟩
          cases hok

theorem toI64_isOk_iff {value : Nat} : (∃ stored, toI64 value = .ok stored) ↔ value < i64Bound := by
  simp only [tryI64_eq_ok_iff, exists_and_left, exists_eq, and_true]

theorem optionalI64_isOk_iff {value : Option Nat} :
    (∃ stored, optionalI64 value = .ok stored) ↔ ∀ word, value = some word → word < i64Bound := by
  cases value with
  | none => simp [optionalI64]
  | some word =>
      simp only [optionalI64, map_eq_ok_iff, Option.some.injEq, forall_eq']
      rw [← toI64_isOk_iff]
      constructor
      · rintro ⟨stored, inner, hinner, -⟩
        exact ⟨inner, hinner⟩
      · rintro ⟨inner, hinner⟩
        exact ⟨some inner, inner, hinner, rfl⟩

theorem activityUpdate_isOk_iff {next occurredAtMs : Nat} {activeSince : Option Nat} :
    (∃ runtime, activityUpdate next activeSince occurredAtMs = .ok runtime) ↔
      next < i64Bound ∧ (∀ since, activeSince = some since → since < i64Bound) ∧
        occurredAtMs < i64Bound := by
  rw [← toI64_isOk_iff, ← optionalI64_isOk_iff, ← toI64_isOk_iff]
  simp only [activityUpdate, bind_eq_ok_iff]
  constructor
  · rintro ⟨runtime, count, hcount, since, hsince, last, hlast, -⟩
    exact ⟨⟨count, hcount⟩, ⟨since, hsince⟩, ⟨last, hlast⟩⟩
  · rintro ⟨⟨count, hcount⟩, ⟨since, hsince⟩, ⟨last, hlast⟩⟩
    exact ⟨_, count, hcount, since, hsince, last, hlast, rfl⟩

/-- The number of accounts after one came or left. -/
def countAfter (runtime : RuntimeState) (active : Bool) : Nat :=
  if active then runtime.activeAccounts + 1 else runtime.activeAccounts - 1

/-- The runtime state after one account came or left. -/
def runtimeAfter (runtime : RuntimeState) (occurredAtMs : Nat) (active : Bool) : RuntimeState where
  activeAccounts := countAfter runtime active
  activeSinceMs := nextActiveSince runtime occurredAtMs active (countAfter runtime active)
  lastActivityMs := occurredAtMs

section Change

variable {database : Database} {occurredAtMs : Nat} {active : Bool}

theorem nextAccounts_eq (hlive : Live database.runtime)
    (hleave : active = false → 0 < database.runtime.activeAccounts) :
    nextAccounts database.runtime active = .ok (countAfter database.runtime active) := by
  have hfew := hlive.few
  have hbounds : i64Bound < u64Bound := by decide
  unfold nextAccounts countAfter
  cases active with
  | true =>
      rw [if_pos rfl, if_pos rfl]
      exact okOr_eq_ok_iff.mpr (checkedAddU64_eq_some_iff.mpr ⟨by omega, rfl⟩)
  | false =>
      rw [if_neg Bool.false_ne_true, if_neg (hleave rfl).ne', if_neg Bool.false_ne_true]
      rfl

/-- The last statement succeeds exactly for numbers that fit their columns. -/
theorem update_isOk_iff (hlive : Live database.runtime) (occurredAtMs : Nat) (active : Bool) :
    (∃ runtime, activityUpdate (countAfter database.runtime active)
        (nextActiveSince database.runtime occurredAtMs active (countAfter database.runtime active))
        occurredAtMs = .ok runtime) ↔
      occurredAtMs < i64Bound ∧
        (active = true → database.runtime.activeAccounts + 1 < i64Bound) := by
  have hfew := hlive.few
  have hword := hlive.word
  rw [activityUpdate_isOk_iff]
  constructor
  · rintro ⟨hcount, -, htime⟩
    refine ⟨htime, ?_⟩
    rintro rfl
    simpa [countAfter] using hcount
  · rintro ⟨htime, hroom⟩
    refine ⟨?_, ?_, htime⟩
    · unfold countAfter
      split
      · next hactive => exact hroom hactive
      · omega
    · intro since hsince
      unfold nextActiveSince at hsince
      split at hsince
      · cases hsince
        exact htime
      · split at hsince
        · cases hsince
        · next hfirst hlast =>
            -- The interval that is open stays open.
            have hactive : 0 < database.runtime.activeAccounts := by
              by_contra hidle
              cases active with
              | true => simp [Nat.eq_zero_of_not_pos hidle] at hfirst
              | false => simp [countAfter, Nat.eq_zero_of_not_pos hidle] at hlast
            obtain ⟨start, hstart, -, hle⟩ := hlive.since hactive
            cases hsince.symm.trans hstart
            omega

/-- The interval that is open can be closed exactly if the days of it fit their column. -/
theorem close_isOk_iff (hlive : Live database.runtime)
    (hleave : active = false → 0 < database.runtime.activeAccounts)
    (hlater : database.runtime.lastActivityMs ≤ occurredAtMs) :
    ((!active && countAfter database.runtime active = 0) = true →
        (addActiveInterval database.runtime.activeSinceMs occurredAtMs).2 = .ok ()) ↔
      (active = false → database.runtime.activeAccounts = 1 → ∀ since,
        database.runtime.activeSinceMs = some since →
          occurredAtMs ≤ since ∨ occurredAtMs ≤ dayLimit) := by
  cases active with
  | true => simp
  | false =>
      have hactive := hleave rfl
      obtain ⟨start, hstart, hnonzero, hle⟩ := hlive.since hactive
      have hcount : countAfter database.runtime false = 0 ↔
          database.runtime.activeAccounts = 1 := by
        unfold countAfter
        rw [if_neg (by decide)]
        omega
      have hinterval : (addActiveInterval (some start) occurredAtMs).2 = .ok () ↔
          occurredAtMs ≤ start ∨ occurredAtMs ≤ dayLimit := by
        rw [addActiveInterval, if_neg (by omega), activePieces_ok_iff hnonzero]
      simp only [Bool.not_false, Bool.true_and, decide_eq_true_eq, hcount, hstart, hinterval,
        Option.some.injEq, forall_eq', forall_const]

/-- The store takes a change, or it stays as it is. -/
theorem updateActivity_runtime (hlive : Live database.runtime)
    (hleave : active = false → 0 < database.runtime.activeAccounts) :
    (Accepts database.runtime occurredAtMs active ∧
      (updateActivity database occurredAtMs active).1.runtime =
        runtimeAfter database.runtime occurredAtMs active) ∨
    (¬ Accepts database.runtime occurredAtMs active ∧
      (updateActivity database occurredAtMs active).1.runtime = database.runtime) := by
  unfold updateActivity
  by_cases hzero : occurredAtMs = 0
  · rw [if_pos hzero]
    exact .inr ⟨fun haccepts => haccepts.nonzero hzero, rfl⟩
  · by_cases hbackward : occurredAtMs < database.runtime.lastActivityMs
    · rw [if_neg hzero, if_pos hbackward]
      exact .inr ⟨fun haccepts => Nat.not_lt.mpr haccepts.later hbackward, rfl⟩
    · have hlater := Nat.not_lt.mp hbackward
      rw [if_neg hzero, if_neg hbackward]
      simp only [nextAccounts_eq hlive hleave]
      have hclose := close_isOk_iff hlive hleave hlater
      have hupdate := update_isOk_iff hlive occurredAtMs active
      rcases closeAndUpdate_runtime database (!active && countAfter database.runtime active = 0)
        occurredAtMs (activityUpdate (countAfter database.runtime active)
          (nextActiveSince database.runtime occurredAtMs active
            (countAfter database.runtime active)) occurredAtMs) with
        ⟨runtime, hok, hclosed, hruntime, -⟩ | ⟨hrefused, hruntime, -⟩
      · obtain ⟨hword, hroom⟩ := hupdate.mp ⟨runtime, hok⟩
        rw [hruntime, activityUpdate_eq_ok hok]
        exact .inl ⟨⟨hzero, hlater, hword, hroom, hclose.mp hclosed⟩, rfl⟩
      · refine .inr ⟨?_, hruntime⟩
        intro haccepts
        exact hrefused ⟨hupdate.mpr ⟨haccepts.word, haccepts.room⟩, hclose.mpr haccepts.days⟩

/-- A change that is taken keeps the store open. -/
theorem Live.runtimeAfter (hlive : Live database.runtime)
    (hleave : active = false → 0 < database.runtime.activeAccounts)
    (haccepts : Accepts database.runtime occurredAtMs active) :
    Live (runtimeAfter database.runtime occurredAtMs active) where
  mark := haccepts.nonzero
  word := haccepts.word
  few := by
    have hfew := hlive.few
    show countAfter database.runtime active < i64Bound
    unfold countAfter
    split
    · next hactive => exact haccepts.room hactive
    · omega
  since := by
    intro hafter
    show ∃ since, nextActiveSince database.runtime occurredAtMs active
      (countAfter database.runtime active) = some since ∧ since ≠ 0 ∧ since ≤ occurredAtMs
    have hcount : countAfter database.runtime active ≠ 0 := Nat.pos_iff_ne_zero.mp hafter
    unfold nextActiveSince
    split
    · exact ⟨occurredAtMs, rfl, haccepts.nonzero, Nat.le_refl _⟩
    · next hfirst =>
        have hactive : 0 < database.runtime.activeAccounts := by
          cases active with
          | true => simpa [Nat.pos_iff_ne_zero] using hfirst
          | false => exact hleave rfl
        obtain ⟨start, hstart, hnonzero, hle⟩ := hlive.since hactive
        exact ⟨start, hstart, hnonzero, hle.trans haccepts.later⟩

end Change

/-! ## The set and the count -/

variable {Notice : Type*}

/-- The accounts whose last lifecycle event is active, after one more input. -/
def hearPhase (active : AccountLocalId → Bool) (input : TelemetryInput Notice) :
    AccountLocalId → Bool :=
  match input.action with
  | .start _ => fun _ => false
  | .received (.ok (.lifecycle localId phase _ _)) =>
      Function.update active localId (phase = .active)
  | _ => active

def activeAfter (history : List (TelemetryInput Notice)) : AccountLocalId → Bool :=
  history.foldl hearPhase fun _ => false

/-- The set of a running worker has the accounts whose last processed event is active. -/
def Tracked (history : List (TelemetryInput Notice)) (system : TelemetrySystem) : Prop :=
  ∀ worker, system.worker = some worker →
    ∀ localId, localId ∈ worker.activeAccounts ↔ activeAfter history localId = true

/-- The store counts the accounts in the set of a running worker. -/
def Counts (system : TelemetrySystem) : Prop :=
  ∀ worker, system.worker = some worker →
    system.database.runtime.activeAccounts = worker.activeAccounts.card

/-- The store of a running worker is open. -/
def Open (system : TelemetrySystem) : Prop :=
  system.worker ≠ none → Live system.database.runtime

/-- A lifecycle event that changes the set of a running worker comes in time for the store. -/
def InTime (system : TelemetrySystem) (input : TelemetryInput Notice) : Prop :=
  ∀ worker localId phase reason occurredAtMs, system.worker = some worker →
    input.action = .received (.ok (.lifecycle localId phase reason occurredAtMs)) →
      (localId ∈ worker.activeAccounts ↔ phase ≠ .active) →
        Accepts system.database.runtime occurredAtMs (phase = .active)

@[simp] theorem activeAfter_append (history : List (TelemetryInput Notice))
    (input : TelemetryInput Notice) :
    activeAfter (history ++ [input]) = hearPhase (activeAfter history) input := by
  simp [activeAfter]

theorem runtime_persist {database : ReportDatabase}
    {result : Except TelemetryStoreError ReportDatabase}
    (hresult : ∀ next, result = .ok next → next.runtime = database.runtime) :
    (persist database result).runtime = database.runtime := by
  cases result with
  | ok next => exact hresult next rfl
  | error error => rfl

theorem runtime_increment {database next : ReportDatabase} {occurredAtMs : Nat} {counter : Counter}
    (hok : database.increment occurredAtMs counter = .ok next) :
    next.runtime = database.runtime := by
  obtain ⟨day, -, hreturn⟩ := bind_eq_ok_iff.mp hok
  cases hreturn
  rfl

theorem runtime_observeGroupCount {database next : ReportDatabase} {occurredAtMs count : Nat}
    (hok : database.observeGroupCount occurredAtMs count = .ok next) :
    next.runtime = database.runtime := by
  obtain ⟨day, -, hcount⟩ := bind_eq_ok_iff.mp hok
  obtain ⟨stored, -, hreturn⟩ := bind_eq_ok_iff.mp hcount
  cases hreturn
  rfl

theorem runtime_observeAccountSet {database next : ReportDatabase} {occurredAtMs : Nat}
    {digest : List UInt8} (hok : database.observeAccountSet occurredAtMs digest = .ok next) :
    next.runtime = database.runtime := by
  obtain ⟨day, -, hreturn⟩ := bind_eq_ok_iff.mp hok
  cases hreturn
  rfl

theorem runtime_markSent {database next : ReportDatabase} {day acceptedAtMs : Nat}
    (hok : database.markSent day acceptedAtMs = .ok next) : next.runtime = database.runtime := by
  simp only [ReportDatabase.markSent, bind_eq_ok_iff] at hok
  obtain ⟨acceptedDay, -, checked, -, stored, -, found, -, hreturn⟩ := hok
  cases hreturn
  rfl

/-- Submitting reports leaves the activity as it is. -/
theorem runtime_submitReports (installation : Installation) (generatedAtMs attempts : Nat)
    (answers : List SubmitAnswer) (database : ReportDatabase) :
    (submitReports installation generatedAtMs attempts answers database).database.runtime =
      database.runtime := by
  induction attempts generalizing answers database with
  | zero => rfl
  | succ attempts ih =>
      unfold submitReports
      split
      · rfl
      · rfl
      · split
        · rfl
        · rfl
        · rfl
        · split
          · rfl
          · next hmarked => exact (ih _ _).trans (runtime_markSent hmarked)

/-- The set after an account entered a phase. -/
def membersAfter (members : Finset AccountLocalId) (localId : AccountLocalId)
    (phase : AccountPhase) : Finset AccountLocalId :=
  if phase = .active then insert localId members else members.erase localId

/-- A lifecycle event changes the set and the store, or neither. -/
theorem recordLifecycle_cases (database : ReportDatabase) (worker : Worker)
    (localId : AccountLocalId) (phase : AccountPhase) (occurredAtMs : Nat) :
    (¬ (localId ∈ worker.activeAccounts ↔ phase ≠ .active) ∧
      membersAfter worker.activeAccounts localId phase = worker.activeAccounts ∧
      recordLifecycle database worker localId phase occurredAtMs = (database, worker)) ∨
    ((localId ∈ worker.activeAccounts ↔ phase ≠ .active) ∧
      recordLifecycle database worker localId phase occurredAtMs =
        ((setAccountActive database occurredAtMs (phase = .active)).1,
          { worker with
            activeAccounts := membersAfter worker.activeAccounts localId phase })) := by
  unfold recordLifecycle membersAfter
  by_cases hphase : phase = .active
  · by_cases hmem : localId ∈ worker.activeAccounts
    · exact .inl ⟨by simp [hphase, hmem], by simp [hphase, hmem], by simp [hphase, hmem]⟩
    · exact .inr ⟨by simp [hphase, hmem], by simp [hphase, hmem]⟩
  · by_cases hmem : localId ∈ worker.activeAccounts
    · exact .inr ⟨by simp [hphase, hmem], by simp [hphase, hmem]⟩
    · exact .inl ⟨by simp [hphase, hmem], by simp [hphase, hmem], by simp [hphase, hmem]⟩

theorem mem_membersAfter {members : Finset AccountLocalId} {localId other : AccountLocalId}
    {phase : AccountPhase} :
    other ∈ membersAfter members localId phase ↔
      if other = localId then phase = .active else other ∈ members := by
  unfold membersAfter
  by_cases hphase : phase = .active
  · by_cases hsame : other = localId
    · simp [hphase, hsame]
    · simp [hphase, hsame]
  · by_cases hsame : other = localId
    · simp [hphase, hsame]
    · simp [hphase, hsame]

/-- A change of the set changes its size by one, as the store would count it. -/
theorem card_membersAfter {members : Finset AccountLocalId} {localId : AccountLocalId}
    {phase : AccountPhase} (hchanges : localId ∈ members ↔ phase ≠ .active) :
    (membersAfter members localId phase).card =
      if phase = .active then members.card + 1 else members.card - 1 := by
  unfold membersAfter
  by_cases hphase : phase = .active
  · have hnew : localId ∉ members := fun hmem => hchanges.mp hmem hphase
    rw [if_pos hphase, if_pos hphase, Finset.card_insert_of_notMem hnew]
  · rw [if_neg hphase, if_neg hphase, Finset.card_erase_of_mem (hchanges.mpr hphase)]

theorem card_pos_of_leaves {members : Finset AccountLocalId} {localId : AccountLocalId}
    {phase : AccountPhase} (hchanges : localId ∈ members ↔ phase ≠ .active)
    (hleaves : decide (phase = .active) = false) : 0 < members.card :=
  Finset.card_pos.mpr ⟨localId, hchanges.mpr (of_decide_eq_false hleaves)⟩

theorem recordEvent_other (database : ReportDatabase) (worker : Worker) (nowMs : Option Nat)
    {event : AccountEvent Notice}
    (hother : ∀ localId phase reason occurredAtMs,
      event ≠ .lifecycle localId phase reason occurredAtMs) :
    (recordEvent database worker nowMs event).1.runtime = database.runtime ∧
      (recordEvent database worker nowMs event).2.activeAccounts = worker.activeAccounts := by
  cases event with
  | identityReady localId identity => exact ⟨rfl, rfl⟩
  | notice notice => exact ⟨rfl, rfl⟩
  | message message =>
      refine ⟨runtime_persist ?_, rfl⟩
      intro next hok
      obtain ⟨time, -, hreceived⟩ := bind_eq_ok_iff.mp hok
      exact runtime_increment hreceived
  | outboundMessageAccepted localId occurredAtMs =>
      exact ⟨runtime_persist fun next hok => runtime_increment hok, rfl⟩
  | groupCountObserved localId count occurredAtMs =>
      refine ⟨runtime_persist ?_, rfl⟩
      intro next hok
      obtain ⟨total, -, hobserved⟩ := bind_eq_ok_iff.mp hok
      exact runtime_observeGroupCount hobserved
  | lifecycle localId phase reason occurredAtMs =>
      exact absurd rfl (hother localId phase reason occurredAtMs)

/-- A flush keeps the number of active accounts, and an open store open. -/
theorem flush_runtime (installation : Installation) (nowMs : Option Nat)
    (answers : List SubmitAnswer) {database : ReportDatabase} (hlive : Live database.runtime) :
    (flush installation nowMs answers database).database.runtime.activeAccounts =
        database.runtime.activeAccounts ∧
      Live (flush installation nowMs answers database).database.runtime := by
  cases nowMs with
  | none => exact ⟨rfl, hlive⟩
  | some generatedAtMs =>
      have hruntime : Live (runActivity (.checkpointActivity generatedAtMs) database).1.runtime ∧
          (runActivity (.checkpointActivity generatedAtMs) database).1.runtime.activeAccounts =
            database.runtime.activeAccounts := by
        show Live (checkpointActivity database.activity generatedAtMs).1.runtime ∧
          (checkpointActivity database.activity generatedAtMs).1.runtime.activeAccounts =
            database.runtime.activeAccounts
        unfold checkpointActivity
        split
        · exact ⟨hlive, rfl⟩
        · next hlater =>
            rcases closeAndUpdate_runtime database.activity
              (0 < database.activity.runtime.activeAccounts) generatedAtMs
              (checkpointUpdate database.activity.runtime generatedAtMs) with
              ⟨runtime, hok, -, hruntime, -⟩ | ⟨-, hruntime, -⟩
            · rw [hruntime, checkpointUpdate_eq_ok hok]
              obtain ⟨stored, hstored, -⟩ := bind_eq_ok_iff.mp hok
              refine ⟨⟨?_, (tryI64_eq_ok_iff.mp hstored).1, hlive.few, ?_⟩, rfl⟩
              · have hmark := hlive.mark
                have hnow : ¬ generatedAtMs < database.runtime.lastActivityMs := hlater
                show generatedAtMs ≠ 0
                omega
              · intro hactive
                have hnow : ¬ generatedAtMs < database.runtime.lastActivityMs := hlater
                have hmark := hlive.mark
                have hpos : 0 < database.activity.runtime.activeAccounts := hactive
                exact ⟨generatedAtMs, if_pos hpos, by omega, Nat.le_refl _⟩
            · rw [hruntime]
              exact ⟨hlive, rfl⟩
      unfold flush
      dsimp only
      split
      · next database' error hchecked =>
          rw [hchecked] at hruntime
          exact ⟨hruntime.2, hruntime.1⟩
      · next database' hchecked =>
          rw [hchecked] at hruntime
          rw [runtime_submitReports]
          exact ⟨hruntime.2, hruntime.1⟩

/-- A store that was opened has no active account. -/
theorem startWorker_runtime {nowMs : Option Nat} {digest : List UInt8}
    {database next : ReportDatabase} {worker : Worker}
    (hstart : startWorker nowMs digest database = (next, some worker)) :
    worker = .started ∧ next.runtime.activeAccounts = 0 ∧ Live next.runtime := by
  cases nowMs with
  | none => cases hstart
  | some openedAtMs =>
      unfold startWorker at hstart
      dsimp only at hstart
      split at hstart
      · cases hstart
      · next opened hopened =>
          split at hstart
          · cases hstart
          · next observed hobserved =>
              cases hstart
              have hresult := congrArg Prod.snd hopened
              have hruntime := congrArg (ReportDatabase.runtime ∘ Prod.fst) hopened
              have hsame := runtime_observeAccountSet hobserved
              simp only [runActivity, applyOp, openStore, Function.comp_apply] at hresult hruntime
              split at hresult
              · cases hresult
              · next hnonzero =>
                  rw [if_neg hnonzero] at hruntime
                  unfold closeStaleActiveInterval at hresult hruntime
                  rcases closeAndUpdate_runtime database.activity
                    (0 < database.activity.runtime.activeAccounts) openedAtMs
                    (staleUpdate openedAtMs) with
                    ⟨runtime, hok, -, hchanged, -⟩ | ⟨-, -, hfailed⟩
                  · obtain ⟨stored, hstored, -⟩ := bind_eq_ok_iff.mp hok
                    have hbound : 0 < i64Bound := by decide
                    rw [hsame, ← hruntime, hchanged, staleUpdate_eq_ok hok]
                    have hnobody : ¬ (0 < 0) := Nat.lt_irrefl 0
                    refine ⟨rfl, rfl, hnonzero, (tryI64_eq_ok_iff.mp hstored).1, hbound, ?_⟩
                    exact fun hactive => absurd hactive hnobody
                  · exact absurd hresult hfailed

section Step

variable {installation : Installation} {system : TelemetrySystem} {input : TelemetryInput Notice}

theorem act_tick (installation : Installation) {worker : Worker} {answers : List SubmitAnswer}
    (hworker : system.worker = some worker) (haction : input.action = .tick answers) :
    system.act installation input = { system with
      database := (flush installation input.nowMs answers system.database).database
      worker := if (flush installation input.nowMs answers system.database).survives then
        some worker else none
      reports := system.reports ++
        (flush installation input.nowMs answers system.database).submissions } := by
  simp [TelemetrySystem.act, haction, hworker]

theorem act_received (installation : Installation) {worker : Worker} {event : AccountEvent Notice}
    (hworker : system.worker = some worker) (haction : input.action = .received (.ok event)) :
    system.act installation input = { system with
      database := (recordEvent system.database worker input.nowMs event).1
      worker := some (recordEvent system.database worker input.nowMs event).2 } := by
  simp [TelemetrySystem.act, haction, hworker]

/-- A step that is no start and no lifecycle event leaves the set of a worker that goes on,
and the count of an open store. -/
theorem act_other
    (hother : ∀ localId phase reason occurredAtMs,
      input.action ≠ .received (.ok (.lifecycle localId phase reason occurredAtMs)))
    (hcontinues : ∀ digest, input.action ≠ .start digest) {worker : Worker}
    (hworker : (system.act installation input).worker = some worker) :
    ∃ before, system.worker = some before ∧ worker.activeAccounts = before.activeAccounts ∧
      (Live system.database.runtime →
        (system.act installation input).database.runtime.activeAccounts =
            system.database.runtime.activeAccounts ∧
          Live (system.act installation input).database.runtime) := by
  cases hrunning : system.worker with
  | none =>
      cases haction : input.action with
      | start digest => exact absurd haction (hcontinues digest)
      | shutdown => simp [TelemetrySystem.act, haction, hrunning] at hworker
      | tick answers => simp [TelemetrySystem.act, haction, hrunning] at hworker
      | received answer => simp [TelemetrySystem.act, haction, hrunning] at hworker
  | some before =>
      cases haction : input.action with
      | start digest => exact absurd haction (hcontinues digest)
      | shutdown => simp [TelemetrySystem.act, haction, hrunning] at hworker
      | tick answers =>
          rw [act_tick installation hrunning haction] at hworker ⊢
          dsimp only at hworker
          split at hworker
          · cases hworker
            exact ⟨_, rfl, rfl, flush_runtime installation input.nowMs answers⟩
          · cases hworker
      | received answer =>
          cases answer with
          | error error =>
              cases error with
              | closed => simp [TelemetrySystem.act, haction, hrunning] at hworker
              | lagged =>
                  have hact : system.act installation input = system := by
                    simp [TelemetrySystem.act, haction, hrunning]
                  rw [hact] at hworker ⊢
                  cases hrunning.symm.trans hworker
                  exact ⟨_, rfl, rfl, fun hlive => ⟨rfl, hlive⟩⟩
          | ok event =>
              have hevent := recordEvent_other system.database before input.nowMs
                (fun localId phase reason occurredAtMs (hsame : event = _) =>
                  hother localId phase reason occurredAtMs (by rw [haction, hsame]))
              rw [act_received installation hrunning haction] at hworker ⊢
              cases hworker
              rw [hevent.1]
              exact ⟨_, rfl, hevent.2, fun hlive => ⟨rfl, hlive⟩⟩

theorem act_start {digest : List UInt8} (haction : input.action = .start digest) {worker : Worker}
    (hworker : (system.act installation input).worker = some worker) :
    worker = .started ∧ (system.act installation input).database.runtime.activeAccounts = 0 ∧
      Live (system.act installation input).database.runtime := by
  have hact : system.act installation input = { system with
      database := (startWorker input.nowMs digest system.database).1
      worker := (startWorker input.nowMs digest system.database).2 } := by
    simp [TelemetrySystem.act, haction]
  rw [hact] at hworker ⊢
  exact startWorker_runtime (Prod.ext rfl hworker)

/-- The set follows the events whatever the store does. -/
theorem tracked_act {history : List (TelemetryInput Notice)} (htracked : Tracked history system) :
    Tracked (history ++ [input]) (system.act installation input) := by
  intro worker hworker localId
  rw [activeAfter_append]
  by_cases hstart : ∃ digest, input.action = .start digest
  · obtain ⟨digest, haction⟩ := hstart
    obtain ⟨rfl, -⟩ := act_start haction hworker
    simp [Worker.started, hearPhase, haction]
  · by_cases hevent : ∃ localId phase reason occurredAtMs,
      input.action = .received (.ok (.lifecycle localId phase reason occurredAtMs))
    · obtain ⟨moved, phase, reason, occurredAtMs, haction⟩ := hevent
      cases hrunning : system.worker with
      | none => simp [TelemetrySystem.act, haction, hrunning] at hworker
      | some before =>
          rw [act_received installation hrunning haction] at hworker
          cases hworker
          have hmembers : (recordLifecycle system.database before moved phase
              occurredAtMs).2.activeAccounts =
                membersAfter before.activeAccounts moved phase := by
            rcases recordLifecycle_cases system.database before moved phase occurredAtMs with
              ⟨-, hsame, hrecord⟩ | ⟨-, hrecord⟩
            · rw [hrecord, hsame]
            · rw [hrecord]
          show localId ∈ (recordLifecycle system.database before moved phase
            occurredAtMs).2.activeAccounts ↔ _
          rw [hmembers, mem_membersAfter]
          simp only [hearPhase, haction, Function.update_apply]
          by_cases hsame : localId = moved
          · simp [hsame]
          · simp only [hsame, if_false]
            exact htracked before hrunning localId
    · push Not at hstart hevent
      obtain ⟨before, hrunning, hmembers, -⟩ := act_other hevent hstart hworker
      rw [hmembers, htracked before hrunning localId]
      have hheard : hearPhase (activeAfter history) input = activeAfter history := by
        unfold hearPhase
        split
        · next digest haction => exact absurd haction (hstart digest)
        · next haction => exact absurd haction (hevent _ _ _ _)
        · rfl
      rw [hheard]

/-- What the runs keep in which every change comes in time. -/
structure InStep (system : TelemetrySystem) : Prop where
  counts : Counts system
  live : Open system

/-- The change of a running worker, taken by the store or not. -/
theorem act_change (installation : Installation) {worker : Worker} {localId : AccountLocalId}
    {phase : AccountPhase}
    {reason : Option ProtectiveReason} {occurredAtMs : Nat} (hstep : InStep system)
    (hworker : system.worker = some worker)
    (haction : input.action = .received (.ok (.lifecycle localId phase reason occurredAtMs)))
    (hchanges : localId ∈ worker.activeAccounts ↔ phase ≠ .active) :
    (system.act installation input).worker = some { worker with
        activeAccounts := membersAfter worker.activeAccounts localId phase } ∧
      ((Accepts system.database.runtime occurredAtMs (phase = .active) ∧
        (system.act installation input).database.runtime =
          runtimeAfter system.database.runtime occurredAtMs (phase = .active)) ∨
      (¬ Accepts system.database.runtime occurredAtMs (phase = .active) ∧
        (system.act installation input).database.runtime = system.database.runtime)) := by
  have hlive := hstep.live (by simp [hworker])
  have hcount := hstep.counts worker hworker
  rcases recordLifecycle_cases system.database worker localId phase occurredAtMs with
    ⟨hnone, -⟩ | ⟨-, hrecord⟩
  · exact absurd hchanges hnone
  · have hevent : recordEvent system.database worker input.nowMs
        (.lifecycle localId phase reason occurredAtMs : AccountEvent Notice) =
          recordLifecycle system.database worker localId phase occurredAtMs := rfl
    rw [act_received installation hworker haction, hevent, hrecord]
    refine ⟨rfl, ?_⟩
    refine updateActivity_runtime (show Live system.database.activity.runtime from hlive) ?_
    intro hleaves
    have hpositive := card_pos_of_leaves hchanges hleaves
    rw [← hcount] at hpositive
    exact hpositive

theorem inStep_act (hstep : InStep system) (hinTime : InTime system input) :
    InStep (system.act installation input) := by
  by_cases hstart : ∃ digest, input.action = .start digest
  · obtain ⟨digest, haction⟩ := hstart
    constructor
    · intro worker hworker
      obtain ⟨rfl, hcount, -⟩ := act_start haction hworker
      rw [hcount]
      rfl
    · intro hrunning
      obtain ⟨worker, hworker⟩ := Option.ne_none_iff_exists'.mp hrunning
      exact (act_start haction hworker).2.2
  · by_cases hevent : ∃ localId phase reason occurredAtMs,
      input.action = .received (.ok (.lifecycle localId phase reason occurredAtMs))
    · obtain ⟨moved, phase, reason, occurredAtMs, haction⟩ := hevent
      cases hrunning : system.worker with
      | none =>
          have hact : system.act installation input = system := by
            simp [TelemetrySystem.act, haction, hrunning]
          rw [hact]
          exact hstep
      | some worker =>
          have hlive := hstep.live (by simp [hrunning])
          have hcount := hstep.counts worker hrunning
          by_cases hchanges : moved ∈ worker.activeAccounts ↔ phase ≠ .active
          · have haccepts :=
              hinTime worker moved phase reason occurredAtMs hrunning haction hchanges
            obtain ⟨hafter, hruntime⟩ :=
              act_change installation hstep hrunning haction hchanges
            have hruntime := (hruntime.resolve_right fun hrefused => hrefused.1 haccepts).2
            have hleave : decide (phase = .active) = false →
                0 < system.database.runtime.activeAccounts := by
              intro hleaves
              rw [hcount]
              exact card_pos_of_leaves hchanges hleaves
            constructor
            · intro next hnext
              cases hafter.symm.trans hnext
              rw [hruntime]
              show countAfter system.database.runtime (phase = .active) =
                (membersAfter worker.activeAccounts moved phase).card
              rw [card_membersAfter hchanges, countAfter, hcount]
              by_cases hphase : phase = .active
              · simp [hphase]
              · simp [hphase]
            · intro _
              rw [hruntime]
              exact Live.runtimeAfter (show Live system.database.activity.runtime from hlive) hleave
                haccepts
          · have hact : (system.act installation input).database = system.database ∧
                (system.act installation input).worker = some worker := by
              rcases recordLifecycle_cases system.database worker moved phase occurredAtMs with
                ⟨-, -, hrecord⟩ | ⟨hthere, -⟩
              · simp [TelemetrySystem.act, haction, hrunning, recordEvent, hrecord]
              · exact absurd hthere hchanges
            constructor
            · intro next hnext
              cases hact.2.symm.trans hnext
              rw [hact.1]
              exact hcount
            · intro _
              rw [hact.1]
              exact hlive
    · push Not at hstart hevent
      constructor
      · intro worker hworker
        obtain ⟨before, hrunning, hmembers, hstore⟩ := act_other hevent hstart hworker
        rw [hmembers, (hstore (hstep.live (by simp [hrunning]))).1]
        exact hstep.counts before hrunning
      · intro hafter
        obtain ⟨worker, hworker⟩ := Option.ne_none_iff_exists'.mp hafter
        obtain ⟨before, hrunning, -, hstore⟩ := act_other hevent hstart hworker
        exact (hstore (hstep.live (by simp [hrunning]))).2

/-- A change that comes too late is made to the set and not to the store. -/
theorem not_counts_act (hstep : InStep system) (hlate : ¬ InTime system input) :
    ¬ Counts (system.act installation input) := by
  unfold InTime at hlate
  push Not at hlate
  obtain ⟨worker, moved, phase, reason, occurredAtMs, hrunning, haction, hchanges,
    hrefused⟩ := hlate
  intro hcounts
  obtain ⟨hafter, hruntime⟩ :=
    act_change installation hstep hrunning haction hchanges
  have hruntime := (hruntime.resolve_left fun haccepted => hrefused haccepted.1).2
  have hcount := hcounts _ hafter
  have hbefore := hstep.counts worker hrunning
  rw [hruntime, hbefore, card_membersAfter hchanges] at hcount
  by_cases hphase : phase = .active
  · rw [if_pos hphase] at hcount
    omega
  · have hpositive := card_pos_of_leaves hchanges (decide_eq_false hphase)
    rw [if_neg hphase] at hcount
    omega

end Step

/-! ## Runs -/

/-- After every input, the set of a running worker has the accounts whose last processed
lifecycle event is active, and the store counts them. -/
def Consistent (history : List (TelemetryInput Notice)) (system : TelemetrySystem) : Prop :=
  Tracked history system ∧ Counts system

theorem tracked_run (installation : Installation) (inputs : List (TelemetryInput Notice)) :
    Tracked inputs ((telemetry installation).run .installed inputs) := by
  induction inputs using List.reverseRecOn with
  | nil =>
      intro worker hworker
      cases hworker
  | append_singleton inputs input ih =>
      rw [Machine.run_append]
      exact tracked_act ih

theorem inStep_installed : InStep .installed where
  counts := by
    intro worker hworker
    cases hworker
  live := fun hrunning => absurd rfl hrunning

/-- The store counts the active accounts after every input exactly if each change of the set
comes in time for the store. -/
theorem consistent_iff_inTime (installation : Installation)
    (inputs : List (TelemetryInput Notice)) :
    (∀ reached, reached <+: inputs →
      Consistent reached ((telemetry installation).run .installed reached)) ↔
        (telemetry installation).Guarded InTime .installed inputs := by
  have hcounts := (telemetry installation).forall_reached_iff_guarded inStep_installed
    (fun _ (_ : TelemetryInput Notice) hstep hinTime =>
      show InStep _ from ⟨(inStep_act hstep hinTime).counts, (inStep_act hstep hinTime).live⟩)
    (fun _ hstep => hstep.counts) (fun _ _ hstep hlate => not_counts_act hstep hlate) inputs
  rw [← hcounts]
  refine forall_congr' fun reached => forall_congr' fun _ => ?_
  exact and_iff_right (tracked_run installation reached)

/-- An installation with a digest that keeps the day apart. -/
def sampleInstallation : Installation where
  id := .replicate 16 7
  sha256 preimage := preimage.reverse.take 32

/-- The account of the example. -/
def firstAccount : AccountLocalId :=
  ⟨List.replicate 16 1, ones_length⟩

/-- A flush falls between the time at which an account came and the event's turn. -/
def flushedBefore : List (TelemetryInput Empty) :=
  [⟨1000, true, .start []⟩, ⟨61000, true, .tick []⟩,
    ⟨61001, true, .received (.ok (.lifecycle firstAccount .active none 60999))⟩]

/-- The account is in the set and the store counts none. -/
theorem flush_drops_account :
    let system := (telemetry sampleInstallation).run .installed flushedBefore
    system.worker.map Worker.activeAccounts = some {firstAccount} ∧
      system.database.runtime.activeAccounts = 0 ∧ ¬ Consistent flushedBefore system := by
  have hset :
      ((telemetry sampleInstallation).run .installed flushedBefore).worker.map
        Worker.activeAccounts = some {firstAccount} := by
    decide
  have hcount :
      ((telemetry sampleInstallation).run .installed flushedBefore).database.runtime.activeAccounts
        = 0 := by
    decide
  refine ⟨hset, hcount, ?_⟩
  rintro ⟨-, hcounts⟩
  obtain ⟨worker, hworker, hmembers⟩ := Option.map_eq_some_iff.mp hset
  have hcard := hcounts worker hworker
  rw [hcount, hmembers, Finset.card_singleton] at hcard
  cases hcard

end Telemetry
end Lirvena
