import Lirvena.Telemetry.WorkerRun

/-!
# Reports of the telemetry worker

A completed day is reported once the clock has passed it.  Activity is brought up to the
flush before anything is reported, so that no time is added to a reported day afterwards;
`frontier` is where the next time can be added.  A message or a group count is written under
the time that its event carries, and such an event may still be in the queue.

`Delivered` is what a report should keep: the counts it was made from, the same content under
the same id, and a mark only on what was accepted.  The id is a digest, of which
`CollisionFree` says that it keeps the days of an installation apart.
-/

namespace Lirvena
namespace Telemetry

open Lib Account Lirvena.Runtime

/-! ## Rows -/

/-- The counts of a row, without the mark of its report. -/
def DayRow.unmarked (row : DayRow) : DayRow :=
  { row with sentAtMs := none }

/-- The rows of some days are left as they are, and no other row is marked. -/
structure Untouched (reported : Nat → Prop) (before after : List DayRow) : Prop where
  kept : ∀ row, reported row.utcDay → (row ∈ after ↔ row ∈ before)
  marked : ∀ row ∈ after, row.sentAtMs ≠ none →
    ∃ old ∈ before, old.utcDay = row.utcDay ∧ old.sentAtMs ≠ none
  nodup : (before.map DayRow.utcDay).Nodup → (after.map DayRow.utcDay).Nodup
  days : (∀ row ∈ before, row.utcDay < u32Bound) → ∀ row ∈ after, row.utcDay < u32Bound

namespace Untouched

variable {reported : Nat → Prop} {before middle after : List DayRow}

theorem refl (rows : List DayRow) : Untouched reported rows rows where
  kept := fun _ _ => Iff.rfl
  marked := fun row hrow hmarked => ⟨row, hrow, rfl, hmarked⟩
  nodup := id
  days := id

theorem trans (hfirst : Untouched reported before middle)
    (hsecond : Untouched reported middle after) : Untouched reported before after where
  kept := fun row hreported => (hsecond.kept row hreported).trans (hfirst.kept row hreported)
  marked := by
    intro row hrow hmarked
    obtain ⟨between, hbetween, hday, hold⟩ := hsecond.marked row hrow hmarked
    obtain ⟨old, hmem, hsame, holder⟩ := hfirst.marked between hbetween hold
    exact ⟨old, hmem, hsame.trans hday, holder⟩
  nodup := hsecond.nodup ∘ hfirst.nodup
  days := hsecond.days ∘ hfirst.days

end Untouched

section Rows

variable {reported : Nat → Prop} {daily : List DayRow} {day : Nat}

theorem mem_ensureRow {row : DayRow} :
    row ∈ ensureRow daily day ↔
      row ∈ daily ∨ (row = .fresh day ∧ ∀ other ∈ daily, other.utcDay ≠ day) := by
  unfold ensureRow
  split
  · next hthere =>
      obtain ⟨other, hother, hday⟩ := List.any_eq_true.mp hthere
      constructor
      · exact .inl
      · rintro (hrow | ⟨-, hnone⟩)
        · exact hrow
        · exact absurd (of_decide_eq_true hday) (hnone other hother)
  · next hmissing =>
      have hnone : ∀ other ∈ daily, other.utcDay ≠ day := by simpa using hmissing
      simp only [List.mem_append, List.mem_singleton]
      exact or_congr_right ⟨fun heq => ⟨heq, hnone⟩, And.left⟩

theorem untouched_ensureRow (hreported : ¬ reported day) (hday : day < u32Bound) :
    Untouched reported daily (ensureRow daily day) where
  kept := by
    intro row hrow
    rw [mem_ensureRow]
    constructor
    · rintro (hmem | ⟨rfl, -⟩)
      · exact hmem
      · exact absurd hrow hreported
    · exact .inl
  marked := by
    intro row hrow hmarked
    rcases mem_ensureRow.mp hrow with hmem | ⟨rfl, -⟩
    · exact ⟨row, hmem, rfl, hmarked⟩
    · exact absurd rfl hmarked
  nodup := by
    intro hnodup
    unfold ensureRow
    split
    · exact hnodup
    · next hmissing =>
        have hnone : ∀ other ∈ daily, other.utcDay ≠ day := by simpa using hmissing
        rw [List.map_append, List.nodup_append]
        refine ⟨hnodup, by simp, ?_⟩
        intro first hfirst second hsecond
        obtain ⟨row, hrow, rfl⟩ := List.mem_map.mp hfirst
        obtain rfl : second = day := by simpa [DayRow.fresh] using hsecond
        exact hnone row hrow
  days := by
    intro hdays row hrow
    rcases mem_ensureRow.mp hrow with hmem | ⟨rfl, -⟩
    · exact hdays row hmem
    · exact hday

theorem map_utcDay_updateRow {update : DayRow → DayRow}
    (hday : ∀ row, (update row).utcDay = row.utcDay) :
    (updateRow daily day update).map DayRow.utcDay = daily.map DayRow.utcDay := by
  rw [updateRow, List.map_map]
  refine List.map_congr_left fun row _ => ?_
  simp only [Function.comp_apply]
  split
  · exact hday row
  · rfl

theorem untouched_updateRow {update : DayRow → DayRow} (hreported : ¬ reported day)
    (hday : ∀ row, (update row).utcDay = row.utcDay)
    (hmark : ∀ row, (update row).sentAtMs = row.sentAtMs) :
    Untouched reported daily (updateRow daily day update) where
  kept := by
    intro row hrow
    unfold updateRow
    rw [List.mem_map]
    constructor
    · rintro ⟨old, hold, rfl⟩
      by_cases hsame : old.utcDay = day
      · rw [if_pos hsame, hday, hsame] at hrow
        exact absurd hrow hreported
      · rw [if_neg hsame]
        exact hold
    · intro hmem
      refine ⟨row, hmem, if_neg ?_⟩
      rintro rfl
      exact hreported hrow
  marked := by
    intro row hrow hmarked
    obtain ⟨old, hold, rfl⟩ := List.mem_map.mp hrow
    by_cases hsame : old.utcDay = day
    · rw [if_pos hsame, hmark] at hmarked
      exact ⟨old, hold, by rw [if_pos hsame, hday], hmarked⟩
    · rw [if_neg hsame] at hmarked ⊢
      exact ⟨old, hold, rfl, hmarked⟩
  nodup := by
    rw [map_utcDay_updateRow hday]
    exact id
  days := by
    intro hdays row hrow
    have hmem : row.utcDay ∈ (updateRow daily day update).map DayRow.utcDay :=
      List.mem_map_of_mem hrow
    rw [map_utcDay_updateRow hday] at hmem
    obtain ⟨old, hold, hsame⟩ := List.mem_map.mp hmem
    rw [← hsame]
    exact hdays old hold

theorem untouched_writeRow {update : DayRow → DayRow} (hreported : ¬ reported day)
    (hbound : day < u32Bound) (hday : ∀ row, (update row).utcDay = row.utcDay)
    (hmark : ∀ row, (update row).sentAtMs = row.sentAtMs) :
    Untouched reported daily (writeRow daily day update) :=
  (untouched_ensureRow hreported hbound).trans (untouched_updateRow hreported hday hmark)

/-- A row that an update leaves as it is. -/
theorem writeRow_eq_self {update : DayRow → DayRow} (hthere : ∃ row ∈ daily, row.utcDay = day)
    (hsame : ∀ row ∈ daily, row.utcDay = day → update row = row) :
    writeRow daily day update = daily := by
  have hensured : ensureRow daily day = daily := by
    rw [ensureRow, if_pos (by simpa using hthere)]
  rw [writeRow, hensured, updateRow]
  calc
    daily.map (fun row => if row.utcDay = day then update row else row) = daily.map id := by
      refine List.map_congr_left fun row hrow => ?_
      split
      · next hday => exact hsame row hrow hday
      · rfl
    _ = daily := List.map_id daily

theorem untouched_pieces {pieces : List Interval}
    (hpieces : ∀ piece ∈ pieces, ¬ reported (piece.start / millisPerDay) ∧
      piece.start / millisPerDay < u32Bound) :
    Untouched reported daily (pieces.foldl addActivePiece daily) := by
  induction pieces generalizing daily with
  | nil => exact .refl daily
  | cons piece rest ih =>
      obtain ⟨hpiece, hrest⟩ := List.forall_mem_cons.mp hpieces
      have hwritten : Untouched reported daily (addActivePiece daily piece) :=
        untouched_writeRow hpiece.1 hpiece.2 (fun _ => rfl) (fun _ => rfl)
      exact hwritten.trans (ih hrest)

end Rows

theorem utcDay_eq_ok_iff {timestampMs day : Nat} : utcDay timestampMs = .ok day ↔
    timestampMs ≠ 0 ∧ day = timestampMs / millisPerDay ∧ day < u32Bound := by
  simp only [utcDay, bind_eq_ok_iff]
  constructor
  · rintro ⟨nonzero, hnonzero, fits, hfits, hreturn⟩
    cases hreturn
    exact ⟨rejectIf_eq_ok_iff.mp hnonzero, rfl, Nat.not_le.mp (rejectIf_eq_ok_iff.mp hfits)⟩
  · rintro ⟨hnonzero, rfl, hbound⟩
    exact ⟨(), rejectIf_eq_ok_iff.mpr hnonzero, (),
      rejectIf_eq_ok_iff.mpr (Nat.not_le.mpr hbound), rfl⟩

section Signals

variable {reported : Nat → Prop} {database next : ReportDatabase} {occurredAtMs : Nat}

/-- A signal is written under its own day and nowhere else. -/
theorem untouched_increment {counter : Counter}
    (hreported : occurredAtMs ≠ 0 → ¬ reported (occurredAtMs / millisPerDay))
    (hok : database.increment occurredAtMs counter = .ok next) :
    Untouched reported database.daily next.daily := by
  obtain ⟨day, hday, hreturn⟩ := bind_eq_ok_iff.mp hok
  obtain ⟨hnonzero, rfl, hbound⟩ := utcDay_eq_ok_iff.mp hday
  cases hreturn
  refine untouched_writeRow (hreported hnonzero) hbound ?_ ?_
  · intro row
    cases counter <;> rfl
  · intro row
    cases counter <;> rfl

theorem untouched_observeGroupCount {count : Nat}
    (hreported : ¬ reported (occurredAtMs / millisPerDay))
    (hok : database.observeGroupCount occurredAtMs count = .ok next) :
    Untouched reported database.daily next.daily := by
  obtain ⟨day, hday, hcount⟩ := bind_eq_ok_iff.mp hok
  obtain ⟨-, rfl, hbound⟩ := utcDay_eq_ok_iff.mp hday
  obtain ⟨stored, -, hreturn⟩ := bind_eq_ok_iff.mp hcount
  cases hreturn
  exact untouched_writeRow hreported hbound (fun _ => rfl) (fun _ => rfl)

theorem untouched_observeAccountSet {digest : List UInt8}
    (hreported : ¬ reported (occurredAtMs / millisPerDay))
    (hok : database.observeAccountSet occurredAtMs digest = .ok next) :
    Untouched reported database.daily next.daily := by
  obtain ⟨day, hday, hreturn⟩ := bind_eq_ok_iff.mp hok
  obtain ⟨-, rfl, hbound⟩ := utcDay_eq_ok_iff.mp hday
  cases hreturn
  have hensured : Untouched reported database.daily
      (ensureRow database.daily (occurredAtMs / millisPerDay)) :=
    untouched_ensureRow hreported hbound
  dsimp only
  split
  · exact hensured.trans (untouched_updateRow hreported (fun _ => rfl) (fun _ => rfl))
  · exact hensured

end Signals

/-! ## Activity -/

/-- The interval that is open begins before the mark. -/
def Ordered (runtime : RuntimeState) : Prop :=
  0 < runtime.activeAccounts →
    ∃ since, runtime.activeSinceMs = some since ∧ since ≤ runtime.lastActivityMs

theorem frontier_le_mark {runtime : RuntimeState} (hordered : Ordered runtime) :
    frontier runtime ≤ runtime.lastActivityMs := by
  unfold frontier
  split
  · exact Nat.le_refl _
  · next hactive =>
      obtain ⟨since, hsince, hle⟩ := hordered (Nat.pos_of_ne_zero hactive)
      rw [hsince]
      exact hle

theorem activePieces_days (cursor endedAtMs : Nat) :
    ∀ piece ∈ (activePieces cursor endedAtMs).1, piece.start / millisPerDay < u32Bound := by
  fun_induction activePieces cursor endedAtMs with
  | case1 cursor hcursor error herror => simp
  | case2 cursor hcursor boundary hboundary ih =>
      intro piece hpiece
      rcases List.mem_cons.mp hpiece with rfl | hrest
      · exact (pieceBoundary_eq_ok hboundary).2.1
      · exact ih piece hrest
  | case3 cursor hdone => simp

/-- What an activity operation does to the days and to the mark. -/
structure ActivityStep (before : RuntimeState) (timeMs : Nat)
    (result : Database × ActivityAnswer) : Prop where
  pieces : ∀ piece ∈ result.2.pieces,
    frontier before ≤ piece.start ∧ piece.start / millisPerDay < u32Bound
  frontier_le : frontier before ≤ frontier result.1.runtime
  mark : result.1.runtime.lastActivityMs ≤ max before.lastActivityMs timeMs
  ordered : Ordered result.1.runtime

section ActivityOps

variable {database : Database} {timeMs : Nat}

theorem activityStep_rejected (hordered : Ordered database.runtime)
    (error : TelemetryStoreError) :
    ActivityStep database.runtime timeMs (rejected database error) where
  pieces := by
    intro piece hpiece
    cases hpiece
  frontier_le := Nat.le_refl _
  mark := Nat.le_max_left _ _
  ordered := hordered

/-- The pieces of a closed interval begin where it was opened. -/
theorem closed_pieces (hordered : Ordered database.runtime) (timeMs : Nat) (closes : Bool)
    (haccounts : closes = true → 0 < database.runtime.activeAccounts)
    (update : Except TelemetryStoreError RuntimeState) :
    ∀ piece ∈ (closeAndUpdate database closes timeMs update).2.pieces,
      frontier database.runtime ≤ piece.start ∧ piece.start / millisPerDay < u32Bound := by
  have hpieces : (closeAndUpdate database closes timeMs update).2.pieces =
      (if closes then addActiveInterval database.runtime.activeSinceMs timeMs
        else ([], .ok ())).1 := by
    unfold closeAndUpdate
    dsimp only
    split <;> rfl
  rw [hpieces]
  cases closes with
  | false => simp
  | true =>
      obtain ⟨since, hsince, -⟩ := hordered (haccounts rfl)
      have hfrontier : frontier database.runtime = since := by
        rw [frontier, if_neg (haccounts rfl).ne', hsince]
        rfl
      rw [if_pos rfl, hsince, hfrontier, addActiveInterval]
      split
      · simp
      · intro piece hpiece
        exact ⟨(activePieces_pieces since timeMs piece hpiece).cursor_le,
          activePieces_days since timeMs piece hpiece⟩

theorem activityStep_closeAndUpdate (hordered : Ordered database.runtime) {closes : Bool}
    {update : Except TelemetryStoreError RuntimeState}
    (hmoves : Moves database closes timeMs update)
    (hmark : ∀ runtime, update = .ok runtime → runtime.lastActivityMs ≤ timeMs)
    (hafter : ∀ runtime, update = .ok runtime → Ordered runtime) :
    ActivityStep database.runtime timeMs (closeAndUpdate database closes timeMs update) := by
  have hpieces := closed_pieces hordered timeMs closes hmoves.accounts update
  rcases closeAndUpdate_runtime database closes timeMs update with
    ⟨runtime, hok, hclosed, hruntime, -⟩ | ⟨-, hruntime, -⟩
  · refine ⟨hpieces, ?_, ?_, ?_⟩
    · rw [hruntime]
      cases closes with
      | false => exact hmoves.kept rfl runtime hok
      | true =>
          -- The interval was closed, so its end is not before its beginning.
          obtain ⟨since, hsince, -⟩ := hordered (hmoves.accounts rfl)
          have hend := hclosed rfl
          rw [hmoves.closed rfl runtime hok, frontier, if_neg (hmoves.accounts rfl).ne', hsince]
          rw [hsince, addActiveInterval] at hend
          split at hend
          · cases hend
          · next hforward => exact Nat.not_lt.mp hforward
    · rw [hruntime]
      exact (hmark runtime hok).trans (Nat.le_max_right _ _)
    · rw [hruntime]
      exact hafter runtime hok
  · refine ⟨hpieces, ?_, ?_, ?_⟩
    · rw [hruntime]
    · rw [hruntime]
      exact Nat.le_max_left _ _
    · rw [hruntime]
      exact hordered

theorem activityStep_openStore (hordered : Ordered database.runtime)
    (hforward : database.runtime.lastActivityMs ≤ timeMs) :
    ActivityStep database.runtime timeMs (openStore database timeMs) := by
  unfold openStore
  split
  · exact activityStep_rejected hordered _
  · refine activityStep_closeAndUpdate hordered (moves_openStore fun _ => hforward) ?_ ?_
    · intro runtime hok
      rw [staleUpdate_eq_ok hok]
    · intro runtime hok hactive
      rw [staleUpdate_eq_ok hok] at hactive
      cases hactive

theorem activityStep_checkpoint (hordered : Ordered database.runtime) :
    ActivityStep database.runtime timeMs (checkpointActivity database timeMs) := by
  unfold checkpointActivity
  split
  · exact activityStep_rejected hordered _
  · next hlater =>
      refine activityStep_closeAndUpdate hordered (moves_checkpoint (Nat.not_lt.mp hlater)) ?_ ?_
      · intro runtime hok
        rw [checkpointUpdate_eq_ok hok]
      · intro runtime hok hactive
        rw [checkpointUpdate_eq_ok hok] at hactive ⊢
        exact ⟨timeMs, if_pos hactive, Nat.le_refl _⟩

theorem activityStep_updateActivity (hordered : Ordered database.runtime) (active : Bool) :
    ActivityStep database.runtime timeMs (updateActivity database timeMs active) := by
  have hsince : 0 < database.runtime.activeAccounts →
      database.runtime.activeSinceMs.isSome = true := by
    intro hactive
    obtain ⟨since, hsome, -⟩ := hordered hactive
    rw [hsome]
    rfl
  unfold updateActivity
  split
  · exact activityStep_rejected hordered _
  · split
    · exact activityStep_rejected hordered _
    · next hlater =>
        split
        · exact activityStep_rejected hordered _
        · next next hnext =>
            have hforward := Nat.not_lt.mp hlater
            refine activityStep_closeAndUpdate hordered (moves_activity hsince hforward hnext) ?_ ?_
            · intro runtime hok
              rw [activityUpdate_eq_ok hok]
            · intro runtime hok hactive
              rw [activityUpdate_eq_ok hok] at hactive ⊢
              show ∃ since, nextActiveSince database.runtime timeMs active next = some since ∧
                since ≤ timeMs
              unfold nextActiveSince
              split
              · exact ⟨timeMs, rfl, Nat.le_refl _⟩
              · next hfirst =>
                  rw [if_neg (Nat.pos_iff_ne_zero.mp hactive)]
                  have hbefore : 0 < database.runtime.activeAccounts := by
                    by_contra hidle
                    have hzero := Nat.eq_zero_of_not_pos hidle
                    cases active with
                    | true => exact hfirst (by simp [hzero])
                    | false => simp [nextAccounts, hzero, okOr] at hnext
                  obtain ⟨since, hsome, hle⟩ := hordered hbefore
                  exact ⟨since, hsome, hle.trans hforward⟩

end ActivityOps

/-! ## What a report keeps -/

variable {Notice : Type*}

/-- A report was made from the counts that its day still has. -/
def Submission.Current (submission : Submission) (daily : List DayRow) : Prop :=
  ∃ row ∈ daily, row.unmarked = submission.row.unmarked ∧ submission.day = toCompletedDay row

/-- A report that was accepted has the counts that its day still has, reports under one id are
the same, and a day that is marked was accepted as it is. -/
structure Delivered (system : TelemetrySystem) : Prop where
  unchanged : ∀ submission ∈ system.reports, submission.accepted = true →
    submission.Current system.database.daily
  same : ∀ first ∈ system.reports, ∀ second ∈ system.reports,
    first.reportId = second.reportId → first.day = second.day
  accepted : ∀ row ∈ system.database.daily, row.sentAtMs ≠ none →
    ∃ submission ∈ system.reports, submission.accepted = true ∧
      submission.day = toCompletedDay row

/-- The same of the reports that were refused: they would be submitted again as they are. -/
def Undisturbed (system : TelemetrySystem) : Prop :=
  ∀ submission ∈ system.reports, submission.Current system.database.daily

/-- The time at which what an event reports occurred. -/
def occurredAt : AccountEvent Notice → Option Nat
  | .lifecycle _ _ _ occurredAtMs | .outboundMessageAccepted _ occurredAtMs
  | .groupCountObserved _ _ occurredAtMs => some occurredAtMs
  | _ => none

/-- The clock does not go back, and an event is processed after it occurred. -/
def Chronological (system : TelemetrySystem) (input : TelemetryInput Notice) : Prop :=
  system.lastMs ≤ input.atMs ∧ ∀ event occurredAtMs, input.action = .received (.ok event) →
    occurredAt event = some occurredAtMs → occurredAtMs ≤ input.atMs

/-- A report was submitted for the day. -/
def TelemetrySystem.Reported (system : TelemetrySystem) (day : Nat) : Prop :=
  ∃ submission ∈ system.reports, submission.row.utcDay = day

instance (system : TelemetrySystem) (day : Nat) : Decidable (system.Reported day) :=
  inferInstanceAs (Decidable (∃ submission ∈ system.reports, submission.row.utcDay = day))

/-- A sent message is processed before its day is reported, and so is a group count that is
above the one in the report. -/
def Punctual (system : TelemetrySystem) (input : TelemetryInput Notice) : Prop :=
  ∀ worker, system.worker = some worker → match input.action with
  | .received (.ok (.outboundMessageAccepted _ occurredAtMs)) =>
      occurredAtMs ≠ 0 → ¬ system.Reported (occurredAtMs / millisPerDay)
  | .received (.ok (.groupCountObserved localId count occurredAtMs)) =>
      occurredAtMs ≠ 0 → ∀ total, totalGroups (worker.groupCounts.insert localId count) =
        some total → total < i64Bound → ∀ submission ∈ system.reports,
          submission.row.utcDay = occurredAtMs / millisPerDay → total ≤ submission.row.groupCount
  | _ => True

/-- The store and the reports that were made from it. -/
structure Recounted (installation : Installation) (database : ReportDatabase)
    (reports : List Submission) : Prop where
  nodup : (database.daily.map DayRow.utcDay).Nodup
  days : ∀ row ∈ database.daily, row.utcDay < u32Bound
  recounted : ∀ submission ∈ reports,
    submission.reportId = reportId installation submission.row.utcDay ∧
      submission.day = toCompletedDay submission.row ∧
        ∃ row ∈ database.daily, row.unmarked = submission.row.unmarked
  accepted : ∀ row ∈ database.daily, row.sentAtMs ≠ none →
    ∃ submission ∈ reports, submission.accepted = true ∧
      submission.row.unmarked = row.unmarked
  behind : ∀ submission ∈ reports,
    (submission.row.utcDay + 1) * millisPerDay ≤ frontier database.runtime
  ordered : Ordered database.runtime

theorem toCompletedDay_unmarked (row : DayRow) : toCompletedDay row.unmarked = toCompletedDay row :=
  rfl

theorem utcDay_of_unmarked {row other : DayRow} (hsame : row.unmarked = other.unmarked) :
    row.utcDay = other.utcDay :=
  (DayRow.mk.inj hsame).1

/-- The ids of an installation, which are the first half of a digest, do not collide. -/
def CollisionFree (installation : Installation) : Prop :=
  Set.InjOn (fun preimage => (installation.sha256 preimage).take 16)
    (reportPreimage installation '' {day | day < u32Bound})

theorem reportId_inj {installation : Installation} (hfree : CollisionFree installation)
    {first second : Nat} (hfirst : first < u32Bound) (hsecond : second < u32Bound)
    (hsame : reportId installation first = reportId installation second) : first = second := by
  have hpreimages : reportPreimage installation first = reportPreimage installation second :=
    hfree (Set.mem_image_of_mem _ hfirst) (Set.mem_image_of_mem _ hsecond) hsame
  have hword := congrArg beNat (List.append_cancel_left hpreimages)
  have hbound : u32Bound = 256 ^ 4 := by decide
  rw [hbound] at hfirst hsecond
  rwa [beNat_beBytes_of_lt hfirst, beNat_beBytes_of_lt hsecond] at hword

section Recounted

variable {installation : Installation} {database next : ReportDatabase} {reports : List Submission}

/-- A day has one row. -/
theorem Recounted.eq_of_day (hrecounted : Recounted installation database reports)
    {row other : DayRow} (hrow : row ∈ database.daily) (hother : other ∈ database.daily)
    (hday : row.utcDay = other.utcDay) : row = other :=
  List.inj_on_of_nodup_map hrecounted.nodup hrow hother hday

theorem Recounted.undisturbed {system : TelemetrySystem}
    (hrecounted : Recounted installation system.database system.reports) :
    Undisturbed system := by
  intro submission hsubmission
  obtain ⟨-, hday, row, hrow, hsame⟩ := hrecounted.recounted submission hsubmission
  refine ⟨row, hrow, hsame, ?_⟩
  rw [hday, ← toCompletedDay_unmarked, ← hsame, toCompletedDay_unmarked]

theorem Recounted.delivered {system : TelemetrySystem}
    (hrecounted : Recounted installation system.database system.reports)
    (hfree : CollisionFree installation) : Delivered system where
  unchanged := fun submission hsubmission _ => hrecounted.undisturbed submission hsubmission
  same := by
    intro first hfirst second hsecond hid
    obtain ⟨hfirstId, hfirstDay, row, hrow, hsame⟩ := hrecounted.recounted first hfirst
    obtain ⟨hsecondId, hsecondDay, other, hother, hequal⟩ := hrecounted.recounted second hsecond
    have hdays : row.utcDay = other.utcDay := by
      have hrowDay := hrecounted.days row hrow
      have hotherDay := hrecounted.days other hother
      rw [utcDay_of_unmarked hsame] at hrowDay ⊢
      rw [utcDay_of_unmarked hequal] at hotherDay ⊢
      exact reportId_inj hfree hrowDay hotherDay (hfirstId.symm.trans (hid.trans hsecondId))
    obtain rfl := hrecounted.eq_of_day hrow hother hdays
    rw [hfirstDay, hsecondDay, ← toCompletedDay_unmarked, ← hsame, hequal,
      toCompletedDay_unmarked]
  accepted := by
    intro row hrow hmarked
    obtain ⟨submission, hsubmission, haccepted, hsame⟩ := hrecounted.accepted row hrow hmarked
    refine ⟨submission, hsubmission, haccepted, ?_⟩
    rw [(hrecounted.recounted submission hsubmission).2.1, ← toCompletedDay_unmarked, hsame,
      toCompletedDay_unmarked]

/-- What leaves the rows of the reported days leaves the reports recounted. -/
theorem Recounted.untouched (hrecounted : Recounted installation database reports)
    (hrows : Untouched (fun day => ∃ submission ∈ reports, submission.row.utcDay = day)
      database.daily next.daily)
    (hfrontier : frontier database.runtime ≤ frontier next.runtime)
    (hordered : Ordered next.runtime) : Recounted installation next reports where
  nodup := hrows.nodup hrecounted.nodup
  days := hrows.days hrecounted.days
  recounted := by
    intro submission hsubmission
    obtain ⟨hid, hday, row, hrow, hsame⟩ := hrecounted.recounted submission hsubmission
    refine ⟨hid, hday, row, ?_, hsame⟩
    exact (hrows.kept row ⟨submission, hsubmission, (utcDay_of_unmarked hsame).symm⟩).mpr hrow
  accepted := by
    intro row hrow hmarked
    obtain ⟨old, hold, hday, holder⟩ := hrows.marked row hrow hmarked
    obtain ⟨submission, hsubmission, haccepted, hsame⟩ := hrecounted.accepted old hold holder
    -- A marked day was reported, so its row is still the one it was.
    have hmem := (hrows.kept row ⟨submission, hsubmission,
      (utcDay_of_unmarked hsame).trans hday⟩).mp hrow
    obtain rfl := hrecounted.eq_of_day hold hmem hday
    exact ⟨submission, hsubmission, haccepted, hsame⟩
  behind := fun submission hsubmission =>
    (hrecounted.behind submission hsubmission).trans hfrontier
  ordered := hordered

/-- A time at or after the frontier is in no reported day. -/
theorem Recounted.not_reported (hrecounted : Recounted installation database reports)
    {timeMs : Nat} (htime : frontier database.runtime ≤ timeMs) :
    ¬ ∃ submission ∈ reports, submission.row.utcDay = timeMs / millisPerDay := by
  rintro ⟨submission, hsubmission, hday⟩
  have hbehind := (hrecounted.behind submission hsubmission).trans htime
  rw [hday] at hbehind
  have hlast : timeMs < millisPerDay * (timeMs / millisPerDay + 1) :=
    Nat.lt_mul_div_succ timeMs (by decide)
  rw [Nat.mul_comm] at hlast
  exact absurd hbehind (Nat.not_le.mpr hlast)

end Recounted

/-! ## Steps -/

/-- What every state of a run keeps, up to a time. -/
structure Kept (installation : Installation) (database : ReportDatabase)
    (reports : List Submission) (timeMs : Nat) : Prop
    extends Recounted installation database reports where
  mark : database.runtime.lastActivityMs ≤ timeMs

namespace Kept

variable {installation : Installation} {database next : ReportDatabase} {reports : List Submission}
  {timeMs : Nat}

theorem later {laterMs : Nat} (hkept : Kept installation database reports timeMs)
    (hlater : timeMs ≤ laterMs) : Kept installation database reports laterMs where
  toRecounted := hkept.toRecounted
  mark := hkept.mark.trans hlater

theorem runActivity (hkept : Kept installation database reports timeMs)
    {operation : ActivityOp} {occurredAtMs : Nat} (hoccurred : occurredAtMs ≤ timeMs)
    (hstep : ActivityStep database.activity.runtime occurredAtMs
      (applyOp database.activity operation)) :
    Kept installation (runActivity operation database).1 reports timeMs where
  toRecounted := by
    refine hkept.untouched (untouched_pieces ?_) hstep.frontier_le hstep.ordered
    intro piece hpiece
    obtain ⟨hstart, hday⟩ := hstep.pieces piece hpiece
    exact ⟨hkept.not_reported hstart, hday⟩
  mark := hstep.mark.trans (max_le hkept.mark hoccurred)

theorem setAccountActive (hkept : Kept installation database reports timeMs)
    {occurredAtMs : Nat} (hoccurred : occurredAtMs ≤ timeMs) (active : Bool) :
    Kept installation (setAccountActive database occurredAtMs active).1 reports timeMs :=
  hkept.runActivity hoccurred
    (activityStep_updateActivity hkept.ordered active)

/-- A signal is written outside the reported days. -/
theorem signal (hkept : Kept installation database reports timeMs)
    (hrows : Untouched (fun day => ∃ submission ∈ reports, submission.row.utcDay = day)
      database.daily next.daily)
    (hruntime : next.runtime = database.runtime) :
    Kept installation next reports timeMs where
  toRecounted := by
    refine hkept.untouched hrows ?_ ?_
    · rw [hruntime]
    · rw [hruntime]
      exact hkept.ordered
  mark := by
    rw [hruntime]
    exact hkept.mark

theorem persist (hkept : Kept installation database reports timeMs)
    {result : Except TelemetryStoreError ReportDatabase}
    (hresult : ∀ next, result = .ok next → Kept installation next reports timeMs) :
    Kept installation (persist database result) reports timeMs := by
  cases result with
  | ok next => exact hresult next rfl
  | error error => exact hkept

/-- The present is after everything that was reported. -/
theorem now_not_reported (hkept : Kept installation database reports timeMs) :
    ¬ ∃ submission ∈ reports, submission.row.utcDay = timeMs / millisPerDay :=
  hkept.not_reported ((frontier_le_mark hkept.ordered).trans hkept.mark)

/-! ### The start and the end -/

theorem startWorker (hkept : Kept installation database reports timeMs) (nowMs : Option Nat)
    (hnow : ∀ openedAtMs, nowMs = some openedAtMs → openedAtMs = timeMs) (digest : List UInt8) :
    Kept installation (startWorker nowMs digest database).1 reports timeMs := by
  unfold Telemetry.startWorker
  cases nowMs with
  | none => exact hkept
  | some openedAtMs =>
      obtain rfl := hnow openedAtMs rfl
      have hopened : Kept installation (Telemetry.runActivity (.openStore openedAtMs) database).1
          reports openedAtMs :=
        hkept.runActivity (Nat.le_refl _)
          (activityStep_openStore hkept.ordered hkept.mark)
      dsimp only
      split
      · next after error hopen =>
          rw [hopen] at hopened
          exact hopened
      · next after hopen =>
          rw [hopen] at hopened
          split
          · exact hopened
          · next hobserved =>
              exact hopened.signal
                (untouched_observeAccountSet hopened.now_not_reported hobserved)
                (runtime_observeAccountSet hobserved)

theorem closeActiveAccounts (hkept : Kept installation database reports timeMs)
    {closedAtMs : Nat} (hclosed : closedAtMs ≤ timeMs) (accounts : Nat) :
    Kept installation (closeActiveAccounts closedAtMs accounts database) reports timeMs := by
  induction accounts generalizing database with
  | zero => exact hkept
  | succ accounts ih =>
      have hstep := hkept.setAccountActive hclosed false
      unfold Telemetry.closeActiveAccounts
      split
      · next hset =>
          rw [hset] at hstep
          exact hstep
      · next hset =>
          rw [hset] at hstep
          exact ih hstep

/-! ### Reports -/

/-- A day that has ended is reported as it is. -/
theorem submitted (hkept : Kept installation database reports timeMs) {row : DayRow}
    (hrow : row ∈ database.daily)
    (hended : (row.utcDay + 1) * millisPerDay ≤ frontier database.runtime) (accepted : Bool) :
    Kept installation database (reports ++
      [⟨reportId installation row.utcDay, toCompletedDay row, row, accepted⟩]) timeMs where
  nodup := hkept.nodup
  days := hkept.days
  recounted := by
    intro submission hsubmission
    rcases List.mem_append.mp hsubmission with hold | hnew
    · exact hkept.recounted submission hold
    · rw [List.mem_singleton.mp hnew]
      exact ⟨rfl, rfl, row, hrow, rfl⟩
  accepted := by
    intro other hother hmarked
    obtain ⟨submission, hsubmission, haccepted⟩ := hkept.accepted other hother hmarked
    exact ⟨submission, List.mem_append_left _ hsubmission, haccepted⟩
  behind := by
    intro submission hsubmission
    rcases List.mem_append.mp hsubmission with hold | hnew
    · exact hkept.behind submission hold
    · rw [List.mem_singleton.mp hnew]
      exact hended
  ordered := hkept.ordered
  mark := hkept.mark

/-- The mark of a day whose report was accepted changes nothing else. -/
theorem markSent (hkept : Kept installation database reports timeMs) {day acceptedAtMs : Nat}
    (haccepted : ∀ row ∈ database.daily, row.utcDay = day →
      ∃ submission ∈ reports, submission.accepted = true ∧
        submission.row.unmarked = row.unmarked)
    (hok : database.markSent day acceptedAtMs = .ok next) :
    Kept installation next reports timeMs := by
  simp only [ReportDatabase.markSent, bind_eq_ok_iff] at hok
  obtain ⟨acceptedDay, -, checked, -, stored, -, found, -, hreturn⟩ := hok
  cases hreturn
  refine ⟨⟨?_, ?_, ?_, ?_, hkept.behind, hkept.ordered⟩, hkept.mark⟩
  · refine (congrArg List.Nodup (map_utcDay_updateRow fun row => ?_)).mpr hkept.nodup
    rfl
  · intro row hrow
    obtain ⟨old, hold, rfl⟩ := List.mem_map.mp hrow
    have hbound := hkept.days old hold
    split
    · exact hbound
    · exact hbound
  · intro submission hsubmission
    obtain ⟨hid, hday, row, hrow, hsame⟩ := hkept.recounted submission hsubmission
    refine ⟨hid, hday, _, List.mem_map_of_mem hrow, ?_⟩
    split
    · exact hsame
    · exact hsame
  · intro row hrow hmarked
    obtain ⟨old, hold, rfl⟩ := List.mem_map.mp hrow
    by_cases hday : old.utcDay = day
    · rw [if_pos hday]
      exact haccepted old hold hday
    · rw [if_neg hday] at hmarked ⊢
      exact hkept.accepted old hold hmarked

end Kept

theorem lowestDay_mem {rows : List DayRow} {row : DayRow} (hlowest : lowestDay rows = some row) :
    row ∈ rows := by
  unfold lowestDay at hlowest
  induction rows using List.reverseRecOn with
  | nil => cases hlowest
  | append_singleton rows last ih =>
      rw [List.foldl_append] at hlowest
      rw [List.mem_append, List.mem_singleton]
      simp only [List.foldl_cons, List.foldl_nil] at hlowest
      split at hlowest
      · cases hlowest
        exact .inr rfl
      · next other hbefore =>
          split at hlowest
          · cases hlowest
            exact .inr rfl
          · cases hlowest
            exact .inl (ih hbefore)

theorem oldestPending_eq_ok {database : ReportDatabase} {nowMs : Nat} {row : DayRow}
    (hok : database.oldestPending nowMs = .ok (some row)) :
    row ∈ database.daily ∧ (row.utcDay + 1) * millisPerDay ≤ nowMs := by
  obtain ⟨day, hday, hreturn⟩ := bind_eq_ok_iff.mp hok
  obtain ⟨-, rfl, -⟩ := utcDay_eq_ok_iff.mp hday
  have hlowest := lowestDay_mem (Except.ok.inj hreturn)
  obtain ⟨hrow, hpending⟩ := List.mem_filter.mp hlowest
  obtain ⟨-, hpassed⟩ := of_decide_eq_true hpending
  refine ⟨hrow, ?_⟩
  calc
    (row.utcDay + 1) * millisPerDay ≤ nowMs / millisPerDay * millisPerDay :=
      Nat.mul_le_mul_right _ hpassed
    _ ≤ nowMs := Nat.div_mul_le_self nowMs millisPerDay

section Flush

variable {installation : Installation} {database : ReportDatabase} {reports : List Submission}
  {timeMs : Nat}

theorem Kept.submitReports (hkept : Kept installation database reports timeMs)
    {generatedAtMs : Nat} (hbrought : generatedAtMs ≤ frontier database.runtime)
    (attempts : Nat) (answers : List SubmitAnswer) :
    Kept installation
      (submitReports installation generatedAtMs attempts answers database).database
      (reports ++ (submitReports installation generatedAtMs attempts answers
        database).submissions) timeMs := by
  induction attempts generalizing database reports answers with
  | zero =>
      rw [show (Telemetry.submitReports installation generatedAtMs 0 answers
        database).submissions = [] from rfl, List.append_nil]
      exact hkept
  | succ attempts ih =>
      unfold Telemetry.submitReports
      split
      · rw [List.append_nil]
        exact hkept
      · rw [List.append_nil]
        exact hkept
      · next row hpending =>
          obtain ⟨hrow, hended⟩ := oldestPending_eq_ok hpending
          have hsubmitted := hkept.submitted hrow (hended.trans hbrought)
          split
          · exact hsubmitted false
          · exact hsubmitted false
          · exact hsubmitted true
          · split
            · exact hsubmitted true
            · next next hmarked =>
                have hnext := (hsubmitted true).markSent ?_ hmarked
                · have hlater := ih hnext (by rwa [runtime_markSent hmarked]) ‹_›
                  rw [List.append_assoc] at hlater
                  exact hlater
                · intro other hother hday
                  obtain rfl := hkept.eq_of_day hother hrow hday
                  exact ⟨_, List.mem_append_right _ (List.mem_singleton.mpr rfl), rfl, rfl⟩

/-- The activity that was brought up to a time is complete until then. -/
theorem frontier_checkpoint {next : ReportDatabase} {occurredAtMs : Nat}
    (hok : runActivity (.checkpointActivity occurredAtMs) database = (next, .ok ())) :
    frontier next.runtime = occurredAtMs := by
  obtain ⟨rfl, hresult⟩ := Prod.mk.inj hok
  change (checkpointActivity database.activity occurredAtMs).2.result = _ at hresult
  show frontier (checkpointActivity database.activity occurredAtMs).1.runtime = occurredAtMs
  unfold checkpointActivity at hresult ⊢
  split at hresult
  · cases hresult
  · next hlater =>
      rw [if_neg hlater]
      rcases closeAndUpdate_runtime database.activity
        (0 < database.activity.runtime.activeAccounts) occurredAtMs
        (checkpointUpdate database.activity.runtime occurredAtMs) with
        ⟨runtime, hupdated, -, hruntime, -⟩ | ⟨-, -, hfailed⟩
      · rw [hruntime, checkpointUpdate_eq_ok hupdated, frontier]
        by_cases hidle : database.activity.runtime.activeAccounts = 0
        · exact if_pos hidle
        · rw [if_neg hidle, if_pos (Nat.pos_of_ne_zero hidle)]
          rfl
      · exact absurd hresult hfailed

theorem Kept.flush (hkept : Kept installation database reports timeMs) (nowMs : Option Nat)
    (hnow : ∀ generatedAtMs, nowMs = some generatedAtMs → generatedAtMs ≤ timeMs)
    (answers : List SubmitAnswer) :
    Kept installation (flush installation nowMs answers database).database
      (reports ++ (flush installation nowMs answers database).submissions) timeMs := by
  unfold Telemetry.flush
  cases nowMs with
  | none =>
      rw [List.append_nil]
      exact hkept
  | some generatedAtMs =>
      have hbrought : Kept installation
          (Telemetry.runActivity (.checkpointActivity generatedAtMs) database).1 reports timeMs :=
        hkept.runActivity (hnow generatedAtMs rfl)
          (activityStep_checkpoint hkept.ordered)
      dsimp only
      split
      · next hchecked =>
          rw [hchecked] at hbrought
          rw [List.append_nil]
          exact hbrought
      · next hchecked =>
          rw [hchecked] at hbrought
          exact hbrought.submitReports (frontier_checkpoint hchecked).ge _ _

end Flush

/-! ### Events -/

section Events

variable {installation : Installation} {database next : ReportDatabase}
  {reports : List Submission} {timeMs : Nat}

/-- The row of a reported day after a write to that day. -/
theorem Kept.written (hkept : Kept installation database reports timeMs)
    {submission : Submission} (hsubmission : submission ∈ reports) {update : DayRow → DayRow}
    {row : DayRow} (hrow : row ∈ writeRow database.daily submission.row.utcDay update)
    (hsame : row.utcDay = submission.row.utcDay) :
    ∃ old ∈ database.daily, old.unmarked = submission.row.unmarked ∧ row = update old := by
  obtain ⟨-, -, reported, hreported, hunmarked⟩ := hkept.recounted submission hsubmission
  have hreportedDay := utcDay_of_unmarked hunmarked
  obtain ⟨old, hold, rfl⟩ := List.mem_map.mp hrow
  have holdDay : old.utcDay = submission.row.utcDay := by
    split at hsame
    · next hthere => exact hthere
    · exact hsame
  rw [if_pos holdDay]
  rcases mem_ensureRow.mp hold with hmem | ⟨-, hnone⟩
  · obtain rfl := hkept.eq_of_day hmem hreported (holdDay.trans hreportedDay.symm)
    exact ⟨old, hmem, hunmarked, rfl⟩
  · exact absurd hreportedDay (hnone reported hreported)

/-- A group count that is not above the one in the report changes nothing there. -/
theorem Kept.observeGroupCount (hkept : Kept installation database reports timeMs)
    {occurredAtMs total : Nat}
    (hpunctual : occurredAtMs ≠ 0 → total < i64Bound → ∀ submission ∈ reports,
      submission.row.utcDay = occurredAtMs / millisPerDay → total ≤ submission.row.groupCount)
    (hok : database.observeGroupCount occurredAtMs total = .ok next) :
    Kept installation next reports timeMs := by
  refine hkept.signal ?_ (runtime_observeGroupCount hok)
  by_cases hreported : ∃ submission ∈ reports,
    submission.row.utcDay = occurredAtMs / millisPerDay
  · obtain ⟨submission, hsubmission, hsubmitted⟩ := hreported
    obtain ⟨-, -, reported, hrow, hunmarked⟩ := hkept.recounted submission hsubmission
    obtain ⟨day, hday, hcount⟩ := bind_eq_ok_iff.mp hok
    obtain ⟨hnonzero, rfl, -⟩ := utcDay_eq_ok_iff.mp hday
    obtain ⟨stored, hstored, hreturn⟩ := bind_eq_ok_iff.mp hcount
    obtain ⟨hfits, hcounted⟩ := tryI64_eq_ok_iff.mp hstored
    obtain rfl := hcounted.symm
    cases hreturn
    have hgroups : reported.unmarked.groupCount = submission.row.unmarked.groupCount :=
      congrArg DayRow.groupCount hunmarked
    have hle : total ≤ reported.groupCount :=
      (hpunctual hnonzero hfits submission hsubmission hsubmitted).trans hgroups.ge
    have hreportedDay := (utcDay_of_unmarked hunmarked).trans hsubmitted
    have hsame : writeRow database.daily (occurredAtMs / millisPerDay)
        (fun row => { row with groupCount := max row.groupCount total }) = database.daily := by
      refine writeRow_eq_self ⟨reported, hrow, hreportedDay⟩ ?_
      intro row hmem hrowDay
      obtain rfl := hkept.eq_of_day hmem hrow (hrowDay.trans hreportedDay.symm)
      rw [max_eq_left hle]
    dsimp only
    rw [hsame]
    exact .refl _
  · exact untouched_observeGroupCount hreported hok

theorem Kept.recordLifecycle (hkept : Kept installation database reports timeMs)
    {occurredAtMs : Nat} (hoccurred : occurredAtMs ≤ timeMs) (worker : Worker)
    (localId : AccountLocalId) (phase : AccountPhase) :
    Kept installation (recordLifecycle database worker localId phase occurredAtMs).1 reports
      timeMs := by
  rcases recordLifecycle_cases database worker localId phase occurredAtMs with
    ⟨-, -, hrecord⟩ | ⟨-, hrecord⟩
  · rw [hrecord]
    exact hkept
  · rw [hrecord]
    exact hkept.setAccountActive hoccurred _

end Events

section Step

variable {installation : Installation} {system : TelemetrySystem} {input : TelemetryInput Notice}

theorem nowMs_eq_some {timeMs : Nat} (hnow : input.nowMs = some timeMs) :
    timeMs = input.atMs := by
  unfold TelemetryInput.nowMs at hnow
  split at hnow
  · cases hnow
    rfl
  · cases hnow

theorem kept_recordEvent {worker : Worker} {event : AccountEvent Notice}
    (hkept : Kept installation system.database system.reports input.atMs)
    (haction : input.action = .received (.ok event)) (hworker : system.worker = some worker)
    (hoccurred : ∀ occurredAtMs, occurredAt event = some occurredAtMs →
      occurredAtMs ≤ input.atMs)
    (hpunctual : Punctual system input) :
    Kept installation (recordEvent system.database worker input.nowMs event).1 system.reports
      input.atMs := by
  have hpunctual := hpunctual worker hworker
  rw [haction] at hpunctual
  cases event with
  | identityReady localId identity => exact hkept
  | notice notice => exact hkept
  | message message =>
      refine hkept.persist fun next hok => ?_
      obtain ⟨time, htime, hreceived⟩ := bind_eq_ok_iff.mp hok
      obtain rfl := nowMs_eq_some (okOr_eq_ok_iff.mp htime)
      exact hkept.signal (untouched_increment (fun _ => hkept.now_not_reported) hreceived)
        (runtime_increment hreceived)
  | outboundMessageAccepted localId occurredAtMs =>
      refine hkept.persist fun next hok => ?_
      exact hkept.signal (untouched_increment hpunctual hok) (runtime_increment hok)
  | groupCountObserved localId count occurredAtMs =>
      refine hkept.persist fun next hok => ?_
      obtain ⟨total, htotal, hobserved⟩ := bind_eq_ok_iff.mp hok
      exact hkept.observeGroupCount
        (fun hnonzero => hpunctual hnonzero total (okOr_eq_ok_iff.mp htotal)) hobserved
  | lifecycle localId phase reason occurredAtMs =>
      exact hkept.recordLifecycle (hoccurred occurredAtMs rfl) worker localId phase

theorem kept_act (hkept : Kept installation system.database system.reports system.lastMs)
    (hchronological : Chronological system input) (hpunctual : Punctual system input) :
    Kept installation (system.act installation input).database
      (system.act installation input).reports input.atMs := by
  obtain ⟨hforward, hoccurred⟩ := hchronological
  have hlater := hkept.later hforward
  have hnow : ∀ timeMs, input.nowMs = some timeMs → timeMs = input.atMs :=
    fun timeMs => nowMs_eq_some
  cases haction : input.action with
  | start digest =>
      have hstarted := hlater.startWorker input.nowMs hnow digest
      simpa only [TelemetrySystem.act, haction] using hstarted
  | shutdown =>
      cases hworker : system.worker with
      | none => simpa only [TelemetrySystem.act, haction, hworker] using hlater
      | some worker =>
          have hclosed : input.nowMs.getD 0 ≤ input.atMs := by
            cases htime : input.nowMs with
            | none => exact Nat.zero_le _
            | some timeMs => exact (hnow timeMs htime).le
          have hafter := hlater.closeActiveAccounts hclosed worker.activeAccounts.card
          simpa only [TelemetrySystem.act, haction, hworker] using hafter
  | tick answers =>
      cases hworker : system.worker with
      | none => simpa only [TelemetrySystem.act, haction, hworker] using hlater
      | some worker =>
          rw [act_tick installation hworker haction]
          exact hlater.flush input.nowMs (fun timeMs htime => (hnow timeMs htime).le) answers
  | received answer =>
      cases hworker : system.worker with
      | none => simpa only [TelemetrySystem.act, haction, hworker] using hlater
      | some worker =>
          cases answer with
          | error error =>
              cases error with
              | closed => simpa only [TelemetrySystem.act, haction, hworker] using hlater
              | lagged => simpa only [TelemetrySystem.act, haction, hworker] using hlater
          | ok event =>
              rw [act_received installation hworker haction]
              exact kept_recordEvent hlater haction hworker
                (fun occurredAtMs => hoccurred event occurredAtMs haction) hpunctual

/-- A signal that comes after the report of its day is not in the report. -/
theorem not_undisturbed_act
    (hkept : Kept installation system.database system.reports system.lastMs)
    (hlate : ¬ Punctual system input) : ¬ Undisturbed (system.act installation input) := by
  unfold Punctual at hlate
  push Not at hlate
  obtain ⟨worker, hworker, hlate⟩ := hlate
  intro hundisturbed
  split at hlate
  · next localId occurredAtMs haction =>
      push Not at hlate
      obtain ⟨hnonzero, submission, hsubmission, hday⟩ := hlate
      rw [act_received installation hworker haction] at hundisturbed
      obtain ⟨-, -, reported, hreported, hunmarked⟩ := hkept.recounted submission hsubmission
      have hbound := hkept.days reported hreported
      rw [utcDay_of_unmarked hunmarked, hday] at hbound
      have hstored : system.database.recordSent occurredAtMs = .ok { system.database with
          daily := writeRow system.database.daily (occurredAtMs / millisPerDay) (.count .sent) } :=
        bind_eq_ok_iff.mpr ⟨_, utcDay_eq_ok_iff.mpr ⟨hnonzero, rfl, hbound⟩, rfl⟩
      obtain ⟨row, hrow, hsame, -⟩ := hundisturbed submission hsubmission
      simp only [recordEvent, hstored, persist] at hrow
      rw [← hday] at hrow
      obtain ⟨old, -, hold, rfl⟩ := hkept.written hsubmission hrow (utcDay_of_unmarked hsame)
      have hcount := congrArg DayRow.sent (hsame.trans hold.symm)
      exact Nat.succ_ne_self _ hcount
  · next localId count occurredAtMs haction =>
      push Not at hlate
      obtain ⟨hnonzero, total, htotal, hfits, submission, hsubmission, hday, habove⟩ := hlate
      rw [act_received installation hworker haction] at hundisturbed
      obtain ⟨-, -, reported, hreported, hunmarked⟩ := hkept.recounted submission hsubmission
      have hbound := hkept.days reported hreported
      rw [utcDay_of_unmarked hunmarked, hday] at hbound
      have hstored : system.database.observeGroupCount occurredAtMs total =
          .ok { system.database with
            daily := writeRow system.database.daily (occurredAtMs / millisPerDay) fun row =>
              { row with groupCount := max row.groupCount total } } :=
        bind_eq_ok_iff.mpr ⟨_, utcDay_eq_ok_iff.mpr ⟨hnonzero, rfl, hbound⟩,
          bind_eq_ok_iff.mpr ⟨_, tryI64_eq_ok_iff.mpr ⟨hfits, rfl⟩, rfl⟩⟩
      obtain ⟨row, hrow, hsame, -⟩ := hundisturbed submission hsubmission
      simp only [recordEvent, recordGroupCount, htotal, okOr, Except.bind, hstored, persist]
        at hrow
      rw [← hday] at hrow
      obtain ⟨old, -, hold, rfl⟩ := hkept.written hsubmission hrow (utcDay_of_unmarked hsame)
      have hcount := congrArg DayRow.groupCount hsame
      have hmax : total ≤ submission.row.groupCount := by
        rw [← show max old.groupCount total = submission.row.groupCount from hcount]
        exact Nat.le_max_right _ _
      exact absurd habove (Nat.not_lt.mpr hmax)
  · exact hlate trivial

end Step

/-! ## Runs -/

/-- A system keeps its store and its reports until its last time. -/
def KeptUntilNow (installation : Installation) (system : TelemetrySystem) : Prop :=
  Kept installation system.database system.reports system.lastMs

theorem kept_installed (installation : Installation) :
    KeptUntilNow installation TelemetrySystem.installed where
  nodup := List.nodup_nil
  days := by
    intro row hrow
    cases hrow
  recounted := by
    intro submission hsubmission
    cases hsubmission
  accepted := by
    intro row hrow
    cases hrow
  behind := by
    intro submission hsubmission
    cases hsubmission
  ordered := fun hactive => absurd hactive (Nat.lt_irrefl 0)
  mark := Nat.le_refl 0

/-- When the clock does not go back and events are processed after they occurred, the reports
keep every signal, also those that were refused and are to be submitted again, exactly if sent
messages and group counts are processed before their day is reported. -/
theorem delivered_iff_punctual {installation : Installation} (hfree : CollisionFree installation)
    (inputs : List (TelemetryInput Notice))
    (hchronological : (telemetry installation).Guarded Chronological .installed inputs) :
    (∀ reached, reached <+: inputs →
      Delivered ((telemetry installation).run .installed reached) ∧
        Undisturbed ((telemetry installation).run .installed reached)) ↔
          (telemetry installation).Guarded Punctual .installed inputs := by
  have hkept : ∀ system, KeptUntilNow installation system →
      Delivered system ∧ Undisturbed system :=
    fun system hkept => ⟨hkept.toRecounted.delivered hfree, hkept.toRecounted.undisturbed⟩
  have hlate : ∀ system (input : TelemetryInput Notice), KeptUntilNow installation system →
      Chronological system input → ¬ Punctual system input →
        ¬ (Delivered ((telemetry installation).step system input).1 ∧
          Undisturbed ((telemetry installation).step system input).1) :=
    fun system input hkept _ hlate hboth => not_undisturbed_act hkept hlate hboth.2
  exact (telemetry installation).forall_reached_iff_guarded_of (kept_installed installation)
    (fun system input hkept => kept_act hkept) hkept hlate hchronological

theorem collisionFree_sampleInstallation : CollisionFree sampleInstallation := by
  rintro first ⟨day, -, rfl⟩ second ⟨other, -, rfl⟩ hsame
  have hday (day : Nat) : ((sampleInstallation.sha256
      (reportPreimage sampleInstallation day)).take 16).take 4 = (beBytes 4 day).reverse := by
    simp [sampleInstallation, reportPreimage, List.take_take, List.reverse_append,
      List.take_append, beBytes_length]
  have hbytes := (hday day).symm.trans ((congrArg (List.take 4) hsame).trans (hday other))
  rw [reportPreimage, reportPreimage, List.reverse_inj.mp hbytes]

/-- A message of the first day is counted before midnight and reported after it. -/
def reportedInTime : List (TelemetryInput Empty) :=
  [⟨86399000, true, .start []⟩,
    ⟨86399950, true, .received (.ok (.outboundMessageAccepted firstAccount 86399900))⟩,
    ⟨86400100, true, .tick [.accepted]⟩]

theorem delivered_reportedInTime :
    Delivered ((telemetry sampleInstallation).run .installed reportedInTime) := by
  refine ((delivered_iff_punctual collisionFree_sampleInstallation reportedInTime ?_).mpr ?_
    reportedInTime List.prefix_rfl).1
  · refine ⟨⟨by decide, ?_⟩, ⟨by decide, ?_⟩, ⟨by decide, ?_⟩, trivial⟩
    · intro event occurredAtMs haction
      cases haction
    · intro event occurredAtMs haction hoccurred
      cases haction
      cases hoccurred
      decide
    · intro event occurredAtMs haction
      cases haction
  · exact ⟨fun _ _ => trivial, fun _ _ _ => by decide, fun _ _ => trivial, trivial⟩

/-- Two messages of the first day are still in the queue when its report is refused: one is
counted before the report is submitted again, the other after it was accepted. -/
def reportedTooEarly : List (TelemetryInput Empty) :=
  [⟨86399000, true, .start []⟩, ⟨86400100, true, .tick [.refused]⟩,
    ⟨86400200, true, .received (.ok (.outboundMessageAccepted firstAccount 86399900))⟩,
    ⟨86400300, true, .tick [.accepted]⟩,
    ⟨86400400, true, .received (.ok (.outboundMessageAccepted firstAccount 86399950))⟩]

/-- One id is submitted with two counts, and a message is counted for a day after the report
of it was accepted. -/
theorem late_messages_lost :
    (telemetry sampleInstallation).Guarded Chronological .installed reportedTooEarly ∧
    let system := (telemetry sampleInstallation).run .installed reportedTooEarly
    (∃ first ∈ system.reports, ∃ second ∈ system.reports,
      first.reportId = second.reportId ∧ first.day ≠ second.day) ∧
    (∃ row ∈ system.database.daily, row.sentAtMs ≠ none ∧
      ∀ submission ∈ system.reports, submission.row.sent < row.sent) ∧ ¬ Delivered system := by
  have htwice : let system := (telemetry sampleInstallation).run .installed reportedTooEarly
      ∃ first ∈ system.reports, ∃ second ∈ system.reports,
        first.reportId = second.reportId ∧ first.day ≠ second.day := by
    decide
  refine ⟨⟨⟨by decide, ?_⟩, ⟨by decide, ?_⟩, ⟨by decide, ?_⟩, ⟨by decide, ?_⟩, ⟨by decide, ?_⟩,
    trivial⟩, htwice, by decide, ?_⟩
  · intro event occurredAtMs haction
    cases haction
  · intro event occurredAtMs haction
    cases haction
  · intro event occurredAtMs haction hoccurred
    cases haction
    cases hoccurred
    decide
  · intro event occurredAtMs haction
    cases haction
  · intro event occurredAtMs haction hoccurred
    cases haction
    cases hoccurred
    decide
  · intro hdelivered
    obtain ⟨first, hfirst, second, hsecond, hid, hday⟩ := htwice
    exact hday (hdelivered.same first hfirst second hsecond hid)

end Telemetry
end Lirvena
