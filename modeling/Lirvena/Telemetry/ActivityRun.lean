import Lirvena.Telemetry.CommunityStore
import Mathlib.Tactic.Push

/-!
# Runs of the activity store

The days hold what the pieces of a run add up to.  In a run in which the mark of
the last activity never goes back, the pieces are in order, so no instant is
counted twice and no day has more than its own length.
-/

namespace Lirvena
namespace Telemetry

open Lib

/-! ## The pieces of one interval -/

/-- The end of the last day whose number fits its column type. -/
def dayLimit : Nat := u32Bound * millisPerDay

theorem div_millisPerDay_lt_iff {timestampMs : Nat} :
    timestampMs / millisPerDay < u32Bound ↔ timestampMs < dayLimit := by
  rw [dayLimit, Nat.div_lt_iff_lt_mul (by decide)]

theorem pieceBoundary_isOk {cursor endedAtMs : Nat} (hnonzero : cursor ≠ 0)
    (hcursor : cursor < dayLimit) : ∃ boundary, pieceBoundary cursor endedAtMs = .ok boundary := by
  have hday : cursor / millisPerDay < u32Bound := div_millisPerDay_lt_iff.mpr hcursor
  have hnext : (cursor / millisPerDay + 1) * millisPerDay ≤ dayLimit :=
    Nat.mul_le_mul_right _ hday
  have hlimit : dayLimit < i64Bound := by decide
  have hword : i64Bound < u64Bound := by decide
  have hproduct : checkedMulU64 (cursor / millisPerDay + 1) millisPerDay =
      some ((cursor / millisPerDay + 1) * millisPerDay) :=
    checkedMulU64_eq_some_iff.mpr ⟨by omega, rfl⟩
  have hpiece : toI64 (min endedAtMs ((cursor / millisPerDay + 1) * millisPerDay) - cursor) =
      .ok (min endedAtMs ((cursor / millisPerDay + 1) * millisPerDay) - cursor) :=
    if_pos (by omega)
  refine ⟨min endedAtMs ((cursor / millisPerDay + 1) * millisPerDay), ?_⟩
  refine bind_eq_ok_iff.mpr ⟨cursor / millisPerDay, ?_, ?_⟩
  · exact bind_eq_ok_iff.mpr ⟨(), rejectIf_eq_ok_iff.mpr hnonzero,
      bind_eq_ok_iff.mpr ⟨(), rejectIf_eq_ok_iff.mpr (Nat.not_le.mpr hday), rfl⟩⟩
  · exact bind_eq_ok_iff.mpr ⟨_, okOr_eq_ok_iff.mpr hproduct,
      bind_eq_ok_iff.mpr ⟨_, hpiece, rfl⟩⟩

/-- The loop ends well when it ends within the days. -/
theorem activePieces_ok {cursor endedAtMs : Nat} (hnonzero : cursor ≠ 0)
    (hended : endedAtMs ≤ dayLimit) : (activePieces cursor endedAtMs).2 = .ok () := by
  fun_induction activePieces cursor endedAtMs with
  | case1 cursor hcursor error herror =>
      obtain ⟨boundary, hok⟩ := pieceBoundary_isOk hnonzero (hcursor.trans_le hended)
      cases herror.symm.trans hok
  | case2 cursor hcursor boundary hboundary ih =>
      have hadvance := lt_pieceBoundary hcursor hboundary
      exact ih (by omega)
  | case3 cursor hdone => rfl

/-- Unless it runs over the last day, the loop writes nothing or ends well. -/
theorem activePieces_cases {cursor endedAtMs : Nat}
    (hfit : endedAtMs ≤ dayLimit ∨ dayLimit ≤ cursor) :
    (activePieces cursor endedAtMs).1 = [] ∨
      ((activePieces cursor endedAtMs).2 = .ok () ∧ endedAtMs ≤ dayLimit) := by
  unfold activePieces
  split
  · next hcursor =>
      split
      · exact Or.inl rfl
      · next boundary hboundary =>
          obtain ⟨-, hday, -⟩ := pieceBoundary_eq_ok hboundary
          have hlimit := div_millisPerDay_lt_iff.mp hday
          have hadvance := lt_pieceBoundary hcursor hboundary
          exact Or.inr ⟨activePieces_ok (by omega) (by omega), by omega⟩
  · exact Or.inl rfl

/-- A piece of an interval lies within it and within one day. -/
structure PieceOf (cursor endedAtMs : Nat) (piece : Interval) : Prop where
  cursor_le : cursor ≤ piece.start
  le_ended : piece.stop ≤ endedAtMs
  forward : piece.start ≤ piece.stop
  day : piece.stop ≤ (piece.start / millisPerDay + 1) * millisPerDay

theorem activePieces_pieces (cursor endedAtMs : Nat) :
    ∀ piece ∈ (activePieces cursor endedAtMs).1, PieceOf cursor endedAtMs piece := by
  fun_induction activePieces cursor endedAtMs with
  | case1 cursor hcursor error herror => simp
  | case2 cursor hcursor boundary hboundary ih =>
      have hadvance := lt_pieceBoundary hcursor hboundary
      obtain ⟨-, -, hmin⟩ := pieceBoundary_eq_ok hboundary
      intro piece hpiece
      rcases List.mem_cons.mp hpiece with rfl | hrest
      · constructor
        · exact le_rfl
        · show boundary ≤ endedAtMs
          omega
        · exact hadvance.le
        · show boundary ≤ (cursor / millisPerDay + 1) * millisPerDay
          omega
      · have hlater := ih piece hrest
        exact { hlater with cursor_le := hadvance.le.trans hlater.cursor_le }
  | case3 cursor hdone => simp

theorem activePieces_inOrder (cursor endedAtMs : Nat) :
    Interval.InOrder (activePieces cursor endedAtMs).1 := by
  fun_induction activePieces cursor endedAtMs with
  | case1 cursor hcursor error herror => exact .nil
  | case2 cursor hcursor boundary hboundary ih =>
      refine .cons (lt_pieceBoundary hcursor hboundary).le ?_ ih
      intro other hother
      exact (activePieces_pieces boundary endedAtMs other hother).cursor_le
  | case3 cursor hdone => exact .nil

/-! ## The days -/

/-- The pieces of a day. -/
def ofDay (pieces : List Interval) (day : Nat) : List Interval :=
  pieces.filter fun piece => piece.start / millisPerDay = day

/-- Each row holds the time of the pieces of its day, and no piece lacks its row. -/
structure Counted (pieces : List Interval) (daily : List DailyRow) : Prop where
  active_eq : ∀ row ∈ daily, row.activeMs = Interval.total (ofDay pieces row.utcDay)
  has_row : ∀ piece ∈ pieces, ∃ row ∈ daily, row.utcDay = piece.start / millisPerDay

theorem mem_ensureDay {daily : List DailyRow} {day : Nat} {row : DailyRow} :
    row ∈ ensureDay daily day ↔
      row ∈ daily ∨ (row = ⟨day, 0⟩ ∧ ∀ other ∈ daily, other.utcDay ≠ day) := by
  unfold ensureDay
  split
  · next hthere =>
      obtain ⟨other, hother, hday⟩ := List.any_eq_true.mp hthere
      constructor
      · exact Or.inl
      · rintro (hrow | ⟨-, hnone⟩)
        · exact hrow
        · exact absurd (of_decide_eq_true hday) (hnone other hother)
  · next hmissing =>
      have hnone : ∀ other ∈ daily, other.utcDay ≠ day := by
        simpa using hmissing
      simp only [List.mem_append, List.mem_singleton]
      exact or_congr_right ⟨fun heq => ⟨heq, hnone⟩, And.left⟩

theorem exists_ensureDay (daily : List DailyRow) (day : Nat) :
    ∃ row ∈ ensureDay daily day, row.utcDay = day := by
  by_cases hthere : ∃ row ∈ daily, row.utcDay = day
  · obtain ⟨row, hrow, hday⟩ := hthere
    exact ⟨row, mem_ensureDay.mpr (Or.inl hrow), hday⟩
  · push Not at hthere
    exact ⟨⟨day, 0⟩, mem_ensureDay.mpr (Or.inr ⟨rfl, hthere⟩), rfl⟩

/-- The days of the rows stay when a piece is added. -/
theorem exists_addPiece {daily : List DailyRow} {piece : Interval} {row : DailyRow}
    (hrow : row ∈ ensureDay daily (piece.start / millisPerDay)) :
    ∃ next ∈ addPiece daily piece, next.utcDay = row.utcDay := by
  refine ⟨_, List.mem_map.mpr ⟨row, hrow, rfl⟩, ?_⟩
  split <;> rfl

theorem ofDay_append (first second : List Interval) (day : Nat) :
    ofDay (first ++ second) day = ofDay first day ++ ofDay second day :=
  List.filter_append _ _

theorem Counted.addPiece {pieces : List Interval} {daily : List DailyRow}
    (hcounted : Counted pieces daily) (piece : Interval) :
    Counted (pieces ++ [piece]) (addPiece daily piece) where
  active_eq := by
    intro row hrow
    obtain ⟨before, hbefore, rfl⟩ := List.mem_map.mp hrow
    -- A row that was made for the piece has no other pieces.
    have hsum : before.activeMs = Interval.total (ofDay pieces before.utcDay) := by
      rcases mem_ensureDay.mp hbefore with hold | ⟨rfl, hnone⟩
      · exact hcounted.active_eq before hold
      · have hempty : ofDay pieces (piece.start / millisPerDay) = [] := by
          refine List.filter_eq_nil_iff.mpr ?_
          intro other hother hday
          obtain ⟨known, hknown, hsame⟩ := hcounted.has_row other hother
          exact hnone known hknown (hsame.trans (of_decide_eq_true hday))
        rw [hempty, Interval.total_nil]
    rw [ofDay_append]
    by_cases hday : before.utcDay = piece.start / millisPerDay
    · rw [if_pos hday, Interval.total_append, ← hsum]
      simp [ofDay, hday, Interval.total]
    · rw [if_neg hday, Interval.total_append, ← hsum]
      simp [ofDay, Ne.symm hday, Interval.total]
  has_row := by
    intro other hother
    rcases List.mem_append.mp hother with hold | hlast
    · obtain ⟨row, hrow, hday⟩ := hcounted.has_row other hold
      obtain ⟨next, hnext, hsame⟩ := exists_addPiece (mem_ensureDay.mpr (Or.inl hrow))
      exact ⟨next, hnext, hsame.trans hday⟩
    · obtain rfl := List.mem_singleton.mp hlast
      obtain ⟨row, hrow, hday⟩ := exists_ensureDay daily (other.start / millisPerDay)
      obtain ⟨next, hnext, hsame⟩ := exists_addPiece hrow
      exact ⟨next, hnext, hsame.trans hday⟩

theorem Counted.foldl {pieces added : List Interval} {daily : List DailyRow}
    (hcounted : Counted pieces daily) :
    Counted (pieces ++ added) (added.foldl Telemetry.addPiece daily) := by
  induction added generalizing pieces daily with
  | nil => simpa using hcounted
  | cons piece rest ih => simpa using ih (hcounted.addPiece piece)

/-- The pieces of one day, in order, take no longer than the day. -/
theorem total_ofDay_le {pieces : List Interval} (horder : Interval.InOrder pieces)
    (hdays : ∀ piece ∈ pieces, piece.stop ≤ (piece.start / millisPerDay + 1) * millisPerDay)
    (day : Nat) : Interval.total (ofDay pieces day) ≤ millisPerDay := by
  have hlower : ∀ piece ∈ ofDay pieces day, day * millisPerDay ≤ piece.start := by
    intro piece hpiece
    obtain rfl := of_decide_eq_true (List.mem_filter.mp hpiece).2
    exact Nat.div_mul_le_self _ _
  have hupper : ∀ piece ∈ ofDay pieces day, piece.stop ≤ (day + 1) * millisPerDay := by
    intro piece hpiece
    obtain ⟨hmem, hday⟩ := List.mem_filter.mp hpiece
    obtain rfl := of_decide_eq_true hday
    exact hdays piece hmem
  have hroom := (horder.filter _).total_le hlower hupper
  rwa [Nat.add_mul, Nat.one_mul, Nat.add_sub_cancel_left] at hroom

/-! ## One operation -/

/-- Up to here the activity may have been counted: to the time since which an account
is active, or to the mark of the last operation. -/
def frontier (runtime : RuntimeState) : Nat :=
  if runtime.activeAccounts = 0 then runtime.lastActivityMs
  else runtime.activeSinceMs.getD runtime.lastActivityMs

/-- The operation closes the interval that is open. -/
def Closes (database : Database) : ActivityOp → Prop
  | .openStore _ => 0 < database.runtime.activeAccounts
  | .setAccountActive _ active => active = false ∧ database.runtime.activeAccounts = 1
  | .checkpointActivity _ => 0 < database.runtime.activeAccounts

def ActivityOp.time : ActivityOp → Nat
  | .openStore openedAtMs => openedAtMs
  | .setAccountActive occurredAtMs _ => occurredAtMs
  | .checkpointActivity occurredAtMs => occurredAtMs

/-- An opening that finds no account active is not before the mark of the last
activity. -/
def NotBackward (database : Database) : ActivityOp → Prop
  | .openStore openedAtMs => database.runtime.activeAccounts = 0 →
      database.runtime.lastActivityMs ≤ openedAtMs
  | _ => True

/-- An interval that is closed does not run over the last day. -/
def WithinDays (database : Database) (operation : ActivityOp) : Prop :=
  Closes database operation → ∀ since, database.runtime.activeSinceMs = some since →
    operation.time ≤ dayLimit ∨ dayLimit ≤ since

def Admissible (database : Database) (operation : ActivityOp) : Prop :=
  NotBackward database operation ∧ WithinDays database operation

def recordedPieces (history : List (ActivityOp × ActivityAnswer)) : List Interval :=
  history.flatMap fun entry => entry.2.pieces

/-- The pieces counted so far, the days and the mark. -/
structure Recorded (pieces : List Interval) (database : Database) : Prop where
  counted : Counted pieces database.daily
  days : ∀ piece ∈ pieces, piece.stop ≤ (piece.start / millisPerDay + 1) * millisPerDay
  order : Interval.InOrder pieces
  before : ∀ piece ∈ pieces, piece.stop ≤ frontier database.runtime
  since : 0 < database.runtime.activeAccounts → database.runtime.activeSinceMs.isSome = true

section Steps

variable {pieces : List Interval} {database : Database}

/-- What the last statement of an operation has to do for the mark. -/
structure Moves (database : Database) (closes : Bool) (endedAtMs : Nat)
    (update : Except TelemetryStoreError RuntimeState) : Prop where
  accounts : closes = true → 0 < database.runtime.activeAccounts
  succeeds : closes = true → endedAtMs ≤ dayLimit → ∃ runtime, update = .ok runtime
  closed : closes = true → ∀ runtime, update = .ok runtime → frontier runtime = endedAtMs
  kept : closes = false → ∀ runtime, update = .ok runtime →
    frontier database.runtime ≤ frontier runtime
  since : ∀ runtime, update = .ok runtime →
    0 < runtime.activeAccounts → runtime.activeSinceMs.isSome = true

theorem Recorded.rejected (hrecorded : Recorded pieces database) (error : TelemetryStoreError) :
    Recorded (pieces ++ (rejected database error).2.pieces) (rejected database error).1 := by
  rw [show (Telemetry.rejected database error).2.pieces = [] from rfl, List.append_nil]
  exact hrecorded

/-- An update that closes no interval moves the mark on. -/
theorem Recorded.updated (hrecorded : Recorded pieces database) {runtime : RuntimeState}
    (hmark : frontier database.runtime ≤ frontier runtime)
    (hsince : 0 < runtime.activeAccounts → runtime.activeSinceMs.isSome = true) :
    Recorded pieces ⟨database.daily, runtime⟩ where
  counted := hrecorded.counted
  days := hrecorded.days
  order := hrecorded.order
  before := fun piece hpiece => (hrecorded.before piece hpiece).trans hmark
  since := hsince

/-- The pieces of a closed interval follow all pieces before them. -/
theorem Recorded.closed (hrecorded : Recorded pieces database) {start endedAtMs : Nat}
    (haccounts : 0 < database.runtime.activeAccounts)
    (hstart : database.runtime.activeSinceMs = some start) (hlater : start ≤ endedAtMs)
    {runtime : RuntimeState} (hmark : frontier runtime = endedAtMs)
    (hsince : 0 < runtime.activeAccounts → runtime.activeSinceMs.isSome = true) :
    Recorded (pieces ++ (activePieces start endedAtMs).1)
      ⟨(activePieces start endedAtMs).1.foldl addPiece database.daily, runtime⟩ := by
  have hfrontier : frontier database.runtime = start := by
    rw [frontier, if_neg haccounts.ne', hstart]
    rfl
  have hnew := activePieces_pieces start endedAtMs
  have hold : ∀ piece ∈ pieces, piece.stop ≤ start := by
    intro piece hpiece
    rw [← hfrontier]
    exact hrecorded.before piece hpiece
  constructor
  case counted => exact hrecorded.counted.foldl
  case days =>
    intro piece hpiece
    rcases List.mem_append.mp hpiece with hmem | hmem
    · exact hrecorded.days piece hmem
    · exact (hnew piece hmem).day
  case order =>
    exact hrecorded.order.append (activePieces_inOrder start endedAtMs) hold
      (fun piece hpiece => (hnew piece hpiece).cursor_le)
  case before =>
    intro piece hpiece
    show piece.stop ≤ frontier runtime
    rw [hmark]
    rcases List.mem_append.mp hpiece with hmem | hmem
    · exact (hold piece hmem).trans hlater
    · exact (hnew piece hmem).le_ended
  case since => exact hsince

theorem Recorded.closeAndUpdate (hrecorded : Recorded pieces database) {closes : Bool}
    {endedAtMs : Nat} {update : Except TelemetryStoreError RuntimeState}
    (hfit : closes = true → ∀ since, database.runtime.activeSinceMs = some since →
      endedAtMs ≤ dayLimit ∨ dayLimit ≤ since)
    (hmoves : Moves database closes endedAtMs update) :
    Recorded (pieces ++ (closeAndUpdate database closes endedAtMs update).2.pieces)
      (closeAndUpdate database closes endedAtMs update).1 := by
  unfold Telemetry.closeAndUpdate
  cases closes with
  | false =>
      cases update with
      | error error => simpa using hrecorded
      | ok runtime =>
          simpa using hrecorded.updated (hmoves.kept rfl runtime rfl) (hmoves.since runtime rfl)
  | true =>
      have haccounts := hmoves.accounts rfl
      obtain ⟨start, hstart⟩ := Option.isSome_iff_exists.mp (hrecorded.since haccounts)
      simp only [if_true, addActiveInterval, hstart]
      by_cases hbackward : endedAtMs < start
      · simpa [hbackward] using hrecorded
      · rw [if_neg hbackward]
        have hcases := activePieces_cases (hfit rfl start hstart)
        cases hloop : (activePieces start endedAtMs).2 with
        | error error =>
            have hnone := hcases.resolve_right (by simp [hloop])
            simpa [hnone] using hrecorded
        | ok _ =>
            cases hupdate : update with
            | ok runtime =>
                exact hrecorded.closed haccounts hstart (Nat.not_lt.mp hbackward)
                  (hmoves.closed rfl runtime hupdate) (hmoves.since runtime hupdate)
            | error error =>
                -- The update fails only for a time after the last day.
                rcases hcases with hnone | ⟨-, hended⟩
                · simpa [hnone] using hrecorded
                · obtain ⟨runtime, hok⟩ := hmoves.succeeds rfl hended
                  cases hupdate.symm.trans hok

theorem toI64_of_le_dayLimit {timestampMs : Nat} (hday : timestampMs ≤ dayLimit) :
    toI64 timestampMs = .ok timestampMs := by
  have hlimit : dayLimit < i64Bound := by decide
  exact tryI64_eq_ok_iff.mpr ⟨by omega, rfl⟩

theorem optionalI64_eq_ok {value result : Option Nat}
    (hok : optionalI64 value = .ok result) : result = value := by
  cases value with
  | none =>
      cases hok
      rfl
  | some number =>
      obtain ⟨stored, hstored, rfl⟩ := map_eq_ok_iff.mp hok
      rw [(tryI64_eq_ok_iff.mp hstored).2]

theorem activityUpdate_eq_ok {next occurredAtMs : Nat} {activeSince : Option Nat}
    {runtime : RuntimeState}
    (hok : activityUpdate next activeSince occurredAtMs = .ok runtime) :
    runtime = ⟨next, activeSince, occurredAtMs⟩ := by
  unfold activityUpdate at hok
  obtain ⟨count, hcount, hrest⟩ := bind_eq_ok_iff.mp hok
  obtain ⟨since, hsince, hmark⟩ := bind_eq_ok_iff.mp hrest
  obtain ⟨last, hlast, hreturn⟩ := bind_eq_ok_iff.mp hmark
  cases hreturn
  rw [(tryI64_eq_ok_iff.mp hcount).2, (tryI64_eq_ok_iff.mp hlast).2, optionalI64_eq_ok hsince]

theorem checkpointUpdate_eq_ok {before runtime : RuntimeState} {occurredAtMs : Nat}
    (hok : checkpointUpdate before occurredAtMs = .ok runtime) :
    runtime = { before with
      activeSinceMs := if 0 < before.activeAccounts then some occurredAtMs else none
      lastActivityMs := occurredAtMs } := by
  obtain ⟨last, hlast, hreturn⟩ := bind_eq_ok_iff.mp hok
  cases hreturn
  rw [(tryI64_eq_ok_iff.mp hlast).2]

theorem staleUpdate_eq_ok {runtime : RuntimeState} {openedAtMs : Nat}
    (hok : staleUpdate openedAtMs = .ok runtime) : runtime = ⟨0, none, openedAtMs⟩ := by
  obtain ⟨last, hlast, hreturn⟩ := bind_eq_ok_iff.mp hok
  cases hreturn
  rw [(tryI64_eq_ok_iff.mp hlast).2]

theorem moves_openStore {openedAtMs : Nat}
    (hmark : database.runtime.activeAccounts = 0 →
      database.runtime.lastActivityMs ≤ openedAtMs) :
    Moves database (0 < database.runtime.activeAccounts) openedAtMs
      (staleUpdate openedAtMs) where
  accounts := of_decide_eq_true
  succeeds := fun _ hday =>
    ⟨_, bind_eq_ok_iff.mpr ⟨_, toI64_of_le_dayLimit hday, rfl⟩⟩
  closed := by
    intro _ runtime hok
    rw [staleUpdate_eq_ok hok]
    rfl
  kept := by
    intro hnone runtime hok
    have hidle : database.runtime.activeAccounts = 0 := by simpa using hnone
    rw [staleUpdate_eq_ok hok, frontier, if_pos hidle]
    exact hmark hidle
  since := by
    intro runtime hok hactive
    rw [staleUpdate_eq_ok hok] at hactive
    cases hactive

theorem moves_checkpoint {occurredAtMs : Nat}
    (hlater : database.runtime.lastActivityMs ≤ occurredAtMs) :
    Moves database (0 < database.runtime.activeAccounts) occurredAtMs
      (checkpointUpdate database.runtime occurredAtMs) where
  accounts := of_decide_eq_true
  succeeds := fun _ hday =>
    ⟨_, bind_eq_ok_iff.mpr ⟨_, toI64_of_le_dayLimit hday, rfl⟩⟩
  closed := by
    intro hactive runtime hok
    have haccounts := of_decide_eq_true hactive
    rw [checkpointUpdate_eq_ok hok, frontier, if_neg haccounts.ne', if_pos haccounts]
    rfl
  kept := by
    intro hnone runtime hok
    have hidle : database.runtime.activeAccounts = 0 := by simpa using hnone
    rw [checkpointUpdate_eq_ok hok, frontier, frontier, if_pos hidle, if_pos hidle]
    exact hlater
  since := by
    intro runtime hok hactive
    rw [checkpointUpdate_eq_ok hok] at hactive ⊢
    rw [if_pos hactive]
    rfl

/-- The interval that is open stays open while an account joins others or leaves
others behind. -/
theorem frontier_le_of_since {runtime : RuntimeState} {since : Nat}
    (hbefore : database.runtime.activeSinceMs = some since)
    (hactive : 0 < database.runtime.activeAccounts) (hafter : 0 < runtime.activeAccounts)
    (hsame : runtime.activeSinceMs = database.runtime.activeSinceMs) :
    frontier database.runtime ≤ frontier runtime := by
  rw [frontier, frontier, if_neg hactive.ne', if_neg hafter.ne', hsame, hbefore]
  exact le_rfl

theorem moves_activity (hsince : 0 < database.runtime.activeAccounts →
      database.runtime.activeSinceMs.isSome = true)
    {occurredAtMs next : Nat} {active : Bool}
    (hlater : database.runtime.lastActivityMs ≤ occurredAtMs)
    (hnext : nextAccounts database.runtime active = .ok next) :
    Moves database (!active && next = 0) occurredAtMs
      (activityUpdate next (nextActiveSince database.runtime occurredAtMs active next)
        occurredAtMs) := by
  cases active with
  | true =>
      obtain ⟨-, rfl⟩ := checkedAddU64_eq_some_iff.mp (okOr_eq_ok_iff.mp hnext)
      by_cases hidle : database.runtime.activeAccounts = 0
      · -- The first account opens an interval at its own time.
        constructor
        case accounts => simp
        case succeeds => simp
        case closed => simp
        case kept =>
          intro _ runtime hok
          rw [activityUpdate_eq_ok hok]
          simpa [frontier, nextActiveSince, hidle] using hlater
        case since =>
          intro runtime hok _
          rw [activityUpdate_eq_ok hok]
          simp [nextActiveSince, hidle]
      · have hactive := Nat.pos_of_ne_zero hidle
        obtain ⟨since, hstart⟩ := Option.isSome_iff_exists.mp (hsince hactive)
        constructor
        case accounts => simp
        case succeeds => simp
        case closed => simp
        case kept =>
          intro _ runtime hok
          rw [activityUpdate_eq_ok hok]
          exact frontier_le_of_since hstart hactive (Nat.succ_pos _)
            (by simp [nextActiveSince, hidle])
        case since =>
          intro runtime hok _
          rw [activityUpdate_eq_ok hok]
          simp [nextActiveSince, hidle, hstart]
  | false =>
      have hactive : 0 < database.runtime.activeAccounts := by
        by_contra hidle
        have hzero : database.runtime.activeAccounts = 0 := by omega
        simp [nextAccounts, hzero, okOr] at hnext
      obtain ⟨since, hstart⟩ := Option.isSome_iff_exists.mp (hsince hactive)
      constructor
      case accounts => exact fun _ => hactive
      case succeeds =>
        intro hlast hday
        have hzero : next = 0 := by simpa using hlast
        refine ⟨_, bind_eq_ok_iff.mpr ⟨0, ?_, bind_eq_ok_iff.mpr ⟨none, ?_,
          bind_eq_ok_iff.mpr ⟨_, toI64_of_le_dayLimit hday, rfl⟩⟩⟩⟩
        · rw [hzero]
          rfl
        · simp [nextActiveSince, hzero, optionalI64]
      case closed =>
        intro hlast runtime hok
        have hzero : next = 0 := by simpa using hlast
        rw [activityUpdate_eq_ok hok, frontier, if_pos hzero]
      case kept =>
        intro hothers runtime hok
        have hleft : next ≠ 0 := by simpa using hothers
        rw [activityUpdate_eq_ok hok]
        exact frontier_le_of_since hstart hactive (Nat.pos_of_ne_zero hleft)
          (by simp [nextActiveSince, hleft])
      case since =>
        intro runtime hok hleft
        rw [activityUpdate_eq_ok hok] at hleft ⊢
        have hothers : next ≠ 0 := Nat.pos_iff_ne_zero.mp hleft
        simp [nextActiveSince, hothers, hstart]

theorem Recorded.updateActivity (hrecorded : Recorded pieces database) {occurredAtMs : Nat}
    {active : Bool}
    (hdays : WithinDays database (.setAccountActive occurredAtMs active)) :
    Recorded (pieces ++ (updateActivity database occurredAtMs active).2.pieces)
      (updateActivity database occurredAtMs active).1 := by
  unfold Telemetry.updateActivity
  split
  · exact hrecorded.rejected _
  · split
    · exact hrecorded.rejected _
    · next hlater =>
        split
        · exact hrecorded.rejected _
        · next next hnext =>
            refine hrecorded.closeAndUpdate ?_
              (moves_activity hrecorded.since (Nat.not_lt.mp hlater) hnext)
            -- The interval is closed by the last account.
            intro hlast
            obtain ⟨hleaves, hnone⟩ : active = false ∧ next = 0 := by simpa using hlast
            subst hleaves hnone
            refine hdays ⟨rfl, ?_⟩
            by_contra hmany
            by_cases hidle : database.runtime.activeAccounts = 0
            · simp [nextAccounts, hidle, okOr] at hnext
            · simp [nextAccounts, hidle] at hnext
              omega

theorem Recorded.checkpointActivity (hrecorded : Recorded pieces database)
    {occurredAtMs : Nat} (hdays : WithinDays database (.checkpointActivity occurredAtMs)) :
    Recorded (pieces ++ (checkpointActivity database occurredAtMs).2.pieces)
      (checkpointActivity database occurredAtMs).1 := by
  unfold Telemetry.checkpointActivity
  split
  · exact hrecorded.rejected _
  · next hlater =>
      refine hrecorded.closeAndUpdate ?_ (moves_checkpoint (Nat.not_lt.mp hlater))
      intro hcloses
      have hactive : 0 < database.runtime.activeAccounts := by simpa using hcloses
      exact hdays hactive

theorem Recorded.openStore (hrecorded : Recorded pieces database) {openedAtMs : Nat}
    (hmark : NotBackward database (.openStore openedAtMs))
    (hdays : WithinDays database (.openStore openedAtMs)) :
    Recorded (pieces ++ (openStore database openedAtMs).2.pieces)
      (openStore database openedAtMs).1 := by
  unfold Telemetry.openStore
  split
  · exact hrecorded.rejected _
  · refine hrecorded.closeAndUpdate ?_ (moves_openStore hmark)
    intro hcloses
    have hactive : 0 < database.runtime.activeAccounts := by simpa using hcloses
    exact hdays hactive

/-- An admissible operation keeps the pieces in order. -/
theorem Recorded.step (hrecorded : Recorded pieces database) {operation : ActivityOp}
    (hadmissible : Admissible database operation) :
    Recorded (pieces ++ (activityStore.step database operation).2.pieces)
      (activityStore.step database operation).1 := by
  obtain ⟨hmark, hdays⟩ := hadmissible
  cases operation with
  | openStore openedAtMs => exact hrecorded.openStore hmark hdays
  | setAccountActive occurredAtMs active => exact hrecorded.updateActivity hdays
  | checkpointActivity occurredAtMs => exact hrecorded.checkpointActivity hdays

end Steps

theorem Recorded.empty : Recorded [] Database.empty where
  counted := ⟨by simp [Database.empty], by simp⟩
  days := by simp
  order := .nil
  before := by simp
  since := by simp [Database.empty]

theorem recorded_run {operations : List ActivityOp}
    (hguarded : activityStore.Guarded Admissible Database.empty operations) :
    Recorded (recordedPieces (activityStore.trace Database.empty operations))
      (activityStore.run Database.empty operations) := by
  refine activityStore.history_guarded_run
    (fun history database => Recorded (recordedPieces history) database) .empty ?_ hguarded
  intro history database operation hrecorded hadmissible
  have hstep := hrecorded.step hadmissible
  simpa [recordedPieces] using hstep

/-- While the mark never goes back, no instant is counted twice: a day holds the time
of its pieces, and no more than its own length. -/
theorem activity_counted_once {operations reached : List ActivityOp}
    (hguarded : activityStore.Guarded Admissible Database.empty operations)
    (hreached : reached <+: operations) :
    let pieces := recordedPieces (activityStore.trace Database.empty reached)
    (∀ instant, Interval.coverage pieces instant ≤ 1) ∧
    ∀ row ∈ (activityStore.run Database.empty reached).daily,
      row.activeMs = Interval.total (ofDay pieces row.utcDay) ∧
      row.activeMs ≤ millisPerDay := by
  intro pieces
  obtain ⟨rest, rfl⟩ := hreached
  have hrecorded : Recorded pieces (activityStore.run Database.empty reached) :=
    recorded_run (Machine.Guarded.of_append activityStore hguarded)
  refine ⟨hrecorded.order.coverage_le_one, ?_⟩
  intro row hrow
  have hsum := hrecorded.counted.active_eq row hrow
  refine ⟨hsum, ?_⟩
  rw [hsum]
  exact total_ofDay_le hrecorded.order hrecorded.days row.utcDay

/-- An interval within the first day is one piece. -/
theorem activePieces_firstDay {start endedAtMs : Nat} (hstart : 0 < start)
    (hforward : start < endedAtMs) (hday : endedAtMs ≤ millisPerDay) :
    activePieces start endedAtMs = ([⟨start, endedAtMs⟩], .ok ()) := by
  have hzero : start / millisPerDay = 0 := Nat.div_eq_of_lt (by omega)
  have hlimit : start < dayLimit := by
    rw [← div_millisPerDay_lt_iff, hzero]
    decide
  obtain ⟨boundary, hboundary⟩ : ∃ boundary, pieceBoundary start endedAtMs = .ok boundary :=
    pieceBoundary_isOk hstart.ne' hlimit
  obtain rfl : boundary = endedAtMs := by
    rw [(pieceBoundary_eq_ok hboundary).2.2, hzero]
    omega
  unfold activePieces
  rw [dif_pos hforward]
  split
  · next error herror => cases herror.symm.trans hboundary
  · next other hother =>
      cases hother.symm.trans hboundary
      unfold activePieces
      rw [dif_neg (Nat.lt_irrefl _)]

/-- A store that is opened with its clock at the beginning, and a day online. -/
def dayOnline : List ActivityOp :=
  [.openStore 1, .setAccountActive 1 true, .setAccountActive 86400000 false]

/-- What the end of the day writes. -/
theorem leaveAtEndOfDay (daily : List DailyRow) :
    updateActivity ⟨daily, ⟨1, some 1, 1⟩⟩ 86400000 false =
      (⟨addPiece daily ⟨1, 86400000⟩, ⟨0, none, 86400000⟩⟩,
        ⟨[⟨1, 86400000⟩], .ok ()⟩) := by
  have hpieces : addActiveInterval (some 1) 86400000 = ([⟨1, 86400000⟩], .ok ()) :=
    activePieces_firstDay (by decide) (by decide) (by decide)
  have hupdate : activityUpdate 0 none 86400000 = .ok ⟨0, none, 86400000⟩ := by decide
  show closeAndUpdate _ true 86400000 (activityUpdate 0 none 86400000) = _
  simp only [closeAndUpdate, if_true, hpieces, hupdate]
  rfl

theorem dayOnline_history (daily : List DailyRow) (last : Nat) :
    activityStore.trace ⟨daily, ⟨0, none, last⟩⟩ dayOnline =
        [(.openStore 1, ⟨[], .ok ()⟩), (.setAccountActive 1 true, ⟨[], .ok ()⟩),
          (.setAccountActive 86400000 false, ⟨[⟨1, 86400000⟩], .ok ()⟩)] ∧
      activityStore.run ⟨daily, ⟨0, none, last⟩⟩ dayOnline =
        ⟨addPiece daily ⟨1, 86400000⟩, ⟨0, none, 86400000⟩⟩ := by
  have hopened : activityStore.step ⟨daily, ⟨0, none, last⟩⟩ (.openStore 1) =
      (⟨daily, ⟨0, none, 1⟩⟩, ⟨[], .ok ()⟩) := rfl
  have hjoined : activityStore.step ⟨daily, ⟨0, none, 1⟩⟩ (.setAccountActive 1 true) =
      (⟨daily, ⟨1, some 1, 1⟩⟩, ⟨[], .ok ()⟩) := rfl
  have hleft : activityStore.step ⟨daily, ⟨1, some 1, 1⟩⟩ (.setAccountActive 86400000 false) =
      (⟨addPiece daily ⟨1, 86400000⟩, ⟨0, none, 86400000⟩⟩,
        ⟨[⟨1, 86400000⟩], .ok ()⟩) := leaveAtEndOfDay daily
  simp [dayOnline, hopened, hjoined, hleft]

/-- Opened again with its clock set back, the store counts the day a second time:
every operation is accepted. -/
theorem day_counted_twice :
    (∀ entry ∈ activityStore.trace Database.empty (dayOnline ++ dayOnline),
      entry.2.result = .ok ()) ∧
    Interval.coverage
      (recordedPieces (activityStore.trace Database.empty (dayOnline ++ dayOnline))) 1 = 2 ∧
    (activityStore.run Database.empty (dayOnline ++ dayOnline)).daily = [⟨0, 172799998⟩] := by
  obtain ⟨hfirst, hreached⟩ := dayOnline_history [] 0
  obtain ⟨hsecond, hfinal⟩ := dayOnline_history (addPiece [] ⟨1, 86400000⟩) 86400000
  have hstart : Database.empty = ⟨[], ⟨0, none, 0⟩⟩ := rfl
  rw [hstart, Machine.trace_append, Machine.run_append, hreached, hfirst, hsecond, hfinal]
  refine ⟨by simp, by decide, by decide⟩

/-- The hypotheses at a day online. -/
theorem dayOnline_counted_once :
    activityStore.Guarded Admissible Database.empty dayOnline ∧
      Interval.coverage
        (recordedPieces (activityStore.trace Database.empty dayOnline)) 1 ≤ 1 := by
  have hguarded : activityStore.Guarded Admissible Database.empty dayOnline := by
    refine ⟨⟨fun _ => Nat.zero_le _, ?_⟩, ⟨trivial, ?_⟩, ⟨trivial, ?_⟩, trivial⟩
    · intro hactive
      exact absurd hactive (Nat.lt_irrefl 0)
    · intro hcloses
      exact absurd hcloses.1 (by decide)
    · intro _ since _
      exact Or.inl (by decide)
  exact ⟨hguarded, (activity_counted_once hguarded (List.prefix_refl _)).1 1⟩

end Telemetry
end Lirvena
