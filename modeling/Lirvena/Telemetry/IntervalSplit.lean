import Lirvena.Lib.Tiling
import Lirvena.Telemetry.ActivityRun

/-!
# The pieces of one interval

The loop that adds an interval ends for every interval that is accepted.  Its pieces tile
the interval and each lies inside one day, so the row of a day gains what the interval
has in common with the day.
-/

namespace Lirvena
namespace Telemetry

open Lib

/-- An interval that is not reversed; one that is not empty begins behind the beginning
of time and ends with the last day at the latest. -/
def InRange (start endedAtMs : Nat) : Prop :=
  start ≤ endedAtMs ∧ (start < endedAtMs → start ≠ 0 ∧ endedAtMs ≤ dayLimit)

instance (start endedAtMs : Nat) : Decidable (InRange start endedAtMs) :=
  inferInstanceAs (Decidable (_ ∧ _))

/-! ## The range -/

theorem activePieces_inRange {cursor endedAtMs : Nat}
    (hok : (activePieces cursor endedAtMs).2 = .ok ()) (hcursor : cursor < endedAtMs) :
    cursor ≠ 0 ∧ endedAtMs ≤ dayLimit := by
  fun_induction activePieces cursor endedAtMs with
  | case1 cursor _ error herror => cases hok
  | case2 cursor _ boundary hboundary ih =>
      obtain ⟨hnonzero, hday, hmin⟩ := pieceBoundary_eq_ok hboundary
      refine ⟨hnonzero, ?_⟩
      by_cases hlast : boundary < endedAtMs
      · exact (ih hok hlast).2
      · have hnext : (cursor / millisPerDay + 1) * millisPerDay ≤ dayLimit :=
          Nat.mul_le_mul_right _ hday
        omega
  | case3 cursor hdone => exact absurd hcursor hdone

theorem addActiveInterval_forward {start endedAtMs : Nat} (hforward : start ≤ endedAtMs) :
    addActiveInterval (some start) endedAtMs = activePieces start endedAtMs :=
  if_neg (Nat.not_lt.mpr hforward)

theorem addActiveInterval_reversed {start endedAtMs : Nat} (hreversed : endedAtMs < start) :
    addActiveInterval (some start) endedAtMs = ([], .error .invalidInput) :=
  if_pos hreversed

/-- An interval is added to its end exactly when it is in range. -/
theorem addActiveInterval_isOk_iff {start endedAtMs : Nat} :
    (addActiveInterval (some start) endedAtMs).2 = .ok () ↔ InRange start endedAtMs := by
  constructor
  · intro hok
    by_cases hreversed : endedAtMs < start
    · rw [addActiveInterval_reversed hreversed] at hok
      cases hok
    · have hforward := Nat.not_lt.mp hreversed
      rw [addActiveInterval_forward hforward] at hok
      exact ⟨hforward, activePieces_inRange hok⟩
  · rintro ⟨hforward, hrange⟩
    rw [addActiveInterval_forward hforward]
    by_cases hempty : start < endedAtMs
    · exact activePieces_ok (hrange hempty).1 (hrange hempty).2
    · rw [activePieces, dif_neg hempty]

/-! ## The pieces -/

theorem activePieces_tiles {cursor endedAtMs : Nat} (hforward : cursor ≤ endedAtMs)
    (hok : (activePieces cursor endedAtMs).2 = .ok ()) :
    Interval.Tiles cursor endedAtMs (activePieces cursor endedAtMs).1 := by
  fun_induction activePieces cursor endedAtMs with
  | case1 cursor _ error herror => cases hok
  | case2 cursor hcursor boundary hboundary ih =>
      have hmin := (pieceBoundary_eq_ok hboundary).2.2
      exact .cons (lt_pieceBoundary hcursor hboundary) (ih (by omega) hok)
  | case3 cursor hdone =>
      obtain rfl : cursor = endedAtMs := Nat.le_antisymm hforward (Nat.not_lt.mp hdone)
      exact .nil cursor

/-- One turn for each day that the interval touches, at most. -/
theorem activePieces_length_le (cursor endedAtMs : Nat) :
    (activePieces cursor endedAtMs).1.length ≤
      endedAtMs / millisPerDay + 1 - cursor / millisPerDay := by
  fun_induction activePieces cursor endedAtMs with
  | case1 cursor _ error herror => exact Nat.zero_le _
  | case2 cursor hcursor boundary hboundary ih =>
      obtain ⟨-, -, hmin⟩ := pieceBoundary_eq_ok hboundary
      have hsame : cursor / millisPerDay ≤ endedAtMs / millisPerDay :=
        Nat.div_le_div_right hcursor.le
      rw [List.length_cons]
      by_cases hlast : boundary < endedAtMs
      · -- The piece ends with its day, so the next one begins the day after.
        have hnext : boundary = (cursor / millisPerDay + 1) * millisPerDay := by omega
        have hday : boundary / millisPerDay = cursor / millisPerDay + 1 := by
          rw [hnext, Nat.mul_div_cancel _ (by decide)]
        have hlater : boundary / millisPerDay ≤ endedAtMs / millisPerDay :=
          Nat.div_le_div_right hlast.le
        omega
      · have hdone : (activePieces boundary endedAtMs).1 = [] := by
          rw [activePieces, dif_neg hlast]
        rw [hdone, List.length_nil]
        omega
  | case3 cursor hdone => exact Nat.zero_le _

/-- The points of a piece have the day under which the piece is recorded. -/
theorem PieceOf.day_eq {cursor endedAtMs : Nat} {piece : Interval}
    (hpiece : PieceOf cursor endedAtMs piece) {instant : Nat} (hinstant : instant ∈ piece.points) :
    instant / millisPerDay = piece.start / millisPerDay := by
  obtain ⟨hstart, hstop⟩ := Interval.mem_points.mp hinstant
  have hupper : instant < (piece.start / millisPerDay + 1) * millisPerDay :=
    Nat.lt_of_lt_of_le hstop hpiece.day
  refine Nat.le_antisymm (Nat.le_of_lt_succ ?_) (Nat.div_le_div_right hstart)
  exact (Nat.div_lt_iff_lt_mul (by decide)).mpr hupper

/-- The time that an interval has in common with a day. -/
def overlap (start endedAtMs day : Nat) : Nat :=
  min endedAtMs ((day + 1) * millisPerDay) - max start (day * millisPerDay)

theorem total_ofDay_activePieces {start endedAtMs : Nat} (hforward : start ≤ endedAtMs)
    (hok : (activePieces start endedAtMs).2 = .ok ()) (day : Nat) :
    Interval.total (ofDay (activePieces start endedAtMs).1 day) = overlap start endedAtMs day := by
  have hpieces := activePieces_pieces start endedAtMs
  refine (activePieces_tiles hforward hok).total_filter_eq ?_ ?_
  · intro piece hpiece hday
    obtain rfl := of_decide_eq_true hday
    exact ⟨Nat.div_mul_le_self _ _, (hpieces piece hpiece).day⟩
  · intro piece hpiece hother
    have hother : piece.start / millisPerDay ≠ day := of_decide_eq_false hother
    rcases Nat.lt_or_gt_of_ne hother with hbefore | hafter
    · exact Or.inl (Nat.le_trans (hpieces piece hpiece).day (Nat.mul_le_mul_right _ hbefore))
    · right
      have hle := Nat.mul_le_mul_right millisPerDay (Nat.succ_le_of_lt hafter)
      exact Nat.le_trans hle (Nat.div_mul_le_self _ _)

/-! ## The days -/

theorem mem_ensureDay_of_mem_addPiece {daily : List DailyRow} {piece : Interval} {row : DailyRow}
    (hrow : row ∈ addPiece daily piece) :
    ∃ before ∈ ensureDay daily row.utcDay, before.utcDay = row.utcDay ∧
      row.activeMs = before.activeMs + Interval.total (ofDay [piece] row.utcDay) := by
  obtain ⟨before, hbefore, rfl⟩ := List.mem_map.mp hrow
  by_cases hday : before.utcDay = piece.start / millisPerDay
  · rw [if_pos hday]
    refine ⟨before, ?_, rfl, ?_⟩
    · show before ∈ ensureDay daily before.utcDay
      rwa [hday]
    · simp [ofDay, hday, Interval.total]
  · rw [if_neg hday]
    refine ⟨before, ?_, rfl, ?_⟩
    · rcases mem_ensureDay.mp hbefore with hold | ⟨rfl, -⟩
      · exact mem_ensureDay.mpr (Or.inl hold)
      · exact absurd rfl hday
    · simp [ofDay, Ne.symm hday, Interval.total]

/-- A row behind the pieces holds what it held before, and the pieces of its day. -/
theorem mem_ensureDay_of_mem_foldl {pieces : List Interval} {daily : List DailyRow}
    {row : DailyRow} (hrow : row ∈ pieces.foldl addPiece daily) :
    ∃ before ∈ ensureDay daily row.utcDay, before.utcDay = row.utcDay ∧
      row.activeMs = before.activeMs + Interval.total (ofDay pieces row.utcDay) := by
  induction pieces generalizing daily with
  | nil => exact ⟨row, mem_ensureDay.mpr (Or.inl hrow), rfl, rfl⟩
  | cons piece rest ih =>
      obtain ⟨middle, hmiddle, hday, hactive⟩ := ih hrow
      have hpieces : Interval.total (ofDay (piece :: rest) row.utcDay) =
          Interval.total (ofDay [piece] row.utcDay) + Interval.total (ofDay rest row.utcDay) := by
        rw [← List.singleton_append, ofDay_append, Interval.total_append]
      rcases mem_ensureDay.mp hmiddle with hold | ⟨rfl, hnone⟩
      · obtain ⟨before, hbefore, hsame, hsum⟩ := mem_ensureDay_of_mem_addPiece hold
        rw [hday] at hbefore hsame hsum
        exact ⟨before, hbefore, hsame, by omega⟩
      · -- No row has the day yet, so neither has the piece.
        have hother : piece.start / millisPerDay ≠ row.utcDay := by
          intro hpiece
          obtain ⟨made, hmade, hmadeDay⟩ := exists_ensureDay daily (piece.start / millisPerDay)
          obtain ⟨next, hnext, hnextDay⟩ := exists_addPiece hmade
          exact hnone next hnext (hnextDay.trans (hmadeDay.trans hpiece))
        have hempty : ofDay [piece] row.utcDay = [] := by
          simp [ofDay, hother]
        have hmissing : ∀ before ∈ daily, before.utcDay ≠ row.utcDay := by
          intro before hbefore
          have hrow : before ∈ ensureDay daily (piece.start / millisPerDay) :=
            mem_ensureDay.mpr (Or.inl hbefore)
          obtain ⟨next, hnext, hnextDay⟩ := exists_addPiece hrow
          exact hnextDay ▸ hnone next hnext
        refine ⟨⟨row.utcDay, 0⟩, mem_ensureDay.mpr (Or.inr ⟨rfl, hmissing⟩), rfl, ?_⟩
        rw [hpieces, hempty, Interval.total_nil, Nat.zero_add]
        exact hactive

theorem exists_foldl_addPiece {pieces : List Interval} {daily : List DailyRow} {row : DailyRow}
    (hrow : row ∈ daily) : ∃ next ∈ pieces.foldl addPiece daily, next.utcDay = row.utcDay := by
  induction pieces generalizing daily row with
  | nil => exact ⟨row, hrow, rfl⟩
  | cons piece rest ih =>
      obtain ⟨middle, hmiddle, hsame⟩ := exists_addPiece (mem_ensureDay.mpr (Or.inl hrow))
      obtain ⟨next, hnext, hday⟩ := ih hmiddle
      exact ⟨next, hnext, hday.trans hsame⟩

theorem exists_foldl_of_mem {pieces : List Interval} {daily : List DailyRow} {piece : Interval}
    (hpiece : piece ∈ pieces) :
    ∃ row ∈ pieces.foldl addPiece daily, row.utcDay = piece.start / millisPerDay := by
  induction pieces generalizing daily with
  | nil => cases hpiece
  | cons first rest ih =>
      rcases List.mem_cons.mp hpiece with rfl | hrest
      · obtain ⟨made, hmade, hday⟩ := exists_ensureDay daily (piece.start / millisPerDay)
        obtain ⟨middle, hmiddle, hsame⟩ := exists_addPiece hmade
        obtain ⟨next, hnext, hkept⟩ := exists_foldl_addPiece hmiddle
        exact ⟨next, hnext, hkept.trans (hsame.trans hday)⟩
      · exact ih hrest

/-! ## The split -/

/-- Pieces that split an interval into days. -/
structure SplitsIntoDays (start endedAtMs : Nat) (pieces : List Interval) : Prop where
  turns : pieces.length ≤ endedAtMs / millisPerDay + 1 - start / millisPerDay
  disjoint : pieces.Pairwise fun first second => Disjoint first.points second.points
  covers : ∀ instant, (∃ piece ∈ pieces, instant ∈ piece.points) ↔
    start ≤ instant ∧ instant < endedAtMs
  inDay : ∀ piece ∈ pieces, ∀ instant ∈ piece.points,
    instant / millisPerDay = piece.start / millisPerDay
  total : Interval.total pieces = endedAtMs - start

/-- Every day that an interval touches has a row, no row is lost, and each row gains what
its day has in common with the interval. -/
structure GainsOverlap (start endedAtMs : Nat) (daily after : List DailyRow) : Prop where
  touched : ∀ instant, start ≤ instant → instant < endedAtMs →
    ∃ row ∈ after, row.utcDay = instant / millisPerDay
  kept : ∀ before ∈ daily, ∃ row ∈ after, row.utcDay = before.utcDay
  gained : ∀ row ∈ after, ∃ before ∈ ensureDay daily row.utcDay, before.utcDay = row.utcDay ∧
    row.activeMs = before.activeMs + overlap start endedAtMs row.utcDay

theorem activePieces_splits {start endedAtMs : Nat} (hforward : start ≤ endedAtMs)
    (hok : (activePieces start endedAtMs).2 = .ok ()) :
    SplitsIntoDays start endedAtMs (activePieces start endedAtMs).1 := by
  have htiles := activePieces_tiles hforward hok
  constructor
  · exact activePieces_length_le start endedAtMs
  · exact htiles.inOrder.pairwise_disjoint
  · exact htiles.exists_mem_points_iff
  · intro piece hpiece instant hinstant
    exact (activePieces_pieces start endedAtMs piece hpiece).day_eq hinstant
  · exact htiles.total_eq

theorem SplitsIntoDays.gainsOverlap {start endedAtMs : Nat} {pieces : List Interval}
    (hsplits : SplitsIntoDays start endedAtMs pieces)
    (hdays : ∀ day, Interval.total (ofDay pieces day) = overlap start endedAtMs day)
    (daily : List DailyRow) :
    GainsOverlap start endedAtMs daily (pieces.foldl addPiece daily) where
  touched := by
    intro instant hstart hended
    obtain ⟨piece, hpiece, hinstant⟩ := (hsplits.covers instant).mpr ⟨hstart, hended⟩
    obtain ⟨row, hrow, hday⟩ := exists_foldl_of_mem hpiece
    exact ⟨row, hrow, hday.trans (hsplits.inDay piece hpiece instant hinstant).symm⟩
  kept := fun before hbefore => exists_foldl_addPiece hbefore
  gained := by
    intro row hrow
    obtain ⟨before, hbefore, hday, hactive⟩ := mem_ensureDay_of_mem_foldl hrow
    exact ⟨before, hbefore, hday, hactive.trans (congrArg _ (hdays row.utcDay))⟩

/-- An interval in range is added to its end, in one turn for each of its days at most:
its pieces split it, and each day gains what it has in common with the interval. -/
theorem active_interval_split (start endedAtMs : Nat) (hrange : InRange start endedAtMs) :
    (addActiveInterval (some start) endedAtMs).2 = .ok () ∧
      SplitsIntoDays start endedAtMs (addActiveInterval (some start) endedAtMs).1 ∧
        ∀ daily, GainsOverlap start endedAtMs daily
          ((addActiveInterval (some start) endedAtMs).1.foldl addPiece daily) := by
  have hok := addActiveInterval_isOk_iff.mpr hrange
  refine ⟨hok, ?_⟩
  rw [addActiveInterval_forward hrange.1] at hok ⊢
  have hsplits := activePieces_splits hrange.1 hok
  exact ⟨hsplits, hsplits.gainsOverlap (total_ofDay_activePieces hrange.1 hok)⟩

/-- The last millisecond of a day, the next day and the first millisecond after it. -/
theorem three_days_split :
    (addActiveInterval (some 86399999) 172800001).2 = .ok () ∧
      SplitsIntoDays 86399999 172800001 (addActiveInterval (some 86399999) 172800001).1 ∧
        ∀ daily, GainsOverlap 86399999 172800001 daily
          ((addActiveInterval (some 86399999) 172800001).1.foldl addPiece daily) :=
  active_interval_split 86399999 172800001 (by decide)

end Telemetry
end Lirvena
