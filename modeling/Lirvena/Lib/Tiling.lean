import Lirvena.Lib.Interval
import Mathlib.Order.CompletePartialOrder
import Mathlib.Order.Interval.Set.Disjoint

/-!
# Tilings of an interval

Intervals *tile* the way from one point to another when each begins where the one before
it ends and none is empty.  They are apart from each other, they cover what lies between
the two points and nothing else, and their lengths add up to the distance.
-/

namespace Lirvena
namespace Lib
namespace Interval

/-- The points of an interval. -/
def points (interval : Interval) : Set Nat := Set.Ico interval.start interval.stop

theorem mem_points {interval : Interval} {point : Nat} :
    point ∈ interval.points ↔ interval.start ≤ point ∧ point < interval.stop :=
  Set.mem_Ico

theorem InOrder.pairwise_disjoint {intervals : List Interval} (horder : InOrder intervals) :
    intervals.Pairwise fun first second => Disjoint first.points second.points := by
  refine horder.apart.imp fun hapart => ?_
  exact Set.disjoint_left.mpr fun point hfirst hsecond => by
    have hbefore := (mem_points.mp hfirst).2
    have hafter := (mem_points.mp hsecond).1
    omega

/-- Intervals from a start to a stop, each behind the one before. -/
inductive Tiles : Nat → Nat → List Interval → Prop where
  | nil (point : Nat) : Tiles point point []
  | cons {start middle stop : Nat} {rest : List Interval} (hforward : start < middle)
      (hrest : Tiles middle stop rest) : Tiles start stop (⟨start, middle⟩ :: rest)

namespace Tiles

variable {start stop : Nat} {intervals : List Interval}

theorem le (htiles : Tiles start stop intervals) : start ≤ stop := by
  induction htiles with
  | nil point => exact Nat.le_refl point
  | cons hforward _ ih => exact Nat.le_trans (Nat.le_of_lt hforward) ih

theorem start_le (htiles : Tiles start stop intervals) :
    ∀ interval ∈ intervals, start ≤ interval.start := by
  induction htiles with
  | nil _ => exact nofun
  | cons hforward _ ih =>
      refine List.forall_mem_cons.mpr ⟨Nat.le_refl _, fun interval hinterval => ?_⟩
      exact Nat.le_trans (Nat.le_of_lt hforward) (ih interval hinterval)

theorem inOrder (htiles : Tiles start stop intervals) : InOrder intervals := by
  induction htiles with
  | nil _ => exact .nil
  | cons hforward hrest ih => exact .cons (Nat.le_of_lt hforward) hrest.start_le ih

/-- The points between the two ends are the points of the intervals. -/
theorem exists_mem_points_iff (htiles : Tiles start stop intervals) (point : Nat) :
    (∃ interval ∈ intervals, point ∈ interval.points) ↔ start ≤ point ∧ point < stop := by
  induction htiles with
  | nil middle =>
      constructor
      · rintro ⟨interval, hinterval, -⟩
        cases hinterval
      · rintro ⟨hstart, hstop⟩
        omega
  | @cons start middle stop rest hforward hrest ih =>
      have hle := hrest.le
      rw [List.exists_mem_cons_iff, ih, mem_points]
      show start ≤ point ∧ point < middle ∨ middle ≤ point ∧ point < stop ↔ _
      omega

theorem total_eq (htiles : Tiles start stop intervals) : total intervals = stop - start := by
  induction htiles with
  | nil point => exact (Nat.sub_self point).symm
  | @cons start middle stop rest hforward hrest ih =>
      have hle := hrest.le
      show middle - start + total rest = stop - start
      rw [ih]
      omega

/-- What the intervals inside a window add up to, when none of them reaches over an end
of the window. -/
theorem total_filter_eq (htiles : Tiles start stop intervals) {low high : Nat}
    {inside : Interval → Bool}
    (hinside : ∀ interval ∈ intervals, inside interval = true →
      low ≤ interval.start ∧ interval.stop ≤ high)
    (houtside : ∀ interval ∈ intervals, inside interval = false →
      interval.stop ≤ low ∨ high ≤ interval.start) :
    total (intervals.filter inside) = min stop high - max start low := by
  induction htiles with
  | nil point =>
      show 0 = _
      omega
  | @cons start middle stop rest hforward hrest ih =>
      have hle := hrest.le
      obtain ⟨hin, hinside⟩ := List.forall_mem_cons.mp hinside
      obtain ⟨hout, houtside⟩ := List.forall_mem_cons.mp houtside
      have hothers := ih hinside houtside
      cases hfirst : inside ⟨start, middle⟩ with
      | true =>
          have hwithin : low ≤ start ∧ middle ≤ high := hin hfirst
          rw [List.filter_cons_of_pos hfirst]
          show middle - start + total (rest.filter inside) = _
          rw [hothers]
          omega
      | false =>
          have hapart : middle ≤ low ∨ high ≤ start := hout hfirst
          rw [List.filter_cons_of_neg (Bool.not_eq_true _ ▸ hfirst), hothers]
          omega

end Tiles
end Interval
end Lib
end Lirvena
