import Mathlib.Algebra.BigOperators.Group.List.Basic
import Mathlib.Algebra.GroupWithZero.Nat
import Mathlib.Data.List.Pairwise
import Mathlib.Data.Nat.Basic

/-!
# Half-open intervals in the order of their ends

A list of intervals is *in order* when each begins no earlier than all before it
end.  Then no point lies in two of them, and their lengths add up to no more than
the room they lie in.
-/

namespace Lirvena
namespace Lib

/-- The points from `start` to before `stop`. -/
structure Interval where
  start : Nat
  stop : Nat
  deriving DecidableEq

namespace Interval

def contains (point : Nat) (interval : Interval) : Bool :=
  interval.start ≤ point && point < interval.stop

def length (interval : Interval) : Nat :=
  interval.stop - interval.start

/-- The intervals are not reversed, and each begins where those before it have ended. -/
structure InOrder (intervals : List Interval) : Prop where
  forward : ∀ interval ∈ intervals, interval.start ≤ interval.stop
  apart : intervals.Pairwise fun first second => first.stop ≤ second.start

/-- The number of intervals that a point lies in. -/
def coverage (intervals : List Interval) (point : Nat) : Nat :=
  intervals.countP (contains point)

def total (intervals : List Interval) : Nat :=
  (intervals.map length).sum

@[simp] theorem total_nil : total [] = 0 := rfl

@[simp] theorem total_append (first second : List Interval) :
    total (first ++ second) = total first + total second := by
  simp [total]

theorem contains_iff {point : Nat} {interval : Interval} :
    contains point interval = true ↔ interval.start ≤ point ∧ point < interval.stop := by
  simp [contains]

theorem InOrder.nil : InOrder [] where
  forward := by simp
  apart := List.Pairwise.nil

theorem InOrder.cons {interval : Interval} {rest : List Interval}
    (hforward : interval.start ≤ interval.stop)
    (hafter : ∀ other ∈ rest, interval.stop ≤ other.start) (hrest : InOrder rest) :
    InOrder (interval :: rest) where
  forward := by
    intro other hother
    rcases List.mem_cons.mp hother with rfl | htail
    · exact hforward
    · exact hrest.forward other htail
  apart := List.pairwise_cons.mpr ⟨hafter, hrest.apart⟩

theorem InOrder.tail {interval : Interval} {rest : List Interval}
    (horder : InOrder (interval :: rest)) : InOrder rest where
  forward := fun other hother => horder.forward other (List.mem_cons_of_mem _ hother)
  apart := (List.pairwise_cons.mp horder.apart).2

/-- Intervals that begin after a point may follow intervals that end before it. -/
theorem InOrder.append {first second : List Interval} {point : Nat} (hfirst : InOrder first)
    (hsecond : InOrder second) (hbefore : ∀ interval ∈ first, interval.stop ≤ point)
    (hafter : ∀ interval ∈ second, point ≤ interval.start) : InOrder (first ++ second) where
  forward := by
    intro interval hinterval
    rcases List.mem_append.mp hinterval with hmem | hmem
    · exact hfirst.forward interval hmem
    · exact hsecond.forward interval hmem
  apart := by
    refine List.pairwise_append.mpr ⟨hfirst.apart, hsecond.apart, ?_⟩
    intro earlier hearlier later hlater
    exact (hbefore earlier hearlier).trans (hafter later hlater)

theorem InOrder.filter {intervals : List Interval} (horder : InOrder intervals)
    (keeps : Interval → Bool) : InOrder (intervals.filter keeps) where
  forward := fun interval hinterval =>
    horder.forward interval (List.mem_filter.mp hinterval).1
  apart := horder.apart.filter _

/-- No point lies in two intervals that are in order. -/
theorem InOrder.coverage_le_one {intervals : List Interval} (horder : InOrder intervals)
    (point : Nat) : coverage intervals point ≤ 1 := by
  unfold coverage
  induction intervals with
  | nil => simp
  | cons interval rest ih =>
      rw [List.countP_cons]
      by_cases hinside : contains point interval = true
      · -- The later intervals begin after the point.
        have hnone : rest.countP (contains point) = 0 := by
          rw [List.countP_eq_zero]
          intro later hlater hcontains
          have hafter := (List.pairwise_cons.mp horder.apart).1 later hlater
          have hpoint := (contains_iff.mp hinside).2
          have hlate := (contains_iff.mp hcontains).1
          omega
        rw [hnone, if_pos hinside]
      · have hrest := ih horder.tail
        rw [if_neg hinside]
        omega

/-- Intervals that are in order fit into the room they lie in. -/
theorem InOrder.total_le {intervals : List Interval} (horder : InOrder intervals)
    {lower upper : Nat} (hlower : ∀ interval ∈ intervals, lower ≤ interval.start)
    (hupper : ∀ interval ∈ intervals, interval.stop ≤ upper) :
    total intervals ≤ upper - lower := by
  induction intervals generalizing lower with
  | nil => simp
  | cons interval rest ih =>
      have hstart := hlower interval (by simp)
      have hforward := horder.forward interval (by simp)
      have hstop := hupper interval (by simp)
      have hrest := ih horder.tail (List.pairwise_cons.mp horder.apart).1
        (fun other hother => hupper other (List.mem_cons_of_mem _ hother))
      show interval.length + total rest ≤ upper - lower
      unfold length
      omega

end Interval
end Lib
end Lirvena
