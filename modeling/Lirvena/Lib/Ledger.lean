import Mathlib.Algebra.BigOperators.Group.List.Basic
import Mathlib.Algebra.GroupWithZero.Nat

/-!
# Queues with a running total

A queue that keeps the sum of its items' weights beside them.  `Exact` says that
the sum is right, `Within` that neither the number of items nor the sum exceeds
its limit.  A *delivery* appends several items at once; `Fits` says that a list
of deliveries never overruns the limits while they are appended one by one.
-/

namespace Lirvena
namespace Lib

/-- The items of a queue and the running total of their weights. -/
structure Ledger (Item : Type*) where
  items : List Item
  total : Nat

namespace Ledger

variable {Item : Type*} {weight : Item → Nat} {maxItems maxTotal : Nat}

def weigh (weight : Item → Nat) (items : List Item) : Nat :=
  (items.map weight).sum

/-- The total is the sum of the weights of the queued items. -/
def Exact (weight : Item → Nat) (ledger : Ledger Item) : Prop :=
  ledger.total = weigh weight ledger.items

/-- Neither limit is exceeded. -/
def Within (maxItems maxTotal : Nat) (ledger : Ledger Item) : Prop :=
  ledger.items.length ≤ maxItems ∧ ledger.total ≤ maxTotal

def append (weight : Item → Nat) (ledger : Ledger Item) (items : List Item) :
    Ledger Item where
  items := ledger.items ++ items
  total := ledger.total + weigh weight items

/-- Takes the front item and subtracts its weight, not below zero. -/
def pop (weight : Item → Nat) (ledger : Ledger Item) : Ledger Item :=
  match ledger.items with
  | [] => ledger
  | item :: rest => { items := rest, total := ledger.total - weight item }

@[simp] theorem weigh_nil : weigh weight [] = 0 := rfl

@[simp] theorem weigh_cons (item : Item) (rest : List Item) :
    weigh weight (item :: rest) = weight item + weigh weight rest := by
  simp [weigh]

@[simp] theorem weigh_append (first second : List Item) :
    weigh weight (first ++ second) = weigh weight first + weigh weight second := by
  simp [weigh]

/-- Items of one weight weigh their number times that weight. -/
theorem weigh_eq_mul {items : List Item} {each : Nat}
    (heach : ∀ item ∈ items, weight item = each) :
    weigh weight items = each * items.length := by
  induction items with
  | nil => simp
  | cons item rest ih =>
      have hhead := heach item (by simp)
      have htail := ih (fun other hother => heach other (by simp [hother]))
      rw [weigh_cons, hhead, htail, List.length_cons, Nat.mul_succ, Nat.add_comm]

theorem Exact.append {ledger : Ledger Item} (hexact : ledger.Exact weight)
    (items : List Item) : (ledger.append weight items).Exact weight := by
  unfold Exact at *
  rw [Ledger.append, weigh_append, hexact]

/-- The subtraction of `pop` never saturates on an exact ledger. -/
theorem Exact.pop {ledger : Ledger Item} (hexact : ledger.Exact weight) :
    (ledger.pop weight).Exact weight := by
  obtain ⟨items, total⟩ := ledger
  cases items with
  | nil => exact hexact
  | cons item rest =>
      have hsum : total = weight item + weigh weight rest := by
        simpa [Exact] using hexact
      show total - weight item = weigh weight rest
      omega

theorem Within.pop {ledger : Ledger Item} (hwithin : ledger.Within maxItems maxTotal) :
    (ledger.pop weight).Within maxItems maxTotal := by
  obtain ⟨items, total⟩ := ledger
  cases items with
  | nil => exact hwithin
  | cons item rest =>
      have hlength : rest.length + 1 ≤ maxItems := by simpa using hwithin.1
      have htotal : total ≤ maxTotal := hwithin.2
      refine ⟨?_, ?_⟩
      · show rest.length ≤ maxItems
        omega
      · show total - weight item ≤ maxTotal
        omega

theorem Within.of_append {ledger : Ledger Item} {items : List Item}
    (hwithin : (ledger.append weight items).Within maxItems maxTotal) :
    ledger.Within maxItems maxTotal := by
  have hlength : (ledger.items ++ items).length ≤ maxItems := hwithin.1
  have htotal : ledger.total + weigh weight items ≤ maxTotal := hwithin.2
  rw [List.length_append] at hlength
  refine ⟨?_, ?_⟩ <;> omega

/-- A delivery keeps the limits exactly when it fits into what they leave free. -/
theorem within_append_iff {ledger : Ledger Item} {items : List Item}
    (hwithin : ledger.Within maxItems maxTotal) :
    (ledger.append weight items).Within maxItems maxTotal ↔
      items.length ≤ maxItems - ledger.items.length ∧
        weigh weight items ≤ maxTotal - ledger.total := by
  obtain ⟨hlength, htotal⟩ := hwithin
  have hsum : (ledger.append weight items).items.length =
      ledger.items.length + items.length := List.length_append
  have hweight : (ledger.append weight items).total =
      ledger.total + weigh weight items := rfl
  unfold Within
  omega

end Ledger
end Lib
end Lirvena
