import Lirvena.Lib.Result
import Mathlib.Data.List.Infix

/-!
# Readings of strings

A *reading* relates a string of units with a value that it denotes.  A reading is
prefix-free when the string and its value are determined by any longer string
that begins with it; this is what makes a concatenation of readings readable
without separators.

Prefix-freeness is kept by sequencing, where the second reading may depend on
the value of the first, and it makes the repetition of a reading unambiguous.

A *reader* takes a value off the front of a string.  It is local when what it takes
does not depend on what follows; this is kept by sequencing as well.
-/

namespace Lirvena
namespace Lib

variable {α β γ : Type*}

/-- What a string denotes can be told from any string that begins with it. -/
def PrefixFree (reads : List α → β → Prop) : Prop :=
  ∀ ⦃first second rest tail : List α⦄ ⦃value other : β⦄, reads first value →
    reads second other → first ++ rest = second ++ tail → first = second ∧ value = other

theorem PrefixFree.unique {reads : List α → β → Prop} (hfree : PrefixFree reads)
    {units : List α} {value other : β} (hvalue : reads units value)
    (hother : reads units other) : value = other :=
  (hfree hvalue hother (rfl : units ++ [] = units ++ [])).2

/-- A reading and then another one, which may depend on the first value. -/
inductive Then (reads : List α → β → Prop) (next : β → List α → γ → Prop) :
    List α → β × γ → Prop where
  | intro {first second : List α} {value : β} {result : γ} (hfirst : reads first value)
      (hsecond : next value second result) :
      Then reads next (first ++ second) (value, result)

theorem PrefixFree.andThen {reads : List α → β → Prop} {next : β → List α → γ → Prop}
    (hfree : PrefixFree reads) (hnext : ∀ value, PrefixFree (next value)) :
    PrefixFree (Then reads next) := by
  intro _ _ rest tail _ _ hleft hright heq
  cases hleft with
  | intro hfirst hsecond =>
      cases hright with
      | intro hother hlast =>
          rw [List.append_assoc, List.append_assoc] at heq
          obtain ⟨rfl, rfl⟩ := hfree hfirst hother heq
          obtain ⟨rfl, rfl⟩ := hnext _ hsecond hlast (List.append_cancel_left heq)
          exact ⟨rfl, rfl⟩

theorem PrefixFree.image {reads : List α → β → Prop} (hfree : PrefixFree reads)
    (f : β → γ) : PrefixFree fun units result => ∃ value, reads units value ∧ f value = result := by
  rintro first second rest tail _ _ ⟨value, hvalue, rfl⟩ ⟨other, hother, rfl⟩ heq
  obtain ⟨hunits, rfl⟩ := hfree hvalue hother heq
  exact ⟨hunits, rfl⟩

/-- Readings one after another. -/
inductive Many (reads : List α → β → Prop) : List α → List β → Prop where
  | nil : Many reads [] []
  | cons {first rest : List α} {value : β} {values : List β} (hfirst : reads first value)
      (hrest : Many reads rest values) : Many reads (first ++ rest) (value :: values)

theorem Many.nil_or_cons {reads : List α → β → Prop} {units : List α} {values : List β}
    (hvalues : Many reads units values) :
    (units = [] ∧ values = []) ∨ ∃ first rest value tail, units = first ++ rest ∧
      values = value :: tail ∧ reads first value ∧ Many reads rest tail := by
  cases hvalues with
  | nil => exact Or.inl ⟨rfl, rfl⟩
  | cons hfirst hrest => exact Or.inr ⟨_, _, _, _, rfl, rfl, hfirst, hrest⟩

theorem Many.append {reads : List α → β → Prop} {front back : List α} {before after : List β}
    (hfront : Many reads front before) (hback : Many reads back after) :
    Many reads (front ++ back) (before ++ after) := by
  induction hfront with
  | nil => exact hback
  | cons hfirst _ ih =>
      rw [List.append_assoc]
      exact .cons hfirst ih

/-- A string is read in one way only, if no single reading is empty. -/
theorem PrefixFree.many_unique {reads : List α → β → Prop} (hfree : PrefixFree reads)
    (hempty : ∀ value, ¬ reads [] value) {units : List α} {values others : List β}
    (hvalues : Many reads units values) (hothers : Many reads units others) :
    values = others := by
  induction hvalues generalizing others with
  | nil =>
      rcases hothers.nil_or_cons with ⟨-, hnil⟩ | ⟨first, rest, value, tail, hunits, -, hfirst, -⟩
      · exact hnil.symm
      · obtain ⟨rfl, -⟩ := List.append_eq_nil_iff.mp hunits.symm
        exact absurd hfirst (hempty value)
  | cons hfirst hrest ih =>
      rcases hothers.nil_or_cons with
        ⟨hunits, -⟩ | ⟨other, last, value, tail, hunits, rfl, hother, hlast⟩
      · obtain ⟨rfl, -⟩ := List.append_eq_nil_iff.mp hunits
        exact absurd hfirst (hempty _)
      · obtain ⟨rfl, rfl⟩ := hfree hfirst hother hunits
        obtain rfl := List.append_cancel_left hunits
        rw [ih hlast]

/-! ## Readers -/

section Reader

variable {ε : Type} {α β γ : Type}

/-- What is taken off the front of a string is taken off whatever follows. -/
def Local (read : List α → Except ε (β × List α)) : Prop :=
  ∀ ⦃units : List α⦄ ⦃value : β⦄ ⦃rest : List α⦄, read units = .ok (value, rest) →
    ∃ front, units = front ++ rest ∧ ∀ tail, read (front ++ tail) = .ok (value, tail)

/-- What is taken off is read as a whole. -/
theorem Local.whole {read : List α → Except ε (β × List α)} (hlocal : Local read)
    {units rest : List α} {value : β} (hread : read units = .ok (value, rest)) :
    ∃ front, units = front ++ rest ∧ read front = .ok (value, []) := by
  obtain ⟨front, hunits, htake⟩ := hlocal hread
  have hfront := htake []
  rw [List.append_nil] at hfront
  exact ⟨front, hunits, hfront⟩

/-- What is read as a whole is taken off whatever follows. -/
theorem Local.append {read : List α → Except ε (β × List α)} (hlocal : Local read)
    {front : List α} {value : β} (hread : read front = .ok (value, [])) (tail : List α) :
    read (front ++ tail) = .ok (value, tail) := by
  obtain ⟨taken, hfront, htake⟩ := hlocal hread
  rw [List.append_nil] at hfront
  rw [hfront]
  exact htake tail

theorem Local.pure (value : β) :
    Local (fun units : List α => (.ok (value, units) : Except ε (β × List α))) := by
  intro units result rest hread
  cases hread
  exact ⟨[], rfl, fun tail => rfl⟩

theorem Local.error (error : ε) :
    Local (fun _ : List α => (.error error : Except ε (β × List α))) :=
  fun _ _ _ hread => nomatch hread

theorem Local.bind {read : List α → Except ε (β × List α)}
    {next : β × List α → Except ε (γ × List α)} (hread : Local read)
    (hnext : ∀ value, Local (fun rest => next (value, rest))) :
    Local (fun units => read units >>= next) := by
  intro units result rest hboth
  obtain ⟨⟨value, middle⟩, hfirst, hsecond⟩ := bind_eq_ok_iff.mp hboth
  obtain ⟨first, rfl, htake⟩ := hread hfirst
  obtain ⟨second, rfl, htakeNext⟩ := hnext value hsecond
  refine ⟨first ++ second, (List.append_assoc _ _ _).symm, fun tail => ?_⟩
  rw [List.append_assoc]
  exact bind_eq_ok_iff.mpr ⟨_, htake (second ++ tail), htakeNext tail⟩

/-- A computation on the way that reads nothing. -/
theorem Local.after {step : Except ε β} {next : β → List α → Except ε (γ × List α)}
    (hnext : ∀ value, Local (next value)) :
    Local (fun units => step >>= fun value => next value units) := by
  cases step with
  | error error => exact Local.error error
  | ok value => exact hnext value

theorem Local.ite {choice : Prop} [Decidable choice] {left right : List α → Except ε (β × List α)}
    (hleft : Local left) (hright : Local right) :
    Local (fun units => if choice then left units else right units) := by
  by_cases hchoice : choice
  · simpa only [if_pos hchoice] using hleft
  · simpa only [if_neg hchoice] using hright

end Reader

end Lib
end Lirvena
