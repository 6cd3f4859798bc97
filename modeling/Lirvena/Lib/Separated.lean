import Mathlib.Algebra.GroupWithZero.Nat
import Mathlib.Data.List.Basic

/-!
# Items in groups with separators between them

The groups have given sizes, so the separators stand at known places.  A text that has
a separator at each of these places, and no other one, is what its own items are in
their groups.
-/

namespace Lirvena
namespace Lib

variable {α β : Type*}

/-- The items with a separator behind each group of the given sizes; what is left is
the last group. -/
def separate (separator : α) : List Nat → List α → List α
  | [], items => items
  | size :: sizes, items =>
      items.take size ++ separator :: separate separator sizes (items.drop size)

/-- There is a separator at each of the places that the sizes give. -/
def SeparatedAt (separator : α) : List Nat → List α → Prop
  | [], _ => True
  | size :: sizes, text =>
      text[size]? = some separator ∧ SeparatedAt separator sizes (text.drop (size + 1))

theorem separate_length (separator : α) (sizes : List Nat) (items : List α) :
    (separate separator sizes items).length = items.length + sizes.length := by
  induction sizes generalizing items with
  | nil => rfl
  | cons size sizes ih =>
      rw [separate, List.length_append, List.length_cons, ih, List.length_take, List.length_drop,
        List.length_cons]
      omega

theorem map_separate (f : α → β) (separator : α) (sizes : List Nat) (items : List α) :
    (separate separator sizes items).map f = separate (f separator) sizes (items.map f) := by
  induction sizes generalizing items with
  | nil => rfl
  | cons size sizes ih =>
      rw [separate, separate, List.map_append, List.map_cons, ih, List.map_take, List.map_drop]

theorem mem_separate {separator item : α} {sizes : List Nat} {items : List α}
    (hitem : item ∈ separate separator sizes items) : item = separator ∨ item ∈ items := by
  induction sizes generalizing items with
  | nil => exact .inr hitem
  | cons size sizes ih =>
      rcases List.mem_append.mp hitem with hfront | hrest
      · exact .inr (List.mem_of_mem_take hfront)
      · rcases List.mem_cons.mp hrest with hseparator | hrest
        · exact .inl hseparator
        · exact (ih hrest).imp id List.mem_of_mem_drop

theorem mem_separate_of_mem (separator : α) (sizes : List Nat) {item : α} {items : List α}
    (hitem : item ∈ items) : item ∈ separate separator sizes items := by
  induction sizes generalizing items with
  | nil => exact hitem
  | cons size sizes ih =>
      rw [← List.take_append_drop size items] at hitem
      rcases List.mem_append.mp hitem with hfront | hrest
      · exact List.mem_append_left _ hfront
      · exact List.mem_append_right _ (List.mem_cons_of_mem _ (ih hrest))

/-- Groups that the items fill have their separators in place. -/
theorem separatedAt_separate (separator : α) {sizes : List Nat} {items : List α}
    (hsizes : sizes.sum ≤ items.length) :
    SeparatedAt separator sizes (separate separator sizes items) := by
  induction sizes generalizing items with
  | nil => trivial
  | cons size sizes ih =>
      rw [List.sum_cons] at hsizes
      have hfront : (items.take size).length = size := List.length_take_of_le (by omega)
      have hdrop : (separate separator (size :: sizes) items).drop (size + 1) =
          separate separator sizes (items.drop size) := by
        rw [separate, List.drop_append, hfront, Nat.add_sub_cancel_left,
          List.drop_eq_nil_of_le (by omega)]
        rfl
      refine ⟨?_, ?_⟩
      · rw [separate, List.getElem?_append_right (by omega), hfront, Nat.sub_self]
        rfl
      · rw [hdrop]
        exact ih (by rw [List.length_drop]; omega)

/-- A text with a separator at a place, taken apart there. -/
theorem split_at_separator {separator : α} {size : Nat} {text : List α}
    (hplace : text[size]? = some separator) :
    text = text.take size ++ separator :: text.drop (size + 1) ∧
      (text.take size).length = size := by
  obtain ⟨hsize, hitem⟩ := List.getElem?_eq_some_iff.mp hplace
  refine ⟨?_, List.length_take_of_le (Nat.le_of_lt hsize)⟩
  rw [← hitem, List.getElem_cons_drop, List.take_append_drop]

variable [DecidableEq α]

theorem filter_ne_self {separator : α} {items : List α} (hfree : separator ∉ items) :
    items.filter (· ≠ separator) = items := by
  refine List.filter_eq_self.mpr fun item hitem => decide_eq_true ?_
  rintro rfl
  exact hfree hitem

theorem count_add_length_filter (separator : α) (items : List α) :
    items.count separator + (items.filter (· ≠ separator)).length = items.length := by
  induction items with
  | nil => rfl
  | cons item rest ih =>
      by_cases hitem : item = separator
      · subst hitem
        rw [List.count_cons_self, List.filter_cons_of_neg (by simp), List.length_cons]
        omega
      · rw [List.count_cons_of_ne hitem, List.filter_cons_of_pos (by simpa using hitem),
          List.length_cons, List.length_cons]
        omega

theorem filter_separate {separator : α} (sizes : List Nat) {items : List α}
    (hfree : separator ∉ items) :
    (separate separator sizes items).filter (· ≠ separator) = items := by
  induction sizes generalizing items with
  | nil => exact filter_ne_self hfree
  | cons size sizes ih =>
      rw [separate, List.filter_append, filter_ne_self (fun hfront => hfree
        (List.mem_of_mem_take hfront)), List.filter_cons_of_neg (by simp),
        ih fun hdropped => hfree (List.mem_of_mem_drop hdropped), List.take_append_drop]

theorem SeparatedAt.length_le_count {separator : α} {sizes : List Nat} {text : List α}
    (hseparated : SeparatedAt separator sizes text) : sizes.length ≤ text.count separator := by
  induction sizes generalizing text with
  | nil => exact Nat.zero_le _
  | cons size sizes ih =>
      obtain ⟨hsplit, -⟩ := split_at_separator hseparated.1
      have hrest := ih hseparated.2
      rw [hsplit, List.count_append, List.count_cons_self, List.length_cons]
      omega

/-- Where there is no other separator, a text is its own items in their groups. -/
theorem SeparatedAt.eq_separate {separator : α} {sizes : List Nat} {text : List α}
    (hseparated : SeparatedAt separator sizes text)
    (hcount : text.count separator = sizes.length) :
    text = separate separator sizes (text.filter (· ≠ separator)) := by
  induction sizes generalizing text with
  | nil => exact (filter_ne_self (List.count_eq_zero.mp hcount)).symm
  | cons size sizes ih =>
      obtain ⟨hsplit, hfront⟩ := split_at_separator hseparated.1
      have hleast := SeparatedAt.length_le_count hseparated.2
      rw [hsplit, List.count_append, List.count_cons_self, List.length_cons] at hcount
      have hfree : separator ∉ text.take size := List.count_eq_zero.mp (by omega)
      have hrest := ih hseparated.2 (by omega)
      have hfilter : text.filter (· ≠ separator) =
          text.take size ++ (text.drop (size + 1)).filter (· ≠ separator) := by
        conv_lhs => rw [hsplit]
        rw [List.filter_append, filter_ne_self hfree, List.filter_cons_of_neg (by simp)]
      rw [hfilter, separate, List.take_left' hfront, List.drop_left' hfront, ← hrest]
      exact hsplit

end Lib
end Lirvena
