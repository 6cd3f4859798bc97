import Mathlib.Data.List.Sort

/-!
# Collecting distinct items, and sorting them by a yes or no

Items are collected in their order, each once, up to a limit: what is kept is the front
of the distinct items.  A stable sort by a predicate puts the items that satisfy it
first and leaves the order on either side as it was.
-/

namespace Lirvena
namespace Lib

variable {α : Type*}

/-- Items that are distinct and not among those seen, told at the first of them. -/
theorem nodup_disjoint_cons_iff {item : α} {rest seen : List α} :
    (item :: rest).Nodup ∧ (item :: rest).Disjoint seen ↔
      item ∉ seen ∧ rest.Nodup ∧ rest.Disjoint (item :: seen) := by
  rw [List.nodup_cons, List.disjoint_cons_left, List.disjoint_cons_right]
  tauto

section Collect

variable [DecidableEq α]

/-- The kept items and behind them each new one once. -/
def addNew (kept : List α) : List α → List α
  | [] => kept
  | item :: rest => if item ∈ kept then addNew kept rest else addNew (kept ++ [item]) rest

/-- The same, but nothing is added to so many items. -/
def addNewUpTo (limit : Nat) (kept : List α) : List α → List α
  | [] => kept
  | item :: rest =>
      if kept.length = limit then kept
      else if item ∈ kept then addNewUpTo limit kept rest
      else addNewUpTo limit (kept ++ [item]) rest

/-- The items in the order in which they come first. -/
def distinctItems (items : List α) : List α :=
  addNew [] items

theorem prefix_addNew (kept items : List α) : kept <+: addNew kept items := by
  induction items generalizing kept with
  | nil => exact List.prefix_refl kept
  | cons item rest ih =>
      unfold addNew
      split
      · exact ih kept
      · exact (List.prefix_append kept [item]).trans (ih (kept ++ [item]))

theorem addNew_nodup {kept : List α} (hnodup : kept.Nodup) (items : List α) :
    (addNew kept items).Nodup := by
  induction items generalizing kept with
  | nil => exact hnodup
  | cons item rest ih =>
      unfold addNew
      split
      · exact ih hnodup
      · next hnew =>
          have hkept : (kept ++ [item]).Nodup := by
            rw [← List.concat_eq_append]
            exact hnodup.concat hnew
          exact ih hkept

theorem mem_addNew {kept items : List α} {item : α} :
    item ∈ addNew kept items ↔ item ∈ kept ∨ item ∈ items := by
  induction items generalizing kept with
  | nil => simp [addNew]
  | cons head rest ih =>
      unfold addNew
      split
      · next hknown =>
          rw [ih, List.mem_cons]
          constructor
          · rintro (hkept | hrest)
            · exact .inl hkept
            · exact .inr (.inr hrest)
          · rintro (hkept | rfl | hrest)
            · exact .inl hkept
            · exact .inl hknown
            · exact .inr hrest
      · rw [ih, List.mem_append, List.mem_singleton, List.mem_cons, or_assoc]

theorem addNewUpTo_full {limit : Nat} {kept : List α} (hfull : kept.length = limit)
    (items : List α) : addNewUpTo limit kept items = kept := by
  cases items with
  | nil => rfl
  | cons item rest => exact if_pos hfull

theorem addNewUpTo_append (limit : Nat) (kept first second : List α) :
    addNewUpTo limit kept (first ++ second) =
      addNewUpTo limit (addNewUpTo limit kept first) second := by
  induction first generalizing kept with
  | nil => rfl
  | cons item rest ih =>
      simp only [List.cons_append, addNewUpTo]
      split
      · next hfull => exact (addNewUpTo_full hfull second).symm
      · split
        · exact ih kept
        · exact ih (kept ++ [item])

/-- Collecting up to a limit keeps the front of all distinct items. -/
theorem addNewUpTo_eq_take {limit : Nat} {kept : List α} (hkept : kept.length ≤ limit)
    (items : List α) : addNewUpTo limit kept items = (addNew kept items).take limit := by
  induction items generalizing kept with
  | nil => exact (List.take_of_length_le hkept).symm
  | cons item rest ih =>
      unfold addNewUpTo
      split
      · next hfull =>
          -- the collection is full, and everything else is behind it
          obtain ⟨more, hmore⟩ := prefix_addNew kept (item :: rest)
          rw [← hmore, ← hfull, List.take_left]
      · next hroom =>
          unfold addNew
          split
          · exact ih hkept
          · refine ih ?_
            rw [List.length_append, List.length_singleton]
            omega

end Collect

/-- Under distinct keys a lookup finds exactly the entry of the key. -/
theorem lookup_eq_some_iff_mem {κ : Type*} [DecidableEq κ] {entries : List (κ × α)}
    (hkeys : (entries.map Prod.fst).Nodup) {key : κ} {value : α} :
    entries.lookup key = some value ↔ (key, value) ∈ entries := by
  induction entries with
  | nil => simp
  | cons entry rest ih =>
      rw [List.map_cons, List.nodup_cons] at hkeys
      rw [List.lookup_cons, List.mem_cons]
      by_cases hkey : key = entry.1
      · subst hkey
        have hfresh : (entry.1, value) ∉ rest :=
          fun hrest => hkeys.1 (List.mem_map.mpr ⟨_, hrest, rfl⟩)
        simp [Prod.ext_iff, hfresh, eq_comm]
      · have hother : ¬ (key, value) = entry := fun hsame => hkey (congrArg Prod.fst hsame)
        rw [beq_false_of_ne hkey, ih hkeys.2]
        simp [hother]

/-- The items that satisfy the predicate have rank 0, the others 1. -/
def rank (first : α → Bool) (item : α) : Nat :=
  if first item then 0 else 1

theorem orderedInsert_first {first : α → Bool} {item : α} (hitem : first item = true)
    (items : List α) :
    items.orderedInsert (fun left right => rank first left ≤ rank first right) item =
      item :: items := by
  cases items with
  | nil => rfl
  | cons head rest =>
      rw [List.orderedInsert_cons, if_pos]
      simp [rank, hitem]

/-- An item of the second side is put behind all of the first side. -/
theorem orderedInsert_second {first : α → Bool} {item : α} (hitem : first item = false)
    {front back : List α} (hfront : ∀ other ∈ front, first other = true)
    (hback : ∀ other ∈ back, first other = false) :
    (front ++ back).orderedInsert (fun left right => rank first left ≤ rank first right) item =
      front ++ item :: back := by
  induction front with
  | nil =>
      cases back with
      | nil => rfl
      | cons head rest =>
          rw [List.nil_append, List.orderedInsert_cons, if_pos]
          · rfl
          · simp [rank, hitem, hback head List.mem_cons_self]
  | cons head rest ih =>
      have hhead := hfront head List.mem_cons_self
      have hrest := ih fun other hother => hfront other (List.mem_cons_of_mem head hother)
      rw [List.cons_append, List.orderedInsert_cons, if_neg, hrest]
      · rfl
      · simp [rank, hitem, hhead]

/-- A stable sort by the rank. -/
theorem insertionSort_rank (first : α → Bool) (items : List α) :
    items.insertionSort (fun left right => rank first left ≤ rank first right) =
      items.filter first ++ items.filter (fun item => !first item) := by
  induction items with
  | nil => rfl
  | cons item rest ih =>
      rw [List.insertionSort_cons, ih]
      cases hitem : first item with
      | true =>
          rw [orderedInsert_first hitem]
          simp [hitem]
      | false =>
          have hfront : ∀ other ∈ rest.filter first, first other = true :=
            fun other hother => (List.mem_filter.mp hother).2
          have hback : ∀ other ∈ rest.filter (fun item => !first item), first other = false := by
            intro other hother
            simpa using (List.mem_filter.mp hother).2
          rw [orderedInsert_second hitem hfront hback]
          simp [hitem]

end Lib
end Lirvena
