import Mathlib.Data.List.Sort

/-!
# The newest items of a list

What a bounded table keeps of a growing list.  `IsNewest` says that the kept items
are the first ones in an order, up to a limit; it speaks of the items that are left
out, so that it can be carried from one list to the next.

An item that replaces the one of its key keeps the relation, and it breaks it exactly
when it takes the place of a kept item without being newer than what was left out.
-/

namespace Lirvena
namespace Lib

variable {α Key : Type*}

/-- The kept items are the newest of all, as many as the limit allows. -/
def IsNewest (newer : α → α → Prop) (limit : Nat) (kept all : List α) : Prop :=
  ∃ dropped, all.Perm (kept ++ dropped) ∧ kept.length ≤ limit ∧
    (dropped ≠ [] → kept.length = limit) ∧
      ∀ first ∈ kept, ∀ second ∈ dropped, newer first second

theorem IsNewest.perm {newer : α → α → Prop} {limit : Nat} {kept other all : List α}
    (hnewest : IsNewest newer limit kept all) (hperm : kept.Perm other) :
    IsNewest newer limit other all := by
  obtain ⟨dropped, hall, hlength, hfull, hnewer⟩ := hnewest
  refine ⟨dropped, hall.trans (hperm.append_right dropped), hperm.length_eq ▸ hlength, ?_, ?_⟩
  · intro hdropped
    exact hperm.length_eq.symm.trans (hfull hdropped)
  · intro first hfirst
    exact hnewer first (hperm.mem_iff.mpr hfirst)

theorem isNewest_nil (newer : α → α → Prop) (limit : Nat) : IsNewest newer limit [] [] :=
  ⟨[], List.Perm.refl _, Nat.zero_le _, fun hne => absurd rfl hne, by simp⟩

/-- The front of a sorted list. -/
theorem isNewest_take_insertionSort (newer : α → α → Prop) [DecidableRel newer]
    [IsTrans α newer] [Std.Total newer] (limit : Nat) (all : List α) :
    IsNewest newer limit ((all.insertionSort newer).take limit) all := by
  have hsplit := List.take_append_drop limit (all.insertionSort newer)
  have hsorted := List.pairwise_insertionSort newer all
  rw [← hsplit] at hsorted
  refine ⟨(all.insertionSort newer).drop limit, ?_, List.length_take_le _ _, ?_, ?_⟩
  · rw [hsplit]
    exact (List.perm_insertionSort newer all).symm
  · intro hdropped
    have hlong : 0 < ((all.insertionSort newer).drop limit).length :=
      List.length_pos_iff.mpr hdropped
    rw [List.length_drop] at hlong
    rw [List.length_take]
    omega
  · exact (List.pairwise_append.mp hsorted).2.2

/-! ## Replacement -/

variable [DecidableEq Key]

/-- The item in place of the one of its key. -/
def replaceKey (key : α → Key) (all : List α) (item : α) : List α :=
  all.filter (fun other => key other ≠ key item) ++ [item]

theorem mem_replaceKey_iff {key : α → Key} {all : List α} {item other : α} :
    other ∈ replaceKey key all item ↔ (other ∈ all ∧ key other ≠ key item) ∨ other = item := by
  rw [replaceKey, List.mem_append, List.mem_filter, List.mem_singleton, decide_eq_true_eq]

theorem nodup_replaceKey {key : α → Key} {all : List α} (item : α)
    (hkeys : (all.map key).Nodup) : ((replaceKey key all item).map key).Nodup := by
  have hsub : (all.filter fun other => key other ≠ key item).Sublist all := List.filter_sublist
  have hkept := hkeys.sublist (hsub.map key)
  have hfresh : key item ∉ (all.filter fun other => key other ≠ key item).map key := by
    intro hmem
    obtain ⟨other, hother, hkey⟩ := List.mem_map.mp hmem
    have hne := (List.mem_filter.mp hother).2
    simp [hkey] at hne
  rw [replaceKey, List.map_append, List.map_singleton]
  exact hkept.append (List.nodup_singleton _) (List.disjoint_singleton.mpr hfresh)

/-- A replacement does not change the number of items. -/
theorem length_replaceKey_of_mem {key : α → Key} {all : List α} {item : α}
    (hkeys : (all.map key).Nodup) (hitem : key item ∈ all.map key) :
    (replaceKey key all item).length = all.length := by
  obtain ⟨old, hold, hkey⟩ := List.mem_map.mp hitem
  obtain ⟨front, back, rfl⟩ := List.append_of_mem hold
  rw [List.map_append, List.map_cons] at hkeys
  obtain ⟨-, hback, hfront⟩ := List.nodup_append.mp hkeys
  have hfirst : front.filter (fun other => key other ≠ key item) = front := by
    refine List.filter_eq_self.mpr fun other hother => ?_
    have hne := hfront (key other) (List.mem_map_of_mem hother) (key old) List.mem_cons_self
    rw [decide_eq_true_eq, ← hkey]
    exact hne
  have hlast : back.filter (fun other => key other ≠ key item) = back := by
    refine List.filter_eq_self.mpr fun other hother => ?_
    have hmem : key other ∈ back.map key := List.mem_map_of_mem hother
    rw [decide_eq_true_eq, ← hkey]
    exact fun heq => (List.nodup_cons.mp hback).1 (heq ▸ hmem)
  rw [replaceKey, List.filter_append, List.filter_cons_of_neg (by simp [hkey]), hfirst, hlast]
  simp only [List.length_append, List.length_cons, List.length_nil]
  omega

theorem length_replaceKey_of_not_mem {key : α → Key} {all : List α} {item : α}
    (hitem : key item ∉ all.map key) :
    (replaceKey key all item).length = all.length + 1 := by
  have hfilter : all.filter (fun other => key other ≠ key item) = all := by
    refine List.filter_eq_self.mpr fun other hother => ?_
    rw [decide_eq_true_eq]
    exact fun heq => hitem (heq ▸ List.mem_map_of_mem hother)
  rw [replaceKey, hfilter, List.length_append, List.length_singleton]

section Replace

variable {newer : α → α → Prop} {limit : Nat} {key : α → Key} {kept next all : List α}
  {item : α}

/-- The item is newer than all that was left out, if it takes the place of a kept one. -/
def KeepsOrder (newer : α → α → Prop) (key : α → Key) (kept all : List α) (item : α) : Prop :=
  key item ∈ kept.map key → ∀ other ∈ all, key other ∉ kept.map key → newer item other

/-- A replacement among the kept items leaves none of them out. -/
theorem IsNewest.perm_of_replaced (hkeys : (kept.map key).Nodup)
    (hitem : key item ∈ kept.map key) (hlength : kept.length ≤ limit)
    (hnext : IsNewest newer limit next (replaceKey key kept item)) :
    (replaceKey key kept item).Perm next := by
  obtain ⟨dropped, hperm, -, hfull, -⟩ := hnext
  have hsame := hperm.length_eq
  rw [length_replaceKey_of_mem hkeys hitem, List.length_append] at hsame
  by_cases hdropped : dropped = []
  · rw [hdropped, List.append_nil] at hperm
    exact hperm
  · have hpos := List.length_pos_iff.mpr hdropped
    have hnextLength := hfull hdropped
    omega

/-- A new item that is kept next to a full table was newer than a kept item. -/
theorem exists_newer_of_pushed_out {removed : List α} (hkeys : (kept.map key).Nodup)
    (hitem : key item ∉ kept.map key) (hfull : kept.length = limit)
    (hreplaced : (replaceKey key kept item).Perm (next ++ removed)) (hnext : next.length ≤ limit)
    (hnewer : ∀ first ∈ next, ∀ second ∈ removed, newer first second) (hin : item ∈ next) :
    ∃ gone ∈ kept, newer item gone := by
  have hcount := hreplaced.length_eq
  rw [length_replaceKey_of_not_mem hitem, List.length_append] at hcount
  obtain ⟨gone, hgone⟩ := List.exists_mem_of_length_pos (show 0 < removed.length by omega)
  refine ⟨gone, ?_, hnewer item hin gone hgone⟩
  rcases mem_replaceKey_iff.mp
    (hreplaced.mem_iff.mpr (List.mem_append_right next hgone)) with ⟨hold, -⟩ | rfl
  · exact hold
  · -- the item itself cannot be kept and left out
    have hsplit := (hreplaced.map key).nodup_iff.mp (nodup_replaceKey gone hkeys)
    rw [List.map_append] at hsplit
    exact absurd rfl ((List.nodup_append.mp hsplit).2.2 _ (List.mem_map_of_mem hin) _
      (List.mem_map_of_mem hgone))

/-- What is kept of the kept items and a new one is what is kept of all. -/
theorem IsNewest.replace [IsTrans α newer] (hkeys : (all.map key).Nodup)
    (hkept : IsNewest newer limit kept all)
    (hnext : IsNewest newer limit next (replaceKey key kept item))
    (horder : KeepsOrder newer key kept all item) :
    IsNewest newer limit next (replaceKey key all item) := by
  obtain ⟨dropped, hall, hlength, hfull, hnewer⟩ := hkept
  obtain ⟨removed, hreplaced, hnextLength, hnextFull, hnextNewer⟩ := hnext
  have hsplit := (hall.map key).nodup_iff.mp hkeys
  rw [List.map_append] at hsplit
  obtain ⟨hkeptKeys, -, hapart⟩ := List.nodup_append.mp hsplit
  refine ⟨removed ++ dropped.filter (fun other => key other ≠ key item), ?_, hnextLength, ?_, ?_⟩
  · -- The items of other keys, split as before, and the item behind them.
    have hfilter := hall.filter fun other => key other ≠ key item
    rw [List.filter_append] at hfilter
    refine (hfilter.append_right [item]).trans ?_
    rw [List.append_assoc, ← List.append_assoc next]
    refine List.Perm.trans ?_ (hreplaced.append_right _)
    rw [replaceKey, List.append_assoc]
    exact List.perm_append_comm.append_left _
  · intro hleft
    by_cases hremoved : removed = []
    · -- nothing of the kept items was left out, so they were as many as before
      have hdropped : dropped ≠ [] := by
        rintro rfl
        rw [hremoved] at hleft
        exact hleft rfl
      have hcount := hreplaced.length_eq
      rw [hremoved, List.append_nil] at hcount
      have hkeptLength := hfull hdropped
      by_cases hitem : key item ∈ kept.map key
      · rw [length_replaceKey_of_mem hkeptKeys hitem] at hcount
        omega
      · rw [length_replaceKey_of_not_mem hitem] at hcount
        omega
    · exact hnextFull hremoved
  · intro first hfirst second hsecond
    rcases List.mem_append.mp hsecond with hremoved | hfiltered
    · exact hnextNewer first hfirst second hremoved
    · have hdropped := (List.mem_filter.mp hfiltered).1
      have hcome : first ∈ replaceKey key kept item :=
        hreplaced.mem_iff.mpr (List.mem_append_left _ hfirst)
      rcases mem_replaceKey_iff.mp hcome with ⟨hold, -⟩ | rfl
      · exact hnewer first hold second hdropped
      · by_cases hitem : key first ∈ kept.map key
        · refine horder hitem second (hall.mem_iff.mpr (List.mem_append_right _ hdropped)) ?_
          intro hmem
          exact hapart _ hmem _ (List.mem_map_of_mem hdropped) rfl
        · -- a kept item had to go for the new one, and it was newer than the others
          obtain ⟨gone, hgone, hnewerGone⟩ := exists_newer_of_pushed_out hkeptKeys hitem
            (hfull (List.ne_nil_of_mem hdropped)) hreplaced hnextLength hnextNewer hfirst
          exact IsTrans.trans _ _ _ hnewerGone (hnewer gone hgone second hdropped)

/-- Where the kept items of both lists are the newest, the replacement kept the order. -/
theorem IsNewest.keepsOrder (hkeys : (all.map key).Nodup)
    (hkept : IsNewest newer limit kept all)
    (hnext : IsNewest newer limit next (replaceKey key kept item))
    (hall : IsNewest newer limit next (replaceKey key all item)) :
    KeepsOrder newer key kept all item := by
  intro hitem other hother houtside
  obtain ⟨dropped, hperm, hlength, -, -⟩ := hkept
  have hsplit := (hperm.map key).nodup_iff.mp hkeys
  rw [List.map_append] at hsplit
  obtain ⟨hkeptKeys, -, -⟩ := List.nodup_append.mp hsplit
  have hsame := hnext.perm_of_replaced hkeptKeys hitem hlength
  have hin : item ∈ next := hsame.mem_iff.mp (mem_replaceKey_iff.mpr (Or.inr rfl))
  have hne : key other ≠ key item := fun heq => houtside (heq ▸ hitem)
  obtain ⟨removed, hreplaced, -, -, hnewer⟩ := hall
  have hmem : other ∈ next ++ removed :=
    hreplaced.mem_iff.mp (mem_replaceKey_iff.mpr (Or.inl ⟨hother, hne⟩))
  rcases List.mem_append.mp hmem with hnextMem | hremoved
  · rcases mem_replaceKey_iff.mp (hsame.mem_iff.mpr hnextMem) with ⟨hold, -⟩ | rfl
    · exact absurd (List.mem_map_of_mem hold) houtside
    · exact absurd rfl hne
  · exact hnewer item hin other hremoved

end Replace

end Lib
end Lirvena
