import Mathlib.Data.List.Sort

/-!
# Maps of items under a key of their own

A map is a list in the strict order of the keys, so it is determined by what is in it.
Items that are inserted one behind another, each under a new key, are in the end the
items of the map.
-/

namespace Lirvena
namespace Lib

variable {α κ : Type*} [LinearOrder κ]

/-- An ordered map of items, each under its own key. -/
@[ext] structure KeyedMap (key : α → κ) where
  entries : List α
  sorted : entries.Pairwise fun left right => key left < key right

namespace KeyedMap

variable {key : α → κ}

def empty (key : α → κ) : KeyedMap key :=
  ⟨[], List.Pairwise.nil⟩

theorem keys_nodup (map : KeyedMap key) : (map.entries.map key).Nodup :=
  List.pairwise_map.mpr (map.sorted.imp fun hless => hless.ne)

/-- The items of a map say what it is. -/
theorem eq_of_perm {first second : KeyedMap key} (hperm : first.entries.Perm second.entries) :
    first = second := by
  refine KeyedMap.ext (hperm.eq_of_pairwise ?_ first.sorted second.sorted)
  intro left right _ _ hless hgreater
  exact absurd hless hgreater.asymm

theorem sorted_orderedInsert {map : KeyedMap key} {item : α}
    (hnew : key item ∉ map.entries.map key) :
    (map.entries.orderedInsert (fun left right => key left ≤ key right) item).Pairwise
      fun left right => key left < key right := by
  have hordered : (map.entries.orderedInsert (fun left right => key left ≤ key right) item).Pairwise
      fun left right => key left ≤ key right := by
    have htotal : Std.Total fun left right : α => key left ≤ key right :=
      ⟨fun left right => le_total (key left) (key right)⟩
    have htrans : IsTrans α fun left right => key left ≤ key right := ⟨fun _ _ _ => le_trans⟩
    exact List.Pairwise.orderedInsert item _ (map.sorted.imp le_of_lt)
  have hkeys : ((map.entries.orderedInsert (fun left right => key left ≤ key right) item).map
      key).Nodup := by
    rw [((List.perm_orderedInsert _ item map.entries).map key).nodup_iff, List.map_cons,
      List.nodup_cons]
    exact ⟨hnew, map.keys_nodup⟩
  exact (hordered.and (List.pairwise_map.mp hkeys)).imp fun hboth =>
    lt_of_le_of_ne hboth.1 hboth.2

/-- Inserts an item under a new key; under a key that is there it is refused. -/
def insertNew (map : KeyedMap key) (item : α) : Option (KeyedMap key) :=
  if hknown : key item ∈ map.entries.map key then none
  else some ⟨_, sorted_orderedInsert hknown⟩

theorem insertNew_eq_some_iff {map next : KeyedMap key} {item : α} :
    map.insertNew item = some next ↔
      key item ∉ map.entries.map key ∧ next.entries.Perm (item :: map.entries) := by
  unfold insertNew
  split
  · next hknown => simp [hknown]
  · next hnew =>
      constructor
      · intro hinsert
        cases hinsert
        exact ⟨hnew, List.perm_orderedInsert _ item map.entries⟩
      · rintro ⟨-, hperm⟩
        refine congrArg some (eq_of_perm ?_)
        exact (List.perm_orderedInsert _ item map.entries).trans hperm.symm

/-- Items go in one behind another exactly when all keys are distinct. -/
theorem insertAll_eq_some_iff {map result : KeyedMap key} {items : List α} :
    items.foldlM insertNew map = some result ↔
      ((map.entries ++ items).map key).Nodup ∧ result.entries.Perm (map.entries ++ items) := by
  induction items generalizing map with
  | nil =>
      rw [List.append_nil]
      constructor
      · intro hsame
        obtain rfl : map = result := Option.some.inj hsame
        exact ⟨map.keys_nodup, List.Perm.refl _⟩
      · rintro ⟨-, hperm⟩
        exact congrArg some (eq_of_perm hperm.symm)
  | cons item rest ih =>
      have hmiddle : (map.entries ++ item :: rest).Perm (item :: map.entries ++ rest) :=
        List.perm_middle
      rw [List.foldlM_cons, Option.bind_eq_bind, Option.bind_eq_some_iff,
        (hmiddle.map key).nodup_iff]
      constructor
      · rintro ⟨next, hinsert, hrest⟩
        obtain ⟨-, hnext⟩ := insertNew_eq_some_iff.mp hinsert
        obtain ⟨hnodup, hresult⟩ := ih.mp hrest
        have hfront := hnext.append_right rest
        rw [(hfront.map key).nodup_iff] at hnodup
        exact ⟨hnodup, (hresult.trans hfront).trans hmiddle.symm⟩
      · rintro ⟨hnodup, hresult⟩
        have hnew : key item ∉ map.entries.map key := by
          rw [List.cons_append, List.map_cons, List.nodup_cons, List.map_append] at hnodup
          exact fun hknown => hnodup.1 (List.mem_append_left _ hknown)
        obtain ⟨next, hinsert⟩ : ∃ next, map.insertNew item = some next :=
          ⟨_, dif_neg hnew⟩
        obtain ⟨-, hnext⟩ := insertNew_eq_some_iff.mp hinsert
        have hfront := hnext.append_right rest
        refine ⟨next, hinsert, ih.mpr ⟨(hfront.map key).nodup_iff.mpr hnodup, ?_⟩⟩
        exact (hresult.trans hmiddle).trans hfront.symm

end KeyedMap

end Lib
end Lirvena
