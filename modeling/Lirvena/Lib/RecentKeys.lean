import Mathlib.Data.List.Dedup
import Mathlib.Data.List.DropRight
import Mathlib.Data.List.Lattice

/-!
# The most recent distinct keys

A queue that takes only keys it does not hold, and drops its oldest key beyond a limit,
holds the last keys it has taken.  Those are distinct, and so they are also the last
distinct ones of the whole history, in which a key may come again after it was dropped.
-/

namespace Lirvena
namespace Lib

variable {Key : Type*} {limit : Nat} {window keys : List Key}

/-- The queue holds the last keys of the history, and none of them twice. -/
structure IsWindow (limit : Nat) (window keys : List Key) : Prop where
  nodup : window.Nodup
  suffix : window <:+ keys
  length_eq : window.length = min limit keys.length

theorem isWindow_nil (limit : Nat) : IsWindow limit ([] : List Key) [] where
  nodup := List.nodup_nil
  suffix := List.suffix_refl []
  length_eq := (Nat.min_zero limit).symm

theorem IsWindow.length_le (hwindow : IsWindow limit window keys) : window.length ≤ limit := by
  rw [hwindow.length_eq]
  exact Nat.min_le_left _ _

theorem nodup_append_singleton {key : Key} (hnodup : window.Nodup) (hkey : key ∉ window) :
    (window ++ [key]).Nodup := by
  rw [← List.concat_eq_append]
  exact hnodup.concat hkey

theorem suffix_append_singleton (key : Key) (hsuffix : window <:+ keys) :
    window ++ [key] <:+ keys ++ [key] := by
  obtain ⟨older, rfl⟩ := hsuffix
  exact ⟨older, by rw [List.append_assoc]⟩

/-- A new key joins a queue with room. -/
theorem IsWindow.push {key : Key} (hwindow : IsWindow limit window keys) (hkey : key ∉ window)
    (hroom : (window ++ [key]).length ≤ limit) : IsWindow limit (window ++ [key]) (keys ++ [key])
    where
  nodup := nodup_append_singleton hwindow.nodup hkey
  suffix := suffix_append_singleton key hwindow.suffix
  length_eq := by
    have hlength := hwindow.length_eq
    rw [List.length_append, List.length_singleton] at hroom ⊢
    rw [List.length_append, List.length_singleton]
    omega

/-- A new key joins a full queue and the oldest one leaves it. -/
theorem IsWindow.push_full {key expired : Key} {rest : List Key}
    (hwindow : IsWindow limit window keys) (hkey : key ∉ window)
    (hfull : limit < (window ++ [key]).length) (hrest : window ++ [key] = expired :: rest) :
    IsWindow limit rest (keys ++ [key]) where
  nodup := by
    have hnodup := nodup_append_singleton hwindow.nodup hkey
    rw [hrest] at hnodup
    exact (List.nodup_cons.mp hnodup).2
  suffix := by
    have hsuffix := suffix_append_singleton key hwindow.suffix
    rw [hrest] at hsuffix
    exact (List.suffix_cons expired rest).trans hsuffix
  length_eq := by
    have hlength := hwindow.length_eq
    have hsame := congrArg List.length hrest
    rw [List.length_append, List.length_singleton, List.length_cons] at hsame
    rw [List.length_append, List.length_singleton] at hfull ⊢
    omega

variable [DecidableEq Key]

/-- The last distinct keys of a history; of a repeated key its last occurrence counts. -/
def recentDistinct (limit : Nat) (keys : List Key) : List Key :=
  keys.dedup.rtake limit

theorem IsWindow.eq_recentDistinct (hwindow : IsWindow limit window keys) :
    window = recentDistinct limit keys := by
  obtain ⟨older, rfl⟩ := hwindow.suffix
  have hlength := hwindow.length_eq
  rw [List.length_append] at hlength
  unfold recentDistinct List.rtake
  rw [List.dedup_append, hwindow.nodup.dedup]
  by_cases hfull : window.length = limit
  · -- the queue is full, and the older keys stand before it
    obtain ⟨before, hbefore⟩ := List.suffix_union_right older window
    rw [← hbefore, List.length_append, hfull, Nat.add_sub_cancel, List.drop_left]
  · have holder : older.length = 0 := by omega
    rw [List.length_eq_zero_iff.mp holder]
    have hshort : window.length - limit = 0 := by
      have hle := hwindow.length_le
      omega
    simp [hshort]

end Lib
end Lirvena
