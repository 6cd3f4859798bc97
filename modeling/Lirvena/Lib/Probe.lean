import Mathlib.Data.List.Perm.Subperm
import Mathlib.Data.List.Nodup
import Mathlib.Logic.Function.Iterate

/-!
# Probing for a free key

A search that moves from a taken key to the next one until a key is free.  It is
given as many moves as there are taken keys; `firstFree_free` proves that this
is enough when the probed keys are distinct, so that the unbounded loop ends.
`probe` is the loop itself, cut off after a number of looks: what it finds is found
with any more looks too.
-/

namespace Lirvena
namespace Lib

variable {Key : Type*}

/-- The first free key among the start and the given number of keys after it. -/
def firstFree (taken : Key → Bool) (next : Key → Key) : Nat → Key → Key
  | 0, key => key
  | fuel + 1, key => if taken key then firstFree taken next fuel (next key) else key

variable {taken : Key → Bool} {next : Key → Key}

theorem taken_iterate_of_taken_firstFree {fuel : Nat} {start : Key}
    (htaken : taken (firstFree taken next fuel start) = true) :
    ∀ index ≤ fuel, taken (next^[index] start) = true := by
  induction fuel generalizing start with
  | zero =>
      intro index hindex
      rw [Nat.le_zero.mp hindex]
      exact htaken
  | succ fuel ih =>
      by_cases hstart : taken start = true
      · rw [firstFree, if_pos hstart] at htaken
        intro index hindex
        cases index with
        | zero => exact hstart
        | succ index =>
            rw [Function.iterate_succ_apply]
            exact ih htaken index (by omega)
      · rw [firstFree, if_neg hstart] at htaken
        exact absurd htaken hstart

/-- The search ends at a free key when the probed keys are distinct and the list
of taken keys is no longer than the search. -/
theorem firstFree_free {fuel : Nat} {start : Key} (used : List Key)
    (hused : ∀ key, taken key = true → key ∈ used) (hlength : used.length ≤ fuel)
    (hdistinct : ∀ first ≤ fuel, ∀ second ≤ fuel,
      next^[first] start = next^[second] start → first = second) :
    taken (firstFree taken next fuel start) = false := by
  by_contra htaken
  have hall := taken_iterate_of_taken_firstFree (by simpa using htaken)
  have hnodup : ((List.range (fuel + 1)).map (fun index => next^[index] start)).Nodup := by
    apply List.Nodup.map_on _ List.nodup_range
    intro first hfirst second hsecond hsame
    rw [List.mem_range] at hfirst hsecond
    exact hdistinct first (by omega) second (by omega) hsame
  have hsubset : (List.range (fuel + 1)).map (fun index => next^[index] start) ⊆ used := by
    intro key hkey
    obtain ⟨index, hindex, rfl⟩ := List.mem_map.mp hkey
    rw [List.mem_range] at hindex
    exact hused _ (hall index (by omega))
  have hle := (List.subperm_of_subset hnodup hsubset).length_le
  rw [List.length_map, List.length_range] at hle
  omega

/-- The search stays inside every set of keys that is closed under the move. -/
theorem firstFree_mem {property : Key → Prop}
    (hnext : ∀ key, property key → property (next key)) {start : Key}
    (hstart : property start) (fuel : Nat) :
    property (firstFree taken next fuel start) := by
  induction fuel generalizing start with
  | zero => exact hstart
  | succ fuel ih =>
      rw [firstFree]
      split
      · exact ih (hnext start hstart)
      · exact hstart

/-! ## The loop -/

/-- The loop on a key: it moves on while the key is taken, and gives nothing when it has
not ended within so many looks. -/
def probe (taken : Key → Bool) (next : Key → Key) : Nat → Key → Option Key
  | 0, _ => none
  | looks + 1, key => if taken key then probe taken next looks (next key) else some key

/-- The loop ends at the first free key. -/
theorem probe_eq_some_iff {looks : Nat} {start found : Key} :
    probe taken next looks start = some found ↔
      ∃ moves < looks, (∀ earlier < moves, taken (next^[earlier] start) = true) ∧
        taken (next^[moves] start) = false ∧ next^[moves] start = found := by
  induction looks generalizing start with
  | zero =>
      constructor
      · intro hfound
        cases hfound
      · rintro ⟨moves, hmoves, -⟩
        exact absurd hmoves (Nat.not_lt_zero moves)
  | succ looks ih =>
      rw [probe]
      cases hstart : taken start with
      | true =>
          rw [if_pos rfl, ih]
          constructor
          · rintro ⟨moves, hmoves, htaken, hfree, hfound⟩
            refine ⟨moves + 1, Nat.succ_lt_succ hmoves, ?_, hfree, hfound⟩
            intro earlier hearlier
            cases earlier with
            | zero => exact hstart
            | succ earlier => exact htaken earlier (Nat.lt_of_succ_lt_succ hearlier)
          · rintro ⟨moves, hmoves, htaken, hfree, hfound⟩
            cases moves with
            | zero => exact absurd (hfree.symm.trans hstart) Bool.false_ne_true
            | succ moves =>
                refine ⟨moves, Nat.lt_of_succ_lt_succ hmoves, ?_, hfree, hfound⟩
                exact fun earlier hearlier => htaken (earlier + 1) (Nat.succ_lt_succ hearlier)
      | false =>
          rw [if_neg Bool.false_ne_true]
          constructor
          · intro hfound
            exact ⟨0, Nat.succ_pos looks, nofun, hstart, Option.some.inj hfound⟩
          · rintro ⟨moves, -, htaken, -, hfound⟩
            cases moves with
            | zero => exact congrArg some hfound
            | succ moves =>
                have hearlier := htaken 0 (Nat.succ_pos moves)
                exact absurd (hstart.symm.trans hearlier) Bool.false_ne_true

/-- A search that ends at a free key is the loop, for every larger number of looks. -/
theorem probe_of_firstFree {fuel : Nat} {start : Key}
    (hfree : taken (firstFree taken next fuel start) = false) {looks : Nat}
    (hlooks : fuel < looks) :
    probe taken next looks start = some (firstFree taken next fuel start) := by
  induction fuel generalizing start looks with
  | zero =>
      obtain ⟨looks, rfl⟩ := Nat.exists_eq_succ_of_ne_zero (Nat.ne_zero_of_lt hlooks)
      exact if_neg (Bool.eq_false_iff.mp hfree)
  | succ fuel ih =>
      obtain ⟨looks, rfl⟩ := Nat.exists_eq_succ_of_ne_zero (Nat.ne_zero_of_lt hlooks)
      rw [firstFree] at hfree ⊢
      rw [probe]
      split
      · next htaken =>
          rw [if_pos htaken] at hfree
          exact ih hfree (Nat.lt_of_succ_lt_succ hlooks)
      · rfl

end Lib
end Lirvena
