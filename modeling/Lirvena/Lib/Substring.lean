import Mathlib.Data.List.Infix

/-!
# Occurrences of a pattern

A string is split at the first occurrence of a pattern, or every occurrence is
replaced from the left on.  What is said about a pattern that begins with a unit
it does not repeat rests on one fact: such a pattern cannot begin in one part of a
string and end in the next, if the next part begins with the pattern.

Replacing a pattern by a shorter value shortens a string unless the pattern does
not occur in it, so that a string is kept exactly when there is nothing to replace.
-/

namespace Lirvena
namespace Lib

variable {α : Type*} [DecidableEq α]

/-! ## The first occurrence -/

/-- What is before and behind the first occurrence of a pattern. -/
def splitOnce (pattern : List α) : List α → Option (List α × List α)
  | [] => none
  | unit :: rest =>
      if pattern <+: unit :: rest then some ([], (unit :: rest).drop pattern.length)
      else (splitOnce pattern rest).map fun parts => (unit :: parts.1, parts.2)

section Split

variable {pattern units before : List α}

theorem splitOnce_eq_none (habsent : ¬ pattern <:+: units) :
    splitOnce pattern units = none := by
  induction units with
  | nil => rfl
  | cons unit rest ih =>
      rw [splitOnce, if_neg fun hfront => habsent hfront.isInfix,
        ih fun hlater => habsent (hlater.trans (List.suffix_cons unit rest).isInfix)]
      rfl

/-- A pattern that occurs in a part of a string is split off inside that part. -/
theorem splitOnce_of_infix (hoccurs : pattern <:+: before) (hpattern : pattern ≠ [])
    (rest : List α) : ∃ first behind, splitOnce pattern (before ++ rest) = some (first, behind) ∧
      first.length + pattern.length ≤ before.length := by
  induction before with
  | nil => exact absurd (List.eq_nil_of_infix_nil hoccurs) hpattern
  | cons unit others ih =>
      rw [List.cons_append, splitOnce]
      by_cases hfront : pattern <+: unit :: (others ++ rest)
      · rw [if_pos hfront]
        exact ⟨[], _, rfl, by simpa using hoccurs.length_le⟩
      · rw [if_neg hfront]
        have hlater : pattern <:+: others := by
          rcases List.infix_cons_iff.mp hoccurs with hhere | hlater
          · exact absurd (hhere.trans (List.prefix_append _ _)) hfront
          · exact hlater
        obtain ⟨first, behind, hsplit, hlength⟩ := ih hlater
        rw [hsplit]
        refine ⟨unit :: first, behind, rfl, ?_⟩
        rw [List.length_cons, List.length_cons]
        omega

end Split

section Headed

variable {head : α} {tail before : List α}

omit [DecidableEq α] in
/-- A pattern that does not repeat its first unit begins in a part before it only if
it occurs there. -/
theorem infix_of_prefix_append (hhead : head ∉ tail) {unit : α} {others after : List α}
    (hfront : head :: tail <+: unit :: others ++ (head :: tail ++ after)) :
    head :: tail <:+: unit :: others := by
  rcases Nat.le_total (head :: tail).length (unit :: others).length with hshort | hlong
  · exact (List.prefix_of_prefix_length_le hfront (List.prefix_append _ _) hshort).isInfix
  · obtain ⟨behind, hbehind⟩ :=
      List.prefix_of_prefix_length_le (List.prefix_append _ _) hfront hlong
    cases behind with
    | nil =>
        rw [← hbehind, List.append_nil]
    | cons next more =>
        -- The pattern would go on into the part behind, with its first unit.
        obtain ⟨rest, hrest⟩ := hfront
        rw [← hbehind, List.append_assoc] at hrest
        have hnext : next = head := by
          have hparts := List.append_cancel_left hrest
          exact (List.cons.inj hparts).1.trans (List.cons.inj hbehind).1
        have htail : others ++ next :: more = tail := (List.cons.inj hbehind).2
        exact absurd (by rw [← htail, hnext]; simp) hhead

/-- The first occurrence is the one behind a part without the pattern. -/
theorem splitOnce_append (hhead : head ∉ tail) (habsent : ¬ head :: tail <:+: before)
    (after : List α) :
    splitOnce (head :: tail) (before ++ (head :: tail ++ after)) = some (before, after) := by
  induction before with
  | nil =>
      refine (if_pos (List.prefix_append (head :: tail) after)).trans ?_
      have hdrop : (head :: tail ++ after).drop (head :: tail).length = after := List.drop_left
      exact congrArg (fun behind => some ([], behind)) hdrop
  | cons unit others ih =>
      have hlater : ¬ head :: tail <:+: others := fun hoccurs =>
        habsent (hoccurs.trans (List.suffix_cons unit others).isInfix)
      have hfront : ¬ head :: tail <+: unit :: (others ++ (head :: tail ++ after)) :=
        fun hfront => habsent (infix_of_prefix_append hhead hfront)
      rw [List.cons_append, splitOnce, if_neg hfront, ih hlater]
      rfl

end Headed

/-! ## Every occurrence -/

/-- Replaces from the left on, after so many units that belong to an occurrence. -/
def replaceFrom (pattern value : List α) : Nat → List α → List α
  | _, [] => []
  | skip + 1, _ :: rest => replaceFrom pattern value skip rest
  | 0, unit :: rest =>
      if pattern <+: unit :: rest then
        value ++ replaceFrom pattern value (pattern.length - 1) rest
      else unit :: replaceFrom pattern value 0 rest

/-- `str::replace`. -/
def replace (pattern value units : List α) : List α :=
  replaceFrom pattern value 0 units

section Replace

variable {pattern value : List α}

theorem replaceFrom_eq (skip : Nat) (units : List α) :
    replaceFrom pattern value skip units = replace pattern value (units.drop skip) := by
  induction skip generalizing units with
  | zero => rfl
  | succ skip ih =>
      cases units with
      | nil => rfl
      | cons unit rest => exact ih rest

theorem replace_cons {unit : α} {rest : List α} (hfront : ¬ pattern <+: unit :: rest) :
    replace pattern value (unit :: rest) = unit :: replace pattern value rest :=
  if_neg hfront

theorem replace_pattern (hpattern : pattern ≠ []) (rest : List α) :
    replace pattern value (pattern ++ rest) = value ++ replace pattern value rest := by
  cases pattern with
  | nil => exact absurd rfl hpattern
  | cons head tail =>
      rw [List.cons_append]
      refine (if_pos (List.prefix_append (head :: tail) rest)).trans ?_
      rw [List.length_cons, Nat.add_sub_cancel, replaceFrom_eq, List.drop_left]

theorem replace_eq_self {units : List α} (habsent : ¬ pattern <:+: units) :
    replace pattern value units = units := by
  induction units with
  | nil => rfl
  | cons unit rest ih =>
      rw [replace_cons fun hfront => habsent hfront.isInfix,
        ih fun hlater => habsent (hlater.trans (List.suffix_cons unit rest).isInfix)]

/-- A pattern that occurs makes the string shorter. -/
theorem replace_length_lt (hshorter : value.length < pattern.length) {units : List α}
    (hoccurs : pattern <:+: units) :
    (replace pattern value units).length < units.length := by
  have hpattern : pattern ≠ [] := List.length_pos_iff.mp (Nat.zero_lt_of_lt hshorter)
  induction hlength : units.length using Nat.strongRecOn generalizing units with
  | ind length ih =>
      subst hlength
      by_cases hfront : pattern <+: units
      · obtain ⟨behind, rfl⟩ := hfront
        -- What is behind does not grow: it is kept, or it is shorter as well.
        have hbehind : (replace pattern value behind).length ≤ behind.length := by
          by_cases hagain : pattern <:+: behind
          · have hfewer : behind.length < (pattern ++ behind).length := by
              rw [List.length_append]
              omega
            exact Nat.le_of_lt (ih behind.length hfewer hagain rfl)
          · rw [replace_eq_self hagain]
        rw [replace_pattern hpattern, List.length_append, List.length_append]
        omega
      · cases units with
        | nil => exact absurd (List.eq_nil_of_infix_nil hoccurs) hpattern
        | cons unit rest =>
            have hlater : pattern <:+: rest :=
              (List.infix_cons_iff.mp hoccurs).resolve_left hfront
            have hshrinks := ih rest.length (Nat.lt_succ_self _) hlater rfl
            rw [replace_cons hfront, List.length_cons, List.length_cons]
            omega

theorem replace_length_le (hshorter : value.length < pattern.length) (units : List α) :
    (replace pattern value units).length ≤ units.length := by
  by_cases hoccurs : pattern <:+: units
  · exact Nat.le_of_lt (replace_length_lt hshorter hoccurs)
  · rw [replace_eq_self hoccurs]

/-- Units that do not begin the pattern are kept. -/
theorem replace_append {head : α} {tail front : List α} (hhead : head ∉ front) (rest : List α) :
    replace (head :: tail) value (front ++ rest) = front ++ replace (head :: tail) value rest := by
  induction front with
  | nil => rfl
  | cons unit others ih =>
      have hunit : ¬ head :: tail <+: unit :: (others ++ rest) := by
        intro hfront
        have hsame : head = unit := (List.cons_prefix_cons.mp hfront).1
        exact hhead (by rw [hsame]; exact List.mem_cons_self)
      rw [List.cons_append, replace_cons hunit,
        ih fun hlater => hhead (List.mem_cons_of_mem unit hlater)]
      rfl

/-- Another string of the same length that begins like the pattern, but only there. -/
theorem replace_other {head : α} {tail front : List α} (hhead : head ∉ front)
    (hlength : front.length = tail.length) (hother : front ≠ tail) (rest : List α) :
    replace (head :: tail) value (head :: front ++ rest) =
      head :: front ++ replace (head :: tail) value rest := by
  have hfront : ¬ head :: tail <+: head :: (front ++ rest) := by
    intro hpattern
    have htail : tail <+: front ++ rest := (List.cons_prefix_cons.mp hpattern).2
    have hsame := List.prefix_of_prefix_length_le htail (List.prefix_append front rest)
      (Nat.le_of_eq hlength.symm)
    exact hother (hsame.eq_of_length hlength.symm).symm
  rw [List.cons_append, replace_cons hfront, replace_append hhead]
  rfl

/-- A string put together from pieces is replaced piece by piece, where no
occurrence crosses a piece. -/
theorem replace_flatMap {β : Type*} {before after : β → List α}
    (hpiece : ∀ item rest, replace pattern value (before item ++ rest) =
      after item ++ replace pattern value rest) (items : List β) :
    replace pattern value (items.flatMap before) = items.flatMap after := by
  induction items with
  | nil => rfl
  | cons item items ih => rw [List.flatMap_cons, List.flatMap_cons, hpiece, ih]

end Replace

/-! ## One replacement after another -/

/-- Replacements of patterns by values, in their order. -/
def replaceAll (rules : List (List α × List α)) (units : List α) : List α :=
  rules.foldl (fun units rule => replace rule.1 rule.2 units) units

section Rules

variable {rules : List (List α × List α)}

theorem replaceAll_length_le (hshorter : ∀ rule ∈ rules, rule.2.length < rule.1.length)
    (units : List α) : (replaceAll rules units).length ≤ units.length := by
  induction rules generalizing units with
  | nil => exact Nat.le_refl _
  | cons rule rest ih =>
      have hfirst := replace_length_le (hshorter rule List.mem_cons_self) units
      have hrest := ih (fun other hother => hshorter other (List.mem_cons_of_mem rule hother))
        (replace rule.1 rule.2 units)
      exact Nat.le_trans hrest hfirst

/-- A string is kept exactly when none of the patterns occurs in it. -/
theorem replaceAll_eq_self_iff (hshorter : ∀ rule ∈ rules, rule.2.length < rule.1.length)
    {units : List α} :
    replaceAll rules units = units ↔ ∀ rule ∈ rules, ¬ rule.1 <:+: units := by
  induction rules with
  | nil => simp [replaceAll]
  | cons rule rest ih =>
      have hfirst := hshorter rule List.mem_cons_self
      have hrest := fun other hother => hshorter other (List.mem_cons_of_mem rule hother)
      rw [List.forall_mem_cons, ← ih hrest]
      by_cases hoccurs : rule.1 <:+: units
      · have hlength := replaceAll_length_le hrest (replace rule.1 rule.2 units)
        have hless := replace_length_lt hfirst hoccurs
        refine iff_of_false (fun hsame => ?_) (fun hboth => hboth.1 hoccurs)
        have hsame : replaceAll rest (replace rule.1 rule.2 units) = units := hsame
        rw [hsame] at hlength
        omega
      · have hkept : replaceAll (rule :: rest) units = replaceAll rest units :=
          congrArg (replaceAll rest) (replace_eq_self hoccurs)
        rw [hkept]
        exact (and_iff_right hoccurs).symm

end Rules

end Lib
end Lirvena
