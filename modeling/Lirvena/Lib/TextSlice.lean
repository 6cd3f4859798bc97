import Lirvena.Lib.Json

/-!
# Byte slices of text

Text is sliced by byte offsets, and a slice exists only when both offsets lie
inside the text and on character boundaries.  `readPairs` reads a text two bytes
at a time and stops at the first pair that is refused; it stays on boundaries
exactly for the texts that are `pairable`.
-/

namespace Lirvena
namespace Lib

open Json

/-- The characters before and after a byte offset, when it is a boundary. -/
def splitAtByte : Nat → List Char → Option (List Char × List Char)
  | 0, chars => some ([], chars)
  | _ + 1, [] => none
  | offset + 1, char :: rest =>
      if char.utf8Size ≤ offset + 1 then
        (splitAtByte (offset + 1 - char.utf8Size) rest).map fun parts =>
          (char :: parts.1, parts.2)
      else
        none

/-- `&text[start..stop]`; nothing where the slice panics. -/
def sliceBytes (chars : List Char) (start stop : Nat) : Option (List Char) := do
  let (_, tail) ← splitAtByte start chars
  if stop < start then none
  else
    let (slice, _) ← splitAtByte (stop - start) tail
    return slice

theorem splitAtByte_append (before rest : List Char) :
    splitAtByte (utf8Len before) (before ++ rest) = some (before, rest) := by
  induction before with
  | nil => simp [splitAtByte]
  | cons char tail ih =>
      have hpos := char.utf8Size_pos
      obtain ⟨offset, hoffset⟩ : ∃ offset, utf8Len (char :: tail) = offset + 1 :=
        ⟨utf8Len (char :: tail) - 1, by rw [utf8Len_cons]; omega⟩
      have hrest : offset + 1 - char.utf8Size = utf8Len tail := by
        rw [← hoffset, utf8Len_cons]
        omega
      have hfits : char.utf8Size ≤ offset + 1 := by
        rw [← hoffset, utf8Len_cons]
        omega
      rw [hoffset, List.cons_append, splitAtByte, if_pos hfits, hrest, ih]
      rfl

theorem splitAtByte_eq_some_iff {offset : Nat} {chars front rest : List Char} :
    splitAtByte offset chars = some (front, rest) ↔
      chars = front ++ rest ∧ utf8Len front = offset := by
  constructor
  · intro hsplit
    induction offset, chars using splitAtByte.induct generalizing front with
    | case1 chars =>
        rw [splitAtByte] at hsplit
        cases hsplit
        exact ⟨rfl, rfl⟩
    | case2 offset => cases hsplit
    | case3 offset char tail hfits ih =>
        rw [splitAtByte, if_pos hfits, Option.map_eq_some_iff] at hsplit
        obtain ⟨⟨before, after⟩, hrest, heq⟩ := hsplit
        cases heq
        obtain ⟨rfl, hlength⟩ := ih hrest
        have hbefore : utf8Len before = offset + 1 - char.utf8Size := hlength
        refine ⟨rfl, ?_⟩
        show utf8Len (char :: before) = offset + 1
        rw [utf8Len_cons]
        omega
    | case4 offset char tail hwide =>
        rw [splitAtByte, if_neg hwide] at hsplit
        cases hsplit
  · rintro ⟨rfl, rfl⟩
    exact splitAtByte_append front rest

/-- A slice that starts after a known part is a slice of the rest. -/
theorem sliceBytes_append (before rest : List Char) (width : Nat) :
    sliceBytes (before ++ rest) (utf8Len before) (utf8Len before + width) =
      (splitAtByte width rest).map Prod.fst := by
  unfold sliceBytes
  rw [splitAtByte_append]
  have hforward : ¬ utf8Len before + width < utf8Len before := by omega
  have hwidth : utf8Len before + width - utf8Len before = width := by omega
  simp only [Option.bind_eq_bind, Option.bind_some, if_neg hforward, hwidth]
  cases splitAtByte width rest <;> rfl

section Pairs

variable {ε α : Type} (accept : List Char → Option α) (refused : ε)

/-- Reads `count` slices of two bytes from the offset on, up to the first that is
refused; nothing where a slice panics. -/
def readPairs (chars : List Char) : Nat → Nat → Option (Except ε (List α))
  | 0, _ => some (.ok [])
  | count + 1, offset => do
      let pair ← sliceBytes chars offset (offset + 2)
      match accept pair with
      | none => return .error refused
      | some value => do
          let rest ← readPairs chars count (offset + 2)
          return (value :: ·) <$> rest

/-- Read in pairs of one-byte characters, the text comes to its end, to a pair that
is refused, or to a refused character of two bytes. -/
def pairable : List Char → Bool
  | [] => true
  | [char] => char.utf8Size = 2
  | first :: second :: rest =>
      if first.utf8Size = 2 then (accept [first]).isNone || pairable (second :: rest)
      else first.utf8Size = 1 && second.utf8Size = 1 &&
        ((accept [first, second]).isNone || pairable rest)

variable {accept refused}

/-- Every slice of the text is accepted exactly when the text is made of accepted pairs
of two bytes. -/
theorem readPairs_eq_ok_iff (before : List Char) {rest : List Char} {count : Nat}
    (hlength : utf8Len rest = 2 * count) {values : List α} :
    readPairs accept refused (before ++ rest) count (utf8Len before) = some (.ok values) ↔
      ∃ pairs, rest = pairs.flatten ∧
        List.Forall₂ (fun pair value => utf8Len pair = 2 ∧ accept pair = some value)
          pairs values := by
  induction count generalizing before rest values with
  | zero =>
      have hempty : rest = [] := by
        cases rest with
        | nil => rfl
        | cons char tail =>
            have hpos := char.utf8Size_pos
            rw [utf8Len_cons] at hlength
            omega
      subst hempty
      constructor
      · intro hread
        cases hread
        exact ⟨[], rfl, List.Forall₂.nil⟩
      · rintro ⟨pairs, hflat, hpairs⟩
        cases hpairs with
        | nil => rfl
        | @cons pair value pairs values hfirst hothers =>
            rw [List.flatten_cons, List.nil_eq, List.append_eq_nil_iff] at hflat
            rw [hflat.1] at hfirst
            cases hfirst.1
  | succ count ih =>
      have hslice := sliceBytes_append before rest 2
      constructor
      · intro hread
        rw [readPairs, hslice, Option.bind_eq_bind, Option.bind_eq_some_iff] at hread
        obtain ⟨front, hfront, hread⟩ := hread
        rw [Option.map_eq_some_iff] at hfront
        obtain ⟨⟨front, tail⟩, hsplit, rfl⟩ := hfront
        obtain ⟨rfl, hwidth⟩ := splitAtByte_eq_some_iff.mp hsplit
        cases haccept : accept front with
        | none =>
            rw [haccept] at hread
            cases hread
        | some value =>
            rw [haccept, Option.bind_eq_bind, Option.bind_eq_some_iff] at hread
            obtain ⟨others, hothers, hread⟩ := hread
            cases others with
            | error _ => cases hread
            | ok others =>
                cases hread
                rw [utf8Len_append] at hlength
                rw [← List.append_assoc, ← hwidth, ← utf8Len_append] at hothers
                obtain ⟨pairs, rfl, hpairs⟩ :=
                  (ih (before ++ front) (by omega)).mp hothers
                exact ⟨front :: pairs, rfl, List.Forall₂.cons ⟨hwidth, haccept⟩ hpairs⟩
      · rintro ⟨pairs, rfl, hpairs⟩
        cases hpairs with
        | nil => cases hlength
        | @cons pair value pairs values hfirst hothers =>
            obtain ⟨hwidth, haccept⟩ := hfirst
            rw [List.flatten_cons, utf8Len_append] at hlength
            have hcount : utf8Len pairs.flatten = 2 * count := by omega
            have hrest := (ih (before ++ pair) hcount).mpr ⟨pairs, rfl, hothers⟩
            have hsplit := splitAtByte_append pair pairs.flatten
            rw [List.append_assoc, utf8Len_append, hwidth] at hrest
            rw [hwidth] at hsplit
            rw [List.flatten_cons, hsplit] at hslice
            rw [readPairs, List.flatten_cons, hslice]
            simp [haccept, hrest]

/-- What the first two bytes of a text are. -/
theorem splitAtByte_two (first : Char) (rest : List Char) :
    (splitAtByte 2 (first :: rest)).map Prod.fst =
      if first.utf8Size = 2 then some [first]
      else if first.utf8Size = 1 then
        match rest with
        | [] => none
        | second :: _ => if second.utf8Size = 1 then some [first, second] else none
      else none := by
  have hpos := first.utf8Size_pos
  by_cases htwo : first.utf8Size = 2
  · simp [splitAtByte, htwo]
  · by_cases hone : first.utf8Size = 1
    · cases rest with
      | nil => simp [splitAtByte, hone]
      | cons second tail =>
          have hsecond := second.utf8Size_pos
          by_cases hnext : second.utf8Size = 1
          · simp [splitAtByte, hone, hnext]
          · have hwide : ¬ second.utf8Size ≤ 1 := by omega
            simp [splitAtByte, hone, hnext, hwide]
    · have hwide : ¬ first.utf8Size ≤ 2 := by omega
      simp [splitAtByte, htwo, hone, hwide]

/-- One turn of the loop, by what the slice is. -/
theorem readPairs_succ_isSome {chars pair : List Char} {count offset : Nat}
    (hslice : sliceBytes chars offset (offset + 2) = some pair) :
    (readPairs accept refused chars (count + 1) offset).isSome =
      ((accept pair).isNone || (readPairs accept refused chars count (offset + 2)).isSome) := by
  rw [readPairs, hslice]
  cases haccept : accept pair with
  | none => simp [haccept]
  | some value => cases readPairs accept refused chars count (offset + 2) <;> simp [haccept]

/-- The loop slices on boundaries exactly on the texts that are pairable. -/
theorem readPairs_isSome_eq (before rest : List Char) (count : Nat)
    (hlength : utf8Len rest = 2 * count) :
    (readPairs accept refused (before ++ rest) count (utf8Len before)).isSome =
      pairable accept rest := by
  induction count generalizing before rest with
  | zero =>
      cases rest with
      | nil => rfl
      | cons char tail =>
          have hpos := char.utf8Size_pos
          rw [utf8Len_cons] at hlength
          omega
  | succ count ih =>
      cases rest with
      | nil =>
          rw [utf8Len_nil] at hlength
          omega
      | cons first tail =>
          have hpos := first.utf8Size_pos
          have hslice := sliceBytes_append before (first :: tail) 2
          rw [splitAtByte_two] at hslice
          rw [utf8Len_cons] at hlength
          by_cases htwo : first.utf8Size = 2
          · -- A character of two bytes is a slice of its own.
            rw [if_pos htwo] at hslice
            have hnext := ih (before ++ [first]) tail (by omega)
            rw [List.append_assoc, List.singleton_append, utf8Len_append, utf8Len_cons,
              utf8Len_nil, htwo] at hnext
            rw [readPairs_succ_isSome hslice, hnext]
            cases tail with
            | nil => simp [pairable, htwo]
            | cons second others => rw [pairable, if_pos htwo]
          · rw [if_neg htwo] at hslice
            by_cases hone : first.utf8Size = 1
            · rw [if_pos hone] at hslice
              cases tail with
              | nil =>
                  rw [utf8Len_nil] at hlength
                  omega
              | cons second others =>
                  by_cases hsecond : second.utf8Size = 1
                  · rw [utf8Len_cons] at hlength
                    have hnext := ih (before ++ [first, second]) others (by omega)
                    rw [List.append_assoc, List.cons_append, List.singleton_append,
                      utf8Len_append, utf8Len_cons, utf8Len_cons, utf8Len_nil, hone,
                      hsecond] at hnext
                    simp only [hsecond, if_true] at hslice
                    rw [readPairs_succ_isSome hslice, hnext, pairable, if_neg htwo]
                    simp [hone, hsecond]
                  · simp only [hsecond, if_false] at hslice
                    simp [readPairs, hslice, pairable, htwo, hsecond]
            · rw [if_neg hone] at hslice
              cases tail with
              | nil => simp [readPairs, hslice, pairable, htwo]
              | cons second others => simp [readPairs, hslice, pairable, htwo, hone]

/-- The whole text, read from its beginning. -/
theorem readPairs_start_isSome (accept : List Char → Option α) (refused : ε)
    {text : List Char} {count : Nat} (hlength : utf8Len text = 2 * count) :
    (readPairs accept refused text count 0).isSome = pairable accept text :=
  readPairs_isSome_eq [] text count hlength

end Pairs

end Lib
end Lirvena
