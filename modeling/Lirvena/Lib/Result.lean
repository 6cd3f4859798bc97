import Mathlib.Algebra.Group.Nat.Defs
import Mathlib.Algebra.GroupWithZero.Nat
import Mathlib.Data.List.Forall2

/-!
# Fallible computations and checked machine arithmetic

`Except` computations are taken apart with the inversion lemmas below, so that
a proof about a function never unfolds the monad.  Unsigned machine words are
natural numbers; where the width of a word decides what a program does, the
operation is one of the checked functions.
-/

namespace Lirvena
namespace Lib

section Except

universe u v

variable {ε : Type u} {α β : Type v}

theorem bind_eq_ok_iff {first : Except ε α} {next : α → Except ε β} {result : β} :
    (first >>= next) = .ok result ↔
      ∃ value, first = .ok value ∧ next value = .ok result := by
  cases first with
  | error error => simp [bind, Except.bind]
  | ok value => simp [bind, Except.bind]

theorem bind_eq_error_iff {first : Except ε α} {next : α → Except ε β} {error : ε} :
    (first >>= next) = .error error ↔
      first = .error error ∨ ∃ value, first = .ok value ∧ next value = .error error := by
  cases first with
  | error error => simp [bind, Except.bind]
  | ok value => simp [bind, Except.bind]

theorem map_eq_ok_iff {f : α → β} {first : Except ε α} {result : β} :
    f <$> first = .ok result ↔ ∃ value, first = .ok value ∧ f value = result := by
  cases first with
  | error error => simp [Functor.map, Except.map]
  | ok value => simp [Functor.map, Except.map]

theorem mapError_eq_ok_iff {δ : Type*} {result : Except ε α} {map : ε → δ} {value : α} :
    result.mapError map = .ok value ↔ result = .ok value := by
  cases result <;> simp [Except.mapError]

theorem mapError_eq_error_iff {δ : Type*} {result : Except ε α} {map : ε → δ} {error : δ} :
    result.mapError map = .error error ↔ ∃ cause, result = .error cause ∧ map cause = error := by
  cases result <;> simp [Except.mapError]

/-- A traversal whose step succeeds with a known value under a known condition. -/
theorem mapM_eq_ok_iff {step : α → Except ε β} {good : α → Prop} {value : α → β}
    (hstep : ∀ item result, step item = .ok result ↔ good item ∧ result = value item)
    {items : List α} {results : List β} :
    items.mapM step = .ok results ↔
      (∀ item ∈ items, good item) ∧ results = items.map value := by
  induction items generalizing results with
  | nil =>
      rw [List.mapM_nil]
      constructor
      · intro hnil
        cases hnil
        simp
      · rintro ⟨-, rfl⟩
        rfl
  | cons item rest ih =>
      rw [List.mapM_cons, bind_eq_ok_iff]
      constructor
      · rintro ⟨first, hfirst, hrest⟩
        obtain ⟨others, hothers, hpair⟩ := bind_eq_ok_iff.mp hrest
        cases hpair
        obtain ⟨hgood, rfl⟩ := (hstep item first).mp hfirst
        obtain ⟨hall, rfl⟩ := ih.mp hothers
        simpa using ⟨hgood, hall⟩
      · rintro ⟨hall, rfl⟩
        -- The first item and the others, each by its own half of the hypothesis.
        have hfirst := (hstep item _).mpr ⟨hall item (by simp), rfl⟩
        have hothers := ih.mpr ⟨fun other hother => hall other (by simp [hother]), rfl⟩
        exact ⟨_, hfirst, bind_eq_ok_iff.mpr ⟨_, hothers, rfl⟩⟩

/-- A traversal whose results say which items they were made of. -/
theorem mapM_eq_ok_iff_map {step : α → Except ε β} {back : β → α}
    (hstep : ∀ item result, step item = .ok result ↔ back result = item)
    {items : List α} {results : List β} :
    items.mapM step = .ok results ↔ results.map back = items := by
  induction items generalizing results with
  | nil =>
      rw [List.mapM_nil, List.map_eq_nil_iff]
      constructor
      · intro hnil
        cases hnil
        rfl
      · rintro rfl
        rfl
  | cons item rest ih =>
      rw [List.mapM_cons, bind_eq_ok_iff]
      constructor
      · rintro ⟨first, hfirst, hrest⟩
        obtain ⟨others, hothers, hpair⟩ := bind_eq_ok_iff.mp hrest
        cases hpair
        rw [List.map_cons, (hstep item first).mp hfirst, ih.mp hothers]
      · intro hmap
        cases results with
        | nil => cases hmap
        | cons first others =>
            obtain ⟨hfirst, hothers⟩ := List.cons.inj hmap
            exact ⟨first, (hstep item first).mpr hfirst,
              bind_eq_ok_iff.mpr ⟨others, ih.mpr hothers, rfl⟩⟩

/-- Results for all the items of a list are a list of results. -/
theorem exists_forall₂_iff {α β : Type} {related : α → β → Prop} {items : List α} :
    (∃ results, List.Forall₂ related items results) ↔
      ∀ item ∈ items, ∃ result, related item result := by
  induction items with
  | nil => exact iff_of_true ⟨[], List.Forall₂.nil⟩ fun _ hmem => absurd hmem List.not_mem_nil
  | cons item rest ih =>
      rw [List.forall_mem_cons, ← ih]
      constructor
      · rintro ⟨results, hall⟩
        cases hall with
        | cons hfirst hothers => exact ⟨⟨_, hfirst⟩, _, hothers⟩
      · rintro ⟨⟨result, hfirst⟩, results, hothers⟩
        exact ⟨result :: results, List.Forall₂.cons hfirst hothers⟩

/-- A traversal takes each item to its result. -/
theorem mapM_eq_ok_iff_forall₂ {step : α → Except ε β} {items : List α} {results : List β} :
    items.mapM step = .ok results ↔
      List.Forall₂ (fun item result => step item = .ok result) items results := by
  induction items generalizing results with
  | nil =>
      rw [List.mapM_nil, List.forall₂_nil_left_iff]
      constructor
      · intro hnil
        cases hnil
        rfl
      · rintro rfl
        rfl
  | cons item rest ih =>
      rw [List.mapM_cons, bind_eq_ok_iff, List.forall₂_cons_left_iff]
      constructor
      · rintro ⟨first, hfirst, hrest⟩
        obtain ⟨others, hothers, hpair⟩ := bind_eq_ok_iff.mp hrest
        cases hpair
        exact ⟨first, others, hfirst, ih.mp hothers, rfl⟩
      · rintro ⟨first, others, hfirst, hothers, rfl⟩
        exact ⟨first, hfirst, bind_eq_ok_iff.mpr ⟨others, ih.mpr hothers, rfl⟩⟩

theorem exists_of_mem_mapM {step : α → Except ε β} {items : List α} {results : List β}
    (htraverse : items.mapM step = .ok results) {result : β} (hmem : result ∈ results) :
    ∃ item ∈ items, step item = .ok result := by
  have hsteps := mapM_eq_ok_iff_forall₂.mp htraverse
  clear htraverse
  induction hsteps with
  | nil => exact absurd hmem List.not_mem_nil
  | @cons item first items results hfirst _ ih =>
      rcases List.mem_cons.mp hmem with rfl | hmem
      · exact ⟨item, List.mem_cons_self, hfirst⟩
      · obtain ⟨other, hother, hstep⟩ := ih hmem
        exact ⟨other, List.mem_cons_of_mem _ hother, hstep⟩

/-- `Option::ok_or`. -/
def okOr (error : ε) : Option α → Except ε α
  | none => .error error
  | some value => .ok value

@[simp] theorem okOr_eq_ok_iff {error : ε} {option : Option α} {value : α} :
    okOr error option = .ok value ↔ option = some value := by
  cases option <;> simp [okOr]

/-- The early return `if bad { return Err(error) }`. -/
def rejectIf (error : ε) (bad : Prop) [Decidable bad] : Except ε Unit :=
  if bad then .error error else .ok ()

@[simp] theorem rejectIf_eq_ok_iff {error : ε} {bad : Prop} [Decidable bad] :
    rejectIf error bad = .ok () ↔ ¬ bad := by
  unfold rejectIf
  split
  · next hbad => simp [hbad]
  · next hgood => simp [hgood]

theorem rejectIf_eq_error_iff {error other : ε} {bad : Prop} [Decidable bad] :
    rejectIf error bad = .error other ↔ bad ∧ error = other := by
  unfold rejectIf
  split
  · next hbad => simp [hbad]
  · next hgood => simp [hgood]

/-! ## Errors that do not come up -/

theorem bind_ne_error {first : Except ε α} {next : α → Except ε β} {error : ε}
    (hfirst : first ≠ .error error)
    (hnext : ∀ value, first = .ok value → next value ≠ .error error) :
    (first >>= next) ≠ .error error := by
  rw [ne_eq, bind_eq_error_iff]
  rintro (herror | ⟨value, hvalue, herror⟩)
  · exact hfirst herror
  · exact hnext value hvalue herror

theorem map_ne_error {f : α → β} {first : Except ε α} {error : ε}
    (hfirst : first ≠ .error error) : f <$> first ≠ .error error := by
  cases first with
  | error other => exact fun herror => hfirst (congrArg Except.error (Except.error.inj herror))
  | ok value => exact nofun

theorem okOr_ne_error {error other : ε} (hother : other ≠ error) (option : Option α) :
    okOr other option ≠ .error error := by
  cases option with
  | none => exact fun herror => hother (Except.error.inj herror)
  | some value => exact nofun

theorem rejectIf_ne_error {error other : ε} (hother : other ≠ error) (bad : Prop)
    [Decidable bad] : rejectIf other bad ≠ .error error := by
  unfold rejectIf
  split
  · exact fun herror => hother (Except.error.inj herror)
  · exact nofun

/-- The computation ends without an error. -/
def Returns (result : Except ε α) : Prop :=
  ∃ value, result = .ok value

@[simp] theorem returns_ok (value : α) : Returns (.ok value : Except ε α) :=
  ⟨value, rfl⟩

@[simp] theorem returns_pure (value : α) : Returns (pure value : Except ε α) :=
  ⟨value, rfl⟩

@[simp] theorem not_returns_error (error : ε) : ¬ Returns (.error error : Except ε α) :=
  fun ⟨_, hok⟩ => nomatch hok

theorem returns_bind_iff {first : Except ε α} {next : α → Except ε β} :
    Returns (first >>= next) ↔ ∃ value, first = .ok value ∧ Returns (next value) := by
  cases first with
  | error error => simp [bind, Except.bind]
  | ok value => simp [bind, Except.bind]

theorem exists_ok_iff {result : Except ε α} : (∃ value, result = .ok value) ↔ Returns result :=
  Iff.rfl

@[simp] theorem returns_okOr_bind {error : ε} {option : Option α} {next : α → Except ε β} :
    Returns (okOr error option >>= next) ↔ ∃ value, option = some value ∧ Returns (next value) := by
  simp only [returns_bind_iff, okOr_eq_ok_iff]

@[simp] theorem returns_map_iff {f : α → β} {first : Except ε α} :
    Returns (f <$> first) ↔ Returns first := by
  cases first with
  | error error => simp [Functor.map, Except.map]
  | ok value => simp [Functor.map, Except.map]

@[simp] theorem returns_okOr_iff {error : ε} {option : Option α} :
    Returns (okOr error option) ↔ ∃ value, option = some value := by
  simp only [Returns, okOr_eq_ok_iff]

@[simp] theorem returns_rejectIf_iff {error : ε} {bad : Prop} [Decidable bad] :
    Returns (rejectIf error bad) ↔ ¬ bad := by
  unfold rejectIf
  split
  · next hbad => simp [hbad]
  · next hgood => simp [hgood]

/-- A traversal returns when each of its steps does. -/
theorem returns_mapM_iff {step : α → Except ε β} {items : List α} :
    Returns (items.mapM step) ↔ ∀ item ∈ items, Returns (step item) := by
  induction items with
  | nil => simp
  | cons item rest ih =>
      rw [List.mapM_cons, returns_bind_iff, List.forall_mem_cons, ← ih]
      constructor
      · rintro ⟨first, hfirst, hrest⟩
        obtain ⟨others, hothers, -⟩ := returns_bind_iff.mp hrest
        exact ⟨⟨first, hfirst⟩, ⟨others, hothers⟩⟩
      · rintro ⟨⟨first, hfirst⟩, ⟨others, hothers⟩⟩
        exact ⟨first, hfirst, returns_bind_iff.mpr ⟨others, hothers, returns_pure _⟩⟩

end Except

/-- The number of values of an unsigned 64-bit word. -/
def u64Bound : Nat := 2 ^ 64

/-- The number of values of an unsigned 32-bit word. -/
def u32Bound : Nat := 2 ^ 32

/-- The number of values of a signed 64-bit word that are not negative. -/
def i64Bound : Nat := 2 ^ 63

/-- `u32::try_from` on a signed 64-bit word. -/
def tryU32 (value : Int) : Option UInt32 :=
  if 0 ≤ value ∧ value < u32Bound then some (UInt32.ofNat value.toNat) else none

/-- `i64::try_from` on a `u64`. -/
def tryI64 {ε : Type*} (refusal : ε) (value : Nat) : Except ε Nat :=
  if value < i64Bound then .ok value else .error refusal

theorem tryI64_eq_ok_iff {ε : Type*} {refusal : ε} {value result : Nat} :
    tryI64 refusal value = .ok result ↔ value < i64Bound ∧ result = value := by
  unfold tryI64
  split
  · next hfits => simp [hfits, eq_comm]
  · next hfits => simp [hfits]

theorem tryU32_natCast (value : UInt32) : tryU32 (value.toNat : Int) = some value := by
  have hsmall := value.toNat_lt
  have hfits : (0 : Int) ≤ (value.toNat : Int) ∧ (value.toNat : Int) < u32Bound := by
    unfold u32Bound
    omega
  simp [tryU32, hfits]

theorem tryU32_eq_none_iff {value : Nat} : tryU32 value = none ↔ 2 ^ 32 ≤ value := by
  unfold tryU32 u32Bound
  split
  · next hfits => simp only [reduceCtorEq, false_iff]; omega
  · next hwide => simp only [true_iff]; omega

theorem tryU32_eq_some_iff {value : Nat} {word : UInt32} :
    tryU32 value = some word ↔ word.toNat = value := by
  constructor
  · intro hword
    unfold tryU32 u32Bound at hword
    split at hword
    · next hfits =>
        cases hword
        simp only [Int.toNat_natCast, UInt32.toNat_ofNat']
        omega
    · cases hword
  · rintro rfl
    exact tryU32_natCast word

/-- `u8::try_from` on a length. -/
def tryU8 (value : Nat) : Option UInt8 :=
  if value < 256 then some (UInt8.ofNat value) else none

theorem tryU8_of_lt {value : Nat} (hfits : value < 256) :
    tryU8 value = some (UInt8.ofNat value) :=
  if_pos hfits

/-- `u16::try_from` on a length. -/
def tryU16 (value : Nat) : Option UInt16 :=
  if value < 65536 then some (UInt16.ofNat value) else none

theorem tryU16_of_lt {value : Nat} (hfits : value < 65536) :
    tryU16 value = some (UInt16.ofNat value) :=
  if_pos hfits

theorem tryU16_eq_some_iff {value : Nat} {word : UInt16} :
    tryU16 value = some word ↔ value < 65536 ∧ word = UInt16.ofNat value := by
  unfold tryU16
  split
  · next hfits => simp [hfits, eq_comm]
  · next hlarge => simp [hlarge]

/-- `u64::checked_add`. -/
def checkedAddU64 (left right : Nat) : Option Nat :=
  if left + right < u64Bound then some (left + right) else none

theorem checkedAddU64_eq_some_iff {left right sum : Nat} :
    checkedAddU64 left right = some sum ↔
      left + right < u64Bound ∧ sum = left + right := by
  unfold checkedAddU64
  split
  · next hfits => simp [hfits, eq_comm]
  · next hfits => simp [hfits]

/-- `u64::checked_sub`. -/
def checkedSubU64 (left right : Nat) : Option Nat :=
  if right ≤ left then some (left - right) else none

/-- `u64::checked_mul`. -/
def checkedMulU64 (left right : Nat) : Option Nat :=
  if left * right < u64Bound then some (left * right) else none

theorem checkedMulU64_eq_some_iff {left right product : Nat} :
    checkedMulU64 left right = some product ↔
      left * right < u64Bound ∧ product = left * right := by
  unfold checkedMulU64
  split
  · next hfits => simp [hfits, eq_comm]
  · next hfits => simp [hfits]

end Lib
end Lirvena
