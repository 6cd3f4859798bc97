import Mathlib.Data.List.Infix
import Mathlib.Logic.Function.Basic

/-!
# Delimited encodings

An encoding is *delimited* when a value and what follows it can be told from any
string that begins with the encoding of the value.  An encoding of fixed width is
delimited if it is injective, and delimited encodings stay so when they are put
one behind the other; a list of a known length is the repeated case.

The last part of an encoding need not be delimited, only injective.  Encodings
behind tags of which none begins with another are apart from each other.

An encoder and a decoder that may both fail are `Lossless` when one gives a result exactly
where the other takes it back.
-/

namespace Lirvena
namespace Lib

variable {α β Unit : Type*}

/-- A value and the rest of a string are told from the string. -/
def Delimited (encode : α → List Unit) : Prop :=
  ∀ ⦃left right : α⦄ ⦃rest tail : List Unit⦄,
    encode left ++ rest = encode right ++ tail → left = right ∧ rest = tail

theorem Delimited.injective {encode : α → List Unit} (hencode : Delimited encode) :
    Function.Injective encode := by
  intro left right heq
  have happend : encode left ++ [] = encode right ++ [] := by rw [heq]
  exact (hencode happend).1

theorem delimited_of_width {encode : α → List Unit} {width : Nat}
    (hwidth : ∀ value, (encode value).length = width) (hinjective : Function.Injective encode) :
    Delimited encode := by
  intro left right rest tail heq
  obtain ⟨hvalue, hrest⟩ := List.append_inj heq ((hwidth left).trans (hwidth right).symm)
  exact ⟨hinjective hvalue, hrest⟩

/-- Values one behind the other, when it is known how many. -/
theorem Delimited.flatMap {encode : α → List Unit} (hencode : Delimited encode)
    {left right : List α} {rest tail : List Unit} (hlength : left.length = right.length)
    (heq : left.flatMap encode ++ rest = right.flatMap encode ++ tail) :
    left = right ∧ rest = tail := by
  induction left generalizing right with
  | nil =>
      obtain rfl := List.length_eq_zero_iff.mp hlength.symm
      exact ⟨rfl, heq⟩
  | cons first others ih =>
      cases right with
      | nil => cases hlength
      | cons second more =>
          rw [List.flatMap_cons, List.flatMap_cons, List.append_assoc, List.append_assoc] at heq
          obtain ⟨hfirst, hbehind⟩ := hencode heq
          obtain ⟨hothers, hrest⟩ := ih (Nat.succ.inj hlength) hbehind
          rw [hfirst, hothers]
          exact ⟨rfl, hrest⟩

/-- Encodings behind tags of which none begins with another. -/
theorem tagged_injective {Kind : Type*} {Data : Kind → Type*} {tag : Kind → List Unit}
    {encode : (kind : Kind) → Data kind → List Unit}
    (htags : ∀ left right, tag left <+: tag right → left = right)
    (hencode : ∀ kind, Function.Injective (encode kind)) :
    Function.Injective fun value : (kind : Kind) × Data kind =>
      tag value.1 ++ encode value.1 value.2 := by
  rintro ⟨left, first⟩ ⟨right, second⟩ heq
  have heq : tag left ++ encode left first = tag right ++ encode right second := heq
  have hkind : left = right := by
    -- both tags begin the same string, so one of them begins the other
    have hleft : tag left <+: tag right ++ encode right second := ⟨_, heq⟩
    rcases List.prefix_or_prefix_of_prefix hleft (List.prefix_append _ _) with hfront | hfront
    · exact htags left right hfront
    · exact (htags right left hfront).symm
  subst hkind
  rw [hencode left (List.append_cancel_left heq)]

/-- Each of two fallible functions takes back what the other gives. -/
def Lossless {ε δ Value Encoded : Type*} (encode : Value → Except ε Encoded)
    (decode : Encoded → Except δ Value) : Prop :=
  ∀ value encoded, encode value = .ok encoded ↔ decode encoded = .ok value

section Lossless

variable {ε δ Value Encoded : Type*} {encode : Value → Except ε Encoded}
  {decode : Encoded → Except δ Value}

/-- What an encoding is of, it is of nothing else. -/
theorem Lossless.unique (hlossless : Lossless encode decode) {encoded : Encoded}
    {value other : Value} (hvalue : encode value = .ok encoded)
    (hother : encode other = .ok encoded) : value = other :=
  Except.ok.inj (((hlossless value encoded).mp hvalue).symm.trans
    ((hlossless other encoded).mp hother))

end Lossless

end Lib
end Lirvena
