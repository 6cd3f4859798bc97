import Mathlib.Data.List.Infix

/-!
# Length-prefixed framing

A frame begins with a header of fixed width that declares the length of the
whole frame.  The framing of a string of units is the list of complete frames at
its front, with the reason why the rest holds no further one: it is incomplete,
or its header declares a length outside the limits.

A frame is recognized from its front, so the framing of a concatenation begins
with the framing of its first part, and an invalid header ends it for good.
-/

namespace Lirvena
namespace Lib

structure FrameFormat (Unit : Type*) where
  headerLen : Nat
  maximum : Nat
  /-- The length of the whole frame that a header declares. -/
  declared : List Unit → Nat
  headerLen_pos : 0 < headerLen

/-- Why a framing ends. -/
inductive FramingEnd where
  | incomplete
  | invalid
  deriving DecidableEq

namespace FrameFormat

variable {Unit : Type*} (format : FrameFormat Unit)

/-- The length declared at the front of a string. -/
def declaredAt (units : List Unit) : Nat :=
  format.declared (units.take format.headerLen)

def WithinLimits (length : Nat) : Prop :=
  format.headerLen ≤ length ∧ length ≤ format.maximum

instance (length : Nat) : Decidable (format.WithinLimits length) :=
  inferInstanceAs (Decidable (_ ∧ _))

/-- A complete frame: as long as its own header declares. -/
structure IsFrame (frame : List Unit) : Prop where
  within : format.WithinLimits frame.length
  declared_eq : format.declaredAt frame = frame.length

/-- The front of a frame that has not arrived in full. -/
def Incomplete (units : List Unit) : Prop :=
  units.length < format.headerLen ∨
    format.WithinLimits (format.declaredAt units) ∧
      units.length < format.declaredAt units

/-- A complete header with a length outside the limits. -/
def Invalid (units : List Unit) : Prop :=
  format.headerLen ≤ units.length ∧ ¬ format.WithinLimits (format.declaredAt units)

/-- The complete frames at the front of a string, and why there is no more. -/
def framing (units : List Unit) : List (List Unit) × FramingEnd :=
  if units.length < format.headerLen then ([], .incomplete)
  else if _hlimits : format.WithinLimits (format.declaredAt units) then
    if units.length < format.declaredAt units then ([], .incomplete)
    else
      let rest := framing (units.drop (format.declaredAt units))
      (units.take (format.declaredAt units) :: rest.1, rest.2)
  else ([], .invalid)
termination_by units.length
decreasing_by
  have hpos := format.headerLen_pos
  obtain ⟨hheader, -⟩ := _hlimits
  rw [List.length_drop]
  omega

theorem framing_incomplete {units : List Unit} (hincomplete : format.Incomplete units) :
    format.framing units = ([], .incomplete) := by
  rw [framing]
  rcases hincomplete with hshort | ⟨hlimits, hshort⟩
  · rw [if_pos hshort]
  · rw [dif_pos hlimits, if_pos hshort, ite_self]

theorem framing_invalid {units : List Unit} (hinvalid : format.Invalid units) :
    format.framing units = ([], .invalid) := by
  obtain ⟨hheader, hlimits⟩ := hinvalid
  have hlong : ¬ units.length < format.headerLen := by omega
  rw [framing, if_neg hlong, dif_neg hlimits]

theorem declaredAt_append {units : List Unit} (hheader : format.headerLen ≤ units.length)
    (rest : List Unit) : format.declaredAt (units ++ rest) = format.declaredAt units := by
  rw [declaredAt, List.take_append_of_le_length hheader, declaredAt]

/-- A frame at the front of a string is the first one of its framing. -/
theorem framing_frame_append {frame : List Unit} (hframe : format.IsFrame frame)
    (rest : List Unit) :
    format.framing (frame ++ rest) =
      (frame :: (format.framing rest).1, (format.framing rest).2) := by
  obtain ⟨hwithin, hdeclared⟩ := hframe
  have hahead : format.declaredAt (frame ++ rest) = frame.length := by
    rw [format.declaredAt_append hwithin.1, hdeclared]
  have hheader : ¬ (frame ++ rest).length < format.headerLen := by
    have hle := hwithin.1
    rw [List.length_append]
    omega
  have hlimits : format.WithinLimits (format.declaredAt (frame ++ rest)) := by
    rw [hahead]
    exact hwithin
  have hlong : ¬ (frame ++ rest).length < format.declaredAt (frame ++ rest) := by
    rw [hahead, List.length_append]
    omega
  rw [framing, if_neg hheader, dif_pos hlimits, if_neg hlong]
  simp only [hahead, List.take_left, List.drop_left]

/-- Frames one after another, with what follows them. -/
theorem framing_frames_append {frames : List (List Unit)}
    (hframes : ∀ frame ∈ frames, format.IsFrame frame) (rest : List Unit) :
    format.framing (frames.flatten ++ rest) =
      (frames ++ (format.framing rest).1, (format.framing rest).2) := by
  induction frames with
  | nil => simp
  | cons frame tail ih =>
      have htail := ih (fun other hother => hframes other (List.mem_cons_of_mem _ hother))
      rw [List.flatten_cons, List.append_assoc,
        format.framing_frame_append (hframes frame List.mem_cons_self), htail]
      rfl

theorem incomplete_nil : format.Incomplete [] :=
  Or.inl format.headerLen_pos

theorem Invalid.not_incomplete {format : FrameFormat Unit} {units : List Unit}
    (hinvalid : format.Invalid units) : ¬ format.Incomplete units := by
  rintro (hshort | ⟨hwithin, -⟩)
  · exact absurd hinvalid.1 (Nat.not_le_of_gt hshort)
  · exact hinvalid.2 hwithin

theorem Invalid.append {format : FrameFormat Unit} {units : List Unit}
    (hinvalid : format.Invalid units)
    (rest : List Unit) : format.Invalid (units ++ rest) := by
  refine ⟨?_, ?_⟩
  · have hheader := hinvalid.1
    rw [List.length_append]
    omega
  · rw [format.declaredAt_append hinvalid.1]
    exact hinvalid.2

end FrameFormat
end Lib
end Lirvena
