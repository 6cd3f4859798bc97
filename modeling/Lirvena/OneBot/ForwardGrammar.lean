import Lirvena.OneBot.Forward

/-!
# What is accepted as a forward

Two grammars of forward nodes: in the strict one every identity alias that is present
is well formed, in the loose one an alias that is malformed counts as absent.  The
parser accepts the loose grammar, within the bound on its text.
-/

namespace Lirvena
namespace OneBot

open Lib

/-! ## One field under two names -/

/-- A value under one of the two names of a field. -/
def Under (primary compatibility : Option Json) (json : Json) : Prop :=
  primary = some json ∨ compatibility = some json

section Alias

variable {α : Type}

/-- Some alias is well formed, and the well-formed ones agree. -/
def Named (primary compatibility : Option Json) (parse : Json → Option α) : Prop :=
  ∃ value, (∃ json, Under primary compatibility json ∧ parse json = some value) ∧
    ∀ json, Under primary compatibility json → ∀ other, parse json = some other → other = value

/-- Every alias that is present is well formed. -/
def Unmarred (primary compatibility : Option Json) (parse : Json → Option α) : Prop :=
  ∀ json, Under primary compatibility json → (parse json).isSome = true

theorem under_parse_iff {primary compatibility : Option Json} {parse : Json → Option α}
    {value : α} :
    (∃ json, Under primary compatibility json ∧ parse json = some value) ↔
      primary.bind parse = some value ∨ compatibility.bind parse = some value := by
  unfold Under
  cases primary <;> cases compatibility <;> simp

/-- An alias is taken exactly when the field is named in the loose grammar. -/
theorem alias_isOk_iff [DecidableEq α] {primary compatibility : Option Json}
    {parse : Json → Option α} :
    (∃ value, «alias» primary compatibility parse = .ok value) ↔
      Named primary compatibility parse := by
  have hagree (value : α) :
      (∀ json, Under primary compatibility json → ∀ other, parse json = some other →
        other = value) ↔
      ∀ other, primary.bind parse = some other ∨ compatibility.bind parse = some other →
        other = value := by
    constructor
    · intro hall other hother
      obtain ⟨json, hunder, hjson⟩ := under_parse_iff.mpr hother
      exact hall json hunder other hjson
    · intro hall json hunder other hjson
      exact hall other (under_parse_iff.mp ⟨json, hunder, hjson⟩)
  simp only [Named, under_parse_iff, hagree]
  unfold «alias»
  cases primary.bind parse with
  | none => cases compatibility.bind parse <;> simp
  | some first =>
      cases compatibility.bind parse with
      | none => simp
      | some second =>
          by_cases hsame : first = second
          · simp [hsame]
          · simp [hsame, Ne.symm hsame]

end Alias

/-! ## Nodes -/

/-- The data of a node object. -/
def nodeData (value : Json) : Option (List (String × Json)) :=
  match value.asObject with
  | some outer =>
      if (outer.lookup "type").bind Json.asStr = some "node" then
        (outer.lookup "data").bind Json.asObject
      else none
  | none => none

/-- The content of a node is a valid message. -/
def ValidContent (data : List (String × Json)) : Prop :=
  ∃ content, data.lookup "content" = some content ∧
    ∃ segments, parseMessage (normalizedContent content) false = .ok segments

/-- A node object of the loose grammar. -/
def LooseNode (value : Json) : Prop :=
  ∃ data, nodeData value = some data ∧
    Named (data.lookup "user_id") (data.lookup "uin") parseU32 ∧
    Named (data.lookup "nickname") (data.lookup "name") parseName ∧ ValidContent data

/-- No identity alias of the node is malformed. -/
def UnmarredNode (value : Json) : Prop :=
  ∀ data, nodeData value = some data →
    Unmarred (data.lookup "user_id") (data.lookup "uin") parseU32 ∧
      Unmarred (data.lookup "nickname") (data.lookup "name") parseName

/-- A node object of the strict grammar. -/
def StrictNode (value : Json) : Prop :=
  LooseNode value ∧ UnmarredNode value

theorem parseNode_isOk_iff {value : Json} :
    (∃ node, parseNode value = .ok node) ↔ LooseNode value := by
  constructor
  · rintro ⟨node, hparse⟩
    obtain ⟨outer, houter, hparse⟩ := bind_eq_ok_iff.mp hparse
    obtain ⟨⟨⟩, htype, hparse⟩ := bind_eq_ok_iff.mp hparse
    obtain ⟨data, hdata, hparse⟩ := bind_eq_ok_iff.mp hparse
    obtain ⟨userId, huserId, hparse⟩ := bind_eq_ok_iff.mp hparse
    obtain ⟨nickname, hnickname, hparse⟩ := bind_eq_ok_iff.mp hparse
    obtain ⟨content, hcontent, hparse⟩ := bind_eq_ok_iff.mp hparse
    obtain ⟨segments, hsegments, -⟩ := bind_eq_ok_iff.mp hparse
    have htype := not_not.mp (rejectIf_eq_ok_iff.mp htype)
    have hnode : nodeData value = some data := by
      rw [nodeData, okOr_eq_ok_iff.mp houter]
      exact (if_pos htype).trans (okOr_eq_ok_iff.mp hdata)
    exact ⟨data, hnode, alias_isOk_iff.mp ⟨userId, huserId⟩,
      alias_isOk_iff.mp ⟨nickname, hnickname⟩, content, okOr_eq_ok_iff.mp hcontent, segments,
      hsegments⟩
  · rintro ⟨data, hnode, huser, hname, content, hcontent, segments, hsegments⟩
    obtain ⟨userId, huserId⟩ := alias_isOk_iff.mpr huser
    obtain ⟨nickname, hnickname⟩ := alias_isOk_iff.mpr hname
    unfold nodeData at hnode
    split at hnode
    · next outer houter =>
        split at hnode
        · next htype =>
            refine ⟨⟨userId, nickname, segments⟩, ?_⟩
            refine bind_eq_ok_iff.mpr ⟨outer, okOr_eq_ok_iff.mpr houter, ?_⟩
            refine bind_eq_ok_iff.mpr ⟨(), rejectIf_eq_ok_iff.mpr (not_not.mpr htype), ?_⟩
            refine bind_eq_ok_iff.mpr ⟨data, okOr_eq_ok_iff.mpr hnode, ?_⟩
            refine bind_eq_ok_iff.mpr ⟨userId, huserId, ?_⟩
            refine bind_eq_ok_iff.mpr ⟨nickname, hnickname, ?_⟩
            refine bind_eq_ok_iff.mpr ⟨content, okOr_eq_ok_iff.mpr hcontent, ?_⟩
            exact bind_eq_ok_iff.mpr ⟨segments, hsegments, rfl⟩
        · cases hnode
    · cases hnode

/-! ## Forwards -/

/-- A non-empty array of nodes within the bound on their number. -/
def ArrayOf (good : Json → Prop) (value : Json) : Prop :=
  ∃ nodes, asArray value = some nodes ∧ nodes ≠ [] ∧ nodes.length ≤ maxNodes ∧
    ∀ node ∈ nodes, good node

theorem ArrayOf.mono {first second : Json → Prop} {value : Json} (harray : ArrayOf first value)
    (himplies : ∀ node, first node → second node) : ArrayOf second value := by
  obtain ⟨nodes, hnodes, hne, hlength, hall⟩ := harray
  exact ⟨nodes, hnodes, hne, hlength, fun node hnode => himplies node (hall node hnode)⟩

theorem parseForwardNodes_eq_ok_iff {value : Json} {parsed : List ForwardNode} :
    parseForwardNodes value = .ok parsed ↔
      value.renderedLen ≤ maxForwardBytes ∧ ∃ nodes, asArray value = some nodes ∧
        nodes ≠ [] ∧ nodes.length ≤ maxNodes ∧
          List.Forall₂ (fun node result => parseNode node = .ok result) nodes parsed := by
  unfold parseForwardNodes
  constructor
  · intro hparse
    obtain ⟨⟨⟩, hsize, hparse⟩ := bind_eq_ok_iff.mp hparse
    obtain ⟨nodes, hnodes, hparse⟩ := bind_eq_ok_iff.mp hparse
    obtain ⟨⟨⟩, hcount, hparse⟩ := bind_eq_ok_iff.mp hparse
    obtain ⟨hne, hlength⟩ := not_or.mp (rejectIf_eq_ok_iff.mp hcount)
    exact ⟨Nat.le_of_not_lt (rejectIf_eq_ok_iff.mp hsize), nodes, okOr_eq_ok_iff.mp hnodes, hne,
      Nat.le_of_not_lt hlength, mapM_eq_ok_iff_forall₂.mp hparse⟩
  · rintro ⟨hsize, nodes, hnodes, hne, hlength, hall⟩
    refine bind_eq_ok_iff.mpr ⟨(), rejectIf_eq_ok_iff.mpr (Nat.not_lt.mpr hsize), ?_⟩
    refine bind_eq_ok_iff.mpr ⟨nodes, okOr_eq_ok_iff.mpr hnodes, ?_⟩
    refine bind_eq_ok_iff.mpr ⟨(), rejectIf_eq_ok_iff.mpr ?_, mapM_eq_ok_iff_forall₂.mpr hall⟩
    exact not_or.mpr ⟨hne, Nat.not_lt.mpr hlength⟩

theorem parseForwardNodes_isOk_iff {value : Json} :
    (∃ parsed, parseForwardNodes value = .ok parsed) ↔
      value.renderedLen ≤ maxForwardBytes ∧ ArrayOf LooseNode value := by
  simp only [parseForwardNodes_eq_ok_iff, ArrayOf, ← parseNode_isOk_iff, ← exists_forall₂_iff]
  constructor
  · rintro ⟨parsed, hsize, nodes, hnodes, hne, hlength, hall⟩
    exact ⟨hsize, nodes, hnodes, hne, hlength, parsed, hall⟩
  · rintro ⟨hsize, nodes, hnodes, hne, hlength, parsed, hall⟩
    exact ⟨parsed, hsize, nodes, hnodes, hne, hlength, hall⟩

/-- The parsed nodes are those of the array, in its order. -/
def InOrder (value : Json) (parsed : List ForwardNode) : Prop :=
  ∃ nodes, asArray value = some nodes ∧
    List.Forall₂ (fun node result => parseNode node = .ok result) nodes parsed

/-- Exactly the forwards of the strict grammar are accepted, and the nodes keep their
order. -/
def AcceptsStrictly (value : Json) : Prop :=
  ((∃ parsed, parseForwardNodes value = .ok parsed) ↔ ArrayOf StrictNode value) ∧
    ∀ parsed, parseForwardNodes value = .ok parsed → InOrder value parsed

/-- The value is a forward of the loose grammar with a malformed alias, within the bound
on its text. -/
def HasMalformedAlias (value : Json) : Prop :=
  value.renderedLen ≤ maxForwardBytes ∧ ArrayOf LooseNode value ∧ ¬ ArrayOf UnmarredNode value

/-- The value is a forward of the strict grammar beyond the bound on its text. -/
def IsTooLong (value : Json) : Prop :=
  maxForwardBytes < value.renderedLen ∧ ArrayOf StrictNode value

theorem arrayOf_strict_iff {value : Json} :
    ArrayOf StrictNode value ↔ ArrayOf LooseNode value ∧ ArrayOf UnmarredNode value := by
  constructor
  · intro hstrict
    exact ⟨hstrict.mono fun _ => And.left, hstrict.mono fun _ => And.right⟩
  · rintro ⟨⟨nodes, hnodes, hne, hlength, hloose⟩, others, hothers, -, -, hunmarred⟩
    have hsame : others = nodes := Option.some.inj (hothers.symm.trans hnodes)
    exact ⟨nodes, hnodes, hne, hlength, fun node hnode =>
      ⟨hloose node hnode, hunmarred node (hsame ▸ hnode)⟩⟩

/-- A value is accepted as the strict grammar says unless a malformed alias stands in an
otherwise acceptable forward, or the forward is too long. -/
theorem accepts_strictly_iff (value : Json) :
    AcceptsStrictly value ↔ ¬ HasMalformedAlias value ∧ ¬ IsTooLong value := by
  have horder : ∀ parsed, parseForwardNodes value = .ok parsed → InOrder value parsed := by
    intro parsed hparse
    obtain ⟨-, nodes, hnodes, -, -, hall⟩ := parseForwardNodes_eq_ok_iff.mp hparse
    exact ⟨nodes, hnodes, hall⟩
  rw [AcceptsStrictly, and_iff_left horder, parseForwardNodes_isOk_iff, HasMalformedAlias,
    IsTooLong, arrayOf_strict_iff, ← not_le]
  tauto

/-- A string that is no number stands beside the number of the sender. -/
def malformedAlias : Json :=
  .array [.object [("data", .object [("content", .string "x"), ("nickname", .string "Alice"),
    ("uin", .string "x"), ("user_id", .integer 42)]), ("type", .string "node")]]

/-- A node with a malformed alias is accepted beside a well-formed one. -/
theorem malformed_alias_accepted :
    (∃ parsed, parseForwardNodes malformedAlias = .ok parsed) ∧
      ¬ ArrayOf StrictNode malformedAlias := by
  refine ⟨⟨_, rfl⟩, ?_⟩
  rintro ⟨nodes, hnodes, -, -, hall⟩
  cases hnodes
  obtain ⟨-, hunmarred⟩ := hall _ List.mem_cons_self
  have huin := (hunmarred _ rfl).1 (.string "x") (.inr rfl)
  exact absurd huin (by decide)

end OneBot
end Lirvena
