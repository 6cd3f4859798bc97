import Lirvena.Lib.Substring
import Lirvena.OneBot.Projection

/-!
# CQ codes

A CQ string is text with codes in it.  A code stands between `[CQ:` and the next
`]`; its kind and its parameters are separated by commas, and text and parameter
values are unescaped after they have been cut out.

The parser takes the string apart into pieces, the text between the codes and the
codes themselves, and the segments are those of the pieces.
-/

namespace Lirvena
namespace OneBot

open Lib

/-- Opaque `OneBot` message syntax failure. -/
inductive MessageParseError where
  | rejected
  deriving DecidableEq

/-- One syntactically valid `OneBot` message segment without a business whitelist. -/
structure MessageSegment where
  kind : String
  data : List (String × Json)

def maxSegments : Nat := 256

def maxKindBytes : Nat := 128

def codeStart : List Char := ['[', 'C', 'Q', ':']

/-! ## Escapes -/

/-- The entity of a character that codes give a meaning. -/
def ampersandEntity : List Char := ['&', 'a', 'm', 'p', ';']

def openEntity : List Char := ['&', '#', '9', '1', ';']

def closeEntity : List Char := ['&', '#', '9', '3', ';']

def commaEntity : List Char := ['&', '#', '4', '4', ';']

/-- The replacements of `unescape`; a comma is escaped in parameters only. -/
def unescapeRules (parameter : Bool) : List (List Char × List Char) :=
  (if parameter then [(commaEntity, [','])] else []) ++
    [(openEntity, ['[']), (closeEntity, [']']), (ampersandEntity, ['&'])]

def unescape (value : List Char) (parameter : Bool) : List Char :=
  replaceAll (unescapeRules parameter) value

theorem unescapeRules_shorter (parameter : Bool) :
    ∀ rule ∈ unescapeRules parameter, rule.2.length < rule.1.length := by
  cases parameter <;> decide

theorem unescape_length_le (value : List Char) (parameter : Bool) :
    (unescape value parameter).length ≤ value.length :=
  replaceAll_length_le (unescapeRules_shorter parameter) value

theorem unescape_eq_self_iff {value : List Char} {parameter : Bool} :
    unescape value parameter = value ↔
      ∀ rule ∈ unescapeRules parameter, ¬ rule.1 <:+: value :=
  replaceAll_eq_self_iff (unescapeRules_shorter parameter)

/-- The characters that are still escaped after some of the replacements. -/
def escapedAs (replaced : List Char) (char : Char) : List Char :=
  if char ∈ replaced then [char] else escapeParameterChar char

/-- The characters that are escaped, with the names of their entities. -/
def entityNames : List (Char × List Char) :=
  [('&', ['a', 'm', 'p', ';']), ('[', ['#', '9', '1', ';']), (']', ['#', '9', '3', ';']),
    (',', ['#', '4', '4', ';'])]

/-- An escaped character is an entity, or a character that is no ampersand. -/
theorem escapeParameterChar_cases (char : Char) :
    (∃ name, escapeParameterChar char = '&' :: name ∧ (char, name) ∈ entityNames) ∨
      (escapeParameterChar char = [char] ∧ char ∉ entityNames.map Prod.fst) := by
  unfold escapeParameterChar
  split
  · next hchar => exact .inl ⟨['a', 'm', 'p', ';'], by decide, by rw [hchar]; decide⟩
  split
  · next hchar => exact .inl ⟨['#', '9', '1', ';'], by decide, by rw [hchar]; decide⟩
  split
  · next hchar => exact .inl ⟨['#', '9', '3', ';'], by decide, by rw [hchar]; decide⟩
  split
  · next hchar => exact .inl ⟨['#', '4', '4', ';'], by decide, by rw [hchar]; decide⟩
  · next hampersand hopen hclose hcomma =>
      exact .inr ⟨rfl, by simp [entityNames, hampersand, hopen, hclose, hcomma]⟩

/-- The names are of one length, have no ampersand, and tell the characters apart. -/
theorem entityNames_apart : ∀ first ∈ entityNames, first.2.length = 4 ∧ '&' ∉ first.2 ∧
    ∀ second ∈ entityNames, first.2 = second.2 → first.1 = second.1 := by
  decide

/-- One replacement of `unescape` takes the escape off one character. -/
theorem replace_entity {char : Char} {name replaced : List Char}
    (hentity : escapeParameterChar char = '&' :: name) (hname : (char, name) ∈ entityNames)
    (hfresh : char ∉ replaced) (hampersand : '&' ∉ replaced) (value : List Char) :
    replace ('&' :: name) [char] (value.flatMap (escapedAs replaced)) =
      value.flatMap (escapedAs (char :: replaced)) := by
  refine replace_flatMap (fun other rest => ?_) value
  obtain ⟨hlength, -, -⟩ := entityNames_apart _ hname
  by_cases hsame : other = char
  · subst hsame
    simp only [escapedAs, if_neg hfresh, hentity, List.mem_cons_self, if_true]
    exact replace_pattern (List.cons_ne_nil _ _) rest
  · by_cases hdone : other ∈ replaced
    · have hplain : '&' ∉ [other] := by
        intro hmem
        exact hampersand (List.mem_singleton.mp hmem ▸ hdone)
      simp only [escapedAs, if_pos hdone, if_pos (List.mem_cons_of_mem char hdone)]
      exact replace_append hplain rest
    · have hlater : other ∉ char :: replaced := by simp [hsame, hdone]
      simp only [escapedAs, if_neg hdone, if_neg hlater]
      rcases escapeParameterChar_cases other with ⟨front, hfront, hother⟩ | ⟨hplain, hnot⟩
      · -- Another entity: it is as long as this one and has another name.
        obtain ⟨hlengthOther, hfree, hapart⟩ := entityNames_apart _ hother
        rw [hfront]
        exact replace_other hfree (hlengthOther.trans hlength.symm)
          (fun heq => hsame (hapart _ hname heq)) rest
      · rw [hplain]
        refine replace_append ?_ rest
        intro hmem
        exact hnot (List.mem_singleton.mp hmem ▸ by decide)

/-- Nothing is escaped after all of the replacements. -/
theorem escapedAs_all : escapedAs ['&', ']', '[', ','] = fun char => [char] := by
  funext char
  rcases escapeParameterChar_cases char with ⟨name, -, hname⟩ | ⟨hplain, -⟩
  · have hlisted : char ∈ entityNames.map Prod.fst := List.mem_map_of_mem hname
    exact if_pos (by simpa [entityNames, or_comm, or_left_comm, or_assoc] using hlisted)
  · rw [escapedAs, hplain, ite_self]

theorem unescape_escape (value : List Char) :
    unescape (value.flatMap escapeParameterChar) true = value := by
  have hnone : escapeParameterChar = escapedAs [] := by
    funext char
    simp [escapedAs]
  simp only [unescape, unescapeRules, replaceAll, if_true, List.cons_append, List.nil_append,
    List.foldl_cons, List.foldl_nil, commaEntity, openEntity, closeEntity, ampersandEntity]
  rw [hnone, replace_entity (by decide) (by decide) (by decide) (by decide),
    replace_entity (by decide) (by decide) (by decide) (by decide),
    replace_entity (by decide) (by decide) (by decide) (by decide),
    replace_entity (by decide) (by decide) (by decide) (by decide), escapedAs_all]
  exact List.flatMap_singleton' value

/-! ## The parser -/

def validateKind (kind : String) : Except MessageParseError Unit :=
  rejectIf .rejected (kind = "" ∨ maxKindBytes < kind.utf8ByteSize ∨
    kind.toList.any (fun char => isControl char || [',', '[', ']'].contains char) = true)

def textSegment (text : String) : MessageSegment where
  kind := "text"
  data := [("text", .string text)]

/-- One field behind the kind; a key is given once. -/
def parseField (data : List (String × Json)) (field : List Char) :
    Except MessageParseError (List (String × Json)) := do
  let (keyChars, value) ← okOr .rejected (splitOnce ['='] field)
  let key := String.ofList keyChars
  rejectIf .rejected (key = "" ∨ maxKindBytes < key.utf8ByteSize ∨
    keyChars.any (fun char => isControl char || char = ',') = true ∨
      (data.lookup key).isSome = true)
  return Json.insertField key (.string (String.ofList (unescape value true))) data

def parseFields (data : List (String × Json)) :
    List (List Char) → Except MessageParseError (List (String × Json))
  | [] => .ok data
  | field :: rest => do
      let data ← parseField data field
      parseFields data rest

def parseCqCode (input : List Char) : Except MessageParseError MessageSegment :=
  match input.splitOn ',' with
  | [] => .error .rejected
  | kindChars :: fields => do
      let kind := String.ofList kindChars
      validateKind kind
      let data ← parseFields [] fields
      return ⟨kind, data⟩

/-- A part of a CQ string. -/
inductive CqPiece where
  | text (text : String)
  | code (segment : MessageSegment)

def CqPiece.segment : CqPiece → MessageSegment
  | .text content => textSegment content
  | .code segment => segment

/-- The text between two codes, unless there is none. -/
def textPieces (chars : List Char) : List CqPiece :=
  if chars = [] then [] else [.text (String.ofList (unescape chars false))]

/-- The loop of `parse_cq`, with the number of segments it has pushed.  A round
takes a code off at least, so that a round for each character is enough. -/
def parsePieces : Nat → Nat → List Char → Except MessageParseError (List CqPiece)
  | 0, _, _ => .error .rejected
  | rounds + 1, count, remaining =>
      match splitOnce codeStart remaining with
      | none => .ok (textPieces remaining)
      | some (before, code) => do
          let (inner, rest) ← okOr .rejected (splitOnce [']'] code)
          let segment ← parseCqCode inner
          let pieces := textPieces before ++ [.code segment]
          rejectIf .rejected (maxSegments < count + pieces.length)
          let others ← parsePieces rounds (count + pieces.length) rest
          return pieces ++ others

/-- The pieces of a CQ string. -/
def cqPieces (input : String) : Except MessageParseError (List CqPiece) :=
  parsePieces (input.toList.length + 1) 0 input.toList

/-- `retain`: a text segment is kept unless its text is empty. -/
def isKept (segment : MessageSegment) : Bool :=
  segment.kind ≠ "text" || (segment.data.lookup "text").bind Json.asStr ≠ some ""

def parseCq (input : String) : Except MessageParseError (List MessageSegment) := do
  let pieces ← cqPieces input
  return (pieces.map CqPiece.segment).filter isKept

end OneBot
end Lirvena
