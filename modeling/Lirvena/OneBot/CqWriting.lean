import Lirvena.OneBot.Fragment
import Mathlib.Data.List.Chain

/-!
# Segments written as a CQ string

A list of segments is written as text with codes: a text segment as its text with the
ampersand and the brackets escaped, every other segment as a code whose parameter
values are escaped.  The parser reads the list back when no two texts stand side by
side and no text is empty, as long as every code comes before its bound on segments.
-/

namespace Lirvena
namespace OneBot

open Lib

/-- A segment with a valid kind, valid keys and string values; its data is a map. -/
structure CqSegment where
  kind : String
  values : List (String × String)
  writable : WritableCode kind (values.map Prod.fst)
  sorted : (values.map Prod.fst).Pairwise (· < ·)

namespace CqSegment

def toSegment (segment : CqSegment) : MessageSegment where
  kind := segment.kind
  data := segment.values.map fun field => (field.1, .string field.2)

/-- The text of a text segment. -/
def content? (segment : CqSegment) : Option String :=
  if segment.kind = "text" ∧ segment.values.map Prod.fst = ["text"] then
    segment.values.lookup "text"
  else
    none

/-- The character as text is written. -/
def escapeTextChar (char : Char) : List Char :=
  if char = '&' then "&amp;".toList
  else if char = '[' then "&#91;".toList
  else if char = ']' then "&#93;".toList
  else [char]

def parameters (segment : CqSegment) : List CqParameter :=
  segment.values.map fun field => escaped field.1 field.2

def textChars (content : String) : List Char :=
  content.toList.flatMap escapeTextChar

/-- The segment in a CQ string. -/
def chars (segment : CqSegment) : List Char :=
  match segment.content? with
  | some content => textChars content
  | none => codeStart ++ codeChars segment.kind segment.parameters

/-- The part of a CQ string that the segment is. -/
def piece (segment : CqSegment) : CqPiece :=
  match segment.content? with
  | some content => .text content
  | none => .code segment.toSegment

/-- The text that the segment gives is not empty. -/
def Filled (segment : CqSegment) : Prop :=
  segment.kind = "text" → segment.values.lookup "text" ≠ some ""

def IsText (segment : CqSegment) : Prop :=
  segment.content?.isSome = true

instance (segment : CqSegment) : Decidable segment.Filled :=
  inferInstanceAs (Decidable (_ → _))

instance (segment : CqSegment) : Decidable segment.IsText :=
  inferInstanceAs (Decidable (_ = true))

theorem eq_textSegment {segment : CqSegment} {content : String}
    (hcontent : segment.content? = some content) :
    segment.kind = "text" ∧ segment.values = [("text", content)] := by
  unfold content? at hcontent
  split at hcontent
  · next htext =>
      obtain ⟨hkind, hkeys⟩ := htext
      refine ⟨hkind, ?_⟩
      obtain ⟨⟨key, value⟩, hvalues, hkey⟩ := List.map_eq_singleton_iff.mp hkeys
      rw [hvalues] at hcontent ⊢
      obtain rfl : key = "text" := hkey
      obtain rfl : value = content := by simpa using hcontent
      rfl
  · cases hcontent

/-- The segment of its piece is the segment. -/
theorem piece_segment (segment : CqSegment) : segment.piece.segment = segment.toSegment := by
  unfold piece
  split
  · next content hcontent =>
      obtain ⟨hkind, hvalues⟩ := eq_textSegment hcontent
      rw [toSegment, hkind, hvalues]
      rfl
  · rfl

theorem isKept_of_filled {segment : CqSegment} (hfilled : segment.Filled) :
    isKept segment.toSegment = true := by
  have hlookup (values : List (String × String)) :
      ((values.map fun field => (field.1, Json.string field.2)).lookup "text").bind Json.asStr =
        values.lookup "text" := by
    induction values with
    | nil => rfl
    | cons field rest ih =>
        rw [List.map_cons, List.lookup_cons, List.lookup_cons]
        cases "text" == field.1 with
        | true => rfl
        | false => exact ih
  unfold isKept
  by_cases hkind : segment.kind = "text"
  · have hne := hfilled hkind
    rw [← hlookup] at hne
    simp [toSegment, hne]
  · simp [toSegment, hkind]

end CqSegment

/-! ## Escaped text -/

theorem escapeTextChar_eq : CqSegment.escapeTextChar = escapedAs [','] := by
  funext char
  unfold CqSegment.escapeTextChar escapedAs escapeParameterChar
  by_cases hcomma : char = ','
  · subst hcomma
    rfl
  · simp [hcomma]

theorem unescape_escapeText (content : List Char) :
    unescape (content.flatMap CqSegment.escapeTextChar) false = content := by
  simp only [unescape, unescapeRules, replaceAll, Bool.false_eq_true, if_false, List.nil_append,
    List.foldl_cons, List.foldl_nil, openEntity, closeEntity, ampersandEntity]
  rw [escapeTextChar_eq, replace_entity (by decide) (by decide) (by decide) (by decide),
    replace_entity (by decide) (by decide) (by decide) (by decide),
    replace_entity (by decide) (by decide) (by decide) (by decide),
    escapedAs_all]
  exact List.flatMap_singleton' content

theorem codeStart_not_infix_escapeText (content : List Char) :
    ¬ codeStart <:+: content.flatMap CqSegment.escapeTextChar := by
  intro hoccurs
  have hopen : '[' ∈ content.flatMap CqSegment.escapeTextChar := hoccurs.subset (by decide)
  obtain ⟨char, -, hchar⟩ := List.mem_flatMap.mp hopen
  unfold CqSegment.escapeTextChar at hchar
  split at hchar
  · exact absurd hchar (by decide)
  split at hchar
  · exact absurd hchar (by decide)
  split at hchar
  · exact absurd hchar (by decide)
  · next hbracket _ => exact hbracket (List.mem_singleton.mp hchar).symm

/-- Written text is taken as one piece, or none where it is empty. -/
theorem textPieces_escapeText (content : String) :
    textPieces (CqSegment.textChars content) =
      if content = "" then [] else [.text content] := by
  have hwritten : unescape (CqSegment.textChars content) false = content.toList :=
    unescape_escapeText content.toList
  have hempty : CqSegment.textChars content = [] ↔ content = "" := by
    constructor
    · intro hnone
      rw [hnone] at hwritten
      exact String.toList_eq_nil_iff.mp hwritten.symm
    · rintro rfl
      rfl
  unfold textPieces
  simp only [hempty, hwritten, String.ofList_toList]

/-! ## One code -/

/-- Fields that come in the order of their keys are inserted at the end. -/
theorem foldl_insertParameter_sorted {values : List (String × String)}
    (hsorted : (values.map Prod.fst).Pairwise (· < ·)) :
    (values.map fun field => escaped field.1 field.2).foldl insertParameter [] =
      values.map fun field => (field.1, Json.string field.2) := by
  have hgeneral : ∀ (values : List (String × String)) (data : List (String × Json)),
      ((data.map Prod.fst) ++ values.map Prod.fst).Pairwise (· < ·) →
        (values.map fun field => escaped field.1 field.2).foldl insertParameter data =
          data ++ values.map fun field => (field.1, Json.string field.2) := by
    intro values
    induction values with
    | nil => simp
    | cons field rest ih =>
        intro data hordered
        have hlast : ∀ key ∈ data.map Prod.fst, key < field.1 := fun key hkey =>
          (List.pairwise_append.mp hordered).2.2 key hkey field.1 List.mem_cons_self
        have hinsert : insertParameter data (escaped field.1 field.2) =
            data ++ [(field.1, Json.string field.2)] :=
          Json.insertField_last hlast
        have hnext : ((data ++ [(field.1, Json.string field.2)]).map Prod.fst ++
            rest.map Prod.fst).Pairwise (· < ·) := by
          simpa using hordered
        rw [List.map_cons, List.foldl_cons, hinsert, ih _ hnext, List.append_assoc]
        rfl
  exact hgeneral values [] hsorted

theorem meantSegment_eq (segment : CqSegment) :
    meantSegment segment.kind segment.parameters = segment.toSegment := by
  rw [meantSegment, CqSegment.parameters, foldl_insertParameter_sorted segment.sorted]
  rfl

/-- One round of the parser, on a code behind written text. -/
theorem parsePieces_code (segment : CqSegment) {run : List Char} (hstart : ¬ codeStart <:+: run)
    (rounds count : Nat) (after : List Char) :
    parsePieces (rounds + 1) count
        (run ++ (codeStart ++ (codeChars segment.kind segment.parameters ++ after))) =
      if count + (textPieces run).length < maxSegments then
        (fun others => textPieces run ++ .code segment.toSegment :: others) <$>
          parsePieces rounds (count + (textPieces run).length + 1) after
      else .error .rejected := by
  have hkeys : segment.parameters.map CqParameter.key = segment.values.map Prod.fst := by
    simp [CqSegment.parameters, escaped]
  have hwritable : WritableCode segment.kind (segment.parameters.map CqParameter.key) :=
    hkeys ▸ segment.writable
  have hsafe : ∀ parameter ∈ segment.parameters, parameter.Safe := by
    intro parameter hparameter
    obtain ⟨field, -, rfl⟩ := List.mem_map.mp hparameter
    exact .inl rfl
  have hhead : '[' ∉ ['C', 'Q', ':'] := by decide
  have hsplit : splitOnce codeStart
      (run ++ (codeStart ++ (codeChars segment.kind segment.parameters ++ after))) =
        some (run, codeChars segment.kind segment.parameters ++ after) :=
    splitOnce_append hhead hstart _
  have hcode := (parseCqCode_iff hwritable after).mpr hsafe
  rw [meantSegment_eq] at hcode
  have hlength : (textPieces run ++ [CqPiece.code segment.toSegment]).length =
      (textPieces run).length + 1 := List.length_append
  rw [parsePieces, hsplit]
  simp only [splitOnce_code hwritable hsafe after, okOr, bind, Except.bind]
  rw [hcode]
  by_cases hbound : count + (textPieces run).length < maxSegments
  · have hfits : ¬ maxSegments < count + ((textPieces run).length + 1) := by omega
    rw [if_pos hbound]
    simp only [hlength, rejectIf, if_neg hfits, Nat.add_assoc]
    cases parsePieces rounds (count + ((textPieces run).length + 1)) after with
    | error failure => rfl
    | ok others =>
        refine congrArg Except.ok ?_
        rw [List.append_assoc]
        rfl
  · have hmany : maxSegments < count + ((textPieces run).length + 1) := by omega
    rw [if_neg hbound]
    simp only [hlength, rejectIf, if_pos hmany]

/-! ## The whole string -/

def cqChars (segments : List CqSegment) : List Char :=
  segments.flatMap CqSegment.chars

def cqText (segments : List CqSegment) : String :=
  String.ofList (cqChars segments)

/-- No two texts stand side by side. -/
def TextsApart (segments : List CqSegment) : Prop :=
  segments.IsChain fun first second => ¬ (first.IsText ∧ second.IsText)

instance (segments : List CqSegment) : Decidable (TextsApart segments) :=
  inferInstanceAs (Decidable (segments.IsChain _))

theorem TextsApart.of_cons {segment : CqSegment} {rest : List CqSegment}
    (hapart : TextsApart (segment :: rest)) :
    (∀ other ∈ rest.head?, ¬ (segment.IsText ∧ other.IsText)) ∧ TextsApart rest := by
  cases rest with
  | nil =>
      refine ⟨fun next hnext => ?_, List.IsChain.nil⟩
      cases hnext
  | cons other others =>
      obtain ⟨hpair, hrest⟩ := List.isChain_cons_cons.mp hapart
      refine ⟨fun next hnext => ?_, hrest⟩
      cases hnext
      exact hpair

/-- Behind so many segments, what comes after the bound is text. -/
def CodesWithin (count : Nat) (segments : List CqSegment) : Prop :=
  ∀ segment ∈ segments.drop (maxSegments - count), CqSegment.IsText segment

instance (count : Nat) (segments : List CqSegment) : Decidable (CodesWithin count segments) :=
  inferInstanceAs (Decidable (∀ segment ∈ _, CqSegment.IsText segment))

theorem codesWithin_cons (count : Nat) (segment : CqSegment) (rest : List CqSegment) :
    CodesWithin count (segment :: rest) ↔
      (count < maxSegments ∨ segment.IsText) ∧ CodesWithin (count + 1) rest := by
  unfold CodesWithin
  by_cases hbound : count < maxSegments
  · obtain ⟨left, hleft⟩ : ∃ left, maxSegments - count = left + 1 :=
      ⟨maxSegments - count - 1, by omega⟩
    have hnext : maxSegments - (count + 1) = left := by omega
    rw [hleft, hnext, List.drop_succ_cons]
    exact (and_iff_right (.inl hbound)).symm
  · have hleft : maxSegments - count = 0 := by omega
    have hnext : maxSegments - (count + 1) = 0 := by omega
    rw [hleft, hnext, List.drop_zero, List.drop_zero, List.forall_mem_cons,
      or_iff_right hbound]

/-- Behind written text, the parser finds the segments as they were written, or stops at
the bound. -/
theorem parsePieces_written {segments : List CqSegment} (hapart : TextsApart segments)
    (hfilled : ∀ segment ∈ segments, segment.Filled) {content : String}
    (hfirst : content = "" ∨ ∀ segment ∈ segments.head?, ¬ segment.IsText) {rounds : Nat}
    (hrounds : (CqSegment.textChars content ++ cqChars segments).length < rounds)
    (count : Nat) :
    parsePieces rounds count (CqSegment.textChars content ++ cqChars segments) =
      if CodesWithin (count + (textPieces (CqSegment.textChars content)).length) segments then
        .ok (textPieces (CqSegment.textChars content) ++ segments.map CqSegment.piece)
      else .error .rejected := by
  induction segments generalizing content rounds count with
  | nil =>
      cases rounds with
      | zero => exact absurd hrounds (Nat.not_lt_zero _)
      | succ rounds =>
          have hnone : splitOnce codeStart (CqSegment.textChars content ++ cqChars []) = none := by
            rw [cqChars, List.flatMap_nil, List.append_nil]
            exact splitOnce_eq_none (codeStart_not_infix_escapeText content.toList)
          have hwithin : CodesWithin (count + (textPieces (CqSegment.textChars content)).length)
              [] := by
            simp [CodesWithin]
          rw [parsePieces, hnone, if_pos hwithin]
          simp [cqChars]
  | cons segment rest ih =>
      obtain ⟨hnext, hrest⟩ := hapart.of_cons
      obtain ⟨hsegment, hothers⟩ := List.forall_mem_cons.mp hfilled
      cases hcontent : segment.content? with
      | some text =>
          -- A text comes behind no other text, and is pending for the rest.
          have htext : segment.IsText := by rw [CqSegment.IsText, hcontent]; rfl
          have hempty : content = "" :=
            hfirst.resolve_right fun hnone => hnone segment rfl htext
          obtain ⟨hkind, hvalues⟩ := CqSegment.eq_textSegment hcontent
          have hne : text ≠ "" := by
            have hlookup := hsegment hkind
            rw [hvalues] at hlookup
            simpa using hlookup
          have hchars : CqSegment.textChars content ++ cqChars (segment :: rest) =
              CqSegment.textChars text ++ cqChars rest := by
            rw [hempty, cqChars, List.flatMap_cons, CqSegment.chars, hcontent]
            rfl
          have hlater : ∀ other ∈ rest.head?, ¬ other.IsText := fun other hother hboth =>
            hnext other hother ⟨htext, hboth⟩
          rw [hchars] at hrounds ⊢
          have hwithin : CodesWithin (count + 1) rest ↔ CodesWithin count (segment :: rest) := by
            rw [codesWithin_cons, and_iff_right (.inr htext)]
          have hpending : textPieces (CqSegment.textChars text) = [.text text] := by
            rw [textPieces_escapeText, if_neg hne]
          have hnone : textPieces (CqSegment.textChars content) = [] := by
            rw [hempty]
            rfl
          have hlater := ih hrest hothers (.inr hlater) hrounds count
          rw [hpending, List.length_singleton] at hlater
          rw [hlater, hnone, List.length_nil, Nat.add_zero, List.map_cons, CqSegment.piece,
            hcontent]
          exact if_congr hwithin rfl rfl
      | none =>
          have hcode : ¬ segment.IsText := by
            rw [CqSegment.IsText, hcontent]
            exact Bool.false_ne_true
          have hchars : CqSegment.textChars content ++ cqChars (segment :: rest) =
              CqSegment.textChars content ++ (codeStart ++
                (codeChars segment.kind segment.parameters ++ cqChars rest)) := by
            rw [cqChars, List.flatMap_cons, CqSegment.chars, hcontent, List.append_assoc]
            rfl
          rw [hchars] at hrounds ⊢
          cases rounds with
          | zero => exact absurd hrounds (Nat.not_lt_zero _)
          | succ rounds =>
              have hfewer : (CqSegment.textChars "" ++ cqChars rest).length < rounds := by
                have hstartLength : codeStart.length = 4 := rfl
                simp only [List.length_append] at hrounds ⊢
                have hnone : (CqSegment.textChars "").length = 0 := rfl
                omega
              have hlater := ih hrest hothers (.inl rfl) hfewer
                (count + (textPieces (CqSegment.textChars content)).length + 1)
              have hstart : ¬ codeStart <:+: CqSegment.textChars content :=
                codeStart_not_infix_escapeText content.toList
              have hpiece : segment.piece = .code segment.toSegment := by
                rw [CqSegment.piece, hcontent]
              have hnone : textPieces (CqSegment.textChars "") = [] := rfl
              rw [hnone, List.length_nil, Nat.add_zero, List.nil_append] at hlater
              have hround : CqSegment.textChars "" ++ cqChars rest = cqChars rest := rfl
              have hboth := codesWithin_cons
                (count + (textPieces (CqSegment.textChars content)).length) segment rest
              rw [or_iff_left hcode] at hboth
              rw [parsePieces_code segment hstart, ← hround, hlater, List.map_cons, hpiece]
              by_cases hbound : count + (textPieces (CqSegment.textChars content)).length <
                  maxSegments
              · rw [if_pos hbound]
                by_cases hwithin : CodesWithin
                    (count + (textPieces (CqSegment.textChars content)).length + 1) rest
                · rw [if_pos hwithin, if_pos (hboth.mpr ⟨hbound, hwithin⟩)]
                  rfl
                · rw [if_neg hwithin, if_neg fun hall => hwithin (hboth.mp hall).2]
                  rfl
              · rw [if_neg hbound, if_neg fun hall => hbound (hboth.mp hall).1]

theorem cqPieces_cqText {segments : List CqSegment} (hapart : TextsApart segments)
    (hfilled : ∀ segment ∈ segments, segment.Filled) :
    cqPieces (cqText segments) =
      if CodesWithin 0 segments then .ok (segments.map CqSegment.piece)
      else .error .rejected := by
  have hrounds : (CqSegment.textChars "" ++ cqChars segments).length <
      (cqText segments).toList.length + 1 := by
    rw [cqText, String.toList_ofList]
    exact Nat.lt_succ_self _
  have hpieces := parsePieces_written hapart hfilled (.inl rfl) hrounds 0
  rw [cqPieces]
  rw [cqText, String.toList_ofList] at hpieces ⊢
  exact hpieces

/-- The parser gives back the segments, unless a code comes behind the bound: then it
gives an error. -/
theorem parseCq_cqText {segments : List CqSegment} (hapart : TextsApart segments)
    (hfilled : ∀ segment ∈ segments, segment.Filled) :
    parseCq (cqText segments) =
      if CodesWithin 0 segments then .ok (segments.map CqSegment.toSegment)
      else .error .rejected := by
  rw [parseCq, cqPieces_cqText hapart hfilled]
  by_cases hwithin : CodesWithin 0 segments
  · have hsegments : (segments.map CqSegment.piece).map CqPiece.segment =
        segments.map CqSegment.toSegment := by
      rw [List.map_map]
      exact List.map_congr_left fun segment _ => segment.piece_segment
    have hkept : ∀ segment ∈ segments.map CqSegment.toSegment, isKept segment = true := by
      intro kept hkept
      obtain ⟨segment, hlisted, rfl⟩ := List.mem_map.mp hkept
      exact CqSegment.isKept_of_filled (hfilled segment hlisted)
    rw [if_pos hwithin, if_pos hwithin, ← List.filter_eq_self.mpr hkept, ← hsegments]
    rfl
  · rw [if_neg hwithin, if_neg hwithin]
    rfl

/-! ## What is read back -/

theorem escapeParameter_toList (value : String) :
    (escapeParameter value).toList = value.toList.flatMap escapeParameterChar := by
  rw [escapeParameter, String.toList_ofList]

theorem escapeParameterChar_free {mark : Char} (hmark : mark ∈ ['[', ']', ',']) (char : Char) :
    mark ∉ escapeParameterChar char := by
  have hentities : ∀ entity ∈ entityNames, ∀ mark ∈ ['[', ']', ','], mark ∉ '&' :: entity.2 := by
    decide
  have hescaped : ∀ mark ∈ ['[', ']', ','], mark ∈ entityNames.map Prod.fst := by decide
  intro hmem
  rcases escapeParameterChar_cases char with ⟨name, hname, hentity⟩ | ⟨hplain, hnot⟩
  · rw [hname] at hmem
    exact hentities _ hentity mark hmark hmem
  · rw [hplain, List.mem_singleton] at hmem
    exact hnot (hmem ▸ hescaped mark hmark)

/-- A list of segments is read back from its CQ string exactly when every segment behind
the bound is text, and an escaped value has no mark and is unescaped to the value. -/
theorem segments_read_back :
    (∀ segments : List CqSegment, TextsApart segments → (∀ segment ∈ segments, segment.Filled) →
        (parseCq (cqText segments) = .ok (segments.map CqSegment.toSegment) ↔
          CodesWithin 0 segments)) ∧
      ∀ value : String, unescape (escapeParameter value).toList true = value.toList ∧
        ∀ mark ∈ ['[', ']', ','], mark ∉ (escapeParameter value).toList := by
  refine ⟨fun segments hapart hfilled => ?_, fun value => ⟨?_, fun mark hmark hmem => ?_⟩⟩
  · rw [parseCq_cqText hapart hfilled]
    by_cases hwithin : CodesWithin 0 segments
    · rw [if_pos hwithin]
      exact iff_of_true rfl hwithin
    · rw [if_neg hwithin]
      exact iff_of_false (fun hparse => by cases hparse) hwithin
  · rw [escapeParameter_toList]
    exact unescape_escape value.toList
  · rw [escapeParameter_toList] at hmem
    obtain ⟨char, -, hchar⟩ := List.mem_flatMap.mp hmem
    exact escapeParameterChar_free hmark char hchar

/-- A text with a bracket, and a code with a comma in a value. -/
def textAndMention : List CqSegment :=
  [⟨"text", [("text", "a&b[")], by decide +kernel, by decide⟩,
    ⟨"at", [("name", "x,y"), ("qq", "123")], by decide +kernel, by decide⟩]

theorem text_and_mention_read_back :
    parseCq (cqText textAndMention) = .ok (textAndMention.map CqSegment.toSegment) :=
  (segments_read_back.1 textAndMention (by decide) (by decide)).mpr (by decide)

/-- A code without parameters. -/
def faceCode : CqSegment where
  kind := "face"
  values := []
  writable := by decide +kernel
  sorted := List.Pairwise.nil

/-- One code more than the bound is refused. -/
theorem too_many_codes_refused :
    TextsApart (List.replicate 257 faceCode) ∧
      (∀ segment ∈ List.replicate 257 faceCode, segment.Filled) ∧
      parseCq (cqText (List.replicate 257 faceCode)) = .error .rejected := by
  have hcode : ¬ faceCode.IsText := by decide
  have hapart : TextsApart (List.replicate 257 faceCode) :=
    List.isChain_replicate_of_rel 257 fun hboth => hcode hboth.1
  have hfilled : ∀ segment ∈ List.replicate 257 faceCode, segment.Filled := by
    intro segment hsegment
    rw [(List.mem_replicate.mp hsegment).2]
    intro hkind
    exact absurd hkind (by decide)
  have hlate : ¬ CodesWithin 0 (List.replicate 257 faceCode) := by
    intro hwithin
    refine hcode (hwithin faceCode ?_)
    rw [List.drop_replicate]
    exact List.mem_replicate.mpr ⟨by decide, rfl⟩
  refine ⟨hapart, hfilled, ?_⟩
  rw [parseCq_cqText hapart hfilled, if_neg hlate]

end OneBot
end Lirvena
