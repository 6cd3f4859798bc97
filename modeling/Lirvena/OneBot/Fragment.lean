import Lirvena.OneBot.CqCode

/-!
# Text written with CQ codes

A `Fragment` is written as text or as a code, whose parameters are escaped or
written as they are; `meantPieces` is what a parser is meant to find in fragments, a
run of text between two codes being one piece.

`parsePieces_iff` says when it finds that: the runs hold neither the start of a
code nor an entity, no parameter that is written as it is holds a separator or an
entity, and the codes come before the bound on segments.
-/

namespace Lirvena
namespace OneBot

open Lib

/-! ## Fragments -/

/-- A parameter of a code, written escaped or as it is. -/
structure CqParameter where
  key : String
  value : String
  isEscaped : Bool

inductive Fragment where
  | text (content : String)
  | code (kind : String) (parameters : List CqParameter)

def CqParameter.written (parameter : CqParameter) : List Char :=
  if parameter.isEscaped then parameter.value.toList.flatMap escapeParameterChar
  else parameter.value.toList

def CqParameter.chars (parameter : CqParameter) : List Char :=
  ',' :: (parameter.key.toList ++ '=' :: parameter.written)

/-- The characters of a code behind its start. -/
def codeChars (kind : String) (parameters : List CqParameter) : List Char :=
  kind.toList ++ (parameters.flatMap CqParameter.chars ++ [']'])

def Fragment.chars : Fragment → List Char
  | .text content => content.toList
  | .code kind parameters => codeStart ++ codeChars kind parameters

def verbatim (key value : String) : CqParameter where
  key := key
  value := value
  isEscaped := false

def escaped (key value : String) : CqParameter where
  key := key
  value := value
  isEscaped := true

/-! ## What a parser is meant to find -/

def insertParameter (data : List (String × Json)) (parameter : CqParameter) :
    List (String × Json) :=
  Json.insertField parameter.key (.string parameter.value) data

/-- The segment that a code stands for. -/
def meantSegment (kind : String) (parameters : List CqParameter) : MessageSegment where
  kind := kind
  data := parameters.foldl insertParameter []

/-- The text of a run, unless it is empty. -/
def runPieces (run : List Char) : List CqPiece :=
  if run = [] then [] else [.text (String.ofList run)]

/-- The pieces that fragments behind an open run of text are meant as. -/
def meantPieces : List Char → List Fragment → List CqPiece
  | run, [] => runPieces run
  | run, .text content :: rest => meantPieces (run ++ content.toList) rest
  | run, .code kind parameters :: rest =>
      runPieces run ++ .code (meantSegment kind parameters) :: meantPieces [] rest

/-- The runs of text between codes. -/
def textRuns : List Char → List Fragment → List (List Char)
  | run, [] => [run]
  | run, .text content :: rest => textRuns (run ++ content.toList) rest
  | run, .code _ _ :: rest => run :: textRuns [] rest

/-- A run of text without the start of a code and without an entity. -/
def SafeRun (run : List Char) : Prop :=
  ¬ codeStart <:+: run ∧ ∀ rule ∈ unescapeRules false, ¬ rule.1 <:+: run

instance (run : List Char) : Decidable (SafeRun run) :=
  inferInstanceAs (Decidable (_ ∧ _))

/-- What ends a value inside a code. -/
def marks : List Char := [',', ']']

def MarkFree (chars : List Char) : Prop :=
  ∀ mark ∈ marks, mark ∉ chars

instance (chars : List Char) : Decidable (MarkFree chars) :=
  inferInstanceAs (Decidable (∀ mark ∈ marks, mark ∉ chars))

/-- A value without a separator and without an entity. -/
def SafeValue (value : List Char) : Prop :=
  MarkFree value ∧ ∀ rule ∈ unescapeRules true, ¬ rule.1 <:+: value

instance (value : List Char) : Decidable (SafeValue value) :=
  inferInstanceAs (Decidable (_ ∧ _))

def CqParameter.Safe (parameter : CqParameter) : Prop :=
  parameter.isEscaped = true ∨ SafeValue parameter.value.toList

/-- The parameters of a code are safe. -/
def Fragment.Safe : Fragment → Prop
  | .text _ => True
  | .code _ parameters => ∀ parameter ∈ parameters, parameter.Safe

/-- Every code is among the first pieces, behind so many that went before. -/
def WithinSegments : Nat → List CqPiece → Prop
  | _, [] => True
  | count, .text _ :: rest => WithinSegments (count + 1) rest
  | count, .code _ :: rest => count < maxSegments ∧ WithinSegments (count + 1) rest

/-- A key that a code can be written with. -/
structure PlainKey (key : String) : Prop where
  valid : ¬ (key = "" ∨ maxKindBytes < key.utf8ByteSize ∨
    key.toList.any (fun char => isControl char || char = ',') = true)
  free : MarkFree key.toList
  unequal : '=' ∉ key.toList

instance (key : String) : Decidable (PlainKey key) :=
  decidable_of_iff (¬ (key = "" ∨ maxKindBytes < key.utf8ByteSize ∨
      key.toList.any (fun char => isControl char || char = ',') = true) ∧
    MarkFree key.toList ∧ '=' ∉ key.toList)
    ⟨fun ⟨hvalid, hfree, hunequal⟩ => ⟨hvalid, hfree, hunequal⟩,
      fun ⟨hvalid, hfree, hunequal⟩ => ⟨hvalid, hfree, hunequal⟩⟩

/-- A kind and keys that a code can be written with. -/
structure PlainCode (kind : String) (keys : List String) : Prop where
  kind_valid : ¬ (kind = "" ∨ maxKindBytes < kind.utf8ByteSize ∨
    kind.toList.any (fun char => isControl char || [',', '[', ']'].contains char) = true)
  kind_free : MarkFree kind.toList
  kind_ne : kind ≠ "text"
  nodup : keys.Nodup
  plain_keys : ∀ key ∈ keys, PlainKey key

instance (kind : String) (keys : List String) : Decidable (PlainCode kind keys) :=
  decidable_of_iff (¬ (kind = "" ∨ maxKindBytes < kind.utf8ByteSize ∨
      kind.toList.any (fun char => isControl char || [',', '[', ']'].contains char) = true) ∧
    MarkFree kind.toList ∧ kind ≠ "text" ∧ (∀ key ∈ keys, PlainKey key) ∧ keys.Nodup)
    ⟨fun ⟨hvalid, hfree, hne, hkeys, hnodup⟩ => ⟨hvalid, hfree, hne, hnodup, hkeys⟩,
      fun ⟨hvalid, hfree, hne, hnodup, hkeys⟩ => ⟨hvalid, hfree, hne, hkeys, hnodup⟩⟩

/-- What the parser needs of a code to find it as it is written. -/
structure WritableCode (kind : String) (keys : List String) : Prop where
  kind_valid : ¬ (kind = "" ∨ maxKindBytes < kind.utf8ByteSize ∨
    kind.toList.any (fun char => isControl char || [',', '[', ']'].contains char) = true)
  kind_free : MarkFree kind.toList
  nodup : keys.Nodup
  plain_keys : ∀ key ∈ keys, PlainKey key

instance (kind : String) (keys : List String) : Decidable (WritableCode kind keys) :=
  decidable_of_iff (¬ (kind = "" ∨ maxKindBytes < kind.utf8ByteSize ∨
      kind.toList.any (fun char => isControl char || [',', '[', ']'].contains char) = true) ∧
    MarkFree kind.toList ∧ keys.Nodup ∧ ∀ key ∈ keys, PlainKey key)
    ⟨fun ⟨hvalid, hfree, hnodup, hkeys⟩ => ⟨hvalid, hfree, hnodup, hkeys⟩,
      fun ⟨hvalid, hfree, hnodup, hkeys⟩ => ⟨hvalid, hfree, hnodup, hkeys⟩⟩

theorem PlainCode.writable {kind : String} {keys : List String} (hplain : PlainCode kind keys) :
    WritableCode kind keys :=
  ⟨hplain.kind_valid, hplain.kind_free, hplain.nodup, hplain.plain_keys⟩

def Fragment.Plain : Fragment → Prop
  | .text _ => True
  | .code kind parameters => PlainCode kind (parameters.map CqParameter.key)

/-! ## One code -/

theorem MarkFree.append {first second : List Char} (hfirst : MarkFree first)
    (hsecond : MarkFree second) : MarkFree (first ++ second) := by
  intro mark hmark hmem
  rcases List.mem_append.mp hmem with hmem | hmem
  · exact hfirst mark hmark hmem
  · exact hsecond mark hmark hmem

/-- Characters that are not free of marks are cut at the first one. -/
theorem exists_cut {chars : List Char} (hmarked : ¬ MarkFree chars) :
    ∃ front next behind, chars = front ++ next :: behind ∧ next ∈ marks ∧ MarkFree front := by
  induction chars with
  | nil => exact absurd (fun _ _ => List.not_mem_nil) hmarked
  | cons char rest ih =>
      by_cases hchar : char ∈ marks
      · exact ⟨[], char, rest, rfl, hchar, fun _ _ => List.not_mem_nil⟩
      · have hplain : MarkFree [char] := by
          intro mark hmark hmem
          exact hchar (List.mem_singleton.mp hmem ▸ hmark)
        have hrest : ¬ MarkFree rest := fun hrest => hmarked (hplain.append hrest)
        obtain ⟨front, next, behind, hcut, hnext, hfront⟩ := ih hrest
        exact ⟨char :: front, next, behind, by rw [hcut]; rfl, hnext, hplain.append hfront⟩

theorem escapeParameterChar_markFree (char : Char) : MarkFree (escapeParameterChar char) := by
  have hentities : ∀ entity ∈ entityNames, ∀ mark ∈ marks, mark ∉ '&' :: entity.2 := by decide
  have hescaped : ∀ mark ∈ marks, mark ∈ entityNames.map Prod.fst := by decide
  intro mark hmark hmem
  rcases escapeParameterChar_cases char with ⟨name, hname, hentity⟩ | ⟨hplain, hnot⟩
  · rw [hname] at hmem
    exact hentities _ hentity mark hmark hmem
  · rw [hplain, List.mem_singleton] at hmem
    exact hnot (hmem ▸ hescaped mark hmark)

theorem written_of_safe {parameter : CqParameter} (hsafe : parameter.Safe) :
    MarkFree parameter.written ∧ unescape parameter.written true = parameter.value.toList := by
  unfold CqParameter.written
  split
  · refine ⟨fun mark hmark hmem => ?_, unescape_escape _⟩
    obtain ⟨char, -, hchar⟩ := List.mem_flatMap.mp hmem
    exact escapeParameterChar_markFree char mark hmark hchar
  · next hverbatim =>
      obtain ⟨hfree, hentities⟩ := hsafe.resolve_left hverbatim
      exact ⟨hfree, unescape_eq_self_iff.mpr hentities⟩

/-- A value that is not safe is read back as another one: it is cut at a mark, or an
entity of it is replaced. -/
theorem written_of_not_safe {parameter : CqParameter} (hnotSafe : ¬ parameter.Safe) {mark : Char}
    (hmark : mark ∈ marks) (after : List Char) :
    ∃ front next behind, parameter.written ++ mark :: after = front ++ next :: behind ∧
      next ∈ marks ∧ MarkFree front ∧ unescape front true ≠ parameter.value.toList := by
  obtain ⟨hverbatim, hvalue⟩ := not_or.mp hnotSafe
  rw [CqParameter.written, if_neg hverbatim]
  by_cases hfree : MarkFree parameter.value.toList
  · refine ⟨_, mark, after, rfl, hmark, hfree, fun hsame => ?_⟩
    exact hvalue ⟨hfree, unescape_eq_self_iff.mp hsame⟩
  · obtain ⟨front, next, behind, hcut, hnext, hfront⟩ := exists_cut hfree
    refine ⟨front, next, behind ++ mark :: after, ?_, hnext, hfront, fun hsame => ?_⟩
    · rw [hcut, List.append_assoc, List.cons_append]
    · -- The part in front of the mark is shorter than the value, and no longer unescaped.
      have hshort := unescape_length_le front true
      rw [hsame, hcut, List.length_append, List.length_cons] at hshort
      omega

/-! ### The fields of a code -/

/-- The fields up to the end of a code. -/
def fieldsOf (chars : List Char) : List (List Char) :=
  (chars.takeWhile (· ≠ ']')).splitOn ','

/-- The fields behind a field that ends with a mark. -/
def fieldsAfter (mark : Char) (after : List Char) : List (List Char) :=
  if mark = ',' then fieldsOf after else []

theorem fieldsOf_append {front : List Char} (hfree : MarkFree front) {mark : Char}
    (hmark : mark ∈ marks) (after : List Char) :
    fieldsOf (front ++ mark :: after) = front :: fieldsAfter mark after := by
  have hinside : ∀ char ∈ front, decide (char ≠ ']') = true := by
    intro char hchar
    exact decide_eq_true fun hclose => hfree ']' (by decide) (hclose ▸ hchar)
  have hcomma : ',' ∉ front := hfree ',' (by decide)
  rw [fieldsOf, List.takeWhile_append_of_pos hinside]
  rcases List.mem_cons.mp hmark with rfl | hclose
  · rw [List.takeWhile_cons_of_pos (by decide), List.splitOn_append_cons_self_of_not_mem hcomma]
    rfl
  · rw [List.mem_singleton.mp hclose, List.takeWhile_cons_of_neg (by decide), List.append_nil,
      List.splitOn_eq_singleton hcomma]
    rfl

/-- The characters of parameters up to the end of their code. -/
def parameterChars (parameters : List CqParameter) (after : List Char) : List Char :=
  parameters.flatMap CqParameter.chars ++ ']' :: after

/-- The fields of parameters, up to the end of their code. -/
def fieldsBehind (parameters : List CqParameter) (after : List Char) : List (List Char) :=
  match parameters with
  | [] => []
  | parameter :: rest =>
      fieldsOf (parameter.key.toList ++ '=' :: (parameter.written ++ parameterChars rest after))

theorem fieldsOf_parameterChars {front : List Char} (hfree : MarkFree front)
    (parameters : List CqParameter) (after : List Char) :
    fieldsOf (front ++ parameterChars parameters after) =
      front :: fieldsBehind parameters after := by
  cases parameters with
  | nil => exact fieldsOf_append hfree (by decide) after
  | cons parameter rest =>
      have hchars : parameterChars (parameter :: rest) after = ',' :: (parameter.key.toList ++
          '=' :: (parameter.written ++ parameterChars rest after)) := by
        simp [parameterChars, CqParameter.chars]
      rw [hchars, fieldsOf_append hfree (by decide)]
      rfl

theorem exists_mark (parameters : List CqParameter) (after : List Char) :
    ∃ mark behind, mark ∈ marks ∧ parameterChars parameters after = mark :: behind := by
  cases parameters with
  | nil => exact ⟨']', after, by decide, rfl⟩
  | cons parameter rest => exact ⟨',', _, by decide, rfl⟩

/-! ### The parameters -/

/-- What is refused of a key, when it comes behind the fields read before. -/
def RefusedKey (data : List (String × Json)) (keyChars : List Char) : Prop :=
  String.ofList keyChars = "" ∨ maxKindBytes < (String.ofList keyChars).utf8ByteSize ∨
    keyChars.any (fun char => isControl char || char = ',') = true ∨
      (data.lookup (String.ofList keyChars)).isSome = true

theorem parseField_eq_ok_iff {data result : List (String × Json)} {field : List Char} :
    parseField data field = .ok result ↔
      ∃ keyChars value, splitOnce ['='] field = some (keyChars, value) ∧
        ¬ RefusedKey data keyChars ∧ Json.insertField (String.ofList keyChars)
          (.string (String.ofList (unescape value true))) data = result := by
  unfold parseField RefusedKey
  constructor
  · intro hparse
    obtain ⟨⟨keyChars, value⟩, hsplit, hrest⟩ := bind_eq_ok_iff.mp hparse
    obtain ⟨_, hkey, hresult⟩ := bind_eq_ok_iff.mp hrest
    exact ⟨keyChars, value, okOr_eq_ok_iff.mp hsplit, rejectIf_eq_ok_iff.mp hkey,
      Except.ok.inj hresult⟩
  · rintro ⟨keyChars, value, hsplit, hkey, hresult⟩
    refine bind_eq_ok_iff.mpr ⟨(keyChars, value), okOr_eq_ok_iff.mpr hsplit, ?_⟩
    exact bind_eq_ok_iff.mpr ⟨(), rejectIf_eq_ok_iff.mpr hkey, congrArg Except.ok hresult⟩

theorem parseField_plain {key : String} (hkey : PlainKey key) {data : List (String × Json)}
    (hfresh : data.lookup key = none) (value : List Char) :
    parseField data (key.toList ++ '=' :: value) =
      .ok (Json.insertField key (.string (String.ofList (unescape value true))) data) := by
  have hpattern : ¬ ['='] <:+: key.toList := fun hoccurs =>
    hkey.unequal (hoccurs.subset List.mem_cons_self)
  have hsplit : splitOnce ['='] (key.toList ++ '=' :: value) = some (key.toList, value) :=
    splitOnce_append List.not_mem_nil hpattern value
  have haccepted : ¬ RefusedKey data key.toList := by
    have hvalid := hkey.valid
    unfold RefusedKey
    rw [String.ofList_toList, hfresh]
    simpa using hvalid
  refine parseField_eq_ok_iff.mpr ⟨key.toList, value, hsplit, haccepted, ?_⟩
  rw [String.ofList_toList]

/-- A field does not touch the fields read before it. -/
theorem parseFields_lookup {data result : List (String × Json)} {fields : List (List Char)}
    (hparse : parseFields data fields = .ok result) {key : String} {value : Json}
    (hvalue : data.lookup key = some value) : result.lookup key = some value := by
  induction fields generalizing data with
  | nil => exact Except.ok.inj hparse ▸ hvalue
  | cons field rest ih =>
      obtain ⟨next, hfield, hrest⟩ := bind_eq_ok_iff.mp hparse
      refine ih hrest ?_
      obtain ⟨keyChars, content, -, hkey, hnext⟩ := parseField_eq_ok_iff.mp hfield
      have hother : key ≠ String.ofList keyChars := by
        intro hsame
        exact hkey (.inr (.inr (.inr (by rw [← hsame, hvalue]; rfl))))
      rw [← hnext, Json.lookup_insertField, if_neg hother, hvalue]

theorem lookup_insertParameters {parameters : List CqParameter} {key : String}
    (hkey : key ∉ parameters.map CqParameter.key) (data : List (String × Json)) :
    (parameters.foldl insertParameter data).lookup key = data.lookup key := by
  induction parameters generalizing data with
  | nil => rfl
  | cons parameter rest ih =>
      obtain ⟨hother, hrest⟩ := not_or.mp fun hmem => hkey (List.mem_cons.mpr hmem)
      rw [List.foldl_cons, ih hrest, insertParameter, Json.lookup_insertField, if_neg hother]

/-- Parameters are read back exactly when they are safe. -/
theorem parseFields_iff {parameters : List CqParameter} {data : List (String × Json)}
    (hkeys : ∀ key ∈ parameters.map CqParameter.key, PlainKey key)
    (hnodup : (parameters.map CqParameter.key).Nodup)
    (hfresh : ∀ parameter ∈ parameters, data.lookup parameter.key = none) (after : List Char) :
    parseFields data (fieldsBehind parameters after) =
        .ok (parameters.foldl insertParameter data) ↔
      ∀ parameter ∈ parameters, parameter.Safe := by
  induction parameters generalizing data with
  | nil => exact iff_of_true rfl (fun _ hmem => absurd hmem List.not_mem_nil)
  | cons parameter rest ih =>
      have hkey := hkeys parameter.key List.mem_cons_self
      have hfirst := hfresh parameter List.mem_cons_self
      obtain ⟨hothers, hrestNodup⟩ := List.nodup_cons.mp hnodup
      have hequal : MarkFree ['='] := by
        unfold MarkFree
        decide
      by_cases hsafe : parameter.Safe
      · -- The field is read as the parameter, and the rest behind it.
        obtain ⟨hfree, hvalue⟩ := written_of_safe hsafe
        have hfields : fieldsBehind (parameter :: rest) after =
            (parameter.key.toList ++ '=' :: parameter.written) :: fieldsBehind rest after := by
          have hfield := fieldsOf_parameterChars
            (hkey.free.append (hequal.append hfree)) rest after
          simpa [fieldsBehind] using hfield
        have hstep : parseFields data (fieldsBehind (parameter :: rest) after) =
            parseFields (insertParameter data parameter) (fieldsBehind rest after) := by
          rw [hfields, parseFields, parseField_plain hkey hfirst, hvalue, String.ofList_toList]
          rfl
        have hrestFresh : ∀ other ∈ rest,
            (insertParameter data parameter).lookup other.key = none := by
          intro other hother
          have hne : other.key ≠ parameter.key := fun hsame =>
            hothers (hsame ▸ List.mem_map_of_mem hother)
          rw [insertParameter, Json.lookup_insertField, if_neg hne]
          exact hfresh other (List.mem_cons_of_mem parameter hother)
        rw [hstep, List.foldl_cons, List.forall_mem_cons,
          ih (fun key hmem => hkeys key (List.mem_cons_of_mem parameter.key hmem)) hrestNodup
            hrestFresh]
        exact (and_iff_right hsafe).symm
      · -- The field is read as another value, which no later field can mend.
        refine iff_of_false (fun hparse => ?_)
          (fun hall => hsafe (hall parameter List.mem_cons_self))
        obtain ⟨mark, behind, hmark, hchars⟩ := exists_mark rest after
        obtain ⟨front, next, more, hcut, hnext, hfront, hvalue⟩ :=
          written_of_not_safe hsafe hmark behind
        have hfields : fieldsBehind (parameter :: rest) after =
            (parameter.key.toList ++ '=' :: front) :: fieldsAfter next more := by
          have hfield := fieldsOf_append (hkey.free.append (hequal.append hfront)) hnext more
          rw [fieldsBehind, hchars, hcut]
          simpa using hfield
        rw [hfields, parseFields, parseField_plain hkey hfirst] at hparse
        have hinserted : (Json.insertField parameter.key
            (.string (String.ofList (unescape front true))) data).lookup parameter.key =
            some (.string (String.ofList (unescape front true))) := by
          rw [Json.lookup_insertField, if_pos rfl]
        have hread := parseFields_lookup hparse hinserted
        rw [List.foldl_cons, lookup_insertParameters hothers, insertParameter,
          Json.lookup_insertField, if_pos rfl] at hread
        have hsame : String.ofList (unescape front true) = parameter.value :=
          (Json.string.inj (Option.some.inj hread)).symm
        exact hvalue (by rw [← hsame, String.toList_ofList])

/-! ### The code -/

/-- The end of a code is the first closing bracket behind its start. -/
theorem splitOnce_close {chars : List Char} (hclose : ']' ∈ chars) :
    ∃ rest, splitOnce [']'] chars = some (chars.takeWhile (· ≠ ']'), rest) := by
  obtain ⟨before, after, hchars, hfirst⟩ := List.eq_append_cons_of_mem hclose
  have hinside : ∀ char ∈ before, decide (char ≠ ']') = true := by
    intro char hchar
    exact decide_eq_true fun hsame => hfirst (hsame ▸ hchar)
  have hpattern : ¬ [']'] <:+: before := fun hoccurs =>
    hfirst (hoccurs.subset List.mem_cons_self)
  refine ⟨after, ?_⟩
  rw [hchars, List.takeWhile_append_of_pos hinside, List.takeWhile_cons_of_neg (by decide),
    List.append_nil]
  exact splitOnce_append List.not_mem_nil hpattern after

theorem parseCqCode_iff {kind : String} {parameters : List CqParameter}
    (hplain : WritableCode kind (parameters.map CqParameter.key)) (after : List Char) :
    parseCqCode ((codeChars kind parameters ++ after).takeWhile (· ≠ ']')) =
        .ok (meantSegment kind parameters) ↔
      ∀ parameter ∈ parameters, parameter.Safe := by
  have hfields : ((codeChars kind parameters ++ after).takeWhile (· ≠ ']')).splitOn ',' =
      kind.toList :: fieldsBehind parameters after := by
    have hchars : codeChars kind parameters ++ after =
        kind.toList ++ parameterChars parameters after := by
      simp [codeChars, parameterChars]
    rw [hchars]
    exact fieldsOf_parameterChars hplain.kind_free parameters after
  have hparse : parseCqCode ((codeChars kind parameters ++ after).takeWhile (· ≠ ']')) =
      (do
        let data ← parseFields [] (fieldsBehind parameters after)
        return ⟨kind, data⟩) := by
    rw [parseCqCode, hfields]
    simp only [String.ofList_toList, validateKind, rejectIf, if_neg hplain.kind_valid]
    rfl
  have hfresh : ∀ parameter ∈ parameters,
      ([] : List (String × Json)).lookup parameter.key = none := fun _ _ => rfl
  rw [hparse, ← parseFields_iff hplain.plain_keys hplain.nodup hfresh after]
  constructor
  · intro hsegment
    obtain ⟨data, hdata, hsame⟩ := bind_eq_ok_iff.mp hsegment
    have hmeant : data = parameters.foldl insertParameter [] :=
      congrArg MessageSegment.data (Except.ok.inj hsame)
    rw [hdata, hmeant]
  · intro hdata
    rw [hdata]
    rfl

/-- The characters of a code are those of the parser's code and the rest behind it. -/
theorem splitOnce_code {kind : String} {parameters : List CqParameter}
    (hplain : WritableCode kind (parameters.map CqParameter.key))
    (hsafe : ∀ parameter ∈ parameters, parameter.Safe) (after : List Char) :
    splitOnce [']'] (codeChars kind parameters ++ after) =
      some ((codeChars kind parameters ++ after).takeWhile (· ≠ ']'), after) := by
  have hequal : ']' ∉ ['='] := by decide
  have hinside : ']' ∉ kind.toList ++ parameters.flatMap CqParameter.chars := by
    intro hmem
    rcases List.mem_append.mp hmem with hkind | hparameter
    · exact hplain.kind_free ']' (by decide) hkind
    · obtain ⟨parameter, hlisted, hchar⟩ := List.mem_flatMap.mp hparameter
      have hkey := (hplain.plain_keys _ (List.mem_map_of_mem hlisted)).free ']' (by decide)
      have hvalue := (written_of_safe (hsafe parameter hlisted)).1 ']' (by decide)
      simp [CqParameter.chars, hkey, hvalue] at hchar
  have hchars : codeChars kind parameters ++ after =
      (kind.toList ++ parameters.flatMap CqParameter.chars) ++ ([']'] ++ after) := by
    simp [codeChars]
  have hpattern : ¬ [']'] <:+: kind.toList ++ parameters.flatMap CqParameter.chars :=
    fun hoccurs => hinside (hoccurs.subset List.mem_cons_self)
  have hpositive : ∀ char ∈ kind.toList ++ parameters.flatMap CqParameter.chars,
      decide (char ≠ ']') = true := by
    intro char hchar
    exact decide_eq_true fun hsame => hinside (hsame ▸ hchar)
  rw [hchars, List.takeWhile_append_of_pos hpositive, List.singleton_append,
    List.takeWhile_cons_of_neg (by decide), List.append_nil]
  exact splitOnce_append List.not_mem_nil hpattern after

/-! ## The pieces -/

/-- A run that the start of a code is found in is not read back as one piece: what is
in front of that start is shorter. -/
theorem parsePieces_ne_run {run : List Char} (hstart : codeStart <:+: run) (rounds count : Nat)
    (after : List Char) (more : List CqPiece) :
    parsePieces rounds count (run ++ after) ≠ .ok (runPieces run ++ more) := by
  intro hparse
  have hrun : run ≠ [] := fun hempty => by simp [hempty, codeStart] at hstart
  obtain ⟨first, behind, hsplit, hshort⟩ := splitOnce_of_infix hstart (by decide) after
  cases rounds with
  | zero => cases hparse
  | succ rounds =>
      rw [parsePieces, hsplit, runPieces, if_neg hrun] at hparse
      obtain ⟨⟨inner, rest⟩, -, hcode⟩ := bind_eq_ok_iff.mp hparse
      obtain ⟨segment, -, hpushed⟩ := bind_eq_ok_iff.mp hcode
      obtain ⟨_, -, hothers⟩ := bind_eq_ok_iff.mp hpushed
      obtain ⟨others, -, hpieces⟩ := bind_eq_ok_iff.mp hothers
      have hpieces := Except.ok.inj hpieces
      unfold textPieces at hpieces
      split at hpieces
      · cases hpieces
      · have hfirst := CqPiece.text.inj (List.cons.inj hpieces).1
        have hsame : unescape first false = run := String.ofList_inj.mp hfirst
        have hlength := unescape_length_le first false
        have hcodeStart : codeStart.length = 4 := rfl
        rw [hsame] at hlength
        omega

theorem textPieces_eq_runPieces_iff {run : List Char} :
    textPieces run = runPieces run ↔ ∀ rule ∈ unescapeRules false, ¬ rule.1 <:+: run := by
  rw [← unescape_eq_self_iff]
  unfold textPieces runPieces
  by_cases hempty : run = []
  · subst hempty
    exact iff_of_true rfl (by decide)
  · rw [if_neg hempty, if_neg hempty]
    constructor
    · intro hsame
      exact String.ofList_inj.mp (CqPiece.text.inj (List.cons.inj hsame).1)
    · intro hsame
      rw [hsame]

theorem length_textPieces (run : List Char) :
    (textPieces run).length = (runPieces run).length := by
  unfold textPieces runPieces
  split <;> rfl

theorem withinSegments_runPieces (run : List Char) (count : Nat) (others : List CqPiece) :
    WithinSegments count (runPieces run ++ others) ↔
      WithinSegments (count + (runPieces run).length) others := by
  unfold runPieces
  split <;> rfl

theorem withinSegments_run (run : List Char) (count : Nat) :
    WithinSegments count (runPieces run) := by
  unfold runPieces
  split <;> trivial

/-- One code behind a run that no code starts in. -/
theorem parsePieces_code_iff {kind : String} {parameters : List CqParameter}
    (hplain : WritableCode kind (parameters.map CqParameter.key)) {run : List Char}
    (hstart : ¬ codeStart <:+: run) (rounds count : Nat) (after : List Char)
    (others : List CqPiece) :
    parsePieces (rounds + 1) count (run ++ (codeStart ++ (codeChars kind parameters ++ after))) =
        .ok (runPieces run ++ .code (meantSegment kind parameters) :: others) ↔
      (∀ rule ∈ unescapeRules false, ¬ rule.1 <:+: run) ∧
        (∀ parameter ∈ parameters, parameter.Safe) ∧
        count + (runPieces run).length < maxSegments ∧
        parsePieces rounds (count + (runPieces run).length + 1) after = .ok others := by
  have hhead : '[' ∉ ['C', 'Q', ':'] := by decide
  have hsplit : splitOnce codeStart (run ++ (codeStart ++ (codeChars kind parameters ++ after))) =
      some (run, codeChars kind parameters ++ after) :=
    splitOnce_append hhead hstart _
  have hlength (segment : MessageSegment) :
      (textPieces run ++ [CqPiece.code segment]).length = (runPieces run).length + 1 := by
    rw [List.length_append, length_textPieces]
    rfl
  rw [parsePieces, hsplit]
  constructor
  · intro hparse
    have hclose : ']' ∈ codeChars kind parameters ++ after := by simp [codeChars]
    obtain ⟨_, hcut⟩ := splitOnce_close hclose
    obtain ⟨⟨inner, rest⟩, hinner, hcode⟩ := bind_eq_ok_iff.mp hparse
    have hparts := Option.some.inj (hcut.symm.trans (okOr_eq_ok_iff.mp hinner))
    obtain ⟨segment, hsegment, hpushed⟩ := bind_eq_ok_iff.mp hcode
    obtain ⟨_, hbound, hothers⟩ := bind_eq_ok_iff.mp hpushed
    obtain ⟨found, hfound, hpieces⟩ := bind_eq_ok_iff.mp hothers
    -- The pieces agree part by part, since the run gives as many as it is meant to.
    have hpieces : textPieces run ++ ([CqPiece.code segment] ++ found) =
        runPieces run ++ ([CqPiece.code (meantSegment kind parameters)] ++ others) := by
      rw [← List.append_assoc]
      exact Except.ok.inj hpieces
    obtain ⟨hrun, hbehind⟩ := List.append_inj hpieces (length_textPieces run)
    obtain ⟨hmeant, hsame⟩ := List.cons.inj hbehind
    have hsafe : ∀ parameter ∈ parameters, parameter.Safe := by
      rw [← parseCqCode_iff hplain after, (Prod.mk.inj hparts).1, hsegment,
        CqPiece.code.inj hmeant]
    have hrest : rest = after := by
      have hexact := hcut.symm.trans (splitOnce_code hplain hsafe after)
      rw [← (Prod.mk.inj hparts).2, (Prod.mk.inj (Option.some.inj hexact)).2]
    have hbound := rejectIf_eq_ok_iff.mp hbound
    rw [hlength] at hbound hfound
    refine ⟨textPieces_eq_runPieces_iff.mp hrun, hsafe, by omega, ?_⟩
    have hrestParse : parsePieces rounds (count + (runPieces run).length + 1) rest = .ok found :=
      hfound
    rw [← hrest, hrestParse]
    exact congrArg Except.ok hsame
  · rintro ⟨hentities, hsafe, hbound, hothers⟩
    refine bind_eq_ok_iff.mpr ⟨_, okOr_eq_ok_iff.mpr (splitOnce_code hplain hsafe after), ?_⟩
    refine bind_eq_ok_iff.mpr ⟨_, (parseCqCode_iff hplain after).mpr hsafe, ?_⟩
    have haccepted : ¬ maxSegments < count +
        (textPieces run ++ [CqPiece.code (meantSegment kind parameters)]).length := by
      rw [hlength]
      omega
    refine bind_eq_ok_iff.mpr ⟨(), rejectIf_eq_ok_iff.mpr haccepted, ?_⟩
    refine bind_eq_ok_iff.mpr ⟨others, ?_, ?_⟩
    · rw [hlength]
      exact hothers
    · rw [textPieces_eq_runPieces_iff.mpr hentities, List.append_assoc]
      rfl

/-- What fragments are written as is read back as it was meant, exactly when the
runs and the parameters are safe and the codes come early enough. -/
theorem parsePieces_iff {fragments : List Fragment}
    (hplain : ∀ fragment ∈ fragments, fragment.Plain) {run : List Char} {rounds : Nat}
    (hrounds : (run ++ fragments.flatMap Fragment.chars).length < rounds) (count : Nat) :
    parsePieces rounds count (run ++ fragments.flatMap Fragment.chars) =
        .ok (meantPieces run fragments) ↔
      (∀ other ∈ textRuns run fragments, SafeRun other) ∧
        (∀ fragment ∈ fragments, fragment.Safe) ∧
          WithinSegments count (meantPieces run fragments) := by
  induction fragments generalizing run rounds count with
  | nil =>
      have hruns : (∀ other ∈ textRuns run [], SafeRun other) ↔ SafeRun run :=
        List.forall_mem_singleton
      rw [List.flatMap_nil] at hrounds ⊢
      rw [hruns]
      by_cases hstart : codeStart <:+: run
      · refine iff_of_false (fun hparse => ?_) (fun hall => hall.1.1 hstart)
        rw [meantPieces, ← List.append_nil (runPieces run)] at hparse
        exact parsePieces_ne_run hstart rounds count [] [] hparse
      · cases rounds with
        | zero => exact absurd hrounds (Nat.not_lt_zero _)
        | succ rounds =>
            have hlast : parsePieces (rounds + 1) count run = .ok (textPieces run) := by
              rw [parsePieces, splitOnce_eq_none hstart]
            rw [List.append_nil, hlast, Except.ok.injEq, meantPieces,
              textPieces_eq_runPieces_iff, SafeRun, and_iff_right hstart]
            have hnone : ∀ fragment ∈ ([] : List Fragment), fragment.Safe :=
              fun _ hmem => absurd hmem List.not_mem_nil
            exact (and_iff_left ⟨hnone, withinSegments_run run count⟩).symm
  | cons fragment rest ih =>
      have hrest : ∀ other ∈ rest, other.Plain := fun other hother =>
        hplain other (List.mem_cons_of_mem fragment hother)
      cases fragment with
      | text content =>
          -- The text goes on with the run.
          have hchars : run ++ (Fragment.text content :: rest).flatMap Fragment.chars =
              (run ++ content.toList) ++ rest.flatMap Fragment.chars := by
            simp [Fragment.chars]
          rw [hchars] at hrounds ⊢
          rw [List.forall_mem_cons, and_iff_right (show (Fragment.text content).Safe from trivial)]
          exact ih hrest hrounds count
      | code kind parameters =>
          have hcode : PlainCode kind (parameters.map CqParameter.key) :=
            hplain _ List.mem_cons_self
          have hchars : run ++ (Fragment.code kind parameters :: rest).flatMap Fragment.chars =
              run ++ (codeStart ++ (codeChars kind parameters ++
                rest.flatMap Fragment.chars)) := by
            simp [Fragment.chars]
          rw [hchars] at hrounds ⊢
          by_cases hstart : codeStart <:+: run
          · exact iff_of_false (parsePieces_ne_run hstart rounds count _ _)
              (fun hall => (hall.1 run List.mem_cons_self).1 hstart)
          · cases rounds with
            | zero => exact absurd hrounds (Nat.not_lt_zero _)
            | succ rounds =>
                have hfewer : ([] ++ rest.flatMap Fragment.chars).length < rounds := by
                  have hstartLength : codeStart.length = 4 := rfl
                  rw [List.nil_append]
                  simp only [List.length_append] at hrounds
                  omega
                have hbehind : WithinSegments count (meantPieces run
                    (.code kind parameters :: rest)) ↔ count + (runPieces run).length <
                      maxSegments ∧ WithinSegments (count + (runPieces run).length + 1)
                        (meantPieces [] rest) :=
                  withinSegments_runPieces run count _
                have hruns : (∀ other ∈ textRuns run (.code kind parameters :: rest),
                    SafeRun other) ↔ (∀ rule ∈ unescapeRules false, ¬ rule.1 <:+: run) ∧
                      ∀ other ∈ textRuns [] rest, SafeRun other := by
                  rw [textRuns, List.forall_mem_cons, SafeRun, and_iff_right hstart]
                have hsafe : (Fragment.code kind parameters).Safe ↔
                    ∀ parameter ∈ parameters, parameter.Safe := Iff.rfl
                have hothers := ih hrest hfewer (count + (runPieces run).length + 1)
                rw [List.nil_append] at hothers
                rw [hruns, hbehind, List.forall_mem_cons, hsafe, meantPieces,
                  parsePieces_code_iff hcode.writable hstart, hothers]
                tauto

/-! ## The segments -/

theorem isKept_runPieces {run : List Char} : ∀ piece ∈ runPieces run, isKept piece.segment := by
  intro piece hpiece
  unfold runPieces at hpiece
  split at hpiece
  · exact absurd hpiece List.not_mem_nil
  · next hrun =>
      have hne : String.ofList run ≠ "" := by
        intro hempty
        exact hrun (String.ofList_inj.mp hempty)
      rw [List.mem_singleton.mp hpiece]
      simp [isKept, CqPiece.segment, textSegment, Json.asStr, hne]

/-- No meant piece is an empty text, so that every piece has its segment. -/
theorem isKept_meantPieces {fragments : List Fragment}
    (hplain : ∀ fragment ∈ fragments, fragment.Plain) (run : List Char) :
    ∀ piece ∈ meantPieces run fragments, isKept piece.segment := by
  induction fragments generalizing run with
  | nil => exact isKept_runPieces
  | cons fragment rest ih =>
      have hrest : ∀ other ∈ rest, other.Plain := fun other hother =>
        hplain other (List.mem_cons_of_mem fragment hother)
      cases fragment with
      | text content => exact ih hrest (run ++ content.toList)
      | code kind parameters =>
          have hcode : PlainCode kind (parameters.map CqParameter.key) :=
            hplain _ List.mem_cons_self
          intro piece hpiece
          rcases List.mem_append.mp hpiece with hrun | hbehind
          · exact isKept_runPieces piece hrun
          rcases List.mem_cons.mp hbehind with rfl | hlater
          · simp [isKept, CqPiece.segment, meantSegment, hcode.kind_ne]
          · exact ih hrest [] piece hlater

theorem parseCq_of_cqPieces {fragments : List Fragment}
    (hplain : ∀ fragment ∈ fragments, fragment.Plain) {input : String}
    (hpieces : cqPieces input = .ok (meantPieces [] fragments)) :
    parseCq input = .ok ((meantPieces [] fragments).map CqPiece.segment) := by
  have hkept : ∀ segment ∈ (meantPieces [] fragments).map CqPiece.segment, isKept segment := by
    intro segment hsegment
    obtain ⟨piece, hpiece, rfl⟩ := List.mem_map.mp hsegment
    exact isKept_meantPieces hplain [] piece hpiece
  rw [parseCq, hpieces]
  exact congrArg Except.ok (List.filter_eq_self.mpr hkept)

end OneBot
end Lirvena
