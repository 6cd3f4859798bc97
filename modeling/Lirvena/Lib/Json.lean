import Lirvena.Lib.Text
import Mathlib.Algebra.BigOperators.Group.List.Basic
import Mathlib.Algebra.GroupWithZero.Nat

/-!
# JSON values

The values of `serde_json`, their objects sorted by key, and the compact text
that `to_string` and `to_vec` write.  `renderedLen` is the length of that text
in bytes; `render_utf8ByteSize` proves it, so that a limit on the text is a
limit on a sum over the value.
-/

namespace Lirvena
namespace Lib

/-- A JSON value.  A number that is not an integer is kept as its literal. -/
inductive Json where
  | null
  | bool (value : Bool)
  | integer (value : Int)
  | decimal (literal : String)
  | string (value : String)
  | array (items : List Json)
  | object (fields : List (String × Json))

namespace Json

/-! ## Objects -/

/-- `Map::insert`: the fields are sorted by key, and a key occurs once. -/
def insertField (key : String) (value : Json) :
    List (String × Json) → List (String × Json)
  | [] => [(key, value)]
  | (other, old) :: rest =>
      if key = other then (key, value) :: rest
      else if key < other then (key, value) :: (other, old) :: rest
      else (other, old) :: insertField key value rest

/-- The `json!` object with the given fields. -/
def ofFields (fields : List (String × Json)) : Json :=
  .object (fields.foldl (fun sorted field => insertField field.1 field.2 sorted) [])

def asObject : Json → Option (List (String × Json))
  | .object fields => some fields
  | _ => none

def asStr : Json → Option String
  | .string value => some value
  | _ => none

/-- `Value::get` with a key. -/
def get (key : String) : Json → Option Json
  | .object fields => fields.lookup key
  | _ => none

/-- `Value::pointer` through objects. -/
def pointer (json : Json) : List String → Option Json
  | [] => some json
  | key :: rest => (json.get key).bind (fun child => child.pointer rest)

theorem isSome_asObject_ofFields (fields : List (String × Json)) :
    (ofFields fields).asObject.isSome = true := rfl

theorem lookup_cons_eq_ite (other key : String) (value : Json) (rest : List (String × Json)) :
    ((key, value) :: rest).lookup other =
      if other = key then some value else rest.lookup other := by
  by_cases hkey : other = key
  · simp [hkey]
  · have hbeq : (other == key) = false := by simpa using hkey
    simp [List.lookup_cons, hbeq, hkey]

theorem lookup_insertField {key : String} {value : Json} {fields : List (String × Json)}
    (other : String) :
    (insertField key value fields).lookup other =
      if other = key then some value else fields.lookup other := by
  induction fields with
  | nil => rw [insertField, lookup_cons_eq_ite]
  | cons field rest ih =>
      obtain ⟨name, old⟩ := field
      rw [insertField, lookup_cons_eq_ite]
      split
      · next hname =>
          subst hname
          rw [lookup_cons_eq_ite]
          split <;> rfl
      · next hname =>
          split
          · rw [lookup_cons_eq_ite, lookup_cons_eq_ite]
          · rw [lookup_cons_eq_ite, ih]
            -- the two keys differ, so that the tests can be swapped
            by_cases hother : other = name
            · have hne : other ≠ key := fun heq => hname (heq.symm.trans hother)
              rw [if_pos hother, if_neg hne, if_pos hother]
            · rw [if_neg hother, if_neg hother]

/-! ## The compact text -/

def backslash : Char := Char.ofNat 0x5c

def quotationMark : Char := Char.ofNat 0x22

/-- The letter of a two-character escape. -/
def shortEscape (char : Char) : Option Char :=
  match char.toNat with
  | 0x22 => some quotationMark
  | 0x5c => some backslash
  | 0x08 => some 'b'
  | 0x0c => some 'f'
  | 0x0a => some 'n'
  | 0x0d => some 'r'
  | 0x09 => some 't'
  | _ => none

def escapeChar (char : Char) : List Char :=
  match shortEscape char with
  | some letter => [backslash, letter]
  | none =>
      if char.toNat < 0x20 then
        [backslash, 'u', '0', '0', lowerHexDigit (char.toNat / 16),
          lowerHexDigit (char.toNat % 16)]
      else
        [char]

def textChars (text : String) : List Char :=
  quotationMark :: text.toList.flatMap escapeChar ++ [quotationMark]

def integerChars : Int → List Char
  | .ofNat value => Nat.toDigits 10 value
  | .negSucc value => '-' :: Nat.toDigits 10 (value + 1)

mutual

def chars : Json → List Char
  | .null => ['n', 'u', 'l', 'l']
  | .bool true => ['t', 'r', 'u', 'e']
  | .bool false => ['f', 'a', 'l', 's', 'e']
  | .integer value => integerChars value
  | .decimal literal => literal.toList
  | .string value => textChars value
  | .array items => '[' :: itemsChars items ++ [']']
  | .object fields => '{' :: fieldsChars fields ++ ['}']

def itemsChars : List Json → List Char
  | [] => []
  | item :: rest => item.chars ++ moreItemsChars rest

def moreItemsChars : List Json → List Char
  | [] => []
  | item :: rest => ',' :: item.chars ++ moreItemsChars rest

def fieldsChars : List (String × Json) → List Char
  | [] => []
  | (key, value) :: rest => textChars key ++ ':' :: value.chars ++ moreFieldsChars rest

def moreFieldsChars : List (String × Json) → List Char
  | [] => []
  | (key, value) :: rest => ',' :: textChars key ++ ':' :: value.chars ++ moreFieldsChars rest

end

/-- `to_string` on an integer. -/
def decimalText (value : Int) : String :=
  String.ofList (integerChars value)

/-- `serde_json::to_string`. -/
def render (json : Json) : String :=
  String.ofList json.chars

/-! ## The length of the text -/

def escapedLen (char : Char) : Nat :=
  if (shortEscape char).isSome then 2
  else if char.toNat < 0x20 then 6
  else char.utf8Size

/-- The length of a quoted string. -/
def textLen (text : String) : Nat :=
  2 + (text.toList.map escapedLen).sum

def integerLen (value : Int) : Nat :=
  (integerChars value).length

mutual

/-- The length of the compact text in bytes. -/
def renderedLen : Json → Nat
  | .null => 4
  | .bool true => 4
  | .bool false => 5
  | .integer value => integerLen value
  | .decimal literal => literal.utf8ByteSize
  | .string value => textLen value
  | .array items => 2 + itemsLen items + (items.length - 1)
  | .object fields => 2 + fieldsLen fields + (fields.length - 1)

def itemsLen : List Json → Nat
  | [] => 0
  | item :: rest => item.renderedLen + itemsLen rest

def fieldsLen : List (String × Json) → Nat
  | [] => 0
  | (key, value) :: rest => textLen key + 1 + value.renderedLen + fieldsLen rest

end

/-- The number of bytes of the UTF-8 encoding. -/
def utf8Len (chars : List Char) : Nat :=
  (chars.map Char.utf8Size).sum

@[simp] theorem utf8Len_nil : utf8Len [] = 0 := rfl

@[simp] theorem utf8Len_cons (char : Char) (rest : List Char) :
    utf8Len (char :: rest) = char.utf8Size + utf8Len rest := by
  simp [utf8Len]

@[simp] theorem utf8Len_append (first second : List Char) :
    utf8Len (first ++ second) = utf8Len first + utf8Len second := by
  simp [utf8Len]

theorem utf8ByteSize_ofList (chars : List Char) :
    (String.ofList chars).utf8ByteSize = utf8Len chars := by
  induction chars with
  | nil => simp
  | cons char rest ih =>
      have hsplit : String.ofList (char :: rest) =
          String.singleton char ++ String.ofList rest := by
        rw [← List.singleton_append, String.ofList_append]
        rfl
      rw [hsplit, String.utf8ByteSize_append, String.utf8ByteSize_singleton, ih, utf8Len_cons]

theorem utf8Len_toList (text : String) : utf8Len text.toList = text.utf8ByteSize := by
  rw [← utf8ByteSize_ofList, String.ofList_toList]

theorem utf8Size_of_lt {char : Char} (hascii : char.toNat < 0x80) : char.utf8Size = 1 := by
  have hval : char.val ≤ 0x7f := by
    rw [UInt32.le_iff_toNat_le]
    exact Nat.le_of_lt_succ hascii
  simp [Char.utf8Size, hval]

theorem lowerHexDigit_utf8Size (value : Nat) (hvalue : value < 16) :
    (lowerHexDigit value).utf8Size = 1 := by
  have hall : ∀ digit : Fin 16, (lowerHexDigit digit).utf8Size = 1 := by decide
  exact hall ⟨value, hvalue⟩

theorem shortEscape_utf8Size {char letter : Char} (hescape : shortEscape char = some letter) :
    letter.utf8Size = 1 := by
  unfold shortEscape at hescape
  split at hescape
  all_goals first
    | cases hescape
      decide
    | cases hescape

theorem utf8Len_escapeChar (char : Char) : utf8Len (escapeChar char) = escapedLen char := by
  have hbackslash : backslash.utf8Size = 1 := by decide
  unfold escapeChar escapedLen
  cases hescape : shortEscape char with
  | some letter =>
      have hletter := shortEscape_utf8Size hescape
      simp [hbackslash, hletter]
  | none =>
      by_cases hcontrol : char.toNat < 0x20
      · have hhigh := lowerHexDigit_utf8Size (char.toNat / 16) (by omega)
        have hlow := lowerHexDigit_utf8Size (char.toNat % 16) (by omega)
        have hu : ('u' : Char).utf8Size = 1 := by decide
        have hzero : ('0' : Char).utf8Size = 1 := by decide
        simp [hcontrol, hbackslash, hhigh, hlow, hu, hzero]
      · simp [hcontrol]

theorem utf8Len_textChars (text : String) : utf8Len (textChars text) = textLen text := by
  have hquote : quotationMark.utf8Size = 1 := by decide
  have hescaped : ∀ chars : List Char,
      utf8Len (chars.flatMap escapeChar) = (chars.map escapedLen).sum := by
    intro chars
    induction chars with
    | nil => rfl
    | cons char rest ih => simp [ih, utf8Len_escapeChar]
  unfold textChars textLen
  rw [utf8Len_append, utf8Len_cons, hescaped, utf8Len_cons, utf8Len_nil, hquote]
  omega

theorem utf8Len_integerChars (value : Int) : utf8Len (integerChars value) = integerLen value := by
  have hdigits : ∀ chars : List Char, (∀ char ∈ chars, char.isDigit) →
      utf8Len chars = chars.length := by
    intro chars hall
    induction chars with
    | nil => rfl
    | cons char rest ih =>
        have hdigit : char.isDigit = true := hall char (by simp)
        have hsmall : char.toNat < 0x80 := by
          simp only [Char.isDigit, Bool.and_eq_true, decide_eq_true_eq,
            UInt32.le_iff_toNat_le] at hdigit
          have hhigh : char.val.toNat ≤ 57 := hdigit.2
          show char.val.toNat < 128
          omega
        rw [utf8Len_cons, utf8Size_of_lt hsmall,
          ih (fun other hother => hall other (by simp [hother])), List.length_cons]
        omega
  have hnat : ∀ number : Nat,
      utf8Len (Nat.toDigits 10 number) = (Nat.toDigits 10 number).length := by
    intro number
    apply hdigits
    intro char hchar
    exact Nat.isDigit_of_mem_toDigits (by omega) (by omega) hchar
  cases value with
  | ofNat number => exact hnat number
  | negSucc number =>
      have hminus : ('-' : Char).utf8Size = 1 := by decide
      show utf8Len ('-' :: Nat.toDigits 10 (number + 1)) =
        ('-' :: Nat.toDigits 10 (number + 1)).length
      rw [utf8Len_cons, hnat, hminus, List.length_cons]
      omega

mutual

theorem utf8Len_chars : ∀ json : Json, utf8Len json.chars = json.renderedLen
  | .null => by decide
  | .bool true => by decide
  | .bool false => by decide
  | .integer value => utf8Len_integerChars value
  | .decimal literal => utf8Len_toList literal
  | .string value => utf8Len_textChars value
  | .array items => by
      have hopen : ('[' : Char).utf8Size = 1 := by decide
      have hclose : (']' : Char).utf8Size = 1 := by decide
      have hitems := utf8Len_itemsChars items
      simp only [chars, renderedLen, utf8Len_append, utf8Len_cons, utf8Len_nil, hopen, hclose]
      omega
  | .object fields => by
      have hopen : ('{' : Char).utf8Size = 1 := by decide
      have hclose : ('}' : Char).utf8Size = 1 := by decide
      have hfields := utf8Len_fieldsChars fields
      simp only [chars, renderedLen, utf8Len_append, utf8Len_cons, utf8Len_nil, hopen, hclose]
      omega

theorem utf8Len_itemsChars : ∀ items : List Json,
    utf8Len (itemsChars items) = itemsLen items + (items.length - 1)
  | [] => by rfl
  | item :: rest => by
      have hitem := utf8Len_chars item
      have hrest := utf8Len_moreItemsChars rest
      simp only [itemsChars, itemsLen, utf8Len_append, List.length_cons]
      omega

theorem utf8Len_moreItemsChars : ∀ items : List Json,
    utf8Len (moreItemsChars items) = itemsLen items + items.length
  | [] => by rfl
  | item :: rest => by
      have hcomma : (',' : Char).utf8Size = 1 := by decide
      have hitem := utf8Len_chars item
      have hrest := utf8Len_moreItemsChars rest
      simp only [moreItemsChars, itemsLen, utf8Len_append, utf8Len_cons, List.length_cons, hcomma]
      omega

theorem utf8Len_fieldsChars : ∀ fields : List (String × Json),
    utf8Len (fieldsChars fields) = fieldsLen fields + (fields.length - 1)
  | [] => by rfl
  | (key, value) :: rest => by
      have hcolon : (':' : Char).utf8Size = 1 := by decide
      have hkey := utf8Len_textChars key
      have hvalue := utf8Len_chars value
      have hrest := utf8Len_moreFieldsChars rest
      simp only [fieldsChars, fieldsLen, utf8Len_append, utf8Len_cons, List.length_cons, hcolon]
      omega

theorem utf8Len_moreFieldsChars : ∀ fields : List (String × Json),
    utf8Len (moreFieldsChars fields) = fieldsLen fields + fields.length
  | [] => by rfl
  | (key, value) :: rest => by
      have hcomma : (',' : Char).utf8Size = 1 := by decide
      have hcolon : (':' : Char).utf8Size = 1 := by decide
      have hkey := utf8Len_textChars key
      have hvalue := utf8Len_chars value
      have hrest := utf8Len_moreFieldsChars rest
      simp only [moreFieldsChars, fieldsLen, utf8Len_append, utf8Len_cons, List.length_cons,
        hcomma, hcolon]
      omega

end

/-- `renderedLen` is the length of the compact text in bytes. -/
theorem render_utf8ByteSize (json : Json) : json.render.utf8ByteSize = json.renderedLen := by
  rw [render, utf8ByteSize_ofList, utf8Len_chars]

/-! ## The length of an object -/

/-- A key behind all the others is inserted at the end. -/
theorem insertField_last {key : String} {value : Json} {fields : List (String × Json)}
    (hlast : ∀ other ∈ fields.map Prod.fst, other < key) :
    insertField key value fields = fields ++ [(key, value)] := by
  induction fields with
  | nil => rfl
  | cons field rest ih =>
      obtain ⟨other, old⟩ := field
      have hfirst : other < key := hlast other List.mem_cons_self
      rw [insertField, if_neg (String.ne_of_lt hfirst).symm, if_neg (String.lt_asymm hfirst),
        ih fun later hlater => hlast later (List.mem_cons_of_mem other hlater)]
      rfl

theorem insertField_perm {key : String} (value : Json) {fields : List (String × Json)}
    (habsent : key ∉ fields.map Prod.fst) :
    (insertField key value fields).Perm ((key, value) :: fields) := by
  induction fields with
  | nil => exact List.Perm.refl _
  | cons field rest ih =>
      obtain ⟨other, old⟩ := field
      have hne : key ≠ other := by
        rintro rfl
        exact habsent (by simp)
      have hrest : key ∉ rest.map Prod.fst := by
        intro hmem
        exact habsent (List.mem_cons_of_mem _ hmem)
      unfold insertField
      rw [if_neg hne]
      split
      · exact List.Perm.refl _
      · exact ((ih hrest).cons _).trans (List.Perm.swap _ _ _)

theorem foldl_insertField_perm (fields sorted : List (String × Json))
    (hkeys : ((sorted ++ fields).map Prod.fst).Nodup) :
    (fields.foldl (fun sorted field => insertField field.1 field.2 sorted) sorted).Perm
      (sorted ++ fields) := by
  induction fields generalizing sorted with
  | nil => simp
  | cons field rest ih =>
      have hperm : (sorted ++ field :: rest).Perm (field :: sorted ++ rest) :=
        List.perm_middle
      have hcons : ((field :: sorted ++ rest).map Prod.fst).Nodup :=
        (hperm.map Prod.fst).nodup_iff.mp hkeys
      have habsent : field.1 ∉ sorted.map Prod.fst := by
        intro hmem
        simp only [List.cons_append, List.map_cons, List.nodup_cons, List.map_append,
          List.mem_append] at hcons
        exact hcons.1 (.inl hmem)
      have hinsert := insertField_perm field.2 habsent
      have hnext : ((insertField field.1 field.2 sorted ++ rest).map Prod.fst).Nodup :=
        (((hinsert.append_right rest).map Prod.fst).nodup_iff).mpr hcons
      exact (ih _ hnext).trans ((hinsert.append_right rest).trans hperm.symm)

theorem fieldsLen_eq_sum (fields : List (String × Json)) :
    fieldsLen fields =
      (fields.map (fun field => textLen field.1 + 1 + field.2.renderedLen)).sum := by
  induction fields with
  | nil => rfl
  | cons field rest ih =>
      obtain ⟨key, value⟩ := field
      simp [fieldsLen, ih]

theorem fieldsLen_perm {first second : List (String × Json)} (hperm : first.Perm second) :
    fieldsLen first = fieldsLen second := by
  rw [fieldsLen_eq_sum, fieldsLen_eq_sum]
  exact (hperm.map _).sum_eq

/-- The bytes of an object around its values. -/
def objectFrame (keys : List String) : Nat :=
  2 + (keys.map (fun key => textLen key + 1)).sum + (keys.length - 1)

/-- The text of an object is its frame and its values, whatever their order. -/
theorem renderedLen_ofFields {fields : List (String × Json)}
    (hkeys : (fields.map Prod.fst).Nodup) :
    (ofFields fields).renderedLen =
      objectFrame (fields.map Prod.fst) + (fields.map (fun field => field.2.renderedLen)).sum := by
  have hperm := foldl_insertField_perm fields [] (by simpa using hkeys)
  rw [List.nil_append] at hperm
  have hsum : ∀ rest : List (String × Json), fieldsLen rest =
      ((rest.map Prod.fst).map (fun key => textLen key + 1)).sum +
        (rest.map (fun field => field.2.renderedLen)).sum := by
    intro rest
    induction rest with
    | nil => rfl
    | cons field rest ih =>
        obtain ⟨key, value⟩ := field
        simp only [fieldsLen, List.map_cons, List.sum_cons, ih]
        omega
  rw [ofFields, renderedLen, fieldsLen_perm hperm, hperm.length_eq, hsum, objectFrame,
    List.length_map]
  omega

@[simp] theorem renderedLen_string (value : String) :
    (Json.string value).renderedLen = textLen value := by
  rw [renderedLen]

@[simp] theorem renderedLen_integer (value : Int) :
    (Json.integer value).renderedLen = integerLen value := by
  rw [renderedLen]

theorem renderedLen_array (items : List Json) :
    (Json.array items).renderedLen =
      2 + (items.map renderedLen).sum + (items.length - 1) := by
  have hsum : ∀ rest : List Json, itemsLen rest = (rest.map renderedLen).sum := by
    intro rest
    induction rest with
    | nil => rfl
    | cons item rest ih => simp [itemsLen, ih]
  rw [renderedLen, hsum]

end Json
end Lib
end Lirvena
