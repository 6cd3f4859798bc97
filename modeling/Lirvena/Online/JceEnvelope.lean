import Lirvena.Online.JceSkip

/-!
# Reading the fields of an envelope

An envelope is fields up to the end of its input, and a struct is fields up to an
end of its own.  A loop takes each field into what it has read so far: a known tag
by its typed read, any other by a skip.

The loop reads back what a writer wrote, field by field: `Takes` says what the
known tags make of the values, and `foldFields_write` carries that through the
loop.  A body may lie deeper, in a byte string under the names of its parameter and
of its type.
-/

namespace Lirvena
namespace Online
namespace Jce

open Lib

namespace Reader

/-! ## The loop -/

section Fold

variable {σ : Type}

/-- How a known field is read, and put into what was read before. -/
inductive Field (σ : Type) where
  | integer (set : σ → Int64 → Except OnlinePacketError σ)
  | string (set : σ → String → Except OnlinePacketError σ)
  | bytes (set : σ → List UInt8 → Except OnlinePacketError σ)
  | integerList (maximum : Nat) (set : σ → List Int64 → Except OnlinePacketError σ)

def Field.shape : Field σ → Shape
  | .integer _ => .integer
  | .string _ => .string
  | .bytes _ => .bytes
  | .integerList maximum _ => .integerList maximum

def Field.set : Field σ → σ → Value → Except OnlinePacketError σ
  | .integer set, state, .integer value => set state value
  | .string set, state, .string value => set state value
  | .bytes set, state, .bytes value => set state value
  | .integerList _ set, state, .integerList values => set state values
  -- A read of the shape gives no other value.
  | _, _, _ => .error .rejected

-- whether the end of a struct is looked for, and the fields known by their tags
variable (inStruct : Bool) (known : UInt8 → Option (Field σ))

def takeField (state : σ) (head : Head) (unread : List UInt8) :
    Except OnlinePacketError (σ × List UInt8) :=
  match known head.tag with
  | some field => do
      let (value, rest) ← value head.kind unread field.shape
      let state ← field.set state value
      return (state, rest)
  | none => do
      let rest ← skip head.kind 0 unread
      return (state, rest)

/-- The end of the input, where a struct still misses its own. -/
def inputEnd (state : σ) : Except OnlinePacketError σ :=
  if inStruct then .error .rejected else .ok state

/-- Takes field after field.  Each round reads a head at least, so that a round for
every unread byte is enough. -/
def foldFields : Nat → σ → List UInt8 → Except OnlinePacketError σ
  | 0, state, unread => if unread = [] then inputEnd inStruct state else .error .rejected
  | rounds + 1, state, unread =>
      if unread = [] then inputEnd inStruct state
      else do
        let (head, rest) ← head unread
        if inStruct ∧ head.kind = Kind.structEnd then .ok state
        else do
          let (state, rest) ← takeField known state head rest
          foldFields rounds state rest

/-- The fields up to the end of the input. -/
def envelope (state : σ) (input : List UInt8) : Except OnlinePacketError σ :=
  foldFields false known input.length state input

/-- The fields between the begin and the end of a struct. -/
def struct (state : σ) (input : List UInt8) : Except OnlinePacketError σ := do
  let (head, rest) ← head input
  rejectIf .rejected (head.kind ≠ Kind.structBegin)
  foldFields true known rest.length state rest

variable {inStruct known} {state next last : σ} {unread rest : List UInt8}

theorem takeField_known {head : Head} {field : Field σ} (hknown : known head.tag = some field) :
    takeField known state head unread = .ok (next, rest) ↔
      ∃ read, value head.kind unread field.shape = .ok (read, rest) ∧
        field.set state read = .ok next := by
  unfold takeField
  rw [hknown]
  constructor
  · intro htake
    obtain ⟨⟨read, behind⟩, hread, hset⟩ := bind_eq_ok_iff.mp htake
    obtain ⟨result, hresult, hreturn⟩ := bind_eq_ok_iff.mp hset
    cases hreturn
    exact ⟨read, hread, hresult⟩
  · rintro ⟨read, hread, hset⟩
    exact bind_eq_ok_iff.mpr ⟨_, hread, bind_eq_ok_iff.mpr ⟨_, hset, rfl⟩⟩

theorem takeField_unknown {head : Head} (hknown : known head.tag = none) :
    takeField known state head unread = .ok (next, rest) ↔
      skip head.kind 0 unread = .ok rest ∧ next = state := by
  unfold takeField
  rw [hknown]
  constructor
  · intro htake
    obtain ⟨behind, hskip, hreturn⟩ := bind_eq_ok_iff.mp htake
    cases hreturn
    exact ⟨hskip, rfl⟩
  · rintro ⟨hskip, rfl⟩
    exact bind_eq_ok_iff.mpr ⟨_, hskip, rfl⟩

/-! ## Rounds -/

theorem local_string (kind : UInt8) : Local (string kind) := by
  unfold string
  exact (local_stringBytes kind).bind fun bytes => Local.after fun value => Local.pure _

theorem local_bytes (kind : UInt8) : Local (bytes kind) := by
  unfold bytes
  exact Local.ite (local_stringBytes kind) local_simpleList

theorem local_integers (count : Nat) : Local (integers count) := by
  induction count with
  | zero => exact Local.pure _
  | succ count ih =>
      refine Local.bind local_head fun found => ?_
      refine Local.bind (local_integer found.kind) fun value => ?_
      exact Local.bind ih fun values => Local.pure _

theorem local_integerList (kind : UInt8) (maximum : Nat) : Local (integerList kind maximum) := by
  unfold integerList
  refine Local.ite (Local.error _) ?_
  exact (local_collectionCount maximum).bind fun count => local_integers count

theorem local_value (kind : UInt8) (shape : Shape) :
    Local fun unread => value kind unread shape := by
  cases shape with
  | integer => exact (local_integer kind).bind fun value => Local.pure _
  | string => exact (local_string kind).bind fun value => Local.pure _
  | bytes => exact (local_bytes kind).bind fun value => Local.pure _
  | integerList maximum => exact (local_integerList kind maximum).bind fun values => Local.pure _

theorem local_takeField (known : UInt8 → Option (Field σ)) (state : σ) (head : Head) :
    Local (takeField known state head) := by
  intro unread result rest htake
  cases hknown : known head.tag with
  | some field =>
      obtain ⟨read, hread, hset⟩ := (takeField_known hknown).mp htake
      obtain ⟨front, rfl, hfront⟩ := local_value head.kind field.shape hread
      exact ⟨front, rfl, fun tail => (takeField_known hknown).mpr ⟨read, hfront tail, hset⟩⟩
  | none =>
      obtain ⟨hskip, rfl⟩ := (takeField_unknown hknown).mp htake
      obtain ⟨front, rfl, hbody⟩ := (skipLevels_skips _ _ _ _).mp hskip
      refine ⟨front, rfl, fun tail => (takeField_unknown hknown).mpr ⟨?_, rfl⟩⟩
      exact (skipLevels_skips _ _ _ _).mpr ⟨front, rfl, hbody⟩

theorem head_shorter {found : Head} (hhead : head unread = .ok (found, rest)) :
    rest.length < unread.length := by
  obtain ⟨first, rfl, hfirst⟩ := local_head.whole hhead
  have hpos := List.length_pos_iff.mpr (head_ne_nil hfirst)
  rw [List.length_append]
  omega

/-- Any two numbers of rounds that are enough give the same. -/
theorem foldFields_rounds {rounds more : Nat} (hrounds : unread.length ≤ rounds)
    (hmore : unread.length ≤ more) :
    foldFields inStruct known rounds state unread =
      foldFields inStruct known more state unread := by
  induction rounds generalizing more state unread with
  | zero =>
      obtain rfl := List.length_eq_zero_iff.mp (Nat.le_zero.mp hrounds)
      cases more <;> rfl
  | succ rounds ih =>
      cases more with
      | zero =>
          obtain rfl := List.length_eq_zero_iff.mp (Nat.le_zero.mp hmore)
          rfl
      | succ more =>
          unfold foldFields
          refine ite_congr rfl (fun _ => rfl) fun _ => ?_
          cases hhead : head unread with
          | error error => rfl
          | ok read =>
              have hshorter := head_shorter hhead
              refine ite_congr rfl (fun _ => rfl) fun _ => ?_
              cases htaken : takeField known state read.1 read.2 with
              | error error => rfl
              | ok taken =>
                  obtain ⟨front, hfront, -⟩ := local_takeField _ _ _ htaken
                  have hbehind := congrArg List.length hfront
                  rw [List.length_append] at hbehind
                  have hfewer : taken.2.length ≤ rounds := by omega
                  have hless : taken.2.length ≤ more := by omega
                  exact ih hfewer hless

/-! ## What the fields keep -/

theorem string_fits {kind : UInt8} {text : String}
    (hread : string kind unread = .ok (text, rest)) : text.utf8ByteSize ≤ maxValueLen := by
  obtain ⟨⟨bytes, behind⟩, hbytes, htext⟩ := bind_eq_ok_iff.mp hread
  obtain ⟨value, hvalue, hreturn⟩ := bind_eq_ok_iff.mp htext
  cases hreturn
  obtain ⟨length, -, hbytes⟩ := bind_eq_ok_iff.mp hbytes
  obtain ⟨⟨⟩, hreject, htake⟩ := bind_eq_ok_iff.mp hbytes
  obtain ⟨-, hlength⟩ := splitFront_eq_some_iff.mp (okOr_eq_ok_iff.mp htake)
  obtain rfl := fromUtf8_eq_some_iff.mp (okOr_eq_ok_iff.mp hvalue)
  rw [utf8Bytes_length] at hlength
  rw [hlength]
  exact Nat.not_lt.mp (rejectIf_eq_ok_iff.mp hreject)

/-- A field keeps a property of what was read, when a text is within its bound. -/
def Field.Keeps (keeps : σ → Prop) : Field σ → Prop
  | .integer set => ∀ state value next, keeps state → set state value = .ok next → keeps next
  | .string set => ∀ state value next, keeps state → value.utf8ByteSize ≤ maxValueLen →
      set state value = .ok next → keeps next
  | .bytes set => ∀ state value next, keeps state → set state value = .ok next → keeps next
  | .integerList _ set => ∀ state values next, keeps state → set state values = .ok next →
      keeps next

theorem Field.Keeps.set {keeps : σ → Prop} {field : Field σ} {kind : UInt8} {read : Value}
    (hkeeps : field.Keeps keeps) (hstate : keeps state)
    (hread : value kind unread field.shape = .ok (read, rest))
    (hset : field.set state read = .ok next) : keeps next := by
  cases field with
  | integer set =>
      obtain ⟨number, -, hreturn⟩ := bind_eq_ok_iff.mp hread
      cases hreturn
      exact hkeeps _ _ _ hstate hset
  | string set =>
      obtain ⟨⟨text, behind⟩, htext, hreturn⟩ := bind_eq_ok_iff.mp hread
      cases hreturn
      exact hkeeps _ _ _ hstate (string_fits htext) hset
  | bytes set =>
      obtain ⟨bytes, -, hreturn⟩ := bind_eq_ok_iff.mp hread
      cases hreturn
      exact hkeeps _ _ _ hstate hset
  | integerList maximum set =>
      obtain ⟨values, -, hreturn⟩ := bind_eq_ok_iff.mp hread
      cases hreturn
      exact hkeeps _ _ _ hstate hset

/-- What every known field keeps is kept by the loop. -/
theorem foldFields_preserves {keeps : σ → Prop}
    (hknown : ∀ tag field, known tag = some field → field.Keeps keeps) {rounds : Nat}
    (hstate : keeps state) (hfold : foldFields inStruct known rounds state unread = .ok last) :
    keeps last := by
  have hinput {state : σ} (hstate : keeps state)
      (hend : inputEnd inStruct state = .ok last) : keeps last := by
    unfold inputEnd at hend
    split at hend
    · cases hend
    · cases hend
      exact hstate
  have htake {state next : σ} {head : Head} {unread rest : List UInt8} (hstate : keeps state)
      (htaken : takeField known state head unread = .ok (next, rest)) : keeps next := by
    cases hfield : known head.tag with
    | some field =>
        obtain ⟨read, hread, hset⟩ := (takeField_known hfield).mp htaken
        exact (hknown _ _ hfield).set hstate hread hset
    | none =>
        obtain ⟨-, rfl⟩ := (takeField_unknown hfield).mp htaken
        exact hstate
  induction rounds generalizing state unread with
  | zero =>
      unfold foldFields at hfold
      split at hfold
      · exact hinput hstate hfold
      · cases hfold
  | succ rounds ih =>
      unfold foldFields at hfold
      split at hfold
      · exact hinput hstate hfold
      · obtain ⟨⟨found, behind⟩, -, hfold⟩ := bind_eq_ok_iff.mp hfold
        dsimp only at hfold
        split at hfold
        · cases hfold
          exact hstate
        · obtain ⟨⟨next, after⟩, htaken, hfold⟩ := bind_eq_ok_iff.mp hfold
          exact ih (htake hstate htaken) hfold

/-! ## What is written is taken -/

/-- A field in front of others, in a loop with rounds enough. -/
theorem foldFields_field {tag kind : UInt8} {body : List UInt8} {rounds : Nat}
    {result : Except OnlinePacketError σ} (hkind : kind < 16) (hend : kind ≠ Kind.structEnd)
    (htake : takeField known state ⟨tag, kind⟩ (body ++ rest) = .ok (next, rest))
    (hrest : ∀ rounds, rest.length ≤ rounds →
      foldFields inStruct known rounds next rest = result)
    (hrounds : (Writer.head tag kind ++ (body ++ rest)).length ≤ rounds) :
    foldFields inStruct known rounds state (Writer.head tag kind ++ (body ++ rest)) = result := by
  have hhead : head (Writer.head tag kind ++ (body ++ rest)) = .ok (⟨tag, kind⟩, body ++ rest) :=
    head_write hkind
  have hshorter := head_shorter hhead
  cases rounds with
  | zero => omega
  | succ rounds =>
      have hbehind : rest.length ≤ rounds := by
        rw [List.length_append] at hshorter
        omega
      unfold foldFields
      rw [if_neg (head_ne_nil hhead), hhead]
      simp only [bind, Except.bind, hend, and_false, if_false, htake]
      exact hrest rounds hbehind

/-- Values under their tags take what was read to something else: a known one is
within the bounds of its read, and of the others there are only integers. -/
inductive Takes (known : UInt8 → Option (Field σ)) : σ → List (UInt8 × Value) → σ → Prop where
  | nil {state : σ} : Takes known state [] state
  | known {state next last : σ} {tag : UInt8} {value : Value} {fields : List (UInt8 × Value)}
      {field : Field σ} (hknown : known tag = some field) (hfits : field.shape.Takes value)
      (hset : field.set state value = .ok next) (hrest : Takes known next fields last) :
      Takes known state ((tag, value) :: fields) last
  | unknown {state last : σ} {tag : UInt8} {value : Value} {fields : List (UInt8 × Value)}
      (shape : Shape) (hunknown : known tag = none)
      (hlist : ∀ maximum, shape ≠ .integerList maximum) (hfits : shape.Takes value)
      (hrest : Takes known state fields last) : Takes known state ((tag, value) :: fields) last

/-- A value that is no list is skipped as it is read. -/
theorem skip_value {kind : UInt8} {shape : Shape} {read : Value}
    (hlist : ∀ maximum, shape ≠ .integerList maximum)
    (hread : value kind unread shape = .ok (read, rest)) : skip kind 0 unread = .ok rest := by
  have hagree : SkipsAsRead kind 0 unread rest := skips_as_read (Nat.zero_le _) unread rest
  cases shape with
  | integer =>
      obtain ⟨number, hnumber, hreturn⟩ := bind_eq_ok_iff.mp hread
      cases hreturn
      exact skipLevels_integer hnumber
  | string =>
      obtain ⟨text, htext, hreturn⟩ := bind_eq_ok_iff.mp hread
      cases hreturn
      exact hagree.string _ htext
  | bytes =>
      obtain ⟨taken, hbytes, hreturn⟩ := bind_eq_ok_iff.mp hread
      cases hreturn
      refine (hagree.bytes ?_).mpr ⟨_, hbytes⟩
      unfold bytes at hbytes
      split at hbytes
      · obtain ⟨length, hlength, -⟩ := bind_eq_ok_iff.mp hbytes
        unfold stringLength at hlength
        split at hlength
        · simp
        · simp
        · cases hlength
      · next hkind => simp [not_not.mp hkind]
  | integerList maximum => exact absurd rfl (hlist maximum)

/-- No value has the kind of the end of a struct. -/
theorem value_ne_structEnd {kind : UInt8} {shape : Shape} {read : Value}
    (hread : value kind unread shape = .ok (read, rest)) : kind ≠ Kind.structEnd := by
  rintro rfl
  cases shape <;> cases hread

theorem foldFields_write {fields : List (UInt8 × Value)} {written : List UInt8} {rounds : Nat}
    {result : Except OnlinePacketError σ} (hfields : Takes known state fields last)
    (hwrite : Writer.fields fields = .ok written)
    (hrest : ∀ rounds, rest.length ≤ rounds →
      foldFields inStruct known rounds last rest = result)
    (hrounds : (written ++ rest).length ≤ rounds) :
    foldFields inStruct known rounds state (written ++ rest) = result := by
  induction hfields generalizing written rounds with
  | nil =>
      cases hwrite
      exact hrest rounds hrounds
  | known hknown hfits hset _ ih =>
      obtain ⟨front, hfront, hwrite⟩ := bind_eq_ok_iff.mp hwrite
      obtain ⟨others, hothers, hreturn⟩ := bind_eq_ok_iff.mp hwrite
      cases hreturn
      obtain ⟨kind, body, rfl, hkind, hread⟩ := value_write _ hfits hfront
      rw [List.append_assoc, List.append_assoc] at hrounds ⊢
      refine foldFields_field hkind (value_ne_structEnd (hread [])) ?_
        (fun rounds => ih hothers hrest) hrounds
      exact (takeField_known hknown).mpr ⟨_, hread (others ++ rest), hset⟩
  | unknown shape hunknown hlist hfits _ ih =>
      obtain ⟨front, hfront, hwrite⟩ := bind_eq_ok_iff.mp hwrite
      obtain ⟨others, hothers, hreturn⟩ := bind_eq_ok_iff.mp hwrite
      cases hreturn
      obtain ⟨kind, body, rfl, hkind, hread⟩ := value_write _ hfits hfront
      rw [List.append_assoc, List.append_assoc] at hrounds ⊢
      refine foldFields_field hkind (value_ne_structEnd (hread [])) ?_
        (fun rounds => ih hothers hrest) hrounds
      exact (takeField_unknown hunknown).mpr ⟨skip_value hlist (hread (others ++ rest)), rfl⟩

theorem skip_emptyMap : skip Kind.map 0 (Writer.integer 0 0 ++ rest) = .ok rest := by
  have hcount : collectionCount maxSkippedCount (Writer.integer 0 0 ++ rest) = .ok (0, rest) :=
    collectionCount_write rfl (Nat.zero_le _)
  exact bind_eq_ok_iff.mpr ⟨_, hcount, rfl⟩

/-- Values are read back from an envelope that ends with empty maps. -/
theorem envelope_write {fields : List (UInt8 × Value)} {written maps : List UInt8}
    (hfields : Takes known state fields last) (hwrite : Writer.fields fields = .ok written)
    (hmaps : ∀ tag ∈ maps, known tag = none) :
    envelope known state (written ++ maps.flatMap Writer.emptyMap) = .ok last := by
  have hends : ∀ rounds, (maps.flatMap Writer.emptyMap).length ≤ rounds →
      foldFields false known rounds last (maps.flatMap Writer.emptyMap) = .ok last := by
    induction maps with
    | nil =>
        intro rounds _
        cases rounds <;> rfl
    | cons tag maps ih =>
        intro rounds hrounds
        rw [List.flatMap_cons, Writer.emptyMap, List.append_assoc] at hrounds ⊢
        have hothers := ih fun other hother => hmaps other (List.mem_cons_of_mem _ hother)
        have htake : takeField known last ⟨tag, Kind.map⟩ (Writer.integer 0 0 ++
            maps.flatMap Writer.emptyMap) = .ok (last, maps.flatMap Writer.emptyMap) :=
          (takeField_unknown (hmaps tag List.mem_cons_self)).mpr ⟨skip_emptyMap, rfl⟩
        exact foldFields_field (by decide) (by decide) htake hothers hrounds
  exact foldFields_write hfields hwrite hends (Nat.le_refl _)

/-- Values are read back from a struct. -/
theorem struct_write {fields : List (UInt8 × Value)} {written : List UInt8} (tag : UInt8)
    (hfields : Takes known state fields last) (hwrite : Writer.fields fields = .ok written) :
    struct known state (Writer.head tag Kind.structBegin ++
      (written ++ Writer.head tag Kind.structEnd)) = .ok last := by
  have hend : ∀ rounds, (Writer.head tag Kind.structEnd).length ≤ rounds →
      foldFields true known rounds last (Writer.head tag Kind.structEnd) = .ok last := by
    intro rounds hrounds
    have hhead : head (Writer.head tag Kind.structEnd ++ []) = .ok (⟨tag, Kind.structEnd⟩, []) :=
      head_write (by decide)
    rw [List.append_nil] at hhead
    have hshorter := head_shorter hhead
    cases rounds with
    | zero => omega
    | succ rounds =>
        unfold foldFields
        rw [if_neg (head_ne_nil hhead), hhead]
        rfl
  refine bind_eq_ok_iff.mpr ⟨_, head_write (by decide), ?_⟩
  refine bind_eq_ok_iff.mpr ⟨(), rejectIf_eq_ok_iff.mpr (not_not.mpr rfl), ?_⟩
  exact foldFields_write hfields hwrite hend (Nat.le_refl _)

end Fold

/-! ## Named payloads -/

def maxNamedValues : Nat := 32

/-- The bodies of one parameter, each under its type.  The first one of the wanted
type ends the search, if the parameter is the wanted one. -/
def typedBodies (wanted : Bool) (typeName : String) : Nat → List UInt8 →
    Except OnlinePacketError (Option (List UInt8) × List UInt8)
  | 0, unread => .ok (none, unread)
  | count + 1, unread => do
      let (typeHead, rest) ← head unread
      let (currentType, rest) ← string typeHead.kind rest
      let (bodyHead, rest) ← head rest
      let (body, rest) ← bytes bodyHead.kind rest
      if wanted ∧ currentType = typeName then .ok (some body, rest)
      else typedBodies wanted typeName count rest

def namedBodies (parameterName typeName : String) : Nat → List UInt8 →
    Except OnlinePacketError (List UInt8)
  | 0, _ => .error .rejected
  | count + 1, unread => do
      let (keyHead, rest) ← head unread
      let (key, rest) ← string keyHead.kind rest
      let (valueHead, rest) ← head rest
      if valueHead.kind ≠ Kind.map then do
        let rest ← skip valueHead.kind 0 rest
        namedBodies parameterName typeName count rest
      else do
        let (types, rest) ← collectionCount maxNamedValues rest
        let (found, rest) ← typedBodies (key = parameterName) typeName types rest
        match found with
        | some body => .ok body
        | none => namedBodies parameterName typeName count rest

/-- The body of a parameter, in a map of maps from types to bodies. -/
def namedPayload (input : List UInt8) (parameterName typeName : String) :
    Except OnlinePacketError (List UInt8) := do
  let (head, rest) ← head input
  rejectIf .rejected (head.kind ≠ Kind.map)
  let (count, rest) ← collectionCount maxNamedValues rest
  namedBodies parameterName typeName count rest

end Reader

/-- One body under the names of its parameter and of its type. -/
def Writer.namedPayload (parameterName typeName : String) (payload : List UInt8) :
    Except OnlinePacketError (List UInt8) := do
  let name ← string 0 parameterName
  let typed ← string 0 typeName
  let body ← bytes 1 payload
  return head 0 Kind.map ++ (integer 0 1 ++ (name ++ (head 1 Kind.map ++
    (integer 0 1 ++ (typed ++ body)))))

namespace Reader

theorem typedBodies_write {typeName currentType : String} {wanted : Bool}
    {typed payload body : List UInt8} (htyped : Writer.string 0 currentType = .ok typed)
    (htype : currentType.utf8ByteSize ≤ maxValueLen) (hbody : Writer.bytes 1 payload = .ok body)
    (hpayload : payload.length ≤ maxValueLen) :
    typedBodies wanted typeName 1 (typed ++ body) =
      .ok (if wanted ∧ currentType = typeName then some payload else none, []) := by
  obtain ⟨typeKind, typeBody, rfl, htypeKind, htypeRead⟩ := string_write 0 htyped htype
  obtain ⟨kind, bytesBody, rfl, hkind, hread⟩ := bytes_write 1 hbody hpayload
  have hwhole : bytes kind bytesBody = .ok (payload, []) := by simpa using hread []
  simp only [typedBodies, List.append_assoc, head_write htypeKind, htypeRead, head_write hkind,
    hwhole, bind, Except.bind]
  split <;> rfl

/-- The one body that was written is found under its own names only. -/
theorem namedPayload_write (parameterName typeName : String) {key currentType : String}
    {payload written : List UInt8}
    (hwrite : Writer.namedPayload key currentType payload = .ok written)
    (hkey : key.utf8ByteSize ≤ maxValueLen) (htype : currentType.utf8ByteSize ≤ maxValueLen)
    (hpayload : payload.length ≤ maxValueLen) :
    namedPayload written parameterName typeName =
      if key = parameterName ∧ currentType = typeName then .ok payload else .error .rejected := by
  obtain ⟨name, hname, hwrite⟩ := bind_eq_ok_iff.mp hwrite
  obtain ⟨typed, htyped, hwrite⟩ := bind_eq_ok_iff.mp hwrite
  obtain ⟨body, hbody, hreturn⟩ := bind_eq_ok_iff.mp hwrite
  cases hreturn
  obtain ⟨kind, keyBody, rfl, hkind, hkeyRead⟩ := string_write 0 hname hkey
  have hcount (rest : List UInt8) :
      collectionCount maxNamedValues (Writer.integer 0 1 ++ rest) = .ok (1, rest) :=
    collectionCount_write rfl (by decide)
  have htypes (wanted : Bool) : typedBodies wanted typeName 1 (typed ++ body) =
      .ok (if wanted ∧ currentType = typeName then some payload else none, []) :=
    typedBodies_write htyped htype hbody hpayload
  simp only [namedPayload, List.append_assoc, head_write (show Kind.map < 16 by decide), hcount,
    namedBodies, head_write hkind, hkeyRead, bind, Except.bind, rejectIf, not_true_eq_false,
    ne_eq, if_false, htypes]
  by_cases hwanted : key = parameterName ∧ currentType = typeName
  · simp [hwanted]
  · simp [hwanted]

end Reader

/-! ## Lengths -/

namespace Writer

theorem head_length_le (tag kind : UInt8) : (head tag kind).length ≤ 2 := by
  unfold head
  split <;> simp

theorem integer_length_le (tag : UInt8) (value : Int64) : (integer tag value).length ≤ 10 := by
  have hhead := head_length_le tag
  unfold integer
  split
  · exact (hhead _).trans (by decide)
  all_goals
    repeat' split
    all_goals
      rw [List.length_append, signedBytes_length]
      have hone := hhead Kind.byte
      have htwo := hhead Kind.short
      have hfour := hhead Kind.int
      have height := hhead Kind.long
      omega

theorem bytes_length_le {tag : UInt8} {value written : List UInt8}
    (hwrite : bytes tag value = .ok written) : written.length ≤ value.length + 14 := by
  obtain ⟨length, -, hreturn⟩ := bind_eq_ok_iff.mp hwrite
  cases hreturn
  have houter := head_length_le tag Kind.simpleList
  have hinner := head_length_le 0 Kind.byte
  have hlength := integer_length_le 0 length
  simp only [List.length_append]
  omega

theorem string_length_le {tag : UInt8} {value : String} {written : List UInt8}
    (hwrite : string tag value = .ok written) : written.length ≤ value.utf8ByteSize + 6 := by
  unfold string at hwrite
  have hone := head_length_le tag Kind.stringOne
  have hfour := head_length_le tag Kind.stringFour
  split at hwrite
  · cases hwrite
    simp only [List.length_append, List.length_singleton, utf8Bytes_length]
    omega
  split at hwrite
  · cases hwrite
    simp only [List.length_append, beBytes_length, utf8Bytes_length]
    omega
  · cases hwrite

theorem integers_length_le (values : List Int64) :
    (values.flatMap (integer 0)).length ≤ values.length * 10 := by
  induction values with
  | nil => exact Nat.le_refl _
  | cons value values ih =>
      have hvalue := integer_length_le 0 value
      rw [List.flatMap_cons, List.length_append, List.length_cons, Nat.succ_mul]
      omega

/-- More than enough bytes for a value behind its head. -/
def room : Value → Nat
  | .integer _ => 10
  | .string value => value.utf8ByteSize + 6
  | .bytes value => value.length + 14
  | .integerList values => 12 + values.length * 10

theorem value_length_le {tag : UInt8} {value : Value} {written : List UInt8}
    (hwrite : Writer.value tag value = .ok written) : written.length ≤ room value := by
  cases value with
  | integer value =>
      cases hwrite
      exact integer_length_le tag value
  | string value => exact string_length_le hwrite
  | bytes value => exact bytes_length_le hwrite
  | integerList values =>
      obtain ⟨length, -, hreturn⟩ := bind_eq_ok_iff.mp hwrite
      cases hreturn
      have hhead := head_length_le tag Kind.list
      have hlength := integer_length_le 0 length
      have hvalues := integers_length_le values
      simp only [List.length_append, room]
      omega

theorem fields_length_le {fields : List (UInt8 × Value)} {written : List UInt8}
    (hwrite : Writer.fields fields = .ok written) :
    written.length ≤ (fields.map fun field => room field.2).sum := by
  induction fields generalizing written with
  | nil =>
      cases hwrite
      exact Nat.le_refl _
  | cons field fields ih =>
      obtain ⟨front, hfront, hwrite⟩ := bind_eq_ok_iff.mp hwrite
      obtain ⟨others, hothers, hreturn⟩ := bind_eq_ok_iff.mp hwrite
      cases hreturn
      have hfrontLe := value_length_le hfront
      have hothersLe := ih hothers
      rw [List.length_append, List.map_cons, List.sum_cons]
      omega

theorem namedPayload_length_le {key currentType : String} {payload written : List UInt8}
    (hwrite : namedPayload key currentType payload = .ok written) :
    written.length ≤ key.utf8ByteSize + currentType.utf8ByteSize + payload.length + 50 := by
  obtain ⟨name, hname, hwrite⟩ := bind_eq_ok_iff.mp hwrite
  obtain ⟨typed, htyped, hwrite⟩ := bind_eq_ok_iff.mp hwrite
  obtain ⟨body, hbody, hreturn⟩ := bind_eq_ok_iff.mp hwrite
  cases hreturn
  have hnameLe := string_length_le hname
  have htypedLe := string_length_le htyped
  have hbodyLe := bytes_length_le hbody
  have houter := head_length_le 0 Kind.map
  have hinner := head_length_le 1 Kind.map
  have hone := integer_length_le 0 1
  simp only [List.length_append]
  omega

end Writer

end Jce
end Online
end Lirvena
