import ApiContract.Source.PlainScalar
import ApiContract.Source.Reading
import ApiContract.TypeRef
/-!
# Reading values from source trees

A `Decoder` reads a value of some type from a source tree. Decoders read a tree in the order of the
text, so that of several faults in a text the first one is reported.

In a textual reading anchors are followed, up to a number of times that is the state of a
`Decoding`; what is skipped is not followed. Records are always written with their keys there, and
nothing at all serves as an empty collection.

* `Decoder.text`, `flag`, `word64`, `real`, `word`, `typeRef` : scalars.
* `Decoder.list`, `option`, `table`, `record`, `tagged` : compounds.
* `Reading.settle` : a part of a tree without anchors, to be read by its values.
* `Source.decode` : the value that a whole text holds.
-/

namespace ApiContract

/-- Why a tree does not read as the expected value. -/
inductive DecodeFault where
  | malformed
  | badNotation (error : NotationError)
deriving DecidableEq, Repr

/-- A reading that may fail; the state is how many more anchors may be followed. -/
abbrev Decoding := StateT Nat (Except DecodeFault)

/-- Reads a value from a tree. -/
def Decoder (α : Type) : Type := Reading → Tree → Decoding α

/-- Whether a field of a record may be absent: never, only where fields are named, or always. -/
inductive Presence where
  | required
  | nullable
  | defaulted
deriving DecidableEq, Repr

/-- Fails since a tree is not what is expected. -/
def Decoding.fail {α : Type} : Decoding α := throw .malformed

/-- Whether a scalar may be read by its text as what a tag says. -/
def Scalar.serves (s : Scalar) (tag : Tag) : Bool :=
  s.form == .plain || (s.form == .literal && s.tag == some tag)

/-- Whether a scalar without quotes is nothing, or a word for nothing. -/
def Scalar.isNothing (s : Scalar) : Bool := s.form == .plain && (s.text == "" || isNullWord s.text)

namespace Reading

/-- The reading of what lies inside a collection, unless that is nested too deeply. -/
def inner : Reading → Decoding Reading
  | .textual anchors (levels + 1) => pure (.textual anchors levels)
  | .textual _ 0 => .fail
  | mode => pure mode

/-- The tree itself, or the one that its anchor stands for. -/
def resolve : Reading → Tree → Decoding Tree
  | .textual anchors _, .anchored anchor => do
    match ← get, anchors.lookup anchor with
    | left + 1, some t =>
      set left
      return t
    | _, _ => .fail
  | _, .anchored _ => .fail
  | _, t => pure t

/-- A tree whose value is that of a scalar. -/
def settledScalar (s : Scalar) : Decoding Tree :=
  if s.atom = .other then .fail else pure (.scalar s)

/-- The tree without anchors, of so many levels at most; each scalar has a value of one of the known
sorts. Where `textKeys` is set, keys are texts. -/
def expand (anchors : Anchors) (textKeys : Bool) : Nat → Tree → Decoding Tree
  | 0, t => do
    match ← resolve (.textual anchors 0) t with
    | .scalar s => settledScalar s
    | _ => .fail
  | levels + 1, t => do
    match ← resolve (.textual anchors levels) t with
    | .scalar s => settledScalar s
    | .seq items => return .seq (← items.mapM fun t => expand anchors textKeys levels t)
    | .map entries =>
      return .map (← entries.mapM fun (k, v) => do
        let k ← if textKeys then key k else expand anchors textKeys levels k
        let v ← expand anchors textKeys levels v
        return (k, v))
    | _ => .fail
where
  /-- A key as a text. -/
  key (k : Tree) : Decoding Tree := do
    match ← resolve (.textual anchors 0) k with
    | .scalar s => return .ofText s.text
    | _ => .fail

/-- The tree without anchors, as long as it can be read without knowing what is expected of it. -/
def settle : Reading → Tree → Decoding Tree
  | .textual anchors levels, t => expand anchors false levels t
  | _, t => if t.canSettle then pure t else .fail

end Reading

namespace Decoder

variable {α β : Type}

/-- Reads a value and changes it. -/
def map (f : α → β) (d : Decoder α) : Decoder β := fun mode t => f <$> d mode t

/-- Reads nothing and gives a value, as long as the tree is whole. -/
def skip (a : α) : Decoder α := fun _ t => if t.isWhole then pure a else .fail

/-- A text. -/
def text : Decoder String := fun mode t => do
  match mode, ← mode.resolve t with
  | .textual .., .scalar s => return s.text
  | _, .scalar { atom := .text s, .. } => return s
  | _, _ => .fail

/-- A truth value. -/
def flag : Decoder Bool := fun mode t => do
  match mode, ← mode.resolve t with
  | .textual .., .scalar s =>
    match boolOfText? s.text with
    | some b => if s.serves .bool then return b else .fail
    | none => .fail
  | _, .scalar { atom := .bool b, .. } => return b
  | _, _ => .fail

/-- A natural number below a limit; in a text it has no minus sign. -/
def natBelow (limit : Nat) : Decoder Nat := fun mode t => do
  match mode, ← mode.resolve t with
  | .textual .., .scalar s =>
    match natOfSigned? s.text.toList with
    | some n => if s.serves .int && n < limit then return n else .fail
    | none => .fail
  | _, .scalar { atom := .int n, .. } => if 0 ≤ n ∧ n < limit then return n.toNat else .fail
  | _, _ => .fail

/-- A 64-bit natural number. -/
def word64 : Decoder UInt64 := (natBelow UInt64.size).map UInt64.ofNat

/-- A 16-bit natural number. -/
def word16 : Decoder UInt16 := (natBelow UInt16.size).map UInt16.ofNat

/-- A double; integers are rounded to doubles. -/
def real : Decoder Binary64 := fun mode t => do
  match mode, ← mode.resolve t with
  | .textual .., .scalar s =>
    match realOfText? s.text.toList with
    | some x => if s.serves .float then return x else .fail
    | none => .fail
  | _, .scalar { atom := .int n, .. } => return Binary64.ofInt n
  | _, .scalar { atom := .float x, .. } => return x
  | _, _ => .fail

/-- One of some values, each with its names. A name may also be the tag of nothing in a textual
reading, and by value the only key of a map with nothing behind it; in a buffered part, nothing may
be an empty map, and the place of a value may stand for its name. -/
def word (values : List α) (names : α → List String) : Decoder α := fun mode t => do
  let find (name : String) : Decoding α :=
    match values.find? fun a => (names a).contains name with
    | some a => pure a
    | none => .fail
  let named (s : Scalar) : Decoding α :=
    match s.atom, (mode.place? s).bind (values[·]?) with
    | .text name, _ => find name
    | _, some a => pure a
    | _, none => .fail
  match mode, ← mode.resolve t with
  | .textual .., .scalar s =>
    match s.tag with
    | some (.variant name) => if s.isNothing then find name else .fail
    | _ => find s.text
  | _, .scalar { atom := .text name, .. } => find name
  | _, .map [(.scalar s, .scalar { atom := .null, .. })] => named s
  | .buffered, .map [(.scalar s, .map [])] => named s
  | _, _ => .fail

/-- A type in its notation. -/
def typeRef : Decoder TypeRef := fun mode t => do
  match TypeRef.parse (← text mode t) with
  | .ok type => return type
  | .error error => throw (.badNotation error)

/-- A list of values. -/
def list (d : Decoder α) : Decoder (List α) := fun mode t => do
  match mode.collection (← mode.resolve t) with
  | .seq items =>
    let inner ← mode.inner
    items.mapM (d inner)
  | t => if mode.isBlank t then return [] else .fail

/-- A value that may be null. -/
def option (d : Decoder α) : Decoder (Option α) := fun mode t => do
  let t ← mode.resolve t
  match mode, t with
  | .textual .., .scalar s =>
    match s.tag with
    | none => if s.isNothing then return none else some <$> d mode t
    | some .null =>
      if s.form != .plain then some <$> d mode t
      else if isNullWord s.text then return none
      else .fail
    | some _ => some <$> d mode t
  | .textual .., t => some <$> d mode t
  | _, .scalar { atom := .null, .. } => return none
  | _, t => some <$> d mode t

/-- Adds entries to a table, of which a later one replaces an earlier one with its key. -/
def entriesInto (insert : β → String → α → β) (d : Decoder α) (mode : Reading) :
    β → List (Tree × Tree) → Decoding β
  | table, [] => pure table
  | table, (k, v) :: rest => do
    let key ← text mode k
    let value ← d mode v
    entriesInto insert d mode (insert table key value) rest

/-- A table built by an insertion. -/
def tableBy (insert : β → String → α → β) (empty : β) (d : Decoder α) : Decoder β :=
  fun mode t => do
    match mode.collection (← mode.resolve t) with
    | .map entries =>
      let inner ← mode.inner
      entriesInto insert d inner empty entries
    | t => if mode.isBlank t then return empty else .fail

/-- A table in the order of the text. -/
def table (d : Decoder α) : Decoder (Assoc String α) := tableBy Assoc.insert [] d

/-- A table in the order of its keys. -/
def sortedTable (d : Decoder α) : Decoder (Assoc String α) := tableBy Assoc.insertSorted [] d

/-- The field that a key names, in a buffered part also by its place. `none` is a key that names no
field. -/
def fieldName (slots : List (String × Presence)) (mode : Reading) (k : Tree) :
    Decoding (Option String) := do
  let known (name : String) : Option String := if slots.any (·.1 == name) then some name else none
  match mode, ← mode.resolve k with
  | .textual .., .scalar s => return known s.text
  | _, .scalar { atom := .text s, .. } => return known s
  | mode, .scalar s =>
    match mode.place? s with
    | some n => return (slots[n]?).map Prod.fst
    | none => .fail
  | _, _ => .fail

/-- Sets the fields of a record entry by entry. Entries that name no field are skipped; a field may
be named once. Gives the record and the fields that were named. -/
def fieldsInto (slots : List (String × Presence)) (set : α → String → Decoder α) (mode : Reading) :
    α → List String → List (Tree × Tree) → Decoding (α × List String)
  | record, named, [] => pure (record, named)
  | record, named, (k, v) :: rest => do
    match ← fieldName slots mode k with
    | none =>
      let record ← skip record mode v
      fieldsInto slots set mode record named rest
    | some name =>
      if name ∈ named then .fail
      else
        let record ← set record name mode v
        fieldsInto slots set mode record (name :: named) rest

/-- Sets the fields of a record in the order of the fields. -/
def itemsInto (set : α → String → Decoder α) (mode : Reading) :
    α → List (String × Presence) → List Tree → Decoding α
  | record, slots, [] => if slots.all (·.2 == .defaulted) then pure record else .fail
  | record, [], _ :: _ => if mode matches .lenient then pure record else .fail
  | record, (name, _) :: slots, t :: rest => do
    let record ← set record name mode t
    itemsInto set mode record slots rest

/-- A record: its fields with their presence, a blank record, and how each field is set. By value a
record may also be written as the list of its fields in order. -/
def record (slots : List (String × Presence)) (blank : α) (set : α → String → Decoder α) :
    Decoder α := fun mode t => do
  let complete (named : List String) : Bool :=
    slots.all fun slot => slot.2 != .required || named.contains slot.1
  match mode, mode.collection (← mode.resolve t) with
  | mode, .map entries =>
    let inner ← mode.inner
    let (record, named) ← fieldsInto slots set inner blank [] entries
    if complete named then return record else .fail
  | .textual .., t => if mode.isBlank t && complete [] then return blank else .fail
  | mode, .seq items => itemsInto set mode blank slots items
  | _, _ => .fail

/-- The values under a key, and all other entries. -/
def splitTag (tag : String) : List (Tree × Tree) → List Tree × List (Tree × Tree)
  | [] => ([], [])
  | (k, v) :: rest =>
    let (tags, others) := splitTag tag rest
    if isTag tag k then (v :: tags, others) else (tags, (k, v) :: others)
where
  /-- Whether a key is the tag. -/
  isTag (tag : String) : Tree → Bool
    | .scalar { atom := .text s, .. } => s == tag
    | _ => false

/-- The word that tells variants apart, and the rest, settled: the word stands under a key, or in
front of a list. -/
def tagParts (tag : String) (mode : Reading) (t : Tree) : Decoding (Tree × Tree) := do
  match t with
  | .map entries =>
    let settled ← entries.mapM fun (k, v) => do
      let k ← mode.settle k
      if splitTag.isTag tag k then return (k, v)
      let v ← mode.settle v
      return (k, v)
    match splitTag tag settled with
    | ([word], others) => return (word, .map others)
    | _ => .fail
  | .seq (word :: items) => return (word, .seq (← items.mapM mode.settle))
  | _ => .fail

/-- A value of one of several variants, told apart by the word under a key: `variant` gives the
decoder of the other entries for each word. The value may also be a list that starts with the
word. All of it but the word is read by value. -/
def tagged (tag : String) (variant : String → Option (Decoder α)) : Decoder α := fun mode t => do
  let t ← mode.resolve t
  let inner ← mode.inner
  let (word, rest) ← tagParts tag inner t
  match variant (← text inner word) with
  | some d => d .buffered rest
  | none => .fail

mutual

/-- The value of a tree without anchors; numbers without a JSON form become null, and of several
members with one key the last one counts. -/
def jsonOf : Tree → Decoding Json
  | .scalar s =>
    match s.atom with
    | .null => return .null
    | .bool b => return .bool b
    | .int n => return .int n
    | .float x => return if x.isFinite then .float x else .null
    | .text word => return .str word
    | .other => .fail
  | .seq items => return .arr (← jsonItems items)
  | .map entries => return .obj (← jsonMembers [] entries)
  | .marked _ => .fail
  | .anchored _ => .fail
  | .broken => .fail

/-- `jsonOf` on each tree of a list. -/
def jsonItems : List Tree → Decoding (List Json)
  | [] => return []
  | t :: rest => do
    let item ← jsonOf t
    let items ← jsonItems rest
    return item :: items

/-- Adds entries to members. -/
def jsonMembers (members : Assoc String Json) : List (Tree × Tree) → Decoding (Assoc String Json)
  | [] => return members
  | (k, v) :: rest => do
    let key ← text .typed k
    let value ← jsonOf v
    jsonMembers (members.insert key value) rest

end

/-- A value of any sort. -/
def json : Decoder Json := fun mode t => do
  match mode with
  | .textual anchors levels => jsonOf (← Reading.expand anchors true levels t)
  | _ => jsonOf t

/-- A variant without fields: entries beside its word are skipped, items behind it are not. -/
def unit (a : α) : Decoder α := fun _ t =>
  match t with
  | .seq (_ :: _) => .fail
  | _ => pure a

/-- The value that a tree reads as, following so many anchors at most. -/
def run (d : Decoder α) (mode : Reading) (t : Tree) (anchors : Nat) : Except DecodeFault α :=
  (d mode t).run' anchors

end Decoder

/-- The value that a text holds. -/
def Source.decode {α : Type} (s : Source) (d : Decoder α) : Except DecodeFault α :=
  match d.run s.reading s.tree s.anchors with
  | .ok a => if s.ended then .ok a else .error .malformed
  | .error fault => .error fault

end ApiContract
