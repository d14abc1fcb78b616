import ApiContract.Text.Blank
import ApiContract.Text.Split
/-!
# Value types and their notation

A `TypeRef` is the type of a field, a parameter or a return value. It is written in a compact
notation: keywords for primitive and special kinds, `?` behind a primitive for its boxed variant,
`[]` behind an element type for arrays, `list<…>`, `map<…>`, `envelope<…>` and `opaque<…>` around an
argument, and otherwise a qualified name.

* `TypeRef.write` : the canonical notation.
* `TypeRef.parse` : reads a notation, blanks allowed around each part. It recurses on texts that
  get shorter.
* `NotationError` : what is wrong with a text that is no notation, and the text at fault.
-/

namespace ApiContract

open Text

/-- Scalar kinds. Each has an unboxed and a boxed variant, except that texts are always boxed. -/
inductive Primitive where
  | int32
  | int64
  | float
  | double
  | boolean
  | string
deriving DecidableEq, Repr, Inhabited

namespace Primitive

/-- All kinds. -/
def all : List Primitive := [.int32, .int64, .float, .double, .boolean, .string]

/-- The keyword of a kind. -/
def keyword : Primitive → String
  | .int32 => "int32"
  | .int64 => "int64"
  | .float => "float"
  | .double => "double"
  | .boolean => "boolean"
  | .string => "string"

/-- The kind with a keyword. -/
def ofKeyword? (text : String) : Option Primitive := all.find? (·.keyword == text)

end Primitive

/-- The type of a value. `foreign` is a type of the host program that no schema describes. -/
inductive TypeRef where
  | primitive (kind : Primitive) (boxed : Bool)
  | date
  | dateTime
  | uuid
  | file
  | void
  | list (element : TypeRef)
  | array (element : TypeRef)
  | map (value : TypeRef)
  | envelope (inner : TypeRef)
  | foreign (text : String)
  | named (name : String)
deriving DecidableEq, Repr, Inhabited

/-- Why a text is no notation of a type. `stated` is a reason that a caller words. -/
inductive NotationFault where
  | stated (reason : String)
  | emptyType
  | unterminatedArgument
  | emptyArgument
  | unknownWrapper (head : String)
  | notBoxable
  | notAName
deriving DecidableEq, Repr

/-- A text that is no notation of a type, and why. -/
structure NotationError where
  text : String
  fault : NotationFault
deriving DecidableEq, Repr

/-- The wording of a fault. -/
def NotationFault.message : NotationFault → String
  | .stated reason => reason
  | .emptyType => "empty type"
  | .unterminatedArgument => "unterminated generic argument"
  | .emptyArgument => "empty generic argument"
  | .unknownWrapper head => "unknown generic wrapper '" ++ head ++ "'"
  | .notBoxable => "only primitive kinds have a boxed variant"
  | .notAName => "not a type name"

/-- The wording of a notation error. -/
def NotationError.message (e : NotationError) : String :=
  "Invalid type notation '" ++ e.text ++ "': " ++ e.fault.message

namespace TypeRef

/-- The unboxed variant of a kind; texts have none. -/
def unboxed (kind : Primitive) : TypeRef := .primitive kind (kind == .string)

/-- The boxed variant of a kind. -/
def boxed (kind : Primitive) : TypeRef := .primitive kind true

/-- The type of texts. -/
def text : TypeRef := boxed .string

/-- The element type of a list or an array. -/
def element? : TypeRef → Option TypeRef
  | .list element => some element
  | .array element => some element
  | _ => none

/-- Whether a type is a list or an array. -/
def isContainer (t : TypeRef) : Bool := t.element?.isSome

/-- Whether a type is a file, or a list or an array of files. -/
def isFileLike (t : TypeRef) : Bool := t == .file || t.element? == some .file

/-- Whether values of a type can never be absent: the unboxed primitives. -/
def neverAbsent : TypeRef → Bool
  | .primitive _ boxed => !boxed
  | _ => false

/-- The canonical notation, as characters. -/
def writeChars : TypeRef → List Char
  | .primitive kind boxed =>
    kind.keyword.toList ++ if boxed && kind != .string then ['?'] else []
  | .date => "date".toList
  | .dateTime => "date-time".toList
  | .uuid => "uuid".toList
  | .file => "file".toList
  | .void => "void".toList
  | .list element => "list<".toList ++ writeChars element ++ ['>']
  | .array element => writeChars element ++ ['[', ']']
  | .map value => "map<".toList ++ writeChars value ++ ['>']
  | .envelope inner => "envelope<".toList ++ writeChars inner ++ ['>']
  | .foreign text => "opaque<".toList ++ text.toList ++ ['>']
  | .named name => name.toList

/-- The canonical notation. -/
def write (t : TypeRef) : String := String.ofList t.writeChars

/-- The special kinds by keyword. -/
def special? : String → Option TypeRef
  | "date" => some .date
  | "date-time" => some .dateTime
  | "uuid" => some .uuid
  | "file" => some .file
  | "void" => some .void
  | _ => none

/-- The wrappers by keyword. -/
def wrapper? : String → Option (TypeRef → TypeRef)
  | "list" => some .list
  | "map" => some .map
  | "envelope" => some .envelope
  | _ => none

/-- Characters of qualified names: ASCII letters and digits, `.`, `_` and `$`. -/
def isNameChar (c : Char) : Bool := c.isAlphanum || c == '.' || c == '_' || c == '$'

/-- The text before the first `<`, trimmed, of a text that ends in `>`. -/
def wrapperHead (body : List Char) : List Char := trim (body.takeWhile (· ≠ '<'))

/-- The text between the first `<` and the final `>`, trimmed. -/
def wrapperArgument (body : List Char) : List Char :=
  trim (body.dropWhile (· ≠ '<')).tail.dropLast

/-- Reads a trimmed text without `[]` behind it and without `<` in it; `s` is the text as it was
written. -/
def parseLeaf (s body : List Char) : Except NotationError TypeRef :=
  match dropEnding? ['?'] body with
  | some base =>
    match Primitive.ofKeyword? (String.ofList (trim base)) with
    | some kind => .ok (boxed kind)
    | none => .error ⟨String.ofList s, .notBoxable⟩
  | none =>
    let word := String.ofList body
    match Primitive.ofKeyword? word with
    | some kind => .ok (unboxed kind)
    | none =>
      match special? word with
      | some t => .ok t
      | none =>
        if body.all isNameChar then .ok (.named word) else .error ⟨String.ofList s, .notAName⟩

theorem length_wrapperArgument_lt {body : List Char} (h : '<' ∈ body) :
    (wrapperArgument body).length < body.length := by
  have h₁ := length_trim_le (body.dropWhile (· ≠ '<')).tail.dropLast
  have h₂ := length_dropWhile_le (· ≠ '<') body
  have h₃ : body ≠ [] := List.ne_nil_of_mem h
  have h₄ := List.length_pos_iff.2 h₃
  simp only [wrapperArgument, List.length_dropLast, List.length_tail] at *
  omega

/-- Reads a notation. -/
def parseChars (s : List Char) : Except NotationError TypeRef :=
  let body := trim s
  if hbody : body = [] then .error ⟨String.ofList s, .emptyType⟩
  else
    match hend : dropEnding? ['[', ']'] body with
    | some element =>
      have : element.length < s.length := by
        have h₁ := length_of_dropEnding? hend
        have h₂ : body.length ≤ s.length := length_trim_le s
        have h₃ := List.length_pos_iff.2 hbody
        simp only [List.length_cons, List.length_nil] at h₁
        omega
      (parseChars element).map .array
    | none =>
      if hwrap : '<' ∈ body then
        if body.getLast? ≠ some '>' then .error ⟨String.ofList body, .unterminatedArgument⟩
        else
          let head := String.ofList (wrapperHead body)
          let argument := wrapperArgument body
          if argument = [] then .error ⟨String.ofList body, .emptyArgument⟩
          else
            match wrapper? head with
            | some wrap =>
              have : argument.length < s.length :=
                Nat.lt_of_lt_of_le (length_wrapperArgument_lt hwrap) (length_trim_le s)
              (parseChars argument).map wrap
            | none =>
              if head = "opaque" then .ok (.foreign (String.ofList argument))
              else .error ⟨String.ofList body, .unknownWrapper head⟩
      else parseLeaf s body
termination_by s.length

/-- Reads a notation. -/
def parse (s : String) : Except NotationError TypeRef := parseChars s.toList

end TypeRef

end ApiContract
