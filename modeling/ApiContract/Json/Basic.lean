import ApiContract.Assoc
import ApiContract.Decimal.Binary64
/-!
# JSON values

`Json` is the value that the library writes: to JSON text and to YAML text. Objects are lists of
members in the order in which they are written. Integers and doubles are told apart, because a
double is always written with a fraction or an exponent.

* `Json.number` : a double as a value; one that is not finite has no JSON form and becomes null.
* `Json.record` : an object whose absent members are left out.
* `Json.sorted` : the same value with the members of every object in increasing order of their
  keys.
-/

namespace ApiContract

/-- A JSON value. -/
inductive Json where
  | null
  | bool (b : Bool)
  | int (n : Int)
  | float (x : Binary64)
  | str (s : String)
  | arr (items : List Json)
  | obj (members : List (String × Json))
deriving Repr, Inhabited

namespace Json

/-- A list of values written by `f`. -/
def list {α : Type} (f : α → Json) (xs : List α) : Json := .arr (xs.map f)

/-- A list of texts. -/
def texts (xs : List String) : Json := list .str xs

/-- A value that may be absent, written as null then. -/
def nullable {α : Type} (f : α → Json) : Option α → Json
  | none => .null
  | some a => f a

/-- A table with text keys, in table order. -/
def table {α : Type} (f : α → Json) (t : Assoc String α) : Json :=
  .obj (t.map fun p => (p.1, f p.2))

/-- A member of an object that is written only if it has a value. -/
structure Member where
  key : String
  value : Option Json

namespace Member

/-- A member that is always there. -/
def always (key : String) (value : Json) : Member := ⟨key, some value⟩

/-- A member that is there when it has a value. -/
def optional {α : Type} (key : String) (f : α → Json) (value : Option α) : Member :=
  ⟨key, value.map f⟩

/-- A member that is there when its list is not empty. -/
def nonEmpty {α : Type} (key : String) (f : List α → Json) (xs : List α) : Member :=
  ⟨key, if xs.isEmpty then none else some (f xs)⟩

/-- A member that is there, and true, when its flag is set. -/
def flag (key : String) (set : Bool) : Member := ⟨key, if set then some (.bool true) else none⟩

end Member

/-- An object from members of which some may be absent. -/
def record (members : List Member) : Json :=
  .obj (members.filterMap fun m => m.value.map (m.key, ·))

mutual

/-- The value with the members of every object in increasing order of their keys. -/
def sorted : Json → Json
  | .arr items => .arr (sortedItems items)
  | .obj members => .obj (sortedMembers members)
  | value => value

/-- `sorted` on each value of a list. -/
def sortedItems : List Json → List Json
  | [] => []
  | item :: rest => sorted item :: sortedItems rest

/-- `sorted` on each member, and the members in order; of two members with one key the later one
counts. -/
def sortedMembers : List (String × Json) → List (String × Json)
  | [] => []
  | (key, value) :: rest =>
    let others := sortedMembers rest
    if Assoc.contains others key then others else Assoc.insertSorted others key (sorted value)

end

end Json

end ApiContract
