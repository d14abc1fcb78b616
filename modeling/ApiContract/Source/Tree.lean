import ApiContract.Json.Basic
/-!
# Source trees

`Tree` is what a text in one of the source formats reads as, before it is known what is expected
of it. Scalars keep their source text beside their value, since a format may hand out either. A
text that stops being well formed still yields the tree up to that point: `Tree.broken` stands
where the fault is, so that of several faults the first one in the text is found. A tree may refer
to other trees by numbers, its anchors; `Anchors` holds those.

* `Tree.isWhole` : no fault anywhere inside.
* `Tree.canSettle` : the tree can be read without knowing what is expected of it.
* `Json.toTree` : a JSON value as the tree of its text.
-/

namespace ApiContract

/-- The value of a scalar. `other` is a value that nothing in this library expects. -/
inductive Atom where
  | null
  | bool (b : Bool)
  | int (n : Int)
  | float (x : Binary64)
  | text (s : String)
  | other
deriving DecidableEq, Repr, Inhabited

/-- How a scalar is set: without quotes, as a literal block of lines, or in another way. -/
inductive ScalarForm where
  | plain
  | literal
  | quoted
deriving DecidableEq, Repr, Inhabited

/-- What a tag in front of a scalar says: that the scalar is nothing, a truth value, an integer or a
number, or a variant with a name of this text's own. Other tags say that the scalar is a text. -/
inductive Tag where
  | null
  | bool
  | int
  | float
  | variant (name : String)
  | other
deriving DecidableEq, Repr, Inhabited

/-- A scalar: its value, its source text, how it is set, and the tag in front of it. -/
structure Scalar where
  atom : Atom
  text : String := ""
  form : ScalarForm := .plain
  tag : Option Tag := none
deriving DecidableEq, Repr, Inhabited

/-- A source text as a tree. A `marked` collection is one that has no value of its own, because its
text declares it to be of another sort or because it is nested too deeply; it can be skipped. -/
inductive Tree where
  | scalar (s : Scalar)
  | seq (items : List Tree)
  | map (entries : List (Tree × Tree))
  | marked (collection : Tree)
  | anchored (anchor : Nat)
  | broken
deriving Repr, Inhabited

/-- The trees that anchors stand for, the one that counts first. -/
abbrev Anchors := List (Nat × Tree)

namespace Tree

/-- A collection without its mark. -/
def bare : Tree → Tree
  | .marked collection => collection
  | t => t

/-- A text scalar. -/
def ofText (s : String) : Tree := .scalar { atom := .text s, text := s, form := .quoted }

/-- A scalar of which only the value counts. -/
def ofAtom (a : Atom) : Tree := .scalar { atom := a }

mutual

/-- Whether no fault lies inside. -/
def isWhole : Tree → Bool
  | .scalar _ => true
  | .seq items => areWhole items
  | .map entries => entriesWhole entries
  | .marked collection => isWhole collection
  | .anchored _ => true
  | .broken => false

/-- `isWhole` for each tree of a list. -/
def areWhole : List Tree → Bool
  | [] => true
  | t :: rest => isWhole t && areWhole rest

/-- `isWhole` for each key and value. -/
def entriesWhole : List (Tree × Tree) → Bool
  | [] => true
  | (k, v) :: rest => isWhole k && isWhole v && entriesWhole rest

end

mutual

/-- Whether the tree is whole and each of its scalars has a value of one of the known sorts. -/
def canSettle : Tree → Bool
  | .scalar s => s.atom != .other
  | .seq items => canSettleAll items
  | .map entries => canSettleEntries entries
  | .marked _ => false
  | .anchored _ => false
  | .broken => false

/-- `canSettle` for each tree of a list. -/
def canSettleAll : List Tree → Bool
  | [] => true
  | t :: rest => canSettle t && canSettleAll rest

/-- `canSettle` for each key and value. -/
def canSettleEntries : List (Tree × Tree) → Bool
  | [] => true
  | (k, v) :: rest => canSettle k && canSettle v && canSettleEntries rest

end

mutual

/-- The number of levels of nesting. -/
def height : Tree → Nat
  | .scalar _ => 1
  | .seq items => heights items + 1
  | .map entries => entryHeights entries + 1
  | .marked collection => height collection
  | .anchored _ => 1
  | .broken => 1

/-- The greatest height in a list. -/
def heights : List Tree → Nat
  | [] => 0
  | t :: rest => max (height t) (heights rest)

/-- The greatest height of a value. -/
def entryHeights : List (Tree × Tree) → Nat
  | [] => 0
  | (_, v) :: rest => max (height v) (entryHeights rest)

end

end Tree

namespace Json

mutual

/-- The tree that the text of a value reads as. -/
def toTree : Json → Tree
  | .null => .ofAtom .null
  | .bool b => .ofAtom (.bool b)
  | .int n => .ofAtom (.int n)
  | .float x => .ofAtom (if x.isFinite then .float x else .null)
  | .str s => .ofText s
  | .arr items => .seq (toTrees items)
  | .obj members => .map (toEntries members)

/-- `toTree` on each value. -/
def toTrees : List Json → List Tree
  | [] => []
  | item :: rest => toTree item :: toTrees rest

/-- `toTree` on each member. -/
def toEntries : List (String × Json) → List (Tree × Tree)
  | [] => []
  | (key, value) :: rest => (.ofText key, toTree value) :: toEntries rest

end

end Json

end ApiContract
