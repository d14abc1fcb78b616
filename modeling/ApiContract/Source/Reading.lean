import ApiContract.Source.Tree
/-!
# Ways of reading a tree

A tree is read in a way that depends on the format of its text and on the place in it. By value,
what counts of a scalar is its value: that is the way of JSON and TOML. By text, the way of YAML,
every scalar serves where a text is expected, and what a scalar means is up to the reader.

* `Reading` : the ways. `Source` is a text that has become a tree, with the way of reading it.
* `Reading.collection`, `Reading.isBlank`, `Reading.place?` : where the ways differ.
-/

namespace ApiContract

/-- How a source tree is read. -/
inductive Reading where
  /-- By the values of scalars. -/
  | typed
  /-- By values, where a list that stands for a record may go on behind the last field. -/
  | lenient
  /-- By values, in a part that has been read on its own before: numbers may stand for names. -/
  | buffered
  /-- By the texts of scalars, following anchors, with so many levels of nesting left. -/
  | textual (anchors : Anchors) (levels : Nat)
deriving Repr

namespace Reading

/-- Whether scalars are read by their texts. -/
def isTextual : Reading → Bool
  | .textual .. => true
  | _ => false

/-- How many levels of a tree are read at most. -/
def reach (mode : Reading) (t : Tree) : Nat :=
  match mode with
  | .textual _ levels => levels + 1
  | _ => t.height

/-- A collection as it is read: in a textual reading what is expected counts, and not the mark. -/
def collection (mode : Reading) (t : Tree) : Tree := if mode.isTextual then t.bare else t

/-- Whether a tree is nothing at all, written without so much as a word for it, where that is an
empty collection. -/
def isBlank (mode : Reading) : Tree → Bool
  | .scalar s => mode.isTextual && s.form == .plain && s.text == ""
  | _ => false

/-- The place that a number stands for where a name is expected. -/
def place? (mode : Reading) (s : Scalar) : Option Nat :=
  match mode, s.atom with
  | .buffered, .int n => if n < 0 || s.text.startsWith "-" then none else some n.toNat
  | _, _ => none

end Reading

/-- What a text reads as: its tree, whether the text ended behind it, how the tree is to be read,
and how many anchors may be followed then. -/
structure Source where
  tree : Tree
  ended : Bool
  reading : Reading := .typed
  anchors : Nat := 0

end ApiContract
