import ApiContract.Assoc
import ApiContract.Source.Tree
/-!
# Tables in TOML

A TOML text builds its tables bit by bit: headers open tables, dotted keys reach into tables, and a
list of tables grows at its end. What has been given once cannot be given again.

* `Item` : what stands under a key. A table is `implied` while only its place was named, and
  `dotted` if dotted keys made it.
* `reach` : changes the table at the end of a path.
* `define`, `openTable`, `openElement` : a key with a value, a header, and a header of a list of
  tables.
-/

namespace ApiContract.Toml

/-- What stands under a key. -/
inductive Item where
  | value (t : Tree)
  | table (implied dotted : Bool) (entries : List (String × Item))
  | tables (elements : List (List (String × Item)))
deriving Inhabited

/-- A table. -/
abbrev Table := List (String × Item)

/-- Changes the table at the end of a path, given with whether dotted keys made it. Tables on the
way are made where there are none. With `dotted`, the path is part of a key, and may not lead
through a table that has been given as a whole. -/
def reach (dotted : Bool) (change : Bool → Table → Option Table) :
    List String → Bool → Table → Option Table
  | [], made, t => change made t
  | key :: path, _, t =>
    match Assoc.get? t key with
    | none => do
      let inner ← reach dotted change path dotted []
      return Assoc.insert t key (.table true dotted inner)
    | some (.value _) => none
    | some (.table implied made inner) =>
      if dotted && !implied then none
      else do
        let inner ← reach dotted change path made inner
        return Assoc.insert t key (.table implied made inner)
    | some (.tables elements) =>
      match elements.getLast? with
      | none => none
      | some last => do
        let last ← reach dotted change path false last
        return Assoc.insert t key (.tables (elements.dropLast ++ [last]))

/-- Puts a value under a key, the last part of a dotted key whose other parts are `path`. -/
def define (path : List String) (key : String) (value : Tree) : Table → Option Table :=
  reach true (fun made t =>
    if made == path.isEmpty || Assoc.contains t key then none
    else some (Assoc.insert t key (.value value))) path false

/-- Opens the table under the last part of a header. -/
def openTable (path : List String) (key : String) : Table → Option Table :=
  reach false (fun _ t =>
    match Assoc.get? t key with
    | none => some (Assoc.insert t key (.table false false []))
    | some (.table true false inner) => some (Assoc.insert t key (.table false false inner))
    | some _ => none) path false

/-- Opens a further element of the list of tables under the last part of a header. -/
def openElement (path : List String) (key : String) : Table → Option Table :=
  reach false (fun _ t =>
    match Assoc.get? t key with
    | none => some (Assoc.insert t key (.tables [[]]))
    | some (.tables elements) => some (Assoc.insert t key (.tables (elements ++ [[]])))
    | some _ => none) path false

/-- Puts a value under a key of the table that the header `path` has opened. -/
def defineIn (header path : List String) (key : String) (value : Tree) : Table → Option Table :=
  reach false (fun _ t => define path key value t) header false

mutual

/-- The tree of what stands under a key. -/
def Item.toTree : Item → Tree
  | .value t => t
  | .table _ _ entries => .map (entryTrees entries)
  | .tables elements => .seq (elementTrees elements)

/-- The trees of the entries of a table. -/
def entryTrees : List (String × Item) → List (Tree × Tree)
  | [] => []
  | (key, item) :: rest => (.ofText key, item.toTree) :: entryTrees rest

/-- The trees of the elements of a list of tables. -/
def elementTrees : List (List (String × Item)) → List Tree
  | [] => []
  | t :: rest => .map (entryTrees t) :: elementTrees rest

end

end ApiContract.Toml
