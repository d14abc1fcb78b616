import ApiContract.Command.Generate
/-!
# The command `inspect`

Prints what a generation finds in a type graph: components, polymorphic bases and operations, as
lines or as JSON.

* `inspectionLines`, `inspectionRecord` : the two forms.
-/

namespace ApiContract.Command

/-- A text filled up with blanks to a width. -/
def padded (width : Nat) (text : String) : String :=
  text ++ String.ofList (List.replicate (width - text.length) ' ')

/-- The lines for a polymorphic base: its property, and each subclass with its discriminator
value. -/
def baseLines (name : String) (base : PolymorphicBase) : List String :=
  ("   " ++ name ++ " on '" ++ base.property ++ "'") ::
    base.classes.map fun (subclass, tag) => "      " ++ tag ++ " -> " ++ subclass

/-- The line for an operation. -/
def operationLine (o : Operation) : String :=
  "   " ++ padded 7 o.verb.name ++ " " ++ o.path ++ " (" ++ o.id ++ ")"

/-- What was found, as lines. -/
def inspectionLines (document : Document) (bases : PolymorphismMap) : List String :=
  ("📦 Components (" ++ toString document.components.length ++ "):") ::
    document.components.keys.map ("   " ++ ·) ++
  ("🧬 Polymorphic bases (" ++ toString bases.length ++ "):") ::
    bases.flatMap (fun (name, base) => baseLines name base) ++
  ("🛣️  Operations (" ++ toString document.operations.length ++ "):") ::
    document.operations.map operationLine

/-- What was found, as a record. -/
def inspectionRecord (document : Document) (bases : PolymorphismMap) : Json :=
  Json.sorted <| .obj [
    ("components", .texts document.components.keys),
    ("polymorphic", .table (fun (base : PolymorphicBase) =>
      .obj [("property", .str base.property), ("subclasses", .table .str base.classes)]) bases),
    ("operations", .list (fun (o : Operation) =>
      .obj [("method", .str o.verb.name), ("path", .str o.path), ("operationId", .str o.id),
        ("tag", .str o.tag)]) document.operations)]

variable {m : Type → Type} [Monad m] [Files m]

/-- Runs `inspect`. -/
def Session.inspect (configPath graphPath : String) (asJson : Bool) : Session m Unit := do
  let (config, graph) ← loadInputs configPath graphPath
  let bases ← Session.follow .basesNotResolved (polymorphicBases config {} graph)
  let document ← Session.follow .notGenerated (ApiContract.generate config {} graph)
  if asJson then Session.print (inspectionRecord document bases).pretty
  else Session.printAll (inspectionLines document bases)

end ApiContract.Command
