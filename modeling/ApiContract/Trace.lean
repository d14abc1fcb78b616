import ApiContract.Fault
import ApiContract.Text.Quoted
/-!
# Events and traced computations

A generation reports what it does as events. `Traced α` is a computation that gives a value or stops
with a fault, together with the events up to that point; so events stay known when it stops.

* `Event` : what is reported, `Event.level` how urgent it is, `Event.message` its wording, and
  `Event.origin` the part of the program that it comes from, by which logs can be filtered.
* `Traced.events`, `Traced.result` : the two views of a computation. Running one computation after
  another runs their results one after the other and joins their events (`result_bind`,
  `events_bind_ok`, `events_bind_error`).
-/

namespace ApiContract

/-- How urgent an event is. -/
inductive Level where
  | debug
  | info
  | warn
deriving DecidableEq, Repr

/-- The place of a level from the least urgent on. -/
def Level.rank : Level → Nat
  | .debug => 0
  | .info => 1
  | .warn => 2

/-- The name of a level. -/
def Level.name : Level → String
  | .debug => "DEBUG"
  | .info => "INFO"
  | .warn => "WARN"

/-- What is reported. -/
inductive Event where
  | loggingStarted (level : String)
  | inputsLoaded (types : Nat) (models handlers : List String)
  | typeExcluded (type : String)
  | modelsScanned (types bases : Nat)
  | operationRenamed (before after : String)
  | danglingReference (target location : String)
  | polymorphicBase (base : String) (subclasses : Nat) (property : String)
  | subclassLeftOut (subclass base : String)
  | superclassMissing (superclass type : String)
  | fieldsFlattened (ancestor type : String)
  | fieldUnmapped (owner field : String) (type : TypeRef)
  | notAComponent (type : String)
  | typeTransformed (type component : String)
  | handlerExcluded (handler : String)
  | methodExcluded (handler method : String)
  | parameterExcluded (parameter method : String)
  | parameterUnmapped (parameter method : String) (type : TypeRef)
  | bodyUnmapped (method : String) (type : TypeRef)
  | unboundVariable (variableName path handler method : String)
  | operationExtracted (verb : Verb) (path id handler method : String)
deriving DecidableEq, Repr

namespace Event

/-- How urgent an event is. -/
def level : Event → Level
  | .danglingReference .. | .unboundVariable .. => .warn
  | .typeExcluded .. | .subclassLeftOut .. | .fieldUnmapped .. | .handlerExcluded ..
  | .methodExcluded .. | .parameterExcluded .. | .parameterUnmapped .. | .bodyUnmapped .. => .info
  | _ => .debug

/-- The part of the program that an event comes from. -/
def origin : Event → String
  | .loggingStarted .. => "apigen::logging"
  | .inputsLoaded .. => "apigen::commands"
  | .typeExcluded .. | .modelsScanned .. | .operationRenamed .. | .danglingReference .. =>
    "apigen::generator"
  | .polymorphicBase .. | .subclassLeftOut .. => "apigen::inheritance"
  | .superclassMissing .. | .fieldsFlattened .. | .fieldUnmapped .. | .notAComponent ..
  | .typeTransformed .. => "apigen::schema"
  | .handlerExcluded .. | .methodExcluded .. | .parameterExcluded .. | .parameterUnmapped ..
  | .bodyUnmapped .. | .unboundVariable .. | .operationExtracted .. => "apigen::endpoints"

/-- The wording of an event. -/
def message : Event → String
  | .loggingStarted level => "Logging initialized (level: " ++ level ++ ")"
  | .inputsLoaded types models handlers =>
    "Loaded " ++ toString types ++ " types; models " ++ Text.quotedList models ++ ", handlers " ++
      Text.quotedList handlers
  | .typeExcluded type => "Skipping excluded type " ++ type
  | .modelsScanned types bases =>
    "Scanned " ++ toString types ++ " model types, " ++ toString bases ++ " polymorphic bases"
  | .operationRenamed before after =>
    "Renamed duplicate operation id " ++ before ++ " to " ++ after
  | .danglingReference target location =>
    "Reference to '" ++ target ++ "' in " ++ location ++ " has no component"
  | .polymorphicBase base subclasses property =>
    "Polymorphic base " ++ base ++ " with " ++ toString subclasses ++ " subclasses on property '" ++
      property ++ "'"
  | .subclassLeftOut subclass base =>
    "Leaving subclass " ++ subclass ++ " out of the discriminator of " ++ base ++
      ": it is not a component"
  | .superclassMissing superclass type =>
    "Superclass " ++ superclass ++ " of " ++ type ++ " is not in the type graph"
  | .fieldsFlattened ancestor type => "Flattening fields of " ++ ancestor ++ " into " ++ type
  | .fieldUnmapped owner field type =>
    "Skipping field " ++ owner ++ "." ++ field ++ ": type '" ++ type.write ++
      "' has no schema mapping"
  | .notAComponent type => "Type " ++ type ++ " is not a component, using a generic object"
  | .typeTransformed type component => "Transformed " ++ type ++ " into component " ++ component
  | .handlerExcluded handler => "Skipping excluded handler " ++ handler
  | .methodExcluded handler method => "Skipping excluded method " ++ handler ++ "." ++ method
  | .parameterExcluded parameter method =>
    "Skipping excluded parameter " ++ parameter ++ " of " ++ method
  | .parameterUnmapped parameter method type =>
    "Skipping parameter " ++ parameter ++ " of " ++ method ++ ": type '" ++ type.write ++
      "' has no schema mapping"
  | .bodyUnmapped method type =>
    "Skipping request body of " ++ method ++ ": type '" ++ type.write ++
      "' has no schema mapping"
  | .unboundVariable variableName path handler method =>
    "Path variable '" ++ variableName ++ "' of " ++ path ++ " has no bound parameter on " ++
      handler ++ "." ++ method
  | .operationExtracted verb path id handler method =>
    "Extracted " ++ verb.name ++ " " ++ path ++ " (" ++ id ++ ") from " ++ handler ++ "." ++ method

/-- An event as a line of a log. -/
def line (e : Event) : String := e.level.name ++ " " ++ e.message

end Event

/-- A computation that may stop with a fault, and the events it reported. -/
structure Traced (α : Type) where
  events : List Event
  result : Except Fault α

namespace Traced

variable {α β : Type}

/-- A computation that reports nothing. -/
def lift (result : Except Fault α) : Traced α := ⟨[], result⟩

/-- Reports an event. -/
def report (e : Event) : Traced Unit := ⟨[e], .ok ()⟩

/-- Stops with a fault. -/
def fail (fault : Fault) : Traced α := ⟨[], .error fault⟩

/-- Runs a computation and one that depends on its value. -/
def andThen (x : Traced α) (f : α → Traced β) : Traced β :=
  match x.result with
  | .ok a => ⟨x.events ++ (f a).events, (f a).result⟩
  | .error fault => ⟨x.events, .error fault⟩

instance : Monad Traced where
  pure a := ⟨[], .ok a⟩
  bind := andThen

/-- Changes the fault that a computation stops with. -/
def mapFault (f : Fault → Fault) (x : Traced α) : Traced α :=
  ⟨x.events, x.result.mapError f⟩

@[simp] theorem result_pure (a : α) : (pure a : Traced α).result = .ok a := rfl

@[simp] theorem events_pure (a : α) : (pure a : Traced α).events = [] := rfl

@[simp] theorem result_report (e : Event) : (report e).result = .ok () := rfl

@[simp] theorem result_lift (r : Except Fault α) : (lift r).result = r := rfl

@[simp] theorem result_fail (fault : Fault) : (fail fault : Traced α).result = .error fault := rfl

@[simp] theorem result_mapFault (f : Fault → Fault) (x : Traced α) :
    (x.mapFault f).result = x.result.mapError f := rfl

@[simp] theorem result_bind (x : Traced α) (f : α → Traced β) :
    (x >>= f).result = x.result.bind fun a => (f a).result := by
  show (andThen x f).result = _
  unfold andThen
  cases x.result <;> rfl

theorem events_bind_ok {x : Traced α} {a : α} (h : x.result = .ok a) (f : α → Traced β) :
    (x >>= f).events = x.events ++ (f a).events := by
  show (andThen x f).events = _
  simp [andThen, h]

theorem events_bind_error {x : Traced α} {fault : Fault} (h : x.result = .error fault)
    (f : α → Traced β) : (x >>= f).events = x.events := by
  show (andThen x f).events = _
  simp [andThen, h]

instance : LawfulMonad Traced :=
  LawfulMonad.mk' Traced
    (fun x => by
      show andThen x _ = x
      obtain ⟨events, result⟩ := x
      cases result <;> simp [andThen])
    (fun a f => by
      show andThen _ _ = _
      simp [andThen])
    (fun x f g => by
      show andThen (andThen x f) g = andThen x fun a => andThen (f a) g
      obtain ⟨events, result⟩ := x
      cases result with
      | error fault => rfl
      | ok a =>
        simp only [andThen]
        cases (f a).result <;> simp)

end Traced

end ApiContract
