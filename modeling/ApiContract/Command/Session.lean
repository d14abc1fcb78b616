import ApiContract.Trace
/-!
# Sessions

A command runs in a session: it prints lines and reports events, and it may stop with a failure.
What was printed and reported before stays known then.

* `Failure` : why a command stops, `Failure.message` its wording, and `Failure.fault` what was at
  fault.
* `Session.print`, `Session.ensure`, `Session.follow` : a line, a step that may stop, and a traced
  computation, whose events become those of the session.
-/

namespace ApiContract.Command

/-- Why a command stops. -/
inductive Failure where
  | configNotLoaded (path : String) (fault : Fault)
  | graphNotLoaded (path : String) (fault : Fault)
  | invalidDeclarations (graphPath : String) (fault : Fault)
  | basesNotResolved (fault : Fault)
  | notGenerated (fault : Fault)
  | notSaved (path : String) (fault : Fault)
deriving DecidableEq, Repr

namespace Failure

/-- The wording of a failure. -/
def message : Failure → String
  | .configNotLoaded path _ => "Failed to load configuration " ++ path
  | .graphNotLoaded path _ => "Failed to load type graph " ++ path
  | .invalidDeclarations graphPath _ => "Invalid declarations in " ++ graphPath
  | .basesNotResolved _ => "Failed to resolve polymorphic declarations"
  | .notGenerated _ => "OpenAPI generation failed"
  | .notSaved path _ => "Failed to save specification to " ++ path

/-- What was at fault. -/
def fault : Failure → Fault
  | .configNotLoaded _ fault | .graphNotLoaded _ fault | .invalidDeclarations _ fault => fault
  | .basesNotResolved fault | .notGenerated fault | .notSaved _ fault => fault

/-- The failure of a generation: it names the type graph if its declarations are at fault. -/
def ofGeneration (graphPath : String) (fault : Fault) : Failure :=
  if fault.isDeclaration then .invalidDeclarations graphPath fault else .notGenerated fault

end Failure

/-- What a command has printed and reported. -/
structure Transcript where
  lines : List String := []
  events : List Event := []
deriving Repr, Inhabited

/-- A computation inside a session. -/
abbrev Session (m : Type → Type) (α : Type) := ExceptT Failure (StateT Transcript m) α

namespace Session

variable {m : Type → Type} [Monad m] {α : Type}

/-- Prints a line. -/
def print (line : String) : Session m Unit :=
  modify fun t => { t with lines := t.lines ++ [line] }

/-- Prints lines. -/
def printAll (lines : List String) : Session m Unit :=
  modify fun t => { t with lines := t.lines ++ lines }

/-- Reports events. -/
def report (events : List Event) : Session m Unit :=
  modify fun t => { t with events := t.events ++ events }

/-- The value of a result, or the failure that its fault causes. -/
def ofResult (failure : Fault → Failure) : Except Fault α → Session m α
  | .ok a => pure a
  | .error fault => throw (failure fault)

/-- Takes a step on the files. -/
def ensure (failure : Fault → Failure) (step : m (Except Fault α)) : Session m α := do
  let result : Except Fault α ← liftM step
  ofResult failure result

/-- Runs a traced computation and reports its events. -/
def follow (failure : Fault → Failure) (x : Traced α) : Session m α := do
  report x.events
  ofResult failure x.result

end Session

end ApiContract.Command
