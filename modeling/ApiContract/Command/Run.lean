import ApiContract.Command.Basic
import ApiContract.Command.Inspect
import ApiContract.LogFilter
import ApiContract.Text.Shown
/-!
# Running commands

`Command.run` runs the command that some arguments ask for and gives all that can be seen of it, the
files apart: what is printed and logged, how it failed, and the exit code. Arguments that ask for no
command have the exit code 2 and print nothing; a command that fails has 1.
-/

namespace ApiContract.Command

/-- What can be seen of a run. -/
structure Outcome where
  exitCode : UInt8
  output : String := ""
  log : List String := []
  failure : Option Failure := none
deriving Repr, Inhabited

variable {m : Type → Type} [Monad m] [Files m]

/-- The threshold of a run without a filter. -/
def detail (verbose : Bool) : Threshold := if verbose then .debug else .info

/-- The filter of a run: the one that a text describes, unless there is none or it is malformed. -/
def filterOf (wanted : Option String) (verbose : Bool) : LogFilter :=
  (wanted.bind LogFilter.ofText?).getD (.overall (detail verbose))

/-- What a command does. -/
def perform : Command → Session m Unit
  | .generate config graph output format => Session.generate config graph output format
  | .inspect config graph asJson => Session.inspect config graph asJson

/-- Performs a command behind the report that logging has started. -/
def session (invocation : Invocation) : Session m Unit := do
  Session.report [.loggingStarted (detail invocation.verbose).name]
  perform invocation.command

/-- Runs the command that arguments ask for; `wanted` describes the log filter. -/
def run (arguments : List String) (wanted : Option String) : m Outcome := do
  match Invocation.ofArguments? arguments with
  | none => return { exitCode := 2 }
  | some invocation =>
    let (result, transcript) ← (session invocation : Session m Unit).run.run {}
    let filter := filterOf wanted invocation.verbose
    let failure := match result with
      | .ok () => none
      | .error failure => some failure
    return {
      exitCode := if failure.isSome then 1 else 0
      output := String.join (transcript.lines.map (· ++ "\n"))
      log := (transcript.events.filter filter.admits).map fun e => Text.shown e.line
      failure }

end ApiContract.Command
