import ApiContract.Command.Run
/-!
# The command line

The outer layer: it takes the arguments and the log filter from the environment, lets the command
run on the files of the machine, and prints what it gives.
-/

namespace ApiContract

/-- The folder in which a path names a file. -/
def folderOf (path : String) : String :=
  String.ofList (Text.joinWith '/' (Text.splitOn '/' path.toList).dropLast)

instance : Files IO where
  read path := do
    try
      return .ok (← IO.FS.readFile path)
    catch e => return .error (.file (toString e))
  save path text := do
    try
      let folder := folderOf path
      if folder != "" then IO.FS.createDirAll folder
      IO.FS.writeFile path text
      return .ok ()
    catch e => return .error (.file (toString e))

end ApiContract

open ApiContract in
/-- Runs the command that the arguments ask for. -/
def main (arguments : List String) : IO UInt32 := do
  let outcome : Command.Outcome ← Command.run arguments (← IO.getEnv "APIGEN_LOG")
  IO.print outcome.output
  for line in outcome.log do IO.eprintln line
  match outcome.failure with
  | some failure =>
    IO.eprintln ("Error: " ++ failure.message ++ "\n\nCaused by:\n    " ++ failure.fault.message)
  | none => if outcome.exitCode == 2 then IO.eprintln "error: no such command or settings"
  return outcome.exitCode.toUInt32
