import ApiContract.Command.Arguments
import ApiContract.Format
/-!
# Commands

`generate` compiles a type graph and saves the specification; `inspect` prints what was found in the
type graph.

* `Invocation.ofArguments?` : the command that some arguments ask for. Each setting may be given
  once, paths are not empty, and a type graph has to be named.
-/

namespace ApiContract

/-- A command. -/
inductive Command where
  | generate (config graph : String) (output : Option String) (format : Option Format)
  | inspect (config graph : String) (asJson : Bool)
deriving DecidableEq, Repr

/-- A command, and whether it is to report in detail. -/
structure Invocation where
  verbose : Bool
  command : Command
deriving DecidableEq, Repr

namespace Command

/-- The configuration file of a command that names no other. -/
def defaultConfigPath : String := "apigen.toml"

/-- The value of a setting. -/
def valueOf? (given : List Given) (setting : Setting) : Option String :=
  (given.find? (·.1 == setting)).map Prod.snd

/-- Whether a setting can have a value: paths are not empty, and formats go by their names. -/
def isAcceptable : Given → Bool
  | (.config, value) | (.graph, value) | (.output, value) => value != ""
  | (.format, value) => value == Format.json.name || value == Format.yaml.name
  | (.verbose, _) | (.json, _) => true

/-- Whether settings are given once each, with values they can have. -/
def areAcceptable (given : List Given) : Bool :=
  decide (given.map Prod.fst).Nodup && given.all isAcceptable

/-- The settings of a command by its name. -/
def settingsOf? : String → Option (List Setting)
  | "generate" => some [.verbose, .config, .graph, .output, .format]
  | "inspect" => some [.verbose, .config, .graph, .json]
  | _ => none

/-- The command of a name with its settings. -/
def ofSettings? (name : String) (given : List Given) : Option Command :=
  let config := (valueOf? given .config).getD defaultConfigPath
  (valueOf? given .graph).map fun graph =>
    if name == "inspect" then .inspect config graph (valueOf? given .json).isSome
    else
      .generate config graph (valueOf? given .output)
        ((valueOf? given .format).bind Format.ofWord?)

end Command

open Command in
/-- The command that arguments ask for: settings for all commands, its name, and its settings. -/
def Invocation.ofArguments? (arguments : List String) : Option Invocation :=
  match readSettings [.verbose] arguments with
  | some (general, name :: rest) =>
    match (settingsOf? name).bind (readSettings · rest) with
    | some (given, ending) =>
      if areAcceptable general && areAcceptable given && (ending == [] || ending == ["--"]) then
        (ofSettings? name given).map fun command =>
          { verbose := (valueOf? (general ++ given) .verbose).isSome, command }
      else none
    | none => none
  | _ => none

end ApiContract
