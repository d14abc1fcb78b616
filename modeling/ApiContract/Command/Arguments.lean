import ApiContract.Text.Split
/-!
# Arguments of the command line

Settings are given by name: `--graph types.yaml`, `--graph=types.yaml`, `-g types.yaml`,
`-gtypes.yaml` or `-g=types.yaml`. Settings without a value may share a dash with the next one, as
in `-vg types.yaml`. A value that stands alone cannot start with a dash, unless it is the dash.

* `readSettings` : the settings at the start of the arguments, and the arguments from the first that
  is no setting on.
-/

namespace ApiContract.Command

/-- What can be set on the command line. -/
inductive Setting where
  | verbose
  | config
  | graph
  | output
  | format
  | json
deriving DecidableEq, Repr

namespace Setting

/-- The name behind two dashes. -/
def longName : Setting → String
  | .verbose => "verbose"
  | .config => "config"
  | .graph => "graph"
  | .output => "output"
  | .format => "format"
  | .json => "json"

/-- The letter behind one dash. -/
def letter? : Setting → Option Char
  | .verbose => some 'v'
  | .config => some 'c'
  | .graph => some 'g'
  | .output => some 'o'
  | .format => some 'f'
  | .json => none

/-- Whether a setting has a value. -/
def hasValue : Setting → Bool
  | .verbose | .json => false
  | .config | .graph | .output | .format => true

end Setting

/-- A setting and its value; the value of one without is empty. -/
abbrev Given := Setting × String

/-- Settings that share a dash, and the last one if its value has yet to come. -/
def readLetters (known : List Setting) : List Char → Option (List Given × Option Setting)
  | [] => some ([], none)
  | c :: rest =>
    match known.find? (·.letter? == some c) with
    | none => none
    | some setting =>
      if setting.hasValue then
        match rest with
        | [] => some ([], some setting)
        | '=' :: value => some ([(setting, String.ofList value)], none)
        | value => some ([(setting, String.ofList value)], none)
      else
        (readLetters known rest).map fun (given, pending) => ((setting, "") :: given, pending)

/-- The settings in an argument, and the last one if its value has yet to come. -/
def readArgument (known : List Setting) : List Char → Option (List Given × Option Setting)
  | '-' :: '-' :: rest =>
    let name := String.ofList (rest.takeWhile (· != '='))
    match known.find? (·.longName == name), rest.dropWhile (· != '=') with
    | some setting, '=' :: value =>
      if setting.hasValue then some ([(setting, String.ofList value)], none) else none
    | some setting, _ =>
      if setting.hasValue then some ([], some setting) else some ([(setting, "")], none)
    | none, _ => none
  | '-' :: rest => readLetters known rest
  | _ => none

/-- Whether an argument gives settings: it has something behind one dash, or behind two. -/
def isSetting (argument : String) : Bool :=
  argument != "-" && argument != "--" && argument.toList.head? == some '-'

/-- Reads the settings at the start of the arguments, in order, and the arguments from the first
that gives none on. -/
def readSettings (known : List Setting) : List String → Option (List Given × List String)
  | [] => some ([], [])
  | argument :: rest =>
    if isSetting argument then
      match readArgument known argument.toList, rest with
      | some (given, none), rest =>
        (readSettings known rest).map fun (more, rest) => (given ++ more, rest)
      | some (given, some setting), value :: rest =>
        if isSetting value || value == "--" then none
        else (readSettings known rest).map fun (more, rest) =>
          (given ++ (setting, value) :: more, rest)
      | _, _ => none
    else some ([], argument :: rest)

end ApiContract.Command
