/-!
# Tokens

The parts that a YAML text is made of. Indentation shows in tokens of its own: where a block
collection starts, and where a block ends.
-/

namespace ApiContract.Yaml

/-- How a scalar is set. -/
inductive ScalarStyle where
  | plain
  | singleQuoted
  | doubleQuoted
  | literal
  | folded
deriving DecidableEq, Repr, Inhabited

/-- A part of a YAML text. -/
inductive Token where
  | version (major minor : Nat)
  | tagDirective (handle uri : String)
  | documentStart
  | documentEnd
  | streamEnd
  | blockSequenceStart
  | blockMappingStart
  | blockEnd
  | flowSequenceStart
  | flowSequenceEnd
  | flowMappingStart
  | flowMappingEnd
  | blockEntry
  | flowEntry
  | key
  | value
  | alias (name : String)
  | anchor (name : String)
  | tag (handle suffix : String)
  | scalar (style : ScalarStyle) (text : String)
deriving DecidableEq, Repr, Inhabited

end ApiContract.Yaml
