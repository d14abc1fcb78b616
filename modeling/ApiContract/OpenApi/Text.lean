import ApiContract.Format
import ApiContract.Json.Reader
import ApiContract.Json.Writer
import ApiContract.OpenApi.Record
import ApiContract.Yaml.Reader
import ApiContract.Yaml.Writer
/-!
# Specifications as texts

A specification is written as JSON, with or without indentation, or as YAML, and read from either.

* `Specification.write`, `Specification.ofText`.
-/

namespace ApiContract.Specification

/-- The text of a specification in a format; YAML is always indented. -/
def write (s : Specification) (format : Format) (indented : Bool) : String :=
  match format with
  | .json => if indented then s.encode.pretty else s.encode.compact
  | .yaml => s.encode.yaml

/-- The specification that a source text holds. -/
def ofSource (fault : Fault) (s : Source) : Except Fault Specification :=
  (s.decode decode).mapError fun _ => fault

/-- The specification of a text in a format. -/
def ofText (format : Format) (text : String) : Except Fault Specification :=
  match format with
  | .json => ofSource (.json none) (Json.readSource text)
  | .yaml => ofSource (.yaml none) (Yaml.readSource text)

end ApiContract.Specification
