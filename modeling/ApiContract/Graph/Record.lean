import ApiContract.Directive.Record
import ApiContract.Format
import ApiContract.Graph.Basic
import ApiContract.Json.Reader
import ApiContract.Yaml.Reader
/-!
# Type graphs as records

A type graph file is a record with the list of `types`. Written type descriptors leave out what is
empty or absent.

* `TypeDescriptor.encode`, `TypeDescriptor.decode`, and the same for fields, methods, parameters.
* `TypeGraph.ofSource`, `TypeGraph.ofText` : the graph of a text.
-/

namespace ApiContract

/-- The word of a kind of type. -/
def TypeKind.word : TypeKind → String
  | .classType => "class"
  | .enumeration => "enum"

/-- Reads a kind of type. -/
def TypeKind.decode : Decoder TypeKind := .word [.classType, .enumeration] fun k => [k.word]

/-- Writes a list of directives. -/
def Directives.encode (ds : Directives) : Json := .list Directive.encode ds

/-- Reads a list of directives. -/
def Directives.decode : Decoder Directives := .list Directive.decode

namespace FieldDescriptor

/-- Writes a field. -/
def encode (f : FieldDescriptor) : Json :=
  .record [.always "name" (.str f.name), .always "type" f.type.encode,
    .always "static" (.bool f.isStatic), .nonEmpty "directives" Directives.encode f.directives]

/-- Reads a field. -/
def decode : Decoder FieldDescriptor :=
  .record [("name", .required), ("type", .required), ("static", .defaulted),
      ("directives", .defaulted)] { name := "", type := .void }
    fun f field =>
      match field with
      | "name" => .map (fun v => { f with name := v }) .text
      | "type" => .map (fun v => { f with type := v }) .typeRef
      | "static" => .map (fun v => { f with isStatic := v }) .flag
      | "directives" => .map (fun v => { f with directives := v }) Directives.decode
      | _ => .skip f

end FieldDescriptor

namespace ParameterDescriptor

/-- Writes a parameter. -/
def encode (p : ParameterDescriptor) : Json :=
  .record [.always "name" (.str p.name), .always "type" p.type.encode,
    .nonEmpty "directives" Directives.encode p.directives]

/-- Reads a parameter. -/
def decode : Decoder ParameterDescriptor :=
  .record [("name", .required), ("type", .required), ("directives", .defaulted)]
    { name := "", type := .void } fun p field =>
      match field with
      | "name" => .map (fun v => { p with name := v }) .text
      | "type" => .map (fun v => { p with type := v }) .typeRef
      | "directives" => .map (fun v => { p with directives := v }) Directives.decode
      | _ => .skip p

end ParameterDescriptor

namespace MethodDescriptor

/-- Writes a method. -/
def encode (m : MethodDescriptor) : Json :=
  .record [.always "name" (.str m.name),
    .nonEmpty "parameters" (.list ParameterDescriptor.encode) m.parameters,
    .always "returns" m.returns.encode, .nonEmpty "directives" Directives.encode m.directives]

/-- Reads a method; without a return type it returns nothing. -/
def decode : Decoder MethodDescriptor :=
  .record [("name", .required), ("parameters", .defaulted), ("returns", .defaulted),
      ("directives", .defaulted)] { name := "" }
    fun m field =>
      match field with
      | "name" => .map (fun v => { m with name := v }) .text
      | "parameters" =>
        .map (fun v => { m with parameters := v }) (.list ParameterDescriptor.decode)
      | "returns" => .map (fun v => { m with returns := v }) .typeRef
      | "directives" => .map (fun v => { m with directives := v }) Directives.decode
      | _ => .skip m

end MethodDescriptor

namespace TypeDescriptor

/-- Writes a type. -/
def encode (t : TypeDescriptor) : Json :=
  .record [.always "name" (.str t.name), .always "kind" (.str t.kind.word),
    .nonEmpty "constants" .texts t.constants,
    .nonEmpty "fields" (.list FieldDescriptor.encode) t.fields,
    .optional "superclass" .str t.superclass,
    .nonEmpty "directives" Directives.encode t.directives,
    .nonEmpty "methods" (.list MethodDescriptor.encode) t.methods]

/-- Reads a type; without a kind it is a class. -/
def decode : Decoder TypeDescriptor :=
  .record [("name", .required), ("kind", .defaulted), ("constants", .defaulted),
      ("fields", .defaulted), ("superclass", .defaulted), ("directives", .defaulted),
      ("methods", .defaulted)] { name := "" }
    fun t field =>
      match field with
      | "name" => .map (fun v => { t with name := v }) .text
      | "kind" => .map (fun v => { t with kind := v }) TypeKind.decode
      | "constants" => .map (fun v => { t with constants := v }) (.list .text)
      | "fields" => .map (fun v => { t with fields := v }) (.list FieldDescriptor.decode)
      | "superclass" => .map (fun v => { t with superclass := v }) (.option .text)
      | "directives" => .map (fun v => { t with directives := v }) Directives.decode
      | "methods" => .map (fun v => { t with methods := v }) (.list MethodDescriptor.decode)
      | _ => .skip t

end TypeDescriptor

/-- The types of a type graph file; without a list there are none. -/
def decodeTypes : Decoder (List TypeDescriptor) :=
  .record [("types", .defaulted)] [] fun _ _ => .list TypeDescriptor.decode

/-- The notation error inside a fault of decoding. -/
def DecodeFault.inner? : DecodeFault → Option NotationError
  | .malformed => none
  | .badNotation error => some error

namespace TypeGraph

/-- The graph that a source text holds; `fault` makes a fault of the text's format. -/
def ofSource (fault : Option NotationError → Fault) (s : Source) : Except Fault TypeGraph :=
  match s.decode decodeTypes with
  | .error e => .error (fault e.inner?)
  | .ok types => ofTypes types

/-- The graph of a text in a format. -/
def ofText (format : Format) (text : String) : Except Fault TypeGraph :=
  match format with
  | .json => ofSource .json (Json.readSource text)
  | .yaml => ofSource .yaml (Yaml.readSource text)

end TypeGraph

end ApiContract
