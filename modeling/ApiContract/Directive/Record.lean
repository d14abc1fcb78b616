import ApiContract.Directive.Basic
import ApiContract.Json.Basic
import ApiContract.Source.Decode
/-!
# Directives as records

How directives are written in a type graph file and read from one. A directive is a record tagged by
its `kind`. Written records name all their fields, absent ones as null.

* `Directive.encode`, `Directive.decode`, and the same for the parts of directives.
-/

namespace ApiContract

/-- The word of an access mark. -/
def Access.word : Access → String
  | .readOnly => "read_only"
  | .writeOnly => "write_only"

/-- Reads an access mark. -/
def Access.decode : Decoder Access := .word [.readOnly, .writeOnly] fun a => [a.word]

/-- The word of a binding location. -/
def BindingLocation.word : BindingLocation → String
  | .path => "path"
  | .query => "query"
  | .header => "header"
  | .body => "body"

/-- Reads a binding location. -/
def BindingLocation.decode : Decoder BindingLocation :=
  .word [.path, .query, .header, .body] fun l => [l.word]

/-- Reads a verb, in capitals or in small letters. -/
def Verb.decode : Decoder Verb := .word Verb.all Verb.names

/-- A type in its notation. -/
def TypeRef.encode (t : TypeRef) : Json := .str t.write

/-- A 64-bit number. -/
def encodeWord64 (n : UInt64) : Json := .int n.toNat

namespace SubtypeDecl

/-- Writes a subtype. -/
def encode (d : SubtypeDecl) : Json :=
  .record [.always "type" (.str d.typeName), .always "tag" (.nullable .str d.tag)]

/-- Reads a subtype. -/
def decode : Decoder SubtypeDecl :=
  .record [("type", .required), ("tag", .defaulted)] { typeName := "" } fun d field =>
    match field with
    | "type" => .map (fun v => { d with typeName := v }) .text
    | "tag" => .map (fun v => { d with tag := v }) (.option .text)
    | _ => .skip d

end SubtypeDecl

namespace Description

/-- The fields of a description. -/
def members (d : Description) : List Json.Member :=
  [.always "description" (.nullable .str d.description), .always "deprecated" (.bool d.deprecated),
    .always "access" (.nullable (fun a => .str a.word) d.access)]

/-- Writes a description. -/
def encode (d : Description) : Json := .record d.members

/-- Reads a description. -/
def decode : Decoder Description :=
  .record [("description", .defaulted), ("deprecated", .defaulted), ("access", .defaulted)] {}
    fun d field =>
      match field with
      | "description" => .map (fun v => { d with description := v }) (.option .text)
      | "deprecated" => .map (fun v => { d with deprecated := v }) .flag
      | "access" => .map (fun v => { d with access := v }) (.option Access.decode)
      | _ => .skip d

end Description

namespace Route

/-- The fields of a route. -/
def members (r : Route) : List Json.Member :=
  [.always "paths" (.texts r.paths), .always "methods" (.list (fun v => .str v.name) r.verbs),
    .always "name" (.nullable .str r.name), .always "consumes" (.nullable .str r.consumes),
    .always "produces" (.nullable .str r.produces)]

/-- Writes a route. -/
def encode (r : Route) : Json := .record r.members

/-- Reads a route. -/
def decode : Decoder Route :=
  .record [("paths", .defaulted), ("methods", .defaulted), ("name", .defaulted),
      ("consumes", .defaulted), ("produces", .defaulted)] {}
    fun r field =>
      match field with
      | "paths" => .map (fun v => { r with paths := v }) (.list .text)
      | "methods" => .map (fun v => { r with verbs := v }) (.list Verb.decode)
      | "name" => .map (fun v => { r with name := v }) (.option .text)
      | "consumes" => .map (fun v => { r with consumes := v }) (.option .text)
      | "produces" => .map (fun v => { r with produces := v }) (.option .text)
      | _ => .skip r

end Route

namespace Binding

/-- The fields of a binding. -/
def members (b : Binding) : List Json.Member :=
  [.always "location" (.str b.location.word), .always "name" (.nullable .str b.name),
    .always "value" (.nullable .str b.value), .always "required" (.nullable .bool b.required)]

/-- Writes a binding. -/
def encode (b : Binding) : Json := .record b.members

/-- Reads a binding. -/
def decode : Decoder Binding :=
  .record [("location", .required), ("name", .defaulted), ("value", .defaulted),
      ("required", .defaulted)] { location := .path }
    fun b field =>
      match field with
      | "location" => .map (fun v => { b with location := v }) BindingLocation.decode
      | "name" => .map (fun v => { b with name := v }) (.option .text)
      | "value" => .map (fun v => { b with value := v }) (.option .text)
      | "required" => .map (fun v => { b with required := v }) (.option .flag)
      | _ => .skip b

end Binding

namespace HeaderDecl

/-- Writes a response header. -/
def encode (h : HeaderDecl) : Json :=
  .record [.always "description" (.nullable .str h.description), .always "type" h.type.encode]

/-- Reads a response header; without a type it is a text. -/
def decode : Decoder HeaderDecl :=
  .record [("description", .defaulted), ("type", .defaulted)] {} fun h field =>
    match field with
    | "description" => .map (fun v => { h with description := v }) (.option .text)
    | "type" => .map (fun v => { h with type := v }) .typeRef
    | _ => .skip h

end HeaderDecl

namespace ResponseDecl

/-- Writes a response. -/
def encode (r : ResponseDecl) : Json :=
  .record [.always "code" (.int r.code.toNat),
    .always "description" (.nullable .str r.description),
    .always "body" (.nullable TypeRef.encode r.body),
    .always "headers" (.table HeaderDecl.encode r.headers)]

/-- Reads a response. -/
def decode : Decoder ResponseDecl :=
  .record [("code", .required), ("description", .defaulted), ("body", .defaulted),
      ("headers", .defaulted)] { code := 0 }
    fun r field =>
      match field with
      | "code" => .map (fun v => { r with code := v }) .word16
      | "description" => .map (fun v => { r with description := v }) (.option .text)
      | "body" => .map (fun v => { r with body := v }) (.option .typeRef)
      | "headers" => .map (fun v => { r with headers := v }) (.table HeaderDecl.decode)
      | _ => .skip r

end ResponseDecl

namespace Directive

/-- The word that tells directives of one sort from the others. -/
def kind : Directive → String
  | .polymorphic .. => "polymorphic"
  | .exclude => "exclude"
  | .ignore => "ignore"
  | .notNull => "not_null"
  | .min _ => "min"
  | .max _ => "max"
  | .size .. => "size"
  | .pattern _ => "pattern"
  | .describe _ => "describe"
  | .deprecated => "deprecated"
  | .route _ => "route"
  | .tag _ => "tag"
  | .binding _ => "binding"
  | .responseStatus _ => "response_status"
  | .responses _ => "responses"

/-- The fields of a directive beside its kind. -/
def members : Directive → List Json.Member
  | .polymorphic property subtypes =>
    [.always "property" (.nullable .str property),
      .always "subtypes" (.list SubtypeDecl.encode subtypes)]
  | .exclude | .ignore | .notNull | .deprecated => []
  | .min value => [.always "value" (.float value)]
  | .max value => [.always "value" (.float value)]
  | .size least greatest =>
    [.always "min" (.nullable encodeWord64 least), .always "max" (.nullable encodeWord64 greatest)]
  | .pattern regex => [.always "regex" (.str regex)]
  | .describe d => d.members
  | .route r => r.members
  | .tag name => [.always "name" (.str name)]
  | .binding b => b.members
  | .responseStatus code => [.always "code" (.int code.toNat)]
  | .responses entries => [.always "entries" (.list ResponseDecl.encode entries)]

/-- Writes a directive. -/
def encode (d : Directive) : Json := .record (.always "kind" (.str d.kind) :: d.members)

/-- Reads the fields of a directive of a kind. -/
def variant? : String → Option (Decoder Directive)
  | "polymorphic" => some <|
    .map (fun p => .polymorphic p.1 p.2) <|
      .record [("property", .defaulted), ("subtypes", .defaulted)] (none, []) fun p field =>
        match field with
        | "property" => .map (fun v => (v, p.2)) (.option .text)
        | "subtypes" => .map (fun v => (p.1, v)) (.list SubtypeDecl.decode)
        | _ => .skip p
  | "exclude" => some (.unit .exclude)
  | "ignore" => some (.unit .ignore)
  | "not_null" => some (.unit .notNull)
  | "min" => some (.map .min (only "value" default .real))
  | "max" => some (.map .max (only "value" default .real))
  | "size" => some <|
    .map (fun p => .size p.1 p.2) <|
      .record [("min", .defaulted), ("max", .defaulted)] (none, none) fun p field =>
        match field with
        | "min" => .map (fun v => (v, p.2)) (.option .word64)
        | "max" => .map (fun v => (p.1, v)) (.option .word64)
        | _ => .skip p
  | "pattern" => some (.map .pattern (only "regex" "" .text))
  | "describe" => some (.map .describe Description.decode)
  | "deprecated" => some (.unit .deprecated)
  | "route" => some (.map .route Route.decode)
  | "tag" => some (.map .tag (only "name" "" .text))
  | "binding" => some (.map .binding Binding.decode)
  | "response_status" => some (.map .responseStatus (only "code" 0 .word16))
  | "responses" => some (.map .responses (only "entries" [] (.list ResponseDecl.decode)))
  | _ => none
where
  /-- The value of the only field of a record. -/
  only {α : Type} (name : String) (blank : α) (d : Decoder α) : Decoder α :=
    .record [(name, .required)] blank fun _ _ => d

/-- Reads a directive. -/
def decode : Decoder Directive := .tagged "kind" variant?

end Directive

end ApiContract
