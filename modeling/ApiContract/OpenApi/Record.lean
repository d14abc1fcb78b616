import ApiContract.OpenApi.SchemaRecord
import ApiContract.OpenApi.Specification
/-!
# Specifications as records

How the objects of a specification are written, and how they are read. Members without a value are
left out, but for the paths of a specification and the responses of an operation, which are always
there.

* `Specification.encode`, `Specification.decode`, and the same for the objects inside.
-/

namespace ApiContract

namespace Info

/-- Writes what a document says about itself. -/
def encode (i : Info) : Json :=
  .record [.always "title" (.str i.title), .optional "description" .str i.description,
    .always "version" (.str i.version)]

/-- Reads what a document says about itself; `description` says whether a description may be
absent. -/
def decodeWith (description : Presence) : Decoder Info :=
  .record [("title", .required), ("description", description), ("version", .required)]
    { title := "", version := "" } fun i field =>
      match field with
      | "title" => .map (fun v => { i with title := v }) .text
      | "description" => .map (fun v => { i with description := v }) (.option .text)
      | "version" => .map (fun v => { i with version := v }) .text
      | _ => .skip i

end Info

namespace Server

/-- Writes a server. -/
def encode (s : Server) : Json :=
  .record [.always "url" (.str s.url), .optional "description" .str s.description]

/-- Reads a server; `description` says whether a description may be absent. -/
def decodeWith (description : Presence) : Decoder Server :=
  .record [("url", .required), ("description", description)] { url := "" } fun s field =>
    match field with
    | "url" => .map (fun v => { s with url := v }) .text
    | "description" => .map (fun v => { s with description := v }) (.option .text)
    | _ => .skip s

end Server

namespace MediaTypeObject

/-- Writes content of a media type. -/
def encode (m : MediaTypeObject) : Json := .record [.optional "schema" SchemaObject.encode m.schema]

/-- Reads content of a media type. -/
def decode : Decoder MediaTypeObject :=
  .record [("schema", .nullable)] {} fun m field =>
    match field with
    | "schema" => .map (fun v => { m with schema := v }) (.option SchemaObject.decode)
    | _ => .skip m

end MediaTypeObject

namespace HeaderObject

/-- Writes a header. -/
def encode (h : HeaderObject) : Json :=
  .record [.optional "description" .str h.description,
    .optional "schema" SchemaObject.encode h.schema]

/-- Reads a header. -/
def decode : Decoder HeaderObject :=
  .record [("description", .nullable), ("schema", .nullable)] {} fun h field =>
    match field with
    | "description" => .map (fun v => { h with description := v }) (.option .text)
    | "schema" => .map (fun v => { h with schema := v }) (.option SchemaObject.decode)
    | _ => .skip h

end HeaderObject

namespace ResponseObject

/-- Writes a response. -/
def encode (r : ResponseObject) : Json :=
  .record [.always "description" (.str r.description),
    .nonEmpty "headers" (.table HeaderObject.encode) r.headers,
    .nonEmpty "content" (.table MediaTypeObject.encode) r.content]

/-- Reads a response. -/
def decode : Decoder ResponseObject :=
  .record [("description", .required), ("headers", .defaulted), ("content", .defaulted)]
    { description := "" } fun r field =>
      match field with
      | "description" => .map (fun v => { r with description := v }) .text
      | "headers" => .map (fun v => { r with headers := v }) (.table HeaderObject.decode)
      | "content" => .map (fun v => { r with content := v }) (.table MediaTypeObject.decode)
      | _ => .skip r

end ResponseObject

namespace RequestBodyObject

/-- Writes a request body. -/
def encode (b : RequestBodyObject) : Json :=
  .record [.optional "description" .str b.description,
    .always "content" (.table MediaTypeObject.encode b.content),
    .optional "required" .bool b.required]

/-- Reads a request body. -/
def decode : Decoder RequestBodyObject :=
  .record [("description", .nullable), ("content", .required), ("required", .nullable)]
    { content := [] } fun b field =>
      match field with
      | "description" => .map (fun v => { b with description := v }) (.option .text)
      | "content" => .map (fun v => { b with content := v }) (.table MediaTypeObject.decode)
      | "required" => .map (fun v => { b with required := v }) (.option .flag)
      | _ => .skip b

end RequestBodyObject

namespace ParameterObject

/-- Writes a parameter. -/
def encode (p : ParameterObject) : Json :=
  .record [.always "name" (.str p.name), .always "in" (.str p.location),
    .optional "description" .str p.description, .optional "required" .bool p.required,
    .optional "deprecated" .bool p.deprecated, .optional "schema" SchemaObject.encode p.schema]

/-- Reads a parameter. -/
def decode : Decoder ParameterObject :=
  .record [("name", .required), ("in", .required), ("description", .nullable),
      ("required", .nullable), ("deprecated", .nullable), ("schema", .nullable)]
    { name := "", location := "" } fun p field =>
      match field with
      | "name" => .map (fun v => { p with name := v }) .text
      | "in" => .map (fun v => { p with location := v }) .text
      | "description" => .map (fun v => { p with description := v }) (.option .text)
      | "required" => .map (fun v => { p with required := v }) (.option .flag)
      | "deprecated" => .map (fun v => { p with deprecated := v }) (.option .flag)
      | "schema" => .map (fun v => { p with schema := v }) (.option SchemaObject.decode)
      | _ => .skip p

end ParameterObject

namespace OperationObject

/-- Writes an operation. -/
def encode (o : OperationObject) : Json :=
  .record [.nonEmpty "tags" .texts o.tags, .optional "summary" .str o.summary,
    .optional "description" .str o.description, .optional "operationId" .str o.operationId,
    .nonEmpty "parameters" (.list ParameterObject.encode) o.parameters,
    .optional "requestBody" RequestBodyObject.encode o.requestBody,
    .always "responses" (.table ResponseObject.encode o.responses),
    .optional "deprecated" .bool o.deprecated]

/-- Reads an operation. -/
def decode : Decoder OperationObject :=
  .record [("tags", .defaulted), ("summary", .nullable), ("description", .nullable),
      ("operationId", .nullable), ("parameters", .defaulted), ("requestBody", .nullable),
      ("responses", .defaulted), ("deprecated", .nullable)] {} fun o field =>
    match field with
    | "tags" => .map (fun v => { o with tags := v }) (.list .text)
    | "summary" => .map (fun v => { o with summary := v }) (.option .text)
    | "description" => .map (fun v => { o with description := v }) (.option .text)
    | "operationId" => .map (fun v => { o with operationId := v }) (.option .text)
    | "parameters" => .map (fun v => { o with parameters := v }) (.list ParameterObject.decode)
    | "requestBody" =>
      .map (fun v => { o with requestBody := v }) (.option RequestBodyObject.decode)
    | "responses" => .map (fun v => { o with responses := v }) (.table ResponseObject.decode)
    | "deprecated" => .map (fun v => { o with deprecated := v }) (.option .flag)
    | _ => .skip o

end OperationObject

namespace PathItem

/-- Writes the operations of a path. -/
def encode (item : PathItem) : Json :=
  .record (Verb.all.map fun v => .optional v.key OperationObject.encode (item.operation? v))

/-- Reads the operations of a path. -/
def decode : Decoder PathItem :=
  .record (Verb.all.map fun v => (v.key, .nullable)) {} fun item field =>
    let operation := Decoder.option OperationObject.decode
    match field with
    | "get" => .map (fun v => { item with get := v }) operation
    | "put" => .map (fun v => { item with put := v }) operation
    | "post" => .map (fun v => { item with post := v }) operation
    | "delete" => .map (fun v => { item with delete := v }) operation
    | "options" => .map (fun v => { item with options := v }) operation
    | "head" => .map (fun v => { item with head := v }) operation
    | "patch" => .map (fun v => { item with patch := v }) operation
    | "trace" => .map (fun v => { item with trace := v }) operation
    | _ => .skip item

end PathItem

namespace ComponentsObject

/-- Writes the reusable parts. -/
def encode (c : ComponentsObject) : Json :=
  .record [.nonEmpty "schemas" (.table SchemaObject.encode) c.schemas]

/-- Reads the reusable parts. -/
def decode : Decoder ComponentsObject :=
  .record [("schemas", .defaulted)] {} fun c field =>
    match field with
    | "schemas" => .map (fun v => { c with schemas := v }) (.sortedTable SchemaObject.decode)
    | _ => .skip c

end ComponentsObject

namespace TagObject

/-- Writes a tag. -/
def encode (t : TagObject) : Json := .record [.always "name" (.str t.name)]

/-- Reads a tag. -/
def decode : Decoder TagObject :=
  .record [("name", .required)] ⟨""⟩ fun t field =>
    match field with
    | "name" => .map TagObject.mk .text
    | _ => .skip t

end TagObject

namespace Specification

/-- Writes a specification. -/
def encode (s : Specification) : Json :=
  .record [.always "openapi" (.str s.openapi), .always "info" s.info.encode,
    .nonEmpty "servers" (.list Server.encode) s.servers,
    .always "paths" (.table PathItem.encode s.paths),
    .optional "components" ComponentsObject.encode s.components,
    .nonEmpty "tags" (.list TagObject.encode) s.tags]

/-- Reads a specification. -/
def decode : Decoder Specification :=
  .record [("openapi", .required), ("info", .required), ("servers", .defaulted),
      ("paths", .defaulted), ("components", .nullable), ("tags", .defaulted)]
    { openapi := "", info := default } fun s field =>
      match field with
      | "openapi" => .map (fun v => { s with openapi := v }) .text
      | "info" => .map (fun v => { s with info := v }) (Info.decodeWith .nullable)
      | "servers" => .map (fun v => { s with servers := v }) (.list (Server.decodeWith .nullable))
      | "paths" => .map (fun v => { s with paths := v }) (.sortedTable PathItem.decode)
      | "components" =>
        .map (fun v => { s with components := v }) (.option ComponentsObject.decode)
      | "tags" => .map (fun v => { s with tags := v }) (.list TagObject.decode)
      | _ => .skip s

end Specification

end ApiContract
