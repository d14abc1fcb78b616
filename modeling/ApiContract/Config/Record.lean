import ApiContract.Config
import ApiContract.OpenApi.Record
/-!
# Configurations as records

A configuration file is a record in which only `info` has to be given. Written configurations name
all their fields, absent ones as null.
-/

namespace ApiContract

namespace Config

/-- Writes a configuration. -/
def encode (c : Config) : Json :=
  .record [
    .always "info" <| .record [.always "title" (.str c.info.title),
      .always "description" (.nullable .str c.info.description),
      .always "version" (.str c.info.version)],
    .always "model_namespaces" (.texts c.modelNamespaces),
    .always "handler_namespaces" (.texts c.handlerNamespaces),
    .always "root_types" (.texts c.rootTypes),
    .always "servers" <| .list (fun s => .record [.always "url" (.str s.url),
      .always "description" (.nullable .str s.description)]) c.servers]

/-- Reads a configuration. -/
def decode : Decoder Config :=
  .record [("info", .required), ("model_namespaces", .defaulted),
      ("handler_namespaces", .defaulted), ("root_types", .defaulted), ("servers", .defaulted)] {}
    fun c field =>
      match field with
      | "info" => .map (fun v => { c with info := v }) (Info.decodeWith .defaulted)
      | "model_namespaces" => .map (fun v => { c with modelNamespaces := v }) (.list .text)
      | "handler_namespaces" => .map (fun v => { c with handlerNamespaces := v }) (.list .text)
      | "root_types" => .map (fun v => { c with rootTypes := v }) (.list .text)
      | "servers" =>
        .map (fun v => { c with servers := v }) (.list (Server.decodeWith .defaulted))
      | _ => .skip c

end Config

end ApiContract
