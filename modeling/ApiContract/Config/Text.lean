import ApiContract.Config.Record
import ApiContract.Fault
import ApiContract.Toml.Reader
/-!
# Configurations as texts

A configuration file is a TOML text.

* `Config.ofToml`.
-/

namespace ApiContract.Config

/-- The configuration that a TOML text holds. -/
def ofToml (text : String) : Except Fault Config :=
  match Toml.readSource? text with
  | some s => (s.decode decode).mapError fun _ => .toml
  | none => .error .toml

end ApiContract.Config
