import Pacts.Files
import Pacts.Load.Error
import Pacts.Load.Settings
import Pacts.Yaml.Record

/-!
# Settings files

Settings are kept in a YAML file that holds a mapping.  A setting that is missing has its default; a
member of another name is passed over, but no setting may be there twice.  A text is taken from any
scalar as it is written, whatever else the scalar may mean.
-/

set_option autoImplicit false

namespace Pacts

namespace CredentialSettings

/-- How a setting of the credentials is read. -/
def reader (d : Yaml.Document) :
    String → Option (CredentialSettings → Yaml.Node → Yaml.Reading CredentialSettings)
  | "scheme" => some fun s n => do return { s with scheme := ← d.optional d.text n }
  | "username" => some fun s n => do return { s with username := ← d.text n }
  | "password" => some fun s n => do return { s with password := ← d.text n }
  | "token" => some fun s n => do return { s with token := ← d.text n }
  | _ => none

end CredentialSettings

namespace BrokerSettings

/-- How a setting is read. -/
def reader (d : Yaml.Document) :
    String → Option (BrokerSettings → Yaml.Node → Yaml.Reading BrokerSettings)
  | "host" => some fun s n => do return { s with host := ← d.text n }
  | "port" => some fun s n => do return { s with port := ← d.text n }
  | "scheme" => some fun s n => do return { s with scheme := ← d.text n }
  | "tags" => some fun s n => do return { s with tags := ← d.texts n }
  | "consumers" => some fun s n => do return { s with consumers := ← d.texts n }
  | "fail_if_no_pacts_found" => some fun s n => do return { s with failIfNone := ← d.truth n }
  | "authentication" => some fun s n => do
    let read := d.fields (CredentialSettings.reader d) .blank
    return { s with credentials := ← d.optional read n }
  | "value_resolver" => some fun s n => do return { s with lookup := ← d.optional d.text n }
  | "timeout_secs" => some fun s n => do
    return { s with timeout := ← d.optional (d.number (Nat.pow 2 64)) n }
  | _ => none

/-- The settings that a text in YAML holds. -/
def ofYaml (text : String) : Except Yaml.Problem BrokerSettings :=
  Yaml.readAs text default fun d => d.fields (reader d) default d.root

/-- The settings that a file holds. -/
def ofFile (files : Files) (path : String) : Except LoadError BrokerSettings :=
  match files.text path with
  | .error problem => .error (.settingsIo path problem)
  | .ok text => (ofYaml text).mapError (.settingsParse path)

end BrokerSettings

end Pacts
