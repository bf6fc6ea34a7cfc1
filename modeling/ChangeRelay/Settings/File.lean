import ChangeRelay.Failure
import ChangeRelay.Settings
import ChangeRelay.Text.Newline
import ChangeRelay.Yaml.Datum

/-!
Settings kept in a file. A missing file and one without any value give the standard settings; any
other value has to be a mapping.
-/
namespace ChangeRelay.Settings

def ofDatum (path : Path) : Yaml.Datum → Except Failure Settings
  | .null => .ok standard
  | .record entries => (ofValue (Yaml.Datum.record entries).toValue).mapError .invalid
  | datum => .error (.noMapping path datum.kindName)

def ofFile (path : Path) : Option (List UInt8) → Except Failure Settings
  | none => .ok standard
  | some bytes =>
    match Text.Utf8.decode? bytes with
    | none => .error .undecodable
    | some text =>
      match Yaml.Datum.parse (Text.withLineFeeds text) with
      | .error flaw => .error (.unreadable flaw)
      | .ok datum => ofDatum path datum

end ChangeRelay.Settings
