import ChangeRelay.Failure
import ChangeRelay.Value

/-!
What the host of a workspace shows: its projects and its files. A file is handled by a reference,
and its view is what the host shows at the moment the reference is looked at. Identifiers and
contents come from foreign objects, so they are dynamic values until a snapshot is made of them;
reading a charset or a document may fail.
-/
namespace ChangeRelay

structure Project where
  name : String
  /-- Key of everything that is kept for the project. -/
  scope : Value
  /-- URI of the project's folder. -/
  location : String
  deriving DecidableEq, Repr

structure FileView where
  uri : Value
  name : String
  project : Project
  /-- Path below the project's folder. -/
  relativePath : String
  charset : Except Failure Value
  /-- The current content, unsaved edits included. -/
  document : Except Failure Value

namespace Value

/-- The name of a kind of value that cannot be a key. -/
def unusableAsKey? : Value → Option String
  | .list _ => some "list"
  | .record _ => some "dict"
  | _ => none

end Value

def Project.checkScope (project : Project) : Except Failure Unit :=
  match project.scope.unusableAsKey? with
  | some kind => .error (.unusableScope kind)
  | none => .ok ()

end ChangeRelay
