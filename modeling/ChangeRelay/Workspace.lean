import ChangeRelay.FileTree
import ChangeRelay.Host
import ChangeRelay.Text.Charset
import ChangeRelay.Text.Newline

/-!
A workspace is a folder with projects in it, which may lie within each other. A file belongs to the
innermost project around it, by path alone. A project's scope and location are the URI of its
folder. The text of an open document takes the place of what its file holds.
-/
namespace ChangeRelay

namespace Workspace

/-- A project of a workspace. A project that is added again at the same place is another one, which
its serial number tells. -/
structure Member where
  serial : Nat
  name : String
  folder : Path
  deriving DecidableEq, Repr

structure File where
  path : Path
  owner : Member
  deriving DecidableEq, Repr

def Member.uri (member : Member) : String := Uri.ofPath member.folder

def Member.project (member : Member) : Project := ⟨member.name, .text member.uri, member.uri⟩

def File.uri (file : File) : String := Uri.ofPath file.path

def File.relativePath (file : File) : String :=
  (Path.mk .relative (file.path.names.drop file.owner.folder.names.length)).text

end Workspace

structure Workspace where
  root : Path
  charset : String
  /-- One project per folder, in the order in which the folders were first added. -/
  members : List Workspace.Member
  documents : List (Path × String)
  tree : FileTree
  nextSerial : Nat

namespace Workspace

def create (root : Path) (charset : String) (tree : FileTree) : Workspace :=
  ⟨root.resolved, charset, [], [], tree.makeFolder root, 0⟩

/-- Puts a project in the place of the one at its folder, or behind all others. -/
def register (members : List Member) (member : Member) : List Member :=
  match members with
  | [] => [member]
  | other :: rest =>
    if other.folder = member.folder then member :: rest else other :: register rest member

def add (workspace : Workspace) (path : Path) (name : Option String) :
    Except Failure (Member × Workspace) :=
  let folder := path.resolved
  if folder.isWithin workspace.root then
    let name := if name.getD "" = "" then folder.name else name.getD ""
    let member : Member := ⟨workspace.nextSerial, name, folder⟩
    .ok (member,
      { workspace with
        members := register workspace.members member, nextSerial := workspace.nextSerial + 1 })
  else .error (.projectOutside folder workspace.root)

def remove (workspace : Workspace) (member : Member) : Workspace :=
  { workspace with members := workspace.members.filter (·.folder != member.folder) }

def memberFor? (workspace : Workspace) (scope : Value) : Option Member :=
  workspace.members.find? fun member => decide (scope = .text member.uri)

def deeper (best : Option Member) (member : Member) : Option Member :=
  match best with
  | none => some member
  | some other =>
    if other.folder.names.length < member.folder.names.length then some member else some other

def owner? (workspace : Workspace) (path : Path) : Option Member :=
  (workspace.members.filter (path.isWithin ·.folder)).foldl deeper none

/-- The file at a path, if it belongs to a project and is not itself a project's place. -/
def file? (workspace : Workspace) (path : Path) : Option File :=
  match workspace.owner? path with
  | none => none
  | some member =>
    if member.folder ≠ path ∧ workspace.tree.hasFile path then some ⟨path, member⟩ else none

/-- The URI of what is or was at a path within a project. -/
def location? (workspace : Workspace) (path : Path) : Option String :=
  (workspace.owner? path).map fun _ => Uri.ofPath path

def workspacePath (workspace : Workspace) (path : Path) : Except Failure Path :=
  match path.below? workspace.root with
  | some names => .ok ⟨.single, names⟩
  | none => .error (.pathOutside path workspace.root)

/-- The files of a project, in the order of their paths; a project that is no longer the one at its
place has none. -/
def filesIn (workspace : Workspace) (member : Member) : List File :=
  ((workspace.tree.filesBelow member.folder).filter
    fun path => decide (workspace.owner? path = some member)).map fun path => ⟨path, member⟩

def setDocument (workspace : Workspace) (path : Path) (text : String) : Workspace :=
  { workspace with
    documents := workspace.documents.filter (·.1 != path.resolved) ++ [(path.resolved, text)] }

def dropDocument (workspace : Workspace) (path : Path) : Workspace :=
  { workspace with documents := workspace.documents.filter (·.1 != path.resolved) }

def document? (workspace : Workspace) (path : Path) : Option String :=
  workspace.documents.lookup path

def readFile (workspace : Workspace) (path : Path) : Except Failure String :=
  match workspace.tree.find path, Text.Charset.named? workspace.charset with
  | .error .name, _ => .error .noSuchFile
  | .error .folder, _ => .error .noFolderAbove
  | .ok .folder, _ => .error .isFolder
  | .ok (.file _), none => .error (.unknownCharset workspace.charset)
  | .ok (.file bytes), some charset =>
    match charset.decode? bytes with
    | some text => .ok (String.ofList (Text.withLineFeeds text))
    | none => .error .undecodable

def read (workspace : Workspace) (file : File) : Except Failure String :=
  match workspace.document? file.path with
  | some text => .ok text
  | none => workspace.readFile file.path

def view (workspace : Workspace) (file : File) : FileView where
  uri := .text file.uri
  name := file.path.name
  project := file.owner.project
  relativePath := file.relativePath
  charset := .ok (.text workspace.charset)
  document := (workspace.read file).map .text

def within (workspace : Workspace) (parent : Member) : List Member :=
  workspace.members.filter fun member => member != parent && member.folder.isWithin parent.folder

def subProjects (workspace : Workspace) (scope : Value) : List Member :=
  match workspace.memberFor? scope with
  | none => []
  | some parent => workspace.within parent

end Workspace
end ChangeRelay
