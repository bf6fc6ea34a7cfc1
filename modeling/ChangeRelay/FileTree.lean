import ChangeRelay.Path

/-!
Files and folders below a root folder, by the names that lead to them. A path with `..` leads on
from every folder that it passes, so it leads nowhere if one of them is missing.
-/
namespace ChangeRelay

inductive Entry where
  | folder
  | file (bytes : List UInt8)
  deriving DecidableEq, Repr

structure FileTree where
  entries : List (List String × Entry)
  deriving Repr

namespace FileTree

def empty : FileTree := ⟨[]⟩

/-- Why a path leads nowhere: a name is missing, or a file stands where a folder would have to. -/
inductive Missing where
  | name
  | folder
  deriving DecidableEq, Repr

def entry? (tree : FileTree) (names : List String) : Option Entry :=
  if names = [] then some .folder else tree.entries.lookup names

/-- Follows names from a folder, which is given by its own names, the last one first. -/
def follow (tree : FileTree) (folder : List String) : List String → Except Missing Entry
  | [] => .ok ((tree.entry? folder.reverse).getD .folder)
  | name :: rest =>
    match tree.entry? folder.reverse with
    | some .folder =>
      if name = ".." then follow tree folder.tail rest
      else if (tree.entry? (name :: folder).reverse).isSome then follow tree (name :: folder) rest
      else .error .name
    | some (.file _) => .error .folder
    | none => .error .name

/-- What a path leads to. A path without a root leads nowhere. -/
def find (tree : FileTree) (path : Path) : Except Missing Entry :=
  if path.anchor = .relative then .error .name else tree.follow [] path.names

def contains (tree : FileTree) (path : Path) : Bool := (tree.find path).isOk

def hasFile (tree : FileTree) (path : Path) : Bool :=
  match tree.find path with
  | .ok (.file _) => true
  | _ => false

def set (tree : FileTree) (names : List String) (entry : Entry) : FileTree :=
  ⟨tree.entries.filter (·.1 != names) ++ [(names, entry)]⟩

def beginnings (names : List String) : List (List String) :=
  (List.range names.length).map fun count => names.take (count + 1)

def makeFolder (tree : FileTree) (path : Path) : FileTree :=
  (beginnings path.resolved.names).foldl
    (fun tree names => if (tree.entry? names).isSome then tree else tree.set names .folder) tree

def write (tree : FileTree) (path : Path) (bytes : List UInt8) : FileTree :=
  (tree.makeFolder path.resolved.parent).set path.resolved.names (.file bytes)

def delete (tree : FileTree) (path : Path) : FileTree :=
  ⟨tree.entries.filter fun entry => !path.resolved.names.isPrefixOf entry.1⟩

def isFile : Entry → Bool
  | .file _ => true
  | .folder => false

def filesBelow (tree : FileTree) (folder : Path) : List Path :=
  let inside := tree.entries.filter fun entry =>
    isFile entry.2 && folder.names.isPrefixOf entry.1 && entry.1 != folder.names
  ((inside.map (·.1)).mergeSort Path.namesBefore).map fun names => ⟨.single, names⟩

end FileTree
end ChangeRelay
