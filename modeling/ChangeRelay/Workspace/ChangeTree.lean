import ChangeRelay.Delta
import ChangeRelay.Workspace

/-!
From a set of changed paths to a change notification. The tree has a node for every changed path
within the workspace and for every folder on the way to one, the folders unmarked; children stand in
the order of their names. What became of a path is read off the files as they are now.
-/
namespace ChangeRelay.Workspace

inductive Change where
  | added
  | modified
  | deleted
  deriving DecidableEq, Repr

/-- What a node of the tree says about its path. -/
structure Mark where
  kind : Delta.Kind
  flags : Nat
  deriving DecidableEq, Repr

def Mark.passing : Mark := ⟨.changed, 0⟩

inductive ChangeTree where
  | node (mark : Mark) (children : List (String × ChangeTree))

namespace ChangeTree

def leaf : ChangeTree := .node .passing []

/-- Changes the child of a name; a child that is missing is put at the end first. -/
def atChild (change : ChangeTree → ChangeTree) (name : String) :
    List (String × ChangeTree) → List (String × ChangeTree)
  | [] => [(name, change leaf)]
  | (other, child) :: rest =>
    if other = name then (other, change child) :: rest
    else (other, child) :: atChild change name rest

def insert (mark : Mark) : List String → ChangeTree → ChangeTree
  | [], .node _ children => .node mark children
  | name :: rest, .node own children => .node own (atChild (insert mark rest) name children)

end ChangeTree

/-- The path that is meant: a path without a root is one below the root of the workspace. -/
def changedPath (workspace : Workspace) (path : Path) : Path := workspace.root.join path

def isBelowRoot (workspace : Workspace) (path : Path) : Bool :=
  path.isWithin workspace.root && path != workspace.root

def changedPaths (workspace : Workspace) (changes : List (Change × Path)) : List Path :=
  let paths := changes.map fun change => workspace.changedPath change.2
  (paths.filter workspace.isBelowRoot).eraseDups.mergeSort Path.before

def wasAdded (workspace : Workspace) (changes : List (Change × Path)) (path : Path) : Bool :=
  changes.any fun change => change.1 == .added && workspace.changedPath change.2 == path

/-- What became of a changed path: a path that leads nowhere now was removed, whatever was told. -/
def markOf (workspace : Workspace) (changes : List (Change × Path)) (path : Path) : Mark :=
  if !workspace.tree.contains path then ⟨.removed, 0⟩
  else if workspace.wasAdded changes path then ⟨.added, 0⟩
  else ⟨.changed, 1⟩

def changeTree (workspace : Workspace) (changes : List (Change × Path)) : ChangeTree :=
  (workspace.changedPaths changes).foldl
    (fun tree path =>
      tree.insert (workspace.markOf changes path)
        (path.names.drop workspace.root.names.length))
    .leaf

def resource (workspace : Workspace) (path : Path) : Delta.Resource File where
  workspacePath := workspace.workspacePath path
  location := .ok (workspace.location? path)
  file := .ok (workspace.file? path)

def subject (workspace : Workspace) (path : Path) (mark : Mark) : Delta.Subject File where
  resource := .ok (workspace.resource path)
  kind := .ok mark.kind
  flags := .ok mark.flags
  barrier := none

mutual

def delta (workspace : Workspace) (path : Path) : ChangeTree → Delta File
  | .node mark children => .node (workspace.subject path mark) (deltas workspace path children)

def deltas (workspace : Workspace) (path : Path) :
    List (String × ChangeTree) → List (Delta File)
  | [] => []
  | (name, child) :: rest => delta workspace (path.child name) child :: deltas workspace path rest

end

def deltaOf (workspace : Workspace) (changes : List (Change × Path)) : Delta File :=
  workspace.delta workspace.root (workspace.changeTree changes)

end ChangeRelay.Workspace
