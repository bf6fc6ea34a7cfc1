import ChangeRelay.Host

/-!
Change notifications as trees. A node tells what happened to one resource, and its children tell
about resources below it. Everything a node shows is asked of a foreign object and may fail.
-/
namespace ChangeRelay

namespace Delta

inductive Kind where
  | added
  | removed
  | changed
  deriving DecidableEq, Repr

def Kind.all : List Kind := [.added, .removed, .changed]

def Kind.word : Kind → String
  | .added => "added"
  | .removed => "removed"
  | .changed => "changed"

def flagBits : List (String × Nat) :=
  [("CONTENT", 1), ("REPLACED", 2), ("ENCODING", 4), ("MARKERS", 8), ("MOVED_FROM", 16),
    ("MOVED_TO", 32), ("SYNC", 64)]

/-- The bits for content, replacement and encoding together. -/
def interestingBits : Nat := 7

structure Resource (φ : Type) where
  /-- Path below the root of the workspace. -/
  workspacePath : Except Failure Path
  /-- Where the resource is stored, if that can still be told. -/
  location : Except Failure (Option String)
  /-- The file that the resource is, if it is a plain file. -/
  file : Except Failure (Option φ)

/-- What a node shows, its children apart. `barrier` is what asking for the children fails with. -/
structure Subject (φ : Type) where
  resource : Except Failure (Resource φ)
  kind : Except Failure Kind
  flags : Except Failure Int
  barrier : Option Failure

end Delta

inductive Delta (φ : Type) where
  | node (subject : Delta.Subject φ) (children : List (Delta φ))

namespace Delta

variable {φ : Type}

def subject : Delta φ → Subject φ
  | .node subject _ => subject

def children : Delta φ → List (Delta φ)
  | .node _ children => children

mutual

def size : Delta φ → Nat
  | .node _ children => sizeAll children + 1

def sizeAll : List (Delta φ) → Nat
  | [] => 0
  | delta :: rest => delta.size + sizeAll rest

end

mutual

def preorder : Delta φ → List (Subject φ)
  | .node subject children => subject :: preorderAll children

def preorderAll : List (Delta φ) → List (Subject φ)
  | [] => []
  | delta :: rest => delta.preorder ++ preorderAll rest

end

end Delta
end ChangeRelay
