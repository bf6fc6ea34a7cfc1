import ChangeRelay.Host

/-!
The flat result of one change notification: files that were added or changed, and locations of
what was removed, each in the order in which they were met.
-/
namespace ChangeRelay

structure Reasons where
  content : Bool
  replaced : Bool
  encoding : Bool
  deriving DecidableEq, Repr

namespace Reasons

def ofFlags (flags : Int) : Reasons :=
  let low := (flags % 8).toNat
  ⟨low % 2 == 1, low / 2 % 2 == 1, low / 4 % 2 == 1⟩

def isEmpty (reasons : Reasons) : Bool :=
  !reasons.content && !reasons.replaced && !reasons.encoding

def bits (reasons : Reasons) : Nat :=
  reasons.content.toNat + 2 * reasons.replaced.toNat + 4 * reasons.encoding.toNat

end Reasons

inductive FileEvent (φ : Type) where
  | removed (location : String)
  | added (file : φ)
  | changed (file : φ) (reasons : Reasons)
  deriving DecidableEq, Repr

structure ChangeList (φ : Type) where
  present : List φ
  removed : List String
  deriving DecidableEq, Repr

namespace ChangeList

variable {φ : Type}

def empty : ChangeList φ := ⟨[], []⟩

def isEmpty (changes : ChangeList φ) : Bool :=
  changes.present.isEmpty && changes.removed.isEmpty

def add (changes : ChangeList φ) : FileEvent φ → ChangeList φ
  | .removed location => { changes with removed := changes.removed ++ [location] }
  | .added file | .changed file _ =>
    { changes with present := changes.present ++ [file] }

/-- The first project of every scope, in the order given. -/
def firstPerScope (projects : List Project) : List Project :=
  projects.foldl
    (fun seen project => if seen.any (·.scope == project.scope) then seen else seen ++ [project]) []

def projects (look : φ → FileView) (changes : ChangeList φ) : List Project :=
  firstPerScope (changes.present.map fun file => (look file).project)

end ChangeList
end ChangeRelay
