import ChangeRelay.Path

/-!
The way from one path to another: as many `..` as the base has components beyond the common
folder, then the rest of the target. There is no way between paths of different roots, nor up
through a `..` component of the base.
-/
namespace ChangeRelay.Path

inductive NoWay where
  | differentRoots (target base : Path)
  | upThroughParent (base : Path)
  deriving DecidableEq, Repr

inductive Obstacle where
  | roots
  | parentName
  deriving DecidableEq, Repr

/-- Climbs from the base, given by its components from the last to the first, until the target
lies within; answers the number of steps up and the length of the folder reached. -/
def climb (target : Path) (anchor : Anchor) : List String → Except Obstacle (Nat × Nat)
  | [] => if target.isWithin ⟨anchor, []⟩ then .ok (0, 0) else .error .roots
  | name :: outer =>
    if target.isWithin ⟨anchor, (name :: outer).reverse⟩ then .ok (0, outer.length + 1)
    else if name = ".." then .error .parentName
    else (climb target anchor outer).map fun (steps, kept) => (steps + 1, kept)

def relativeTo (target base : Path) : Except NoWay Path :=
  match climb target base.anchor base.names.reverse with
  | .ok (steps, kept) => .ok ⟨.relative, List.replicate steps ".." ++ target.names.drop kept⟩
  | .error .roots => .error (.differentRoots target base)
  | .error .parentName => .error (.upThroughParent base)

end ChangeRelay.Path
