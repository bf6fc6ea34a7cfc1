import ChangeRelay.Proofs.ChangeNodes
import ChangeRelay.Proofs.EmptyExclusions
import ChangeRelay.Proofs.Pruning
import ChangeRelay.Proofs.WorkspaceMembers

/-!
The walk of a workspace's own notification. Nothing on it can fail, and below an ignored folder all
is ignored, so without exclusions it comes to the events of all nodes: what is gone, and what is a
file of a project now.
-/
namespace ChangeRelay.Workspace

open Exclusion (HoldsNone)
open ChangeTree (marks marksAll)

def ignores (workspace : Workspace) (ignored : List String) (path : Path) : Bool :=
  Exclusion.passesThrough ignored ⟨.single, workspace.namesBelow path⟩

/-- What a node comes to if nothing is excluded. -/
def eventAt (workspace : Workspace) (ignored : List String) (path : Path) (mark : Mark) :
    Option (FileEvent File) :=
  if workspace.ignores ignored path then none
  else
    match mark.kind with
    | .removed => (workspace.location? path).map .removed
    | .added => (workspace.file? path).map .added
    | .changed =>
      if (Reasons.ofFlags mark.flags).isEmpty then none
      else (workspace.file? path).map (.changed · (.ofFlags mark.flags))

/-- A walk with no one who excludes paths. -/
def guide (workspace : Workspace) (ignored : List String) : Delta.Guide File :=
  ⟨ignored, [], workspace.view⟩

theorem find_nothing (workspace : Workspace) (ignored : List String) (file : File)
    {cache : Exclusion.Cache} (holds : HoldsNone cache) :
    HoldsNone ((workspace.guide ignored).find cache file).cache ∧
      ((workspace.guide ignored).find cache file).paths = .ok [] := by
  obtain ⟨kept, found⟩ := Exclusion.find_without_providers holds (workspace.view file).project
  exact ⟨kept, found rfl⟩

theorem subject_isAt {workspace : Workspace} {path : Path} {mark : Mark}
    (within : path.isWithin workspace.root = true) :
    (workspace.subject path mark).IsAt (workspace.resource path)
      ⟨.single, workspace.namesBelow path⟩ := by
  refine ⟨rfl, ?_⟩
  simp [resource, workspacePath, Path.below?, within, namesBelow]

def eventsFrom (workspace : Workspace) (ignored : List String) (path : Path)
    (nodes : List (List String × Mark)) : List (FileEvent File) :=
  nodes.filterMap fun node =>
    workspace.eventAt ignored ⟨path.anchor, path.names ++ node.1⟩ node.2

theorem ignores_below {workspace : Workspace} {ignored : List String} {path : Path}
    (within : path.isWithin workspace.root = true)
    (ignores : workspace.ignores ignored path = true) (names : List String) :
    workspace.ignores ignored ⟨path.anchor, path.names ++ names⟩ = true := by
  have depth := Path.isWithin_depth within
  have further : workspace.namesBelow ⟨path.anchor, path.names ++ names⟩ =
      workspace.namesBelow path ++ names := List.drop_append_of_le_length depth
  simp only [Workspace.ignores, Exclusion.passesThrough, Path.parts, further, List.any_cons,
    List.any_append] at ignores ⊢
  simp only [Bool.or_eq_true] at ignores ⊢
  rcases ignores with root | own
  · exact Or.inl root
  · exact Or.inr (Or.inl own)

theorem eventsFrom_ignored {workspace : Workspace} {ignored : List String} {path : Path}
    (within : path.isWithin workspace.root = true)
    (ignores : workspace.ignores ignored path = true) (nodes : List (List String × Mark)) :
    workspace.eventsFrom ignored path nodes = [] := by
  rw [eventsFrom, List.filterMap_eq_nil_iff]
  intro node _
  rw [eventAt, if_pos (ignores_below within ignores node.1)]

theorem eventsFrom_node (workspace : Workspace) (ignored : List String) (path : Path) (mark : Mark)
    (children : List (String × ChangeTree)) :
    workspace.eventsFrom ignored path (marks (.node mark children)) =
      (workspace.eventAt ignored path mark).toList ++
        workspace.eventsFrom ignored path (marksAll children) := by
  have here : (⟨path.anchor, path.names ++ []⟩ : Path) = path := by rw [List.append_nil]
  rw [eventsFrom, marks, List.filterMap_cons, here]
  cases workspace.eventAt ignored path mark <;> rfl

theorem eventsFrom_cons (workspace : Workspace) (ignored : List String) (path : Path)
    (name : String) (child : ChangeTree) (rest : List (String × ChangeTree)) :
    workspace.eventsFrom ignored path (marksAll ((name, child) :: rest)) =
      workspace.eventsFrom ignored (path.child name) (marks child) ++
        workspace.eventsFrom ignored path (marksAll rest) := by
  rw [marksAll, eventsFrom, List.filterMap_append, List.filterMap_map]
  congr 1
  rw [eventsFrom]
  congr 1
  funext node
  simp [Path.child]

def events (workspace : Workspace) (ignored : List String) (changes : List (Change × Path)) :
    List (FileEvent File) :=
  (workspace.nodes changes).filterMap fun node => workspace.eventAt ignored node.1 node.2

theorem events_eq (workspace : Workspace) (ignored : List String)
    (changes : List (Change × Path)) :
    workspace.events ignored changes =
      workspace.eventsFrom ignored workspace.root (marks (workspace.changeTree changes)) := by
  rw [events, nodes, List.filterMap_map]
  rfl

end ChangeRelay.Workspace
