import ChangeRelay.ChangeList
import ChangeRelay.Advisors
import ChangeRelay.Snapshot

/-!
Configuration files of a project also configure its sub-projects. A sub-project gets a duplicate of
each such snapshot, with its own scope and with the path as seen from its own folder.
-/
namespace ChangeRelay.SubProject

/-- The sub-projects of a project by all providers in whose hierarchy it takes part. -/
def ask (project : Project) : List Hierarchy → Except Failure (List Project)
  | [] => .ok []
  | provider :: more => do
    if ← provider.isPart project then
      let found ← provider.subProjects project
      return found ++ (← ask project more)
    else ask project more

def resolve (project : Project) (providers : List Hierarchy) :
    Except Failure (List Project) :=
  (ask project providers).map ChangeList.firstPerScope

def duplicate (subProject : Project) (snapshot : Snapshot) : Except Failure Snapshot :=
  match Uri.fromTo subProject.location snapshot.uri, subProject.scope with
  | .error noRelative, _ => .error (.ofRelative noRelative)
  | .ok path, .text scope => .ok { snapshot with relativePath := path.text, scope := scope }
  | .ok _, _ => .error .uriIsNoText

def duplicates (snapshots : List Snapshot) : List Project → Except Failure (List Snapshot)
  | [] => .ok []
  | subProject :: more => do
    let own ← snapshots.mapM (duplicate subProject)
    return own ++ (← duplicates snapshots more)

def spread (snapshots : List Snapshot) (subProjects : List Project) :
    Except Failure (List Snapshot) × List Notice :=
  match duplicates snapshots subProjects with
  | .error failure => (.error failure, [])
  | .ok [] => (.ok [], [])
  | .ok all => (.ok all, [.duplicated snapshots.length subProjects.length])

end ChangeRelay.SubProject
