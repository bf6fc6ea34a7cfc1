import ChangeRelay.Notice
import ChangeRelay.ScopeStore

/-!
Paths that take no part in what is forwarded. A path is ignored if one of its parts is the name of
an ignored folder, and excluded if it equals or lies below an excluded path. Exclusions come from
providers, are united per project and kept until the project's scope is invalidated.
-/
namespace ChangeRelay.Exclusion

def passesThrough (folders : List String) (path : Path) : Bool := path.parts.any folders.contains

def covers (exclusions : List Path) (path : Path) : Bool := exclusions.any path.isWithin

abbrev Provider := Project → Except Failure (List Path)

structure Static where
  entries : List (Value × List Path)
  deriving Repr

namespace Static

def paths (exclusions : Static) (scope : Value) : List Path :=
  (ScopeStore.getAt exclusions.entries scope).getD []

def exclude (exclusions : Static) (scope : Value) (paths : List Path) : Static :=
  ⟨ScopeStore.setAt exclusions.entries scope (exclusions.paths scope ++ paths)⟩

def provider (exclusions : Static) : Provider := fun project =>
  match project.checkScope with
  | .ok () => .ok (exclusions.paths project.scope)
  | .error failure => .error failure

end Static

def unite (paths more : List Path) : List Path :=
  more.foldl (fun united path => if path ∈ united then united else united ++ [path]) paths

/-- The union over all providers, and how many of them were asked: all of them, or those up to the
first one that fails. -/
def askAll (project : Project) : List Provider → List Path → Nat → Except Failure (List Path) × Nat
  | [], united, asked => (.ok united, asked)
  | provider :: more, united, asked =>
    match provider project with
    | .ok paths => askAll project more (unite united paths) (asked + 1)
    | .error failure => (.error failure, asked + 1)

abbrev Cache := ScopeStore Value (List Path)

def emptyCache : Cache := .empty "exclusions"

/-- The exclusions of a project with the notes made and, if the providers were asked, how many. -/
structure Found where
  paths : Except Failure (List Path)
  notices : List Notice
  asked : Option Nat
  cache : Cache

def find (providers : List Provider) (cache : Cache) (project : Project) : Found :=
  match project.checkScope with
  | .error failure => ⟨.error failure, [], none, cache⟩
  | .ok () =>
    let (answer, cache) := cache.lookUp project.scope fun cache =>
      let (united, asked) := askAll project providers [] 0
      (united.map some, asked, cache)
    match answer.value, answer.ran with
    | .error failure, asked => ⟨.error failure, [], asked, cache⟩
    | .ok paths, none => ⟨.ok (paths.getD []), [], none, cache⟩
    | .ok paths, some asked =>
      let paths := paths.getD []
      ⟨.ok paths, [.exclusionsComputed project.scope paths.length], some asked, cache⟩

end ChangeRelay.Exclusion
