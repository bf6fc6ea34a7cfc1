import ChangeRelay.ChangeList
import ChangeRelay.Delta
import ChangeRelay.Exclusion

/-!
Walking a change notification. A node is judged on its own: whether the walk goes on below it, and
what event it stands for. `walk` keeps the nodes still to be seen on a stack, children pushed last
first; `visit` is the same walk by recursion on the tree. Exclusions found on the way stay in the
cache even if the walk fails later.
-/
namespace ChangeRelay.Delta

variable {φ : Type}

inductive Verdict where
  | goOn
  | skip
  deriving DecidableEq, Repr

def Verdict.word : Verdict → String
  | .goOn => "continue"
  | .skip => "skip"

structure Guide (φ : Type) where
  ignoredFolders : List String
  providers : List Exclusion.Provider
  look : φ → FileView

/-- What a walk leaves behind: the cache of exclusions, the notes made and, for every time the
providers were asked, how many of them. -/
structure Trail where
  cache : Exclusion.Cache
  notices : List Notice
  asked : List Nat

namespace Trail

def start (cache : Exclusion.Cache) : Trail := ⟨cache, [], []⟩

def note (trail : Trail) (notice : Notice) : Trail :=
  { trail with notices := trail.notices ++ [notice] }

def noteAll (trail : Trail) (notices : List Notice) : Trail :=
  { trail with notices := trail.notices ++ notices }

def exclusions (trail : Trail) (providers : List Exclusion.Provider) (project : Project) :
    Except Failure (List Path) × Trail :=
  let found := Exclusion.find providers trail.cache project
  (found.paths, ⟨found.cache, trail.notices ++ found.notices, trail.asked ++ found.asked.toList⟩)

end Trail

abbrev Judged (φ : Type) := Except Failure (Verdict × Option (FileEvent φ)) × Trail

def reasonNotices (reasons : Reasons) (name : String) : List Notice :=
  (if reasons.content then [.contentChanged name] else []) ++
    (if reasons.replaced then [.contentReplaced name] else []) ++
    (if reasons.encoding then [.encodingChanged name] else [])

def judgePresent (guide : Guide φ) (subject : Subject φ) (kind : Kind) (file : φ) (trail : Trail) :
    Judged φ :=
  let name := (guide.look file).name
  if kind = .added then (.ok (.goOn, some (.added file)), trail.note (.fileAdded name))
  else
    match subject.flags with
    | .error failure => (.error failure, trail)
    | .ok flags =>
      let reasons := Reasons.ofFlags flags
      if reasons.isEmpty then (.ok (.goOn, none), trail)
      else (.ok (.goOn, some (.changed file reasons)), trail.noteAll (reasonNotices reasons name))

def judgeFile (guide : Guide φ) (subject : Subject φ) (path : Path) (kind : Kind) (file : φ)
    (trail : Trail) : Judged φ :=
  match trail.exclusions guide.providers (guide.look file).project with
  | (.error failure, trail) => (.error failure, trail)
  | (.ok exclusions, trail) =>
    if Exclusion.covers exclusions path then (.ok (.skip, none), trail)
    else judgePresent guide subject kind file trail

def judgeRemoved (resource : Resource φ) (trail : Trail) : Judged φ :=
  match resource.location with
  | .error failure => (.error failure, trail)
  | .ok none => (.ok (.goOn, none), trail)
  | .ok (some uri) => (.ok (.goOn, some (.removed uri)), trail.note (.fileRemoved uri))

/-- A single node. A removed resource is neither checked for exclusion nor adapted to a file; a
resource that cannot be adapted is no file. -/
def judge (guide : Guide φ) (subject : Subject φ) (trail : Trail) : Judged φ :=
  match subject.resource with
  | .error failure => (.error failure, trail)
  | .ok resource =>
    match resource.workspacePath with
    | .error failure => (.error failure, trail)
    | .ok path =>
      if Exclusion.passesThrough guide.ignoredFolders path then (.ok (.skip, none), trail)
      else
        match subject.kind with
        | .error failure => (.error failure, trail)
        | .ok kind =>
          if kind = .removed then judgeRemoved resource trail
          else
            match resource.file with
            | .error failure => (.ok (.goOn, none), trail.note (.notAdapted path failure))
            | .ok none => (.ok (.goOn, none), trail)
            | .ok (some file) => judgeFile guide subject path kind file trail

/-- A walk under way or finished: the changes met so far, or the failure that ended it. -/
structure Outcome (φ : Type) where
  result : Except Failure (ChangeList φ)
  trail : Trail

def record (changes : ChangeList φ) : Option (FileEvent φ) → ChangeList φ
  | none => changes
  | some event => changes.add event

/-- Puts nodes on a stack one after the other, so that the last one is on top. -/
def push (stack : List (Delta φ)) : List (Delta φ) → List (Delta φ)
  | [] => stack
  | delta :: rest => push (delta :: stack) rest

theorem push_eq (stack deltas : List (Delta φ)) : push stack deltas = deltas.reverse ++ stack := by
  induction deltas generalizing stack with
  | nil => rfl
  | cons delta rest ih => simp [push, ih]

theorem sizeAll_append (as bs : List (Delta φ)) :
    sizeAll (as ++ bs) = sizeAll as + sizeAll bs := by
  induction as with
  | nil => simp [sizeAll]
  | cons a as ih => simp [sizeAll, ih, Nat.add_assoc]

def pushChildren (children stack : List (Delta φ)) : List (Delta φ) := push stack children.reverse

theorem sizeAll_pushChildren (children stack : List (Delta φ)) :
    sizeAll (pushChildren children stack) = sizeAll children + sizeAll stack := by
  rw [pushChildren, push_eq, List.reverse_reverse, sizeAll_append]

def walk (guide : Guide φ) (stack : List (Delta φ)) (changes : ChangeList φ) (trail : Trail) :
    Outcome φ :=
  match stack with
  | [] => ⟨.ok changes, trail⟩
  | .node subject children :: rest =>
    match judge guide subject trail with
    | (.error failure, trail) => ⟨.error failure, trail⟩
    | (.ok (verdict, event), trail) =>
      match verdict, subject.barrier with
      | .skip, _ => walk guide rest (record changes event) trail
      | .goOn, some failure => ⟨.error failure, trail⟩
      | .goOn, none => walk guide (pushChildren children rest) (record changes event) trail
termination_by sizeAll stack
decreasing_by
  all_goals simp only [sizeAll_pushChildren, sizeAll, size]
  all_goals omega

mutual

def visit (guide : Guide φ) : Delta φ → ChangeList φ → Trail → Outcome φ
  | .node subject children, changes, trail =>
    match judge guide subject trail with
    | (.error failure, trail) => ⟨.error failure, trail⟩
    | (.ok (verdict, event), trail) =>
      match verdict, subject.barrier with
      | .skip, _ => ⟨.ok (record changes event), trail⟩
      | .goOn, some failure => ⟨.error failure, trail⟩
      | .goOn, none => visitAll guide children (record changes event) trail

def visitAll (guide : Guide φ) : List (Delta φ) → ChangeList φ → Trail → Outcome φ
  | [], changes, trail => ⟨.ok changes, trail⟩
  | delta :: rest, changes, trail =>
    match visit guide delta changes trail with
    | ⟨.error failure, trail⟩ => ⟨.error failure, trail⟩
    | ⟨.ok changes, trail⟩ => visitAll guide rest changes trail

end

def gather (guide : Guide φ) (delta : Delta φ) (cache : Exclusion.Cache) : Outcome φ :=
  let outcome := walk guide [delta] .empty (.start cache)
  match outcome.result with
  | .ok _ => outcome
  | .error failure =>
    if failure.isWalkFailure then outcome else { outcome with result := .error (.walk failure) }

end ChangeRelay.Delta
