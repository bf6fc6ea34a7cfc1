import ChangeRelay.Proofs.ForwardedPaths
import ChangeRelay.Proofs.SentSnapshots
import ChangeRelay.Workspace.Watch

/-!
From a set of changed paths to the batch that is sent. A workspace hands the paths in, the worker
sends what they come to: one batch, or none if they come to nothing. It tells of every path that is
gone and of every file that is there, in the order of their paths, and after these of copies for
sub-projects.
-/
namespace ChangeRelay

namespace Sending

theorem run_sent {φ : Type} {means : Means φ} {changes : ChangeList φ} {snapshots : List Snapshot}
    (filled : changes.isEmpty = false)
    (made : (snapshotsOf means changes.present).1 = .ok snapshots)
    (working : means.service.outage = none) :
    (run means changes).result = .ok (some ⟨changes.removed, snapshots⟩) ∧
      (run means changes).delivery =
        some (means.service.style ⟨changes.removed, snapshots⟩) := by
  have result : (run means changes).result = .ok (some ⟨changes.removed, snapshots⟩) := by
    unfold run
    revert made
    obtain ⟨answer, notices⟩ := snapshotsOf means changes.present
    intro made
    change answer = .ok snapshots at made
    subst made
    simp only [filled, working, Bool.false_eq_true, if_false]
  rw [Relay.run_delivery, result]
  exact ⟨rfl, rfl⟩

theorem run_batch {φ : Type} {means : Means φ} {changes : ChangeList φ} {batch : Batch}
    (sent : (run means changes).result = .ok (some batch)) :
    (snapshotsOf means changes.present).1 = .ok batch.addedOrChanged := by
  unfold run at sent
  split at sent
  · cases sent
  · split at sent
    · cases sent
    · rename_i made
      rw [made]
      dsimp only at sent
      split at sent
      · cases sent
      · cases sent
        rfl

end Sending

namespace Relay

variable {φ : Type}

theorem workSome_outcomes (around : Surroundings φ) (pending : List (Nat × ChangeList φ))
    (relay : Relay φ) (queued : relay.queue.pending = pending) :
    (workSome around pending.length relay).2 =
      pending.map fun work => Sending.runNoted (relay.means around) work.2 := by
  induction pending generalizing relay with
  | nil => rfl
  | cons first rest ih =>
    obtain ⟨ticket, changes⟩ := first
    simp only [List.length_cons, workSome, work, WorkQueue.take?, queued, List.map_cons]
    congr 1
    exact ih _ rfl

theorem workAll_outcomes (relay : Relay φ) (around : Surroundings φ) :
    (relay.workAll around).2 =
      relay.queue.pending.map fun work => Sending.runNoted (relay.means around) work.2 :=
  workSome_outcomes around relay.queue.pending relay rfl

theorem means_notify (relay : Relay φ) (around other : Surroundings φ) (delta : Delta φ) :
    (relay.notify around delta).1.means other = relay.means other := by
  rw [means, means, notify_settings]

section
variable {relay : Relay φ} {around : Surroundings φ} {delta : Delta φ} {changes : ChangeList φ}
  (gathered : (Delta.gather (relay.guide around) delta relay.exclusions).result = .ok changes)
include gathered

theorem notify_idle (empty : changes.isEmpty = true) :
    (relay.notify around delta).2.ticket = .ok none ∧
      ((relay.notify around delta).1.workAll around).2 = (relay.workAll around).2 := by
  constructor
  · simp only [notify, gathered, empty, if_true]
  · have queue : (relay.notify around delta).1.queue = relay.queue := by
      simp only [notify, gathered, empty, if_true]
    rw [workAll_outcomes, workAll_outcomes, queue, means_notify]

theorem notify_submits (isOpen : relay.queue.closed = false) (filled : changes.isEmpty = false) :
    (relay.notify around delta).2.ticket = .ok (some relay.queue.nextTicket) ∧
      ((relay.notify around delta).1.workAll around).2 =
        (relay.workAll around).2 ++ [Sending.runNoted (relay.means around) changes] := by
  constructor
  · simp only [notify, gathered, filled, WorkQueue.submit, isOpen, Bool.false_eq_true, if_false]
  · have pending : (relay.notify around delta).1.queue.pending =
        relay.queue.pending ++ [(relay.queue.nextTicket, changes)] := by
      simp only [notify, gathered, filled, WorkQueue.submit, isOpen, Bool.false_eq_true, if_false]
    rw [workAll_outcomes, workAll_outcomes, pending, means_notify, List.map_append]
    rfl

end

end Relay

namespace Workspace

/-- What a workspace offers to a relay: its files and the nesting of its projects, no exclusions. -/
def surroundings (workspace : Workspace) (languages : List LanguageDetector)
    (isTest : TestClassifier) (resolver : Resolver) (service : Receiver)
    (listing : Project → Except Failure (List File)) : Relay.Surroundings File where
  advisors := ⟨[], [workspace.hierarchy], languages, isTest⟩
  resolver := resolver
  service := service
  look := workspace.view
  listing := listing

def parsed (changes : List (Change × String)) : List (Change × Path) :=
  changes.map fun change => (change.1, .parse change.2)

/-- A root below which no path can be taken for one on a drive. Below a bare root, where a path may
begin with any name, this has to be asked of the projects and of the changed paths. -/
def AwayFromDrives (workspace : Workspace) (changes : List (Change × Path)) : Prop :=
  workspace.root.names ≠ [] ∧ Plain workspace.root ∨
    (∀ member ∈ workspace.members, Plain member.folder) ∧
      ∀ path ∈ workspace.changedPaths changes, Plain path

/-- A project at a bare root, and within it one whose folder is named like a drive. -/
def bareRoot : Workspace :=
  let all : Member := ⟨0, "all", .parse "/"⟩
  let drive : Member := ⟨1, "C:", .parse "/C:"⟩
  let tree := FileTree.empty.write (.parse "/.sonarlint/c.json") []
  { create (.parse "/") "utf-8" tree with members := [all, drive], nextSerial := 2 }

theorem bareRoot_built : bareRoot.Built := by
  have bare := Built.created "/" "utf-8"
    (FileTree.empty.write (.parse "/.sonarlint/c.json") [])
  have outer := bare.added "/" (some "all") rfl
  exact outer.added "/C:" none rfl

def bareSurroundings : Relay.Surroundings File :=
  bareRoot.surroundings [] (TestFile.byPatterns []) (fun _ => .ok none) .recording fun _ => .ok []

/-- It is not enough that a bare root is not on a drive itself: the folder `C:` is read back as
drive, no way leads from it to the changed file, and nothing is sent. -/
theorem bareRoot_unsent :
    bareRoot.Built ∧ Plain bareRoot.root ∧
      (bareRoot.file? (.parse "/.sonarlint/c.json")).isSome = true ∧
      let relay : Relay File := (Relay.start .standard none none).1
      let changes := parsed [(.modified, ".sonarlint/c.json")]
      let handed := (bareRoot.handIn relay bareSurroundings changes).1
      (handed.workAll bareSurroundings).2.map (·.delivery.isSome) = [false] :=
  ⟨bareRoot_built, rfl, by decide, by decide +kernel⟩

theorem changed_clean {workspace : Workspace} (sound : workspace.Sound)
    {changes : List (Change × String)} {path : Path}
    (changed : path ∈ workspace.changedPaths (parsed changes)) :
    path.Clean ∧ path.anchor = .single := by
  obtain ⟨⟨change, listed, rfl⟩, below⟩ := (mem_changedPaths workspace _ path).mp changed
  obtain ⟨raw, -, rfl⟩ := List.mem_map.mp listed
  refine ⟨Path.clean_join sound.root.clean (Path.parse_clean raw.2), ?_⟩
  obtain ⟨names, -, same⟩ := (isBelowRoot_iff workspace _).mp below
  rw [same]
  exact sound.root.rooted

theorem away_members {workspace : Workspace} (sound : workspace.Sound)
    {changes : List (Change × Path)} (away : workspace.AwayFromDrives changes) :
    ∀ member ∈ workspace.members, Plain member.folder := by
  rcases away with ⟨filled, plain⟩ | ⟨members, -⟩
  · intro member listed
    exact (Path.drive_within (sound.inside member listed) filled).trans plain
  · exact members

theorem away_paths {workspace : Workspace} {changes : List (Change × Path)}
    (away : workspace.AwayFromDrives changes) :
    ∀ path ∈ workspace.changedPaths changes, Plain path := by
  rcases away with ⟨filled, plain⟩ | ⟨-, paths⟩
  · intro path changed
    have within := ((mem_changedPaths_iff workspace changes path).mp changed).2.1
    exact (Path.drive_within within filled).trans plain
  · exact paths

theorem shown_sendable {workspace : Workspace} (sound : workspace.Sound) (ignored : List String)
    {changes : List (Change × String)} (away : workspace.AwayFromDrives (parsed changes))
    {file : File} (shown : file ∈ workspace.shownFiles ignored (parsed changes)) :
    workspace.Sendable file := by
  obtain ⟨changed, -, found⟩ := (mem_shownFiles workspace ignored _ file).mp shown
  obtain ⟨clean, rooted⟩ := changed_clean sound changed
  exact ⟨owner_innermost (file_cases found).2.1, clean, rooted, away_paths away _ changed⟩

def nestedSample : Workspace :=
  let app : Member := ⟨0, "app", .parse "/w/app"⟩
  let lib : Member := ⟨1, "lib", .parse "/w/app/lib"⟩
  let tree :=
    (FileTree.empty.write (.parse "/w/app/main.c") []).write (.parse "/w/app/lib/part.c") []
  { create (.parse "/w") "utf-8" tree with members := [app, lib], nextSerial := 2 }

theorem nestedSample_built : nestedSample.Built := by
  have bare := Built.created "/w" "utf-8"
    ((FileTree.empty.write (.parse "/w/app/main.c") []).write (.parse "/w/app/lib/part.c") [])
  have outer := bare.added "/w/app" none rfl
  exact outer.added "/w/app/lib" none rfl

def sampleRelay : Relay File := (Relay.start .standard none none).1

def sampleSurroundings : Relay.Surroundings File :=
  nestedSample.surroundings [] (TestFile.byPatterns []) (fun _ => .ok none) .recording
    fun _ => .ok []

def sampleChanges : List (Change × String) :=
  [(.deleted, "/w/app/old.c"), (.modified, "app/lib/part.c")]

end Workspace
end ChangeRelay
