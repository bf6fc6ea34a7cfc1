import ChangeRelay.Batch
import ChangeRelay.Snapshot.Maker
import ChangeRelay.SubProject

/-!
Sending one cycle's changes. Nothing is sent for an empty list of changes. Otherwise the snapshots
of all files are made, followed by the duplicates of configuration files for sub-projects, project
by project; then one batch goes to the file service. A failure on the way means that no batch goes.
-/
namespace ChangeRelay

/-- What a file service does with a batch: keep it, write it as a line, or only note it. -/
inductive Delivery where
  | kept (batch : Batch)
  | written (line : String)
  | noted
  deriving DecidableEq, Repr

structure Receiver where
  style : Batch → Delivery
  /-- What the service fails with, if it does. -/
  outage : Option Failure

namespace Receiver

def recording : Receiver := ⟨.kept, none⟩
def wire : Receiver := ⟨fun batch => .written (Notification.ofBatch batch).line, none⟩
def logging : Receiver := ⟨fun _ => .noted, none⟩

def notices (batch : Batch) : Delivery → List Notice
  | .noted => [.batchSeen batch.removed (batch.addedOrChanged.map (·.uri))]
  | _ => []

end Receiver

namespace Sending

variable {φ : Type}

structure Means (φ : Type) where
  maker : Snapshot.Maker
  hierarchies : List Hierarchy
  service : Receiver
  look : φ → FileView

abbrev Group := Project × List Snapshot

def addToGroup (groups : List Group) (project : Project) (snapshot : Snapshot) : List Group :=
  match groups with
  | [] => [(project, [snapshot])]
  | (owner, snapshots) :: rest =>
    if owner.scope = project.scope then (owner, snapshots ++ [snapshot]) :: rest
    else (owner, snapshots) :: addToGroup rest project snapshot

/-- Snapshots and groups so far, or the failure that ended the building, with the notes made. -/
structure Built where
  result : Except Failure (List Snapshot × List Group)
  notices : List Notice

def makeAll (means : Means φ) : List φ → List Snapshot → List Group → List Notice → Built
  | [], snapshots, groups, notices => ⟨.ok (snapshots, groups), notices⟩
  | file :: rest, snapshots, groups, notices =>
    let view := means.look file
    let built := Snapshot.make means.maker view
    match built.value with
    | .error failure => ⟨.error failure, notices ++ built.notices⟩
    | .ok snapshot =>
      let groups :=
        if ConfigFile.isFolderJson means.maker.settings snapshot.relativePath then
          addToGroup groups view.project snapshot
        else groups
      makeAll means rest (snapshots ++ [snapshot]) groups (notices ++ built.notices)

def duplicateAll (hierarchies : List Hierarchy) :
    List Group → List Notice → Except Failure (List Snapshot) × List Notice
  | [], notices => (.ok [], notices)
  | (project, snapshots) :: rest, notices =>
    match SubProject.resolve project hierarchies with
    | .error failure => (.error failure, notices)
    | .ok subProjects =>
      match SubProject.spread snapshots subProjects with
      | (.error failure, more) => (.error failure, notices ++ more)
      | (.ok own, more) =>
        let (others, notices) := duplicateAll hierarchies rest (notices ++ more)
        (others.map (own ++ ·), notices)

def snapshotsOf (means : Means φ) (files : List φ) :
    Except Failure (List Snapshot) × List Notice :=
  match makeAll means files [] [] [] with
  | ⟨.error failure, notices⟩ => (.error failure, notices)
  | ⟨.ok (snapshots, groups), notices⟩ =>
    let (duplicates, notices) := duplicateAll means.hierarchies groups notices
    (duplicates.map (snapshots ++ ·), notices)

/-- What a cycle comes to: the batch sent, none if there was nothing to send, or a failure; what
the file service did; and the notes made. -/
structure Outcome where
  result : Except Failure (Option Batch)
  delivery : Option Delivery
  notices : List Notice
  deriving Repr

def run (means : Means φ) (changes : ChangeList φ) : Outcome :=
  if changes.isEmpty then ⟨.ok none, none, []⟩
  else
    match snapshotsOf means changes.present with
    | (.error failure, notices) => ⟨.error failure, none, notices⟩
    | (.ok snapshots, notices) =>
      let batch : Batch := ⟨changes.removed, snapshots⟩
      match means.service.outage with
      | some failure => ⟨.error failure, none, notices⟩
      | none =>
        let delivery := means.service.style batch
        ⟨.ok (some batch), some delivery,
          notices ++ Receiver.notices batch delivery ++
            [.propagated batch.removed.length batch.addedOrChanged.length]⟩

def runNoted (means : Means φ) (changes : ChangeList φ) : Outcome :=
  let outcome := run means changes
  match outcome.result with
  | .ok _ => outcome
  | .error failure => { outcome with notices := outcome.notices ++ [.taskFailed failure] }

end Sending
end ChangeRelay
