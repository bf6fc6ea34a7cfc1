import ChangeRelay.Delta.Walk
import ChangeRelay.Sending
import ChangeRelay.WorkQueue

/-!
A relay listens to change notifications and forwards them. A notification is walked at once, and
cached listings of the projects concerned are dropped before the rest is handed to a worker, which
sends batches in the order of their notifications.
-/
namespace ChangeRelay

structure Relay (φ : Type) where
  settings : Settings
  exclusions : Exclusion.Cache
  listings : ScopeStore Value (List φ)
  queue : WorkQueue (ChangeList φ) (Except Failure (Option Batch))

namespace Relay

variable {φ : Type}

abbrev Listings (φ : Type) := ScopeStore Value (List φ)

def emptyListings : Listings φ := .empty "project-files"

/-- The cache to work on: the given one, unless it holds no entry at this moment. -/
def adopt {κ ν : Type} (given : Option (ScopeStore κ ν)) (own : ScopeStore κ ν) :
    ScopeStore κ ν × Bool :=
  match given with
  | some cache => if cache.size = 0 then (own, false) else (cache, true)
  | none => (own, false)

def start (settings : Settings) (exclusions : Option Exclusion.Cache)
    (listings : Option (Listings φ)) : Relay φ × Bool × Bool :=
  let (exclusions, sharedExclusions) := adopt exclusions Exclusion.emptyCache
  let (listings, sharedListings) := adopt listings emptyListings
  (⟨settings, exclusions, listings, .empty⟩, sharedExclusions, sharedListings)

/-- What the host offers at the moment of a call. -/
structure Surroundings (φ : Type) where
  advisors : Advisors
  resolver : Resolver
  service : Receiver
  look : φ → FileView
  /-- The files of a project as the project lists them. -/
  listing : Project → Except Failure (List φ)

def guide (relay : Relay φ) (around : Surroundings φ) : Delta.Guide φ :=
  ⟨relay.settings.ignoredFolders, around.advisors.exclusions, around.look⟩

def means (relay : Relay φ) (around : Surroundings φ) : Sending.Means φ where
  maker := ⟨relay.settings, around.advisors, around.resolver⟩
  hierarchies := around.advisors.hierarchies
  service := around.service
  look := around.look

def invalidateAll {ν : Type} (cache : ScopeStore Value ν) :
    List Value → ScopeStore Value ν × List Notice
  | [] => (cache, [])
  | scope :: more =>
    let note := if cache.noteworthy scope then [Notice.entryInvalidated cache.name scope] else []
    let (cache, notices) := invalidateAll (cache.invalidate scope) more
    (cache, note ++ notices)

/-- What a notification leads to: a ticket for the work handed in, none if there was none, or a
failure to hand it in. -/
structure Notified where
  ticket : Except Failure (Option Nat)
  notices : List Notice
  asked : List Nat

def notify (relay : Relay φ) (around : Surroundings φ) (delta : Delta φ) :
    Relay φ × Notified :=
  let walked := Delta.gather (relay.guide around) delta relay.exclusions
  let relay := { relay with exclusions := walked.trail.cache }
  match walked.result with
  | .error failure =>
    (relay, ⟨.ok none, walked.trail.notices ++ [.cycleDropped failure], walked.trail.asked⟩)
  | .ok changes =>
    if changes.isEmpty then (relay, ⟨.ok none, walked.trail.notices, walked.trail.asked⟩)
    else
      let scopes := (changes.projects around.look).map (·.scope)
      let (listings, notes) := invalidateAll relay.listings scopes
      let relay := { relay with listings := listings }
      let notices := walked.trail.notices ++ notes
      match relay.queue.submit changes with
      | .error failure => (relay, ⟨.error failure, notices, walked.trail.asked⟩)
      | .ok (ticket, queue) =>
        ({ relay with queue := queue }, ⟨.ok (some ticket), notices, walked.trail.asked⟩)

def work (relay : Relay φ) (around : Surroundings φ) : Option (Relay φ × Sending.Outcome) :=
  match relay.queue.take? with
  | none => none
  | some (changes, finish) =>
    let outcome := Sending.runNoted (relay.means around) changes
    some ({ relay with queue := finish outcome.result }, outcome)

def workSome (around : Surroundings φ) : Nat → Relay φ → Relay φ × List Sending.Outcome
  | 0, relay => (relay, [])
  | count + 1, relay =>
    match relay.work around with
    | none => (relay, [])
    | some (relay, outcome) =>
      let (relay, outcomes) := workSome around count relay
      (relay, outcome :: outcomes)

def workAll (relay : Relay φ) (around : Surroundings φ) : Relay φ × List Sending.Outcome :=
  workSome around relay.queue.pending.length relay

def forget (relay : Relay φ) (project : Project) : Relay φ × List Notice :=
  let (exclusions, notices) := invalidateAll relay.exclusions [project.scope]
  let (listings, more) := invalidateAll relay.listings [project.scope]
  ({ relay with exclusions := exclusions, listings := listings }, notices ++ more)

/-- The files of a project and whether the project was asked for them. -/
structure Listed (φ : Type) where
  files : Except Failure (List φ)
  asked : Bool

def list (relay : Relay φ) (around : Surroundings φ) (project : Project) :
    Relay φ × Listed φ :=
  match project.checkScope with
  | .error failure => (relay, ⟨.error failure, false⟩)
  | .ok () =>
    let (answer, listings) := relay.listings.lookUp project.scope fun cache =>
      ((around.listing project).map some, (), cache)
    ({ relay with listings := listings },
      ⟨answer.value.map (·.getD []), answer.ran.isSome⟩)

def listConfig (relay : Relay φ) (around : Surroundings φ) (project : Project) :
    Relay φ × Listed φ :=
  let (relay, listed) := relay.list around project
  let isConfig (file : φ) : Bool :=
    ConfigFile.isConfigFile relay.settings (around.look file).name (around.look file).relativePath
  (relay, { listed with files := listed.files.map (·.filter isConfig) })

def isFlushed (relay : Relay φ) : Bool := relay.queue.isFlushed

def close (relay : Relay φ) : Relay φ × List Notice :=
  ({ relay with queue := relay.queue.close }, if relay.isFlushed then [] else [.stillRunning])

end Relay
end ChangeRelay
