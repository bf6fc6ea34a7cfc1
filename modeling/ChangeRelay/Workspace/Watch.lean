import ChangeRelay.Relay
import ChangeRelay.Workspace.ChangeTree

/-!
Watching a workspace: every batch of changed paths is handed to a relay as one notification. A batch
that cannot be handed in is noted and lost; watching goes on with the next one. A watcher does this
in a task of its own, and has one task at a time.
-/
namespace ChangeRelay.Workspace

structure Watch where
  path : Path
  /-- Milliseconds during which events are gathered into one batch. -/
  debounce : Nat
  deriving Repr

def watch (workspace : Workspace) (settings : Settings) (debounce : Option Nat) : Watch :=
  ⟨workspace.root, debounce.getD settings.watchDebounce⟩

def handIn (workspace : Workspace) (relay : Relay File) (around : Relay.Surroundings File)
    (batch : List (Change × Path)) : Relay File × Relay.Notified :=
  relay.notify around (workspace.deltaOf batch)

def handInAll (workspace : Workspace) (around : Relay.Surroundings File) :
    Relay File → List (List (Change × Path)) → Relay File × List Notice × List Nat
  | relay, [] => (relay, [], [])
  | relay, batch :: rest =>
    let (relay, notified) := workspace.handIn relay around batch
    let lost := match notified.ticket with
      | .error failure => [.changesLost batch.eraseDups.length failure]
      | .ok _ => []
    let (relay, notices, asked) := handInAll workspace around relay rest
    (relay, notified.notices ++ lost ++ notices, notified.asked ++ asked)

/-- A task that watches, with what it came to once its source of events has ended. -/
structure Task where
  serial : Nat
  outcome : Option (Except Failure Unit)

structure Watcher where
  task : Option Task
  nextSerial : Nat
  /-- Whether the source of events is told to end. -/
  stopping : Bool

namespace Watcher

def idle : Watcher := ⟨none, 0, false⟩

def start (watcher : Watcher) : Watcher :=
  match watcher.task with
  | some _ => watcher
  | none => ⟨some ⟨watcher.nextSerial, none⟩, watcher.nextSerial + 1, false⟩

/-- The source of events ends. The task is over, but stays until somebody stops it. -/
def finish (watcher : Watcher) (outcome : Except Failure Unit) : Watcher :=
  { watcher with task := watcher.task.map fun task => { task with outcome := some outcome } }

/-- A task that failed hands its failure on and is not taken away. -/
def stop (watcher : Watcher) : Except Failure Unit × Watcher :=
  match watcher.task with
  | none => (.ok (), watcher)
  | some ⟨_, some (.error failure)⟩ => (.error failure, { watcher with stopping := true })
  | some _ => (.ok (), { watcher with task := none, stopping := true })

end Watcher

end ChangeRelay.Workspace
