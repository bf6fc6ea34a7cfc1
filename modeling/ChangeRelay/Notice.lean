import ChangeRelay.Host
import ChangeRelay.Value.Shown

/-!
What is noted while changes are handled, and how a note is written to a log: its level, its
message, its fields and, where a failure led to it, that failure.
-/
namespace ChangeRelay

inductive Notice where
  | fileRemoved (uri : String)
  | fileAdded (name : String)
  | contentChanged (name : String)
  | contentReplaced (name : String)
  | encodingChanged (name : String)
  | notAdapted (path : Path) (cause : Failure)
  | entryInvalidated (cache : String) (scope : Value)
  | exclusionsComputed (scope : Value) (count : Nat)
  | pathUnknown (uri : Value) (cause : Failure)
  | contentUnread (uri : Value) (cause : Failure)
  | testUnknown (uri : Value) (cause : Failure)
  | charsetUnread (uri : Value) (cause : Failure)
  | languageFailed (uri : Value) (provider : String) (cause : Failure)
  | languagesConflict (file : String) (kept discarded : Value)
  | duplicated (files subProjects : Nat)
  | propagated (removed addedOrChanged : Nat)
  | taskFailed (cause : Failure)
  | cycleDropped (cause : Failure)
  | stillRunning
  | batchSeen (removed addedOrChanged : List String)
  | changesLost (count : Nat) (cause : Failure)
  deriving DecidableEq, Repr

namespace Notice

inductive Level where
  | debug
  | info
  | warning
  | error
  deriving DecidableEq, Repr

def Level.word : Level → String
  | .debug => "debug"
  | .info => "info"
  | .warning => "warning"
  | .error => "error"

def level : Notice → Level
  | .languagesConflict .. | .taskFailed _ | .cycleDropped _ | .changesLost .. => .error
  | .stillRunning => .warning
  | .batchSeen .. => .info
  | _ => .debug

def message : Notice → String
  | .fileRemoved _ => "File removed"
  | .fileAdded _ => "File added"
  | .contentChanged _ => "File content changed"
  | .contentReplaced _ => "File content replaced"
  | .encodingChanged _ => "File encoding changed"
  | .notAdapted .. => "Could not adapt resource"
  | .entryInvalidated .. => "Invalidated cache entry"
  | .exclusionsComputed .. => "Computed exclusions"
  | .pathUnknown .. => "Error while looking for file path"
  | .contentUnread .. => "Error while reading file content"
  | .testUnknown .. => "Error while classifying test file"
  | .charsetUnread .. => "Error while reading file charset"
  | .languageFailed .. => "Language provider failed"
  | .languagesConflict .. => "Conflicting languages detected"
  | .duplicated .. => "Duplicated configuration files for sub-projects"
  | .propagated .. => "Propagated file system changes"
  | .taskFailed _ => "Failed to propagate file system changes"
  | .cycleDropped _ => "Dropping change notification"
  | .stillRunning => "Pending file system changes still running on close"
  | .batchSeen .. => "File system update"
  | .changesLost .. => "Failed to dispatch file changes"

def texts (names : List String) : Value := .list (names.map .text)

def fields : Notice → List (String × Value)
  | .fileRemoved uri => [("uri", .text uri)]
  | .fileAdded name | .contentChanged name | .contentReplaced name | .encodingChanged name =>
    [("file", .text name)]
  | .notAdapted path _ => [("path", .text path.text)]
  | .entryInvalidated cache scope => [("cache", .text cache), ("scope_id", scope)]
  | .exclusionsComputed scope count => [("scope_id", scope), ("count", .int count)]
  | .pathUnknown uri _ | .contentUnread uri _ | .testUnknown uri _ | .charsetUnread uri _ =>
    [("uri", uri)]
  | .languageFailed uri provider _ => [("uri", uri), ("provider", .text provider)]
  | .languagesConflict file kept discarded =>
    [("file", .text file), ("kept", .text kept.shown), ("discarded", .text discarded.shown)]
  | .duplicated files subProjects => [("files", .int files), ("sub_projects", .int subProjects)]
  | .propagated removed addedOrChanged =>
    [("removed", .int removed), ("added_or_changed", .int addedOrChanged)]
  | .taskFailed _ | .cycleDropped _ | .stillRunning => []
  | .batchSeen removed addedOrChanged =>
    [("removed", texts removed), ("added_or_changed", texts addedOrChanged)]
  | .changesLost count _ => [("count", .int count)]

def cause? : Notice → Option Failure
  | .notAdapted _ cause | .pathUnknown _ cause | .contentUnread _ cause | .testUnknown _ cause
  | .charsetUnread _ cause | .languageFailed _ _ cause | .taskFailed cause | .cycleDropped cause
  | .changesLost _ cause => some cause
  | _ => none

end Notice
end ChangeRelay
