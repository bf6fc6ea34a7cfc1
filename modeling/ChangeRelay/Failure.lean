import ChangeRelay.Fault
import ChangeRelay.Template.Flaw
import ChangeRelay.Uri
import ChangeRelay.Yaml.Flaw

/-!
What can go wrong, by cause. A failure that a foreign collaborator reports keeps the class and the
message it came with; every other failure has its message from here.
-/
namespace ChangeRelay

namespace Failure

/-- How a foreign collaborator classes what went wrong. -/
inductive Report where
  | runtime
  | value
  | system
  | lookup
  | type
  | walk
  | sync
  deriving DecidableEq, Repr

end Failure

inductive Failure where
  | reported (report : Failure.Report) (message : String)
  | walk (cause : Failure)
  | badHost (flaw : Uri.HostFlaw)
  | way (noWay : Path.NoWay)
  | unresolvable (uri reason : String)
  | invalid (faults : List Fault)
  | uriIsNoText
  | unusableScope (kind : String)
  | queueClosed
  | projectOutside (path root : Path)
  | pathOutside (path root : Path)
  | noSuchFile
  | noFolderAbove
  | isFolder
  | undecodable
  | unknownCharset (name : String)
  | unreadable (flaw : Yaml.Flaw)
  | noMapping (path : Path) (kind : String)
  | unknownLevel (name : String)
  | noLevel (shown : String)
  | unfilled (flaw : Template.Flaw)
  | notCheckable
  deriving DecidableEq, Repr

namespace Failure

def quoted (text : String) : String := String.ofList (Text.quoted text.toList)

def hostMessage : Uri.HostFlaw → String
  | .oneSidedBracket => "Invalid IPv6 URL"
  | .badFutureAddress => "IPvFuture address is invalid"
  | .shortAddressInBrackets => "An IPv4 address cannot be in brackets"
  | .noAddress host => quoted host ++ " does not appear to be an IPv4 or IPv6 address"
  | .hiddenDelimiter host =>
    "netloc '" ++ host ++ "' contains invalid characters under NFKC normalization"

def noWayMessage : Path.NoWay → String
  | .differentRoots target base =>
    quoted target.text ++ " and " ++ quoted base.text ++ " have different anchors"
  | .upThroughParent base => "'..' segment in " ++ quoted base.text ++ " cannot be walked"

def message : Failure → String
  | .reported _ text => text
  | .walk cause => "Failed to walk resource delta: " ++ cause.message
  | .badHost flaw => hostMessage flaw
  | .way noWay => noWayMessage noWay
  | .unresolvable uri reason => "Cannot resolve storage for " ++ uri ++ ": " ++ reason
  | .invalid _ => ""
  | .uriIsNoText => ""
  | .unusableScope kind => "unhashable type: '" ++ kind ++ "'"
  | .queueClosed => "cannot schedule new futures after shutdown"
  | .projectOutside path root => "Project " ++ path.text ++ " is outside of workspace " ++ root.text
  | .pathOutside path root => quoted path.text ++ " is not in the subpath of " ++ quoted root.text
  | .noSuchFile => "No such file or directory"
  | .noFolderAbove => "Not a directory"
  | .isFolder => "Is a directory"
  | .undecodable => ""
  | .unknownCharset name => "unknown encoding: " ++ name
  | .unreadable flaw => flaw.message
  | .noMapping path kind => "Expected a mapping in " ++ path.text ++ ", got " ++ kind
  | .unknownLevel name => "module 'logging' has no attribute '" ++ name ++ "'"
  | .noLevel shown => "Level not an integer or a valid string: " ++ shown
  | .unfilled flaw => flaw.message
  | .notCheckable =>
    "Instance and class checks can only be used with @runtime_checkable protocols"

/-- Whether a failure stops a walk under its own name. -/
def isWalkFailure : Failure → Bool
  | .walk _ => true
  | .reported .walk _ => true
  | _ => false

def ofRelative : Uri.NoRelative → Failure
  | .host flaw => .badHost flaw
  | .way noWay => .way noWay

end Failure
end ChangeRelay
