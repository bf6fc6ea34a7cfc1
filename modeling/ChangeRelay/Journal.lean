import ChangeRelay.Failure
import ChangeRelay.Template
import ChangeRelay.Text.Case
import ChangeRelay.Text.Pieces

/-!
Journal lines: under which name a logger writes, from which rank on an event is written, and the
record that a line holds. All loggers stand below one common name.
-/
namespace ChangeRelay.Journal

def noisyLoggers : List String := ["watchfiles", "fsspec"]

def rootName : String := "workspace_sync."

def loggerName (name : String) : String :=
  let bare := match Text.after? rootName.toList name.toList with
    | some rest => String.ofList rest
    | none => name
  rootName ++ bare

inductive Severity where
  | debug
  | info
  | warning
  | error
  | critical
  deriving DecidableEq, Repr

def Severity.word : Severity → String
  | .debug => "debug"
  | .info => "info"
  | .warning => "warning"
  | .error => "error"
  | .critical => "critical"

def Severity.all : List Severity := [.debug, .info, .warning, .error, .critical]

def Severity.named? (word : String) : Option Severity := all.find? (·.word == word)

def Severity.rank : Severity → Int
  | .debug => 10
  | .info => 20
  | .warning => 30
  | .error => 40
  | .critical => 50

def namedRanks : List (String × Int) :=
  [("CRITICAL", 50), ("FATAL", 50), ("ERROR", 40), ("WARNING", 30), ("WARN", 30), ("INFO", 20),
    ("DEBUG", 10), ("NOTSET", 0)]

def rankOf (name : String) : Except Failure Int :=
  let capitals := String.ofList (Text.uppercase name.toList)
  match namedRanks.lookup capitals with
  | some rank => .ok rank
  | none => .error (.unknownLevel capitals)

def threshold : Value → Except Failure Int
  | .text name => rankOf name
  | .int rank => .ok rank
  | .bool b => .ok (if b then 1 else 0)
  | .null => .ok Severity.warning.rank
  | value => .error (.noLevel (String.ofList value.shownInside))

structure Setup where
  threshold : Int
  /-- Whether loggers of libraries write warnings and worse only. -/
  quiet : Bool
  deriving Repr

def Setup.standard : Setup := ⟨Severity.info.rank, true⟩

/-- The rank from which on a library's logger writes, zero for that of the whole program. -/
def Setup.noisyRank (setup : Setup) : Int :=
  if setup.quiet then Severity.warning.rank else 0

structure Event where
  logger : String
  severity : Severity
  template : String
  arguments : List Value
  fields : List (String × Value)

def Event.message (event : Event) : Except Failure String :=
  if event.arguments.isEmpty then .ok event.template
  else (Template.fill event.template event.arguments).mapError .unfilled

/-- Names that every line has itself, or that steer the writing of a line. -/
def reservedNames : List String :=
  ["event", "logger", "level", "thread_name", "timestamp", "exc_info", "stack_info"]

def Event.line (event : Event) (message : String) : List (String × Value) :=
  event.fields.filter (fun field => !reservedNames.contains field.1) ++
    [("event", .text message), ("logger", .text (loggerName event.logger)),
      ("level", .text event.severity.word), ("thread_name", .text "MainThread")]

/-- The lines of events in their order; an event below the threshold is not even put together. -/
def Setup.lines (setup : Setup) : List Event → Except Failure (List (List (String × Value)))
  | [] => .ok []
  | event :: rest =>
    if event.severity.rank < setup.threshold then setup.lines rest
    else do
      let message ← event.message
      return event.line message :: (← setup.lines rest)

end ChangeRelay.Journal
