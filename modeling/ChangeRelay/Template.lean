import ChangeRelay.Template.Directive
import ChangeRelay.Template.Layout

/-!
Filling message templates. A directive without a key takes the next argument, one with a key takes
that field of the record that is the only argument; a star for a width or a precision takes an
argument of its own. Every argument has to be used. The first flaw ends the filling.
-/
namespace ChangeRelay.Template

/-- The arguments not yet used, and the fields to take by their keys. -/
structure Arguments where
  record : Option (List (String × Value))
  pending : List Value

/-- A single record that is not empty is one to take fields from. -/
def Arguments.ofList (values : List Value) : Arguments :=
  match values with
  | [.record (field :: fields)] => ⟨some (field :: fields), values⟩
  | values => ⟨none, values⟩

def Arguments.take (arguments : Arguments) : Except Flaw (Value × Arguments) :=
  match arguments.pending with
  | [] => .error .tooFew
  | value :: rest => .ok (value, { arguments with pending := rest })

/-- Puts the field of a key in front, in the place of all else. -/
def Arguments.select (arguments : Arguments) (key : List Char) : Except Flaw Arguments :=
  match arguments.record with
  | none => .error .noRecord
  | some fields =>
    match fields.lookup (String.ofList key) with
    | none => .error (.noField key)
    | some value => .ok { arguments with pending := [value] }

def Arguments.size (arguments : Arguments) : Option Size → Except Flaw (Option Int × Arguments)
  | none => .ok (none, arguments)
  | some (.given count) => .ok (some count, arguments)
  | some .asked =>
    match arguments.take with
    | .ok (.int n, arguments) => .ok (some n, arguments)
    | .ok (.bool b, arguments) => .ok (some (if b then 1 else 0), arguments)
    | .ok _ => .error .sizeIsNoInt
    | .error flaw => .error flaw

def layoutOf (directive : Directive) (letter : Char) (width precision : Option Int) : Layout where
  letter := letter
  flags := directive.flags
  width := (width.getD 0).natAbs
  left := directive.flags.contains '-' || decide (width.getD 0 < 0)
  precision := precision.map Int.toNat

def Directive.fill (directive : Directive) (arguments : Arguments) :
    Except Flaw (List Char × Arguments) := do
  let arguments ← match directive.key with
    | some key => arguments.select key
    | none => pure arguments
  let (width, arguments) ← arguments.size directive.width
  let (precision, arguments) ← arguments.size directive.precision
  match directive.letter with
  | none => .error .incomplete
  | some letter =>
    let (value, arguments) ← arguments.take
    let text ← (layoutOf directive letter width precision).written directive.position value
    return (text, arguments)

def fillPieces : List Piece → Arguments → Except Flaw (List Char)
  | [], arguments =>
    if arguments.record.isNone && !arguments.pending.isEmpty then .error .tooMany else .ok []
  | .plain c :: rest, arguments => (fillPieces rest arguments).map (c :: ·)
  | .openKey :: _, arguments =>
    .error (if arguments.record.isNone then .noRecord else .incompleteKey)
  | .directive directive :: rest, arguments => do
    let (text, arguments) ← directive.fill arguments
    return text ++ (← fillPieces rest arguments)

def fill (template : String) (values : List Value) : Except Flaw String :=
  (fillPieces (pieces template.toList) (.ofList values)).map String.ofList

end ChangeRelay.Template
