import ChangeRelay.Text.Base64
import ChangeRelay.Text.Case
import ChangeRelay.Value
import ChangeRelay.Yaml.Node

/-!
What a document stands for. Merge keys are resolved first: entries of merged mappings come before a
mapping's own ones, which count when both have a key. Keys have to be scalars.
-/
namespace ChangeRelay.Yaml

open Number (Binary64)

inductive Datum where
  | null
  | bool (b : Bool)
  | int (n : Int)
  | real (x : Binary64)
  | text (text : List Char)
  | bytes (bytes : List UInt8)
  | moment (moment : Moment)
  | list (items : List Datum)
  | set (items : List Datum)
  | record (entries : List (Datum × Datum))
  deriving Repr

namespace Reading

def withoutGaps (text : List Char) : List Char := text.filter (· != '_')

def digitIn? (base : Nat) (c : Char) : Option Nat :=
  match Json.hexValue? c with
  | some d => if d < base then some d else none
  | none => none

def digitsIn? (base : Nat) (digits : List Char) : Option Nat :=
  if digits = [] then none
  else
    digits.foldl (fun done c => match done, digitIn? base c with
      | some n, some d => some (n * base + d)
      | _, _ => none) (some 0)

def baseMark : Nat → List Char
  | 2 => ['0', 'b']
  | 8 => ['0', 'o']
  | 16 => ['0', 'x']
  | _ => []

def signed (text : List Char) : Bool × List Char :=
  match text with
  | '-' :: rest => (true, rest)
  | '+' :: rest => (false, rest)
  | rest => (false, rest)

def negatedIf (negative : Bool) (n : Int) : Int := if negative then -n else n

def digitLimit : Nat := 4300

def wholeIn (base : Nat) (text : List Char) : Except Flaw Int :=
  let (negative, body) := signed (Number.Lenient.trimmed text)
  let digits := ((Text.after? (baseMark base) body).getD body)
  match digitsIn? base digits with
  | none => .error (.noWhole base text)
  | some n =>
    if base = 10 ∧ digitLimit < digits.length then .error (.tooManyDigits digits.length)
    else .ok (negatedIf negative n)

def sixtieths (parts : List Int) : Int := parts.foldl (fun done part => done * 60 + part) 0

def unsignedWhole (text : List Char) : Except Flaw Int :=
  match text with
  | [] => .error .emptyNumber
  | ['0'] => .ok 0
  | '0' :: 'b' :: digits => wholeIn 2 digits
  | '0' :: 'x' :: digits => wholeIn 16 digits
  | '0' :: _ => wholeIn 8 text
  | _ =>
    if text.contains ':' then ((Text.pieces ':' text).mapM (wholeIn 10)).map sixtieths
    else wholeIn 10 text

def whole (text : List Char) : Except Flaw Int :=
  let (negative, body) := signed (withoutGaps text)
  (unsignedWhole body).map (negatedIf negative)

def number (text : List Char) : Except Flaw Binary64 :=
  match Number.Lenient.plain? (Number.Lenient.trimmed text) with
  | some x => .ok x
  | none => .error (.noNumber text)

def addSixtieths (sum : Binary64) (scale : Nat) : List Binary64 → Binary64
  | [] => sum
  | part :: rest => addSixtieths (sum.plus (part.times (Binary64.ofNat scale))) (scale * 60) rest

def unsignedReal (text : List Char) : Except Flaw Binary64 :=
  if text = ".inf".toList then .ok (.infinite false)
  else if text = ".nan".toList then .ok .notANumber
  else if text.contains ':' then
    ((Text.pieces ':' text).mapM number).map fun parts =>
      addSixtieths (Binary64.ofNat 0) 1 parts.reverse
  else number text

def real (text : List Char) : Except Flaw Binary64 :=
  let plain := Text.lowercase (withoutGaps text)
  let (negative, body) := signed plain
  if plain = [] then .error .emptyNumber
  else (unsignedReal body).map fun x => if negative then x.negated else x

def bool (text : List Char) : Except Flaw Bool :=
  let word := Text.lowercase text
  if ["yes", "true", "on"].contains (String.ofList word) then .ok true
  else if ["no", "false", "off"].contains (String.ofList word) then .ok false
  else .error (.noTruth word)

def bytes (text : List Char) : Except Flaw (List UInt8) :=
  if text.all fun c => c.toNat < 0x80 then
    match Text.Base64.decode? text with
    | some bytes => .ok bytes
    | none => malformed
  else malformed

end Reading

namespace Node

def kind : Node → Kind
  | .scalar kind _ => kind
  | .sequence kind _ => kind
  | .mapping kind _ => kind

def entriesOf : Node → Except Flaw (List (Node × Node))
  | .mapping _ entries => .ok entries
  | _ => malformed

/-- The entries that the value of a merge key brings in; of several mappings the first one counts
most and so comes last. -/
def mergedIn : Node → Except Flaw (List (Node × Node))
  | .mapping _ entries => .ok entries
  | .sequence _ items => (items.mapM entriesOf).map fun all => all.reverse.flatten
  | .scalar .. => malformed

/-- As a key of a mapping, an equals sign is a text. -/
def asKey : Node → Node
  | .scalar .default text => .scalar .text text
  | node => node

def withMerged (entries : List (Node × Node)) : Except Flaw (List (Node × Node)) := do
  let (merges, own) := entries.partition fun entry => entry.1.kind == .merge
  let brought ← merges.mapM fun entry => mergedIn entry.2
  return brought.flatten ++ own.map fun entry => (asKey entry.1, entry.2)

mutual

def merged : Node → Except Flaw Node
  | .scalar kind text => .ok (.scalar kind text)
  | .sequence kind items => (mergedItems items).map (Node.sequence kind)
  | .mapping kind entries =>
    match mergedEntries entries with
    | .error flaw => .error flaw
    | .ok entries =>
      if kind = Kind.mapping ∨ kind = Kind.set then (withMerged entries).map (Node.mapping kind)
      else .ok (.mapping kind entries)

def mergedItems : List Node → Except Flaw (List Node)
  | [] => .ok []
  | item :: rest => do return (← merged item) :: (← mergedItems rest)

def mergedEntries : List (Node × Node) → Except Flaw (List (Node × Node))
  | [] => .ok []
  | (key, value) :: rest => do
    return (← merged key, ← merged value) :: (← mergedEntries rest)

end

mutual

/-- The text of a scalar, or of a mapping that has one as its default. -/
def scalarText : Node → Except Flaw (List Char)
  | .scalar _ text => .ok text
  | .sequence .. => malformed
  | .mapping _ entries => defaultText entries

def defaultText : List (Node × Node) → Except Flaw (List Char)
  | [] => malformed
  | (key, value) :: rest => if key.kind = .default then scalarText value else defaultText rest

end

end Node

namespace Datum

def isKey : Datum → Bool
  | .list _ | .set _ | .record _ => false
  | _ => true

def ofText (kind : Kind) (chars : List Char) : Except Flaw Datum :=
  match kind with
  | .null => .ok .null
  | .bool => (Reading.bool chars).map .bool
  | .int => (Reading.whole chars).map .int
  | .real => (Reading.real chars).map .real
  | .bytes => (Reading.bytes chars).map .bytes
  | .moment => (Moment.ofText chars).map .moment
  | .text => .ok (.text chars)
  | _ => malformed

def pairs : List Datum → Except Flaw Datum
  | [] => .ok (.list [])
  | .record [(key, value)] :: rest =>
    match pairs rest with
    | .ok (.list items) => .ok (.list (.list [key, value] :: items))
    | other => other
  | _ => malformed

mutual

def ofNode : Node → Except Flaw Datum
  | .scalar kind chars => ofText kind chars
  | .sequence kind items =>
    match kind with
    | .sequence => (ofNodes items).map .list
    | .orderedMapping | .pairs => (ofNodes items).bind pairs
    | _ => malformed
  | .mapping kind entries =>
    match kind with
    | .mapping => (ofEntries entries).map .record
    | .set => (ofEntries entries).map fun entries => .set (entries.map Prod.fst)
    | kind => (Node.defaultText entries).bind (ofText kind)

def ofNodes : List Node → Except Flaw (List Datum)
  | [] => .ok []
  | node :: rest => do return (← ofNode node) :: (← ofNodes rest)

def ofEntries : List (Node × Node) → Except Flaw (List (Datum × Datum))
  | [] => .ok []
  | (key, value) :: rest => do
    let key ← ofNode key
    if !key.isKey then malformed
    else return (key, ← ofNode value) :: (← ofEntries rest)

end

def parse (source : List Char) : Except Flaw Datum :=
  match Node.ofTokens (tokens source) with
  | .error flaw => .error flaw
  | .ok none => .ok .null
  | .ok (some node) => node.merged.bind ofNode

def kindName : Datum → String
  | .null => "NoneType"
  | .bool _ => "bool"
  | .int _ => "int"
  | .real _ => "float"
  | .text _ => "str"
  | .bytes _ => "bytes"
  | .moment day => if day.time.isSome then "datetime" else "date"
  | .list _ => "list"
  | .set _ => "set"
  | .record _ => "dict"

mutual

/-- The dynamic value of a datum. Bytes count as the text that they encode. A datum for which there
is no dynamic value becomes an empty record, which no setting accepts either. -/
def toValue : Datum → Value
  | .null => .null
  | .bool b => .bool b
  | .int n => .int n
  | .real x => .real x
  | .text chars => .text (String.ofList chars)
  | .bytes octets =>
    match Text.Utf8.decode? octets with
    | some chars => .text (String.ofList chars)
    | none => .record []
  | .moment _ => .record []
  | .list items => .list (toValues items)
  | .set items => .list (toValues items)
  | .record entries => .record (toFields entries).reverse

def toValues : List Datum → List Value
  | [] => []
  | datum :: rest => datum.toValue :: toValues rest

def toFields : List (Datum × Datum) → List (String × Value)
  | [] => []
  | (.text name, datum) :: rest => (String.ofList name, datum.toValue) :: toFields rest
  | _ :: rest => toFields rest

end

end Datum
end ChangeRelay.Yaml
