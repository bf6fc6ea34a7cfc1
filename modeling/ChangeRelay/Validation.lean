import ChangeRelay.Fault
import ChangeRelay.Number.Lenient
import ChangeRelay.Value

/-!
Reading dynamic values into the types of settings and snapshots. Numbers and truth values are read
generously, texts and lists are not: a text comes only from a text and a list only from a list.
-/
namespace ChangeRelay.Validation

open Number (Binary64)
open Fault (Problem Step)

abbrev Checked (α : Type) := Except (List Fault) α

def fail {α : Type} (problem : Problem) : Checked α := .error [⟨[], problem⟩]

/-- Two checks side by side: both report their faults, the first one's in front. -/
def both {α β : Type} (first : Checked α) (second : Checked β) : Checked (α × β) :=
  match first, second with
  | .ok a, .ok b => .ok (a, b)
  | .error fs, .ok _ => .error fs
  | .ok _, .error fs => .error fs
  | .error fs, .error gs => .error (fs ++ gs)

def inStep {α : Type} (step : Step) : Checked α → Checked α
  | .ok a => .ok a
  | .error faults => .error (Fault.under step faults)

def text : Value → Checked String
  | .text s => .ok s
  | _ => fail .noText

def nullOr {α : Type} (read : Value → Checked α) : Value → Checked (Option α)
  | .null => .ok none
  | value => (read value).map some

def items {α : Type} (read : Value → Checked α) : Nat → List Value → Checked (List α)
  | _, [] => .ok []
  | index, value :: rest =>
    (both (inStep (.position index) (read value)) (items read (index + 1) rest)).map
      fun (a, more) => a :: more

def tupleOfTexts : Value → Checked (List String)
  | .list values => items text 0 values
  | _ => fail .noTuple

def listOf {α : Type} (read : Value → Checked α) : Value → Checked (List α)
  | .list values => items read 0 values
  | _ => fail .noList

def boolean : Value → Checked Bool
  | .bool b => .ok b
  | .int 0 => .ok false
  | .int 1 => .ok true
  | .int _ => fail .unreadableBoolean
  | .real x =>
    match x.toInt? with
    | some 0 => .ok false
    | some 1 => .ok true
    | some _ => fail .unreadableBoolean
    | none => fail .noBoolean
  | .text s =>
    match Number.Lenient.bool? s.toList with
    | some b => .ok b
    | none => fail .unreadableBoolean
  | _ => fail .noBoolean

def wholeOfReal (x : Binary64) : Checked Int :=
  match x with
  | .finite .. =>
    match x.toInt? with
    | some n => if n.natAbs < Nat.pow 2 63 then .ok n else fail .overlongWhole
    | none => fail .brokenWhole
  | _ => fail .notFinite

def whole : Value → Checked Int
  | .int n => .ok n
  | .bool b => .ok (if b then 1 else 0)
  | .real x => wholeOfReal x
  | .text s =>
    if 4300 < s.length then fail .overlongWhole
    else
      match Number.Lenient.int? s.toList with
      | some n => .ok n
      | none => fail .unreadableWhole
  | _ => fail .noWhole

def real : Value → Checked Binary64
  | .int n =>
    match Binary64.ofInt n with
    | .finite negative bits => .ok (.finite negative bits)
    | _ => fail .noNumber
  | .bool b => .ok (Binary64.ofNat (if b then 1 else 0))
  | .real x => .ok x
  | .text s =>
    match Number.Lenient.real? s.toList with
    | some x => .ok x
    | none => fail .unreadableNumber
  | _ => fail .noNumber

def realAboveZero (value : Value) : Checked Binary64 :=
  match real value with
  | .ok x => if x.isPositive then .ok x else fail .notAboveZero
  | .error faults => .error faults

def wholeFromZero (value : Value) : Checked Nat :=
  match whole value with
  | .ok n => if 0 ≤ n then .ok n.toNat else fail .belowZero
  | .error faults => .error faults

def path : Value → Checked Path
  | .text s => .ok (Path.parse s)
  | _ => fail .noPath

def language : Value → Checked Language
  | .text s =>
    match Language.named? s with
    | some l => .ok l
    | none => fail .noLanguage
  | _ => fail .noLanguage

def fieldOr {α : Type} (record : List (String × Value)) (name : String) (fallback : α)
    (read : Value → Checked α) : Checked α :=
  match record.lookup name with
  | some value => inStep (.field name) (read value)
  | none => .ok fallback

/-- A field under one of two names. The first name wins; a missing field is reported under it. -/
def fieldUnder {α : Type} (record : List (String × Value)) (names : String × String)
    (missing : Checked α) (read : Value → Checked α) : Checked α :=
  match record.lookup names.1, record.lookup names.2 with
  | some value, _ => inStep (.field names.1) (read value)
  | none, some value => inStep (.field names.2) (read value)
  | none, none => inStep (.field names.1) missing

def required {α : Type} : Checked α := fail .missing

end ChangeRelay.Validation
