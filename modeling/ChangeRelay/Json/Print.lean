import ChangeRelay.Number.Shortest
import ChangeRelay.Text.Quoted
import ChangeRelay.Value

/-!
Values as compact JSON. Fields keep their order, characters beyond ASCII are written as they are,
and only quotes, backslashes and characters below the blank are escaped.
-/
namespace ChangeRelay.Json

open Number (Binary64 RealStyle)

/-- Positional notation from five zeros after the point to sixteen digits before it. -/
def realStyle : RealStyle := ⟨-5, 16, false, 1⟩

def escaped (c : Char) : List Char :=
  if c = '"' then ['\\', '"']
  else if c = '\\' then ['\\', '\\']
  else if c = '\x08' then ['\\', 'b']
  else if c = '\x0c' then ['\\', 'f']
  else if c = '\n' then ['\\', 'n']
  else if c = '\r' then ['\\', 'r']
  else if c = '\t' then ['\\', 't']
  else if c.toNat < 0x20 then ['\\', 'u'] ++ Text.hexDigits c.toNat 4
  else [c]

def quoted (text : String) : List Char := '"' :: text.toList.flatMap escaped ++ ['"']

def real : Binary64 → List Char
  | .finite negative bits => realStyle.finite negative bits
  | _ => "null".toList

mutual

def printed : Value → List Char
  | .null => "null".toList
  | .bool true => "true".toList
  | .bool false => "false".toList
  | .int n => Number.intDigits n
  | .real x => real x
  | .text s => quoted s
  | .list [] => ['[', ']']
  | .list (item :: items) => '[' :: printed item ++ printedItems items
  | .record [] => ['\x7b', '\x7d']
  | .record ((name, value) :: fields) =>
    '\x7b' :: quoted name ++ ':' :: printed value ++ printedFields fields

def printedItems : List Value → List Char
  | [] => [']']
  | item :: items => ',' :: printed item ++ printedItems items

def printedFields : List (String × Value) → List Char
  | [] => ['\x7d']
  | (name, value) :: fields => ',' :: quoted name ++ ':' :: printed value ++ printedFields fields

end

def line (value : Value) : String := String.ofList (printed value)

end ChangeRelay.Json
