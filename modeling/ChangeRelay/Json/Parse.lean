import ChangeRelay.Text.Percent
import ChangeRelay.Value

/-!
Reading JSON. A number with a fraction or an exponent is binary, any other number is whole and of
any size. The depth of a document is bounded by its length, which is what `parse?` starts from.
-/
namespace ChangeRelay.Json

open Number (Binary64)

def isBlank (c : Char) : Bool := c == ' ' || c == '\t' || c == '\n' || c == '\r'

def skipBlanks (text : List Char) : List Char := text.dropWhile isBlank

def hexValue? (c : Char) : Option Nat :=
  if '0' ≤ c ∧ c ≤ '9' then some (c.toNat - 48)
  else if 'a' ≤ c ∧ c ≤ 'f' then some (c.toNat - 87)
  else if 'A' ≤ c ∧ c ≤ 'F' then some (c.toNat - 55)
  else none

def fourDigits? : List Char → Option (Nat × List Char)
  | a :: b :: c :: d :: rest =>
    match hexValue? a, hexValue? b, hexValue? c, hexValue? d with
    | some a, some b, some c, some d => some (((a * 16 + b) * 16 + c) * 16 + d, rest)
    | _, _, _, _ => none
  | _ => none

/-- The character of a `\u` escape; a first half of a pair needs its second half. -/
def unicodeEscape? (text : List Char) : Option (Char × List Char) :=
  match fourDigits? text with
  | none => none
  | some (high, rest) =>
    if 0xD800 ≤ high ∧ high < 0xDC00 then
      match rest with
      | '\\' :: 'u' :: more =>
        match fourDigits? more with
        | some (low, rest) =>
          if 0xDC00 ≤ low ∧ low < 0xE000 then
            some (Char.ofNat (0x10000 + (high - 0xD800) * 0x400 + (low - 0xDC00)), rest)
          else none
        | none => none
      | _ => none
    else if 0xDC00 ≤ high ∧ high < 0xE000 then none
    else some (Char.ofNat high, rest)

def escape? : List Char → Option (Char × List Char)
  | '"' :: rest => some ('"', rest)
  | '\\' :: rest => some ('\\', rest)
  | '/' :: rest => some ('/', rest)
  | 'b' :: rest => some ('\x08', rest)
  | 'f' :: rest => some ('\x0c', rest)
  | 'n' :: rest => some ('\n', rest)
  | 'r' :: rest => some ('\r', rest)
  | 't' :: rest => some ('\t', rest)
  | 'u' :: rest => unicodeEscape? rest
  | _ => none

def textBody : Nat → List Char → Option (List Char × List Char)
  | 0, _ => none
  | _ + 1, [] => none
  | fuel + 1, c :: rest =>
    if c = '"' then some ([], rest)
    else if c = '\\' then
      match escape? rest with
      | some (d, rest) => (textBody fuel rest).map fun (body, rest) => (d :: body, rest)
      | none => none
    else if c.toNat < 0x20 then none
    else (textBody fuel rest).map fun (body, rest) => (c :: body, rest)

def text? (text : List Char) : Option (String × List Char) :=
  (textBody (text.length + 1) text).map fun (body, rest) => (String.ofList body, rest)

def digits (text : List Char) : List Char × List Char :=
  (text.takeWhile Number.isDigit, text.dropWhile Number.isDigit)

def fraction? : List Char → Option (List Char × List Char)
  | '.' :: rest => if (digits rest).1 = [] then none else some (digits rest)
  | rest => some ([], rest)

def exponentDigits? (negative : Bool) (text : List Char) : Option (Int × List Char) :=
  if (digits text).1 = [] then none
  else
    let size : Int := Number.readDecimal (digits text).1
    some (if negative then -size else size, (digits text).2)

/-- The exponent, or `none` inside for a number that has no exponent. -/
def exponent? : List Char → Option (Option Int × List Char)
  | c :: rest =>
    if c = 'e' ∨ c = 'E' then
      (match rest with
        | '-' :: rest => exponentDigits? true rest
        | '+' :: rest => exponentDigits? false rest
        | rest => exponentDigits? false rest).map fun (size, rest) => (some size, rest)
    else some (none, c :: rest)
  | [] => some (none, [])

def unsigned? (negative : Bool) (text : List Char) : Option (Value × List Char) :=
  let (whole, rest) := digits text
  if whole = [] ∨ (whole.head? = some '0' ∧ whole.length ≠ 1) then none
  else
    match fraction? rest with
    | none => none
    | some (part, rest) =>
      match exponent? rest with
      | none => none
      | some (power, rest) =>
        if part = [] ∧ power = none then
          let size : Int := Number.readDecimal whole
          some (.int (if negative then -size else size), rest)
        else
          let exponent := power.getD 0 - part.length
          let digits := Number.readDecimal (whole ++ part)
          some (.real (Binary64.ofDecimal negative digits exponent), rest)

def number? : List Char → Option (Value × List Char)
  | '-' :: rest => unsigned? true rest
  | rest => unsigned? false rest

mutual

def value? : Nat → List Char → Option (Value × List Char)
  | 0, _ => none
  | fuel + 1, text =>
    match text with
    | 'n' :: 'u' :: 'l' :: 'l' :: rest => some (.null, rest)
    | 't' :: 'r' :: 'u' :: 'e' :: rest => some (.bool true, rest)
    | 'f' :: 'a' :: 'l' :: 's' :: 'e' :: rest => some (.bool false, rest)
    | '"' :: rest => (text? rest).map fun (s, rest) => (.text s, rest)
    | '[' :: rest =>
      match skipBlanks rest with
      | ']' :: rest => some (.list [], rest)
      | rest => (items? fuel rest).map fun (items, rest) => (.list items, rest)
    | '\x7b' :: rest =>
      match skipBlanks rest with
      | '\x7d' :: rest => some (.record [], rest)
      | rest => (fields? fuel rest).map fun (fields, rest) => (.record fields, rest)
    | text => number? text

def items? : Nat → List Char → Option (List Value × List Char)
  | 0, _ => none
  | fuel + 1, text =>
    match value? fuel (skipBlanks text) with
    | none => none
    | some (item, rest) =>
      match skipBlanks rest with
      | ']' :: rest => some ([item], rest)
      | ',' :: rest => (items? fuel rest).map fun (items, rest) => (item :: items, rest)
      | _ => none

def fields? : Nat → List Char → Option (List (String × Value) × List Char)
  | 0, _ => none
  | fuel + 1, text =>
    match skipBlanks text with
    | '"' :: rest =>
      match text? rest with
      | none => none
      | some (name, rest) =>
        match skipBlanks rest with
        | ':' :: rest =>
          match value? fuel (skipBlanks rest) with
          | none => none
          | some (value, rest) =>
            match skipBlanks rest with
            | '\x7d' :: rest => some ([(name, value)], rest)
            | ',' :: rest =>
              (fields? fuel rest).map fun (fields, rest) => ((name, value) :: fields, rest)
            | _ => none
        | _ => none
    | _ => none

end

def parse? (text : List Char) : Option Value :=
  match value? (text.length + 1) (skipBlanks text) with
  | some (value, rest) => if skipBlanks rest = [] then some value else none
  | none => none

end ChangeRelay.Json
