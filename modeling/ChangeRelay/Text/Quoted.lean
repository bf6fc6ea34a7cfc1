import ChangeRelay.Text.Case
import ChangeRelay.Text.PrintableTable

/-!
A text inside quotes, as messages show it. Single quotes are used unless the text holds one and no
double quote. The quote in use, backslashes and characters without a mark of their own are escaped.
-/
namespace ChangeRelay.Text

def hexDigit (n : Nat) : Char := if n < 10 then Char.ofNat (48 + n) else Char.ofNat (87 + n)

def hexDigits (value : Nat) : Nat → List Char
  | 0 => []
  | width + 1 => hexDigits (value / 16) width ++ [hexDigit (value % 16)]

def isPrintable (c : Char) : Bool := !inAnyRange unprintableRanges c.toNat

def quotedChar (quote c : Char) : List Char :=
  if c = quote ∨ c = '\\' then ['\\', c]
  else if c = '\t' then ['\\', 't']
  else if c = '\n' then ['\\', 'n']
  else if c = '\r' then ['\\', 'r']
  else if isPrintable c then [c]
  else if c.toNat < 0x100 then ['\\', 'x'] ++ hexDigits c.toNat 2
  else if c.toNat < 0x10000 then ['\\', 'u'] ++ hexDigits c.toNat 4
  else ['\\', 'U'] ++ hexDigits c.toNat 8

def quoted (text : List Char) : List Char :=
  let quote := if text.contains '\'' && !text.contains '"' then '"' else '\''
  [quote] ++ text.flatMap (quotedChar quote) ++ [quote]

end ChangeRelay.Text
