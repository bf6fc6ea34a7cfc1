import ChangeRelay.Text.Quoted
import ChangeRelay.Text.Utf8

/-!
Percent escapes over the bytes of a text. Writing escapes every byte but letters, digits and
`_.-~/`. Reading takes an escape with two hexadecimal digits for its byte, leaves any other percent
sign alone, and reads the bytes as UTF-8.
-/
namespace ChangeRelay.Text.Percent

def isPlain (byte : UInt8) : Bool :=
  let n := byte.toNat
  (48 ≤ n && n ≤ 57) || (65 ≤ n && n ≤ 90) || (97 ≤ n && n ≤ 122) ||
    n == 95 || n == 46 || n == 45 || n == 126 || n == 47

def upperHexDigit (n : Nat) : UInt8 := if n < 10 then (48 + n).toUInt8 else (55 + n).toUInt8

def escapeByte (byte : UInt8) : List UInt8 :=
  if isPlain byte then [byte]
  else [37, upperHexDigit (byte.toNat / 16), upperHexDigit (byte.toNat % 16)]

def hexValue (byte : UInt8) : Option Nat :=
  let n := byte.toNat
  if 48 ≤ n ∧ n ≤ 57 then some (n - 48)
  else if 65 ≤ n ∧ n ≤ 70 then some (n - 55)
  else if 97 ≤ n ∧ n ≤ 102 then some (n - 87)
  else none

def unescape : List UInt8 → List UInt8
  | [] => []
  | [a] => [a]
  | [a, b] => [a, b]
  | a :: b :: c :: rest =>
    if a = 37 then
      match hexValue b, hexValue c with
      | some high, some low => (high * 16 + low).toUInt8 :: unescape rest
      | _, _ => a :: unescape (b :: c :: rest)
    else a :: unescape (b :: c :: rest)

def escape (text : List Char) : List Char :=
  ((Utf8.encode text).flatMap escapeByte).map fun byte => Char.ofNat byte.toNat

def decode (text : List Char) : List Char := Utf8.decodeLossy (unescape (Utf8.encode text))

end ChangeRelay.Text.Percent
