import ChangeRelay.Number.Fixed
import ChangeRelay.Template.Flaw
import ChangeRelay.Value.Shown

/-!
How a directive writes its argument. The letter chooses the notation; a number stands at the right
of its width, filled with blanks or with zeros behind its sign, a text is cut to the precision.
-/
namespace ChangeRelay.Template

def kindName : Value → String
  | .null => "NoneType"
  | .bool _ => "bool"
  | .int _ => "int"
  | .real _ => "float"
  | .text _ => "str"
  | .list _ => "list"
  | .record _ => "dict"

structure Layout where
  letter : Char
  flags : List Char
  width : Nat
  left : Bool
  precision : Option Nat

namespace Layout

def alternate (layout : Layout) : Bool := layout.flags.contains '#'

def isCapital (layout : Layout) : Bool := layout.letter.isUpper

def padded (layout : Layout) (text : List Char) : List Char :=
  let blanks := List.replicate (layout.width - text.length) ' '
  if layout.left then text ++ blanks else blanks ++ text

def sign (layout : Layout) (negative : Bool) : List Char :=
  if negative then ['-']
  else if layout.flags.contains '+' then ['+']
  else if layout.flags.contains ' ' then [' ']
  else []

/-- A number in its width: zeros that fill it stand behind the sign and the mark of the base. -/
def number (layout : Layout) (negative : Bool) (base digits : List Char) : List Char :=
  let lead := layout.sign negative ++ base
  if layout.flags.contains '0' && !layout.left then
    lead ++ List.replicate (layout.width - lead.length - digits.length) '0' ++ digits
  else layout.padded (lead ++ digits)

def baseOf (layout : Layout) : Nat :=
  match layout.letter with
  | 'o' => 8
  | 'x' | 'X' => 16
  | _ => 10

def baseMark (layout : Layout) : List Char :=
  if layout.alternate && layout.baseOf != 10 then ['0', layout.letter] else []

def whole (layout : Layout) (n : Int) : List Char :=
  let digits := Nat.toDigits layout.baseOf n.natAbs
  let digits := if layout.isCapital then digits.map Char.toUpper else digits
  let zeros := List.replicate (layout.precision.getD 0 - digits.length) '0'
  layout.number (decide (n < 0)) layout.baseMark (zeros ++ digits)

def withoutFinalZeros (digits : List Char) : List Char :=
  (digits.reverse.dropWhile (· == '0')).reverse

/-- Digits around a point, which stands only before digits unless the alternate form is asked. -/
def aroundPoint (layout : Layout) (places : Number.Places) : List Char :=
  if places.fraction = [] ∧ !layout.alternate then places.whole
  else places.whole ++ '.' :: places.fraction

def withExponent (layout : Layout) (places : Number.Places) (exponent : Int) : List Char :=
  let digits := Number.decimalDigits exponent.natAbs
  layout.aroundPoint places ++ 'e' :: (if exponent < 0 then '-' else '+') ::
    (List.replicate (2 - digits.length) '0' ++ digits)

def general (layout : Layout) (numerator denominator count : Nat) : List Char :=
  let (places, exponent) := Number.scientific numerator denominator (count - 1)
  let trimmed (places : Number.Places) : Number.Places :=
    if layout.alternate then places
    else { places with fraction := withoutFinalZeros places.fraction }
  if exponent < -4 ∨ (count : Int) ≤ exponent then layout.withExponent (trimmed places) exponent
  else
    layout.aroundPoint
      (trimmed (Number.fixed numerator denominator (count - 1 - exponent : Int).toNat))

def magnitude (layout : Layout) (bits : Nat) : List Char :=
  let (numerator, denominator) := Number.Binary64.quotient bits
  let count := layout.precision.getD 6
  match layout.letter.toLower with
  | 'e' =>
    let (places, exponent) := Number.scientific numerator denominator count
    layout.withExponent places exponent
  | 'f' => layout.aroundPoint (Number.fixed numerator denominator count)
  | _ => layout.general numerator denominator (max 1 count)

def real (layout : Layout) (x : Number.Binary64) : List Char :=
  let (negative, digits) := match x with
    | .finite negative bits => (negative, layout.magnitude bits)
    | .infinite negative => (negative, "inf".toList)
    | .notANumber => (false, "nan".toList)
  layout.number negative [] (if layout.isCapital then digits.map Char.toUpper else digits)

def cut (layout : Layout) (text : List Char) : List Char :=
  layout.padded (match layout.precision with
    | some count => text.take count
    | none => text)

def isInfinite : Number.Binary64 → Bool
  | .infinite _ => true
  | _ => false

def truncated? : Number.Binary64 → Option Int
  | .finite negative bits =>
    let (numerator, denominator) := Number.Binary64.quotient bits
    let n : Int := (numerator / denominator : Nat)
    some (if negative then -n else n)
  | _ => none

def decimal (layout : Layout) : Value → Except Flaw (List Char)
  | .int n => .ok (layout.whole n)
  | .bool b => .ok (layout.whole (if b then 1 else 0))
  | .real x =>
    match truncated? x with
    | some n => .ok (layout.whole n)
    | none => .error .noWhole
  | value => .error (.noReal layout.letter (kindName value))

def inBase (layout : Layout) : Value → Except Flaw (List Char)
  | .int n => .ok (layout.whole n)
  | .bool b => .ok (layout.whole (if b then 1 else 0))
  | value => .error (.noInt layout.letter (kindName value))

def ofInt (layout : Layout) (n : Int) : Except Flaw (List Char) :=
  let x := Number.Binary64.ofInt n
  if isInfinite x then .error .tooLarge else .ok (layout.real x)

def floating (layout : Layout) : Value → Except Flaw (List Char)
  | .int n => layout.ofInt n
  | .bool b => layout.ofInt (if b then 1 else 0)
  | .real x => .ok (layout.real x)
  | value => .error (.noFloat (kindName value))

def ofCode (layout : Layout) (code : Int) : Except Flaw (List Char) :=
  if 0 ≤ code ∧ code < 0x110000 then .ok (layout.padded [Char.ofNat code.toNat])
  else .error .characterOutOfRange

def character (layout : Layout) : Value → Except Flaw (List Char)
  | .int n => layout.ofCode n
  | .bool b => layout.ofCode (if b then 1 else 0)
  | .text s =>
    match s.toList with
    | [c] => .ok (layout.padded [c])
    | _ => .error .noCharacter
  | _ => .error .noCharacter

def asciiChar (c : Char) : List Char :=
  if c.toNat < 0x80 then [c]
  else if c.toNat < 0x100 then ['\\', 'x'] ++ Text.hexDigits c.toNat 2
  else if c.toNat < 0x10000 then ['\\', 'u'] ++ Text.hexDigits c.toNat 4
  else ['\\', 'U'] ++ Text.hexDigits c.toNat 8

def written (layout : Layout) (position : Nat) (value : Value) : Except Flaw (List Char) :=
  match layout.letter with
  | 's' => .ok (layout.cut value.shown.toList)
  | 'r' => .ok (layout.cut value.shownInside)
  | 'a' => .ok (layout.cut (value.shownInside.flatMap asciiChar))
  | 'c' => layout.character value
  | 'd' | 'i' | 'u' => layout.decimal value
  | 'o' | 'x' | 'X' => layout.inBase value
  | 'e' | 'E' | 'f' | 'F' | 'g' | 'G' => layout.floating value
  | letter => .error (.unknownLetter letter position)

end Layout

end ChangeRelay.Template
