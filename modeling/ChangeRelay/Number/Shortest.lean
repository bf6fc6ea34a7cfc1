import ChangeRelay.Number.Binary64

/-!
The shortest decimal of a binary number: the fewest digits that are read back as that number, of
those the nearest, and of two equally near the one with an even last digit. A decimal is read back
if it lies in the interval of numbers that round to the given one; its ends belong to it if the
count of units is even.
-/
namespace ChangeRelay.Number

structure Decimal where
  digits : Nat
  exponent : Int
  deriving DecidableEq, Repr

namespace Shortest

/-- A magnitude and the ends of its interval as numerators over one denominator. -/
structure Interval where
  low : Nat
  middle : Nat
  high : Nat
  denominator : Nat
  closed : Bool

def interval (bits : Nat) : Interval :=
  let count := Binary64.units bits
  let below := if count = Binary64.unitsLimit ∧ 2 * Binary64.unitsLimit ≤ bits then 1 else 2
  let power := Binary64.unit bits - 2
  let scale := if 0 ≤ power then Nat.pow 2 power.toNat else 1
  let denominator := if 0 ≤ power then 1 else Nat.pow 2 (-power).toNat
  ⟨(4 * count - below) * scale, 4 * count * scale, (4 * count + 2) * scale, denominator,
    count % 2 == 0⟩

def Interval.holds (i : Interval) (decimal : Decimal) : Bool :=
  let (scale, part) := tenTo decimal.exponent
  let value := decimal.digits * scale * i.denominator
  if i.closed then decide (i.low * part ≤ value) && decide (value ≤ i.high * part)
  else decide (i.low * part < value) && decide (value < i.high * part)

def zerosAfterPoint (denominator : Nat) : Nat → Nat → Nat
  | 0, _ => 0
  | fuel + 1, numerator =>
    if denominator ≤ numerator then 0
    else zerosAfterPoint denominator fuel (numerator * 10) + 1

def pointPosition (numerator denominator : Nat) : Int :=
  if denominator ≤ numerator then (decimalDigits (numerator / denominator)).length
  else 1 - (zerosAfterPoint denominator 400 numerator : Int)

/-- The best decimal with the given number of digits, if one lies in the interval. -/
def withDigits? (i : Interval) (position : Int) (count : Nat) : Option Decimal :=
  let exponent := position - count
  let (scale, part) := tenTo exponent
  let whole := i.middle * part / (i.denominator * scale)
  let twice := 2 * (i.middle * part % (i.denominator * scale))
  let lower : Decimal := ⟨whole, exponent⟩
  let upper : Decimal := ⟨whole + 1, exponent⟩
  match i.holds lower, i.holds upper with
  | false, false => none
  | true, false => some lower
  | false, true => some upper
  | true, true =>
    if twice < i.denominator * scale then some lower
    else if i.denominator * scale < twice then some upper
    else some (if whole % 2 = 0 then lower else upper)

def exact (bits : Nat) : Decimal :=
  let power := Binary64.unit bits
  if 0 ≤ power then ⟨Binary64.units bits * Nat.pow 2 power.toNat, 0⟩
  else ⟨Binary64.units bits * Nat.pow 5 (-power).toNat, power⟩

def withoutFinalZeros : Nat → Decimal → Decimal
  | 0, decimal => decimal
  | fuel + 1, decimal =>
    if decimal.digits % 10 = 0 ∧ decimal.digits ≠ 0 then
      withoutFinalZeros fuel ⟨decimal.digits / 10, decimal.exponent + 1⟩
    else decimal

end Shortest

def shortest (bits : Nat) : Decimal :=
  let i := Shortest.interval bits
  let position := Shortest.pointPosition i.middle i.denominator
  let found := (List.range 17).findSome? fun n => Shortest.withDigits? i position (n + 1)
  let decimal := found.getD (Shortest.exact bits)
  Shortest.withoutFinalZeros (decimalDigits decimal.digits).length decimal

/-- How a format spells binary numbers: where positional notation ends on both sides, whether a
positive exponent has a sign, and how many digits an exponent has at least. -/
structure RealStyle where
  leastPosition : Int
  greatestPosition : Int
  signedExponent : Bool
  exponentWidth : Nat

namespace RealStyle

def zeros (count : Nat) : List Char := List.replicate count '0'

def exponent (style : RealStyle) (value : Int) : List Char :=
  let digits := decimalDigits value.natAbs
  let sign := if value < 0 then ['-'] else if style.signedExponent then ['+'] else []
  sign ++ zeros (style.exponentWidth - digits.length) ++ digits

def decimal (style : RealStyle) (d : Decimal) : List Char :=
  let digits := decimalDigits d.digits
  let position : Int := digits.length + d.exponent
  if position ≤ style.leastPosition ∨ style.greatestPosition < position then
    let fraction := if digits.tail = [] then [] else '.' :: digits.tail
    digits.take 1 ++ fraction ++ 'e' :: style.exponent (position - 1)
  else if position ≤ 0 then ['0', '.'] ++ zeros (-position).toNat ++ digits
  else if digits.length ≤ position.toNat then
    digits ++ zeros (position.toNat - digits.length) ++ ['.', '0']
  else digits.take position.toNat ++ '.' :: digits.drop position.toNat

def finite (style : RealStyle) (negative : Bool) (bits : Nat) : List Char :=
  (if negative then ['-'] else []) ++
    if bits = 0 then ['0', '.', '0'] else style.decimal (shortest bits)

end RealStyle
end ChangeRelay.Number
