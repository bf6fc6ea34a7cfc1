import ChangeRelay.Number.Decimal

/-!
Binary numbers of 64 bits, by their parts: a sign and the bits below it, which count the
magnitudes from zero upwards. A magnitude is a whole number of units of a power of two. Reading a
decimal takes the nearest magnitude, an even one if two are equally near.
-/
namespace ChangeRelay.Number

def magnitudes : Nat := 0x7FF0000000000000

inductive Binary64 where
  | finite (negative : Bool) (bits : Fin magnitudes)
  | infinite (negative : Bool)
  | notANumber
  deriving DecidableEq, Repr

namespace Binary64

def unitsLimit : Nat := Nat.pow 2 52

def units (bits : Nat) : Nat :=
  if bits < unitsLimit then bits else unitsLimit + bits % unitsLimit

def unit (bits : Nat) : Int :=
  if bits < unitsLimit then -1074 else (bits / unitsLimit : Int) - 1075

/-- A quotient rounded to the nearest whole number, to the even one of two equally near. -/
def roundedQuotient (numerator denominator : Nat) : Nat :=
  let whole := numerator / denominator
  let twice := 2 * (numerator % denominator)
  if twice < denominator then whole
  else if denominator < twice then whole + 1
  else whole + whole % 2

def quotientLog2 (numerator denominator : Nat) : Int :=
  let guess : Int := numerator.log2 - denominator.log2
  let fits :=
    if 0 ≤ guess then denominator * Nat.pow 2 guess.toNat ≤ numerator
    else denominator ≤ numerator * Nat.pow 2 (-guess).toNat
  if fits then guess else guess - 1

/-- The bits of the magnitude nearest to a quotient; they may exceed the finite ones. -/
def nearestBits (numerator denominator : Nat) : Nat :=
  if numerator = 0 then 0
  else
    let power := max (-1074) (quotientLog2 numerator denominator - 52)
    let count :=
      if 0 ≤ power then roundedQuotient numerator (denominator * Nat.pow 2 power.toNat)
      else roundedQuotient (numerator * Nat.pow 2 (-power).toNat) denominator
    (power + 1074).toNat * unitsLimit + count

def ofBits (negative : Bool) (bits : Nat) : Binary64 :=
  if small : bits < magnitudes then .finite negative ⟨bits, small⟩ else .infinite negative

def ofDecimal (negative : Bool) (digits : Nat) (exponent : Int) : Binary64 :=
  if digits = 0 then .finite negative ⟨0, by decide⟩
  else if 400 < exponent then .infinite negative
  else if exponent + digits.log2 < -400 then .finite negative ⟨0, by decide⟩
  else
    let (scale, part) := tenTo exponent
    ofBits negative (nearestBits (digits * scale) part)

def ofNat (n : Nat) : Binary64 := ofBits false (nearestBits n 1)

def ofInt (n : Int) : Binary64 := ofBits (decide (n < 0)) (nearestBits n.natAbs 1)

def negated : Binary64 → Binary64
  | .finite negative bits => .finite (!negative) bits
  | .infinite negative => .infinite !negative
  | .notANumber => .notANumber

def quotient (bits : Nat) : Nat × Nat :=
  if 0 ≤ unit bits then (units bits * Nat.pow 2 (unit bits).toNat, 1)
  else (units bits, Nat.pow 2 (-unit bits).toNat)

/-- The quotient with its sign that is nearest to a sum of two such quotients; a sum that vanishes
is negative only if both are. -/
def sumOf (s : Bool) (a b : Nat) (t : Bool) (c d : Nat) : Binary64 :=
  let signed (negative : Bool) (n : Nat) : Int := if negative then -n else n
  let sum := signed s (a * d) + signed t (c * b)
  ofBits (decide (sum < 0) || (sum == 0 && s && t)) (nearestBits sum.natAbs (b * d))

def plus : Binary64 → Binary64 → Binary64
  | .finite s a, .finite t b =>
    sumOf s (quotient a).1 (quotient a).2 t (quotient b).1 (quotient b).2
  | .infinite s, .infinite t => if s = t then .infinite s else .notANumber
  | .infinite s, .finite .. => .infinite s
  | .finite .., .infinite t => .infinite t
  | _, _ => .notANumber

def times : Binary64 → Binary64 → Binary64
  | .finite s a, .finite t b =>
    ofBits (s != t)
      (nearestBits ((quotient a).1 * (quotient b).1) ((quotient a).2 * (quotient b).2))
  | .infinite s, .infinite t => .infinite (s != t)
  | .infinite s, .finite t b => if b.val = 0 then .notANumber else .infinite (s != t)
  | .finite s a, .infinite t => if a.val = 0 then .notANumber else .infinite (s != t)
  | _, _ => .notANumber

def isZero : Binary64 → Bool
  | .finite _ bits => bits.val == 0
  | _ => false

def isPositive : Binary64 → Bool
  | .finite negative bits => !negative && bits.val != 0
  | .infinite negative => !negative
  | .notANumber => false

def toInt? : Binary64 → Option Int
  | .finite negative bits =>
    let signed (n : Nat) : Int := if negative then -n else n
    let power := unit bits
    if 0 ≤ power then some (signed (units bits * Nat.pow 2 power.toNat))
    else
      let part := Nat.pow 2 (-power).toNat
      if units bits % part = 0 then some (signed (units bits / part)) else none
  | _ => none

/-- Numeric equality: zero has no sign, and what is not a number equals nothing. -/
def sameNumber : Binary64 → Binary64 → Bool
  | .finite s a, .finite t b => a == b && (s == t || a.val == 0)
  | .infinite s, .infinite t => s == t
  | _, _ => false

end Binary64
end ChangeRelay.Number
