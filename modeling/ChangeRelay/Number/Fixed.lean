import ChangeRelay.Number.Shortest

/-!
Quotients with a chosen number of digits: so many decimal places, or one digit before the point, so
many after it and a power of ten. The last digit is rounded, a half to the even neighbour.
-/
namespace ChangeRelay.Number

structure Places where
  whole : List Char
  fraction : List Char
  deriving DecidableEq, Repr

def Places.ofUnits (units count : Nat) : Places :=
  let digits := decimalDigits units
  let padded := List.replicate (count + 1 - digits.length) '0' ++ digits
  ⟨padded.take (padded.length - count), padded.drop (padded.length - count)⟩

def fixed (numerator denominator count : Nat) : Places :=
  .ofUnits (Binary64.roundedQuotient (numerator * Nat.pow 10 count) denominator) count

/-- A quotient as a number from one to below ten with so many places, and the power of ten. -/
def scientific (numerator denominator count : Nat) : Places × Int :=
  if numerator = 0 then (.ofUnits 0 count, 0)
  else
    let position := Shortest.pointPosition numerator denominator
    let (scale, part) := tenTo (count + 1 - position)
    let units := Binary64.roundedQuotient (numerator * scale) (denominator * part)
    if units < Nat.pow 10 (count + 1) then (.ofUnits units count, position - 1)
    else (.ofUnits (Nat.pow 10 count) count, position)

end ChangeRelay.Number
