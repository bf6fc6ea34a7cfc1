/-!
Whole numbers in decimal digits, most significant first, and their reading.
-/
namespace ChangeRelay.Number

def digitChar (n : Nat) : Char := Char.ofNat (48 + n)

def decimalDigits (n : Nat) : List Char :=
  if n < 10 then [digitChar n] else decimalDigits (n / 10) ++ [digitChar (n % 10)]
termination_by n
decreasing_by omega

def intDigits : Int → List Char
  | .ofNat n => decimalDigits n
  | .negSucc n => '-' :: decimalDigits (n + 1)

def isDigit (c : Char) : Bool := '0' ≤ c && c ≤ '9'

def digitValue (c : Char) : Nat := c.toNat - 48

/-- The number whose digits are those of `done` followed by the given ones. -/
def digitsValue (base done : Nat) : List Char → Nat
  | [] => done
  | c :: rest => digitsValue base (done * base + digitValue c) rest

def readDecimal (digits : List Char) : Nat := digitsValue 10 0 digits

def tenTo (exponent : Int) : Nat × Nat :=
  if 0 ≤ exponent then (Nat.pow 10 exponent.toNat, 1) else (1, Nat.pow 10 (-exponent).toNat)

end ChangeRelay.Number
