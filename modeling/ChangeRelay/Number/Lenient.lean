import ChangeRelay.Number.Binary64
import ChangeRelay.Text.Pieces

/-!
Numbers and truth values written as texts, read generously. Blanks around a number are ignored. A
whole number may have a sign, leading zeros, single underscores between digits and a fraction of
zeros only. Other numbers may be decimal, infinite or not a number at all.
-/
namespace ChangeRelay.Number.Lenient

def isBlank (c : Char) : Bool :=
  let n := c.toNat
  (9 ≤ n && n ≤ 13) || n == 0x20 || n == 0x85 || n == 0xA0 || n == 0x1680 ||
    (0x2000 ≤ n && n ≤ 0x200A) || n == 0x2028 || n == 0x2029 || n == 0x202F || n == 0x205F ||
    n == 0x3000

def trimmed (text : List Char) : List Char :=
  ((text.dropWhile isBlank).reverse.dropWhile isBlank).reverse

def singleUnderscores (text : List Char) : Bool := (Text.pieces '_' text).all (· != [])

def withoutUnderscores? (text : List Char) : Option (List Char) :=
  if text.contains '_' && singleUnderscores text then some (text.filter (· != '_')) else none

/-- Leading zeros, and underscores among them, go as long as a digit or a point follows. -/
def withoutLeadingZeros (text : List Char) : List Char :=
  match text with
  | '0' :: rest =>
    match rest.dropWhile fun c => c == '0' || c == '_' with
    | [] => text.drop (text.length - 1)
    | '.' :: more => if rest.length = more.length + 1 then text else
        text.drop (text.length - more.length - 2)
    | c :: more => if '1' ≤ c ∧ c ≤ '9' then c :: more else text
  | text => text

def withoutZeroFraction (text : List Char) : List Char :=
  match Text.cut '.' text with
  | (whole, some fraction) => if fraction.all (· == '0') then whole else text
  | (_, none) => text

def unsigned? (text : List Char) : Option Nat :=
  let plain := withoutZeroFraction (withoutLeadingZeros text)
  let digits := (withoutUnderscores? plain).getD plain
  if digits ≠ [] ∧ digits.all isDigit then some (readDecimal digits) else none

def int? (text : List Char) : Option Int :=
  match trimmed text with
  | '-' :: rest => (unsigned? rest).map fun n => -(n : Int)
  | '+' :: rest => (unsigned? rest).map fun n => (n : Int)
  | rest => (unsigned? rest).map fun n => (n : Int)

def exponent? : List Char → Option Int
  | [] => some 0
  | 'e' :: rest =>
    let (negative, digits) := match rest with
      | '-' :: digits => (true, digits)
      | '+' :: digits => (false, digits)
      | digits => (false, digits)
    if digits ≠ [] ∧ digits.all isDigit then
      let size : Int := readDecimal digits
      some (if negative then -size else size)
    else none
  | _ => none

def magnitude? (negative : Bool) (text : List Char) : Option Binary64 :=
  if text = "inf".toList ∨ text = "infinity".toList then some (.infinite negative)
  else if text = "nan".toList then some .notANumber
  else
    let whole := text.takeWhile isDigit
    let rest := text.dropWhile isDigit
    let (fraction, rest) := match rest with
      | '.' :: rest => (rest.takeWhile isDigit, rest.dropWhile isDigit)
      | rest => ([], rest)
    if whole = [] ∧ fraction = [] then none
    else
      (exponent? rest).map fun exponent =>
        Binary64.ofDecimal negative (readDecimal (whole ++ fraction)) (exponent - fraction.length)

def plain? (text : List Char) : Option Binary64 :=
  match text.map Char.toLower with
  | '-' :: rest => magnitude? true rest
  | '+' :: rest => magnitude? false rest
  | rest => magnitude? false rest

def real? (text : List Char) : Option Binary64 :=
  match plain? (trimmed text) with
  | some x => some x
  | none => (withoutUnderscores? text).bind plain?

def bool? (text : List Char) : Option Bool :=
  let word := String.ofList (text.map Char.toLower)
  if ["1", "on", "t", "true", "y", "yes"].contains word then some true
  else if ["0", "off", "f", "false", "n", "no"].contains word then some false
  else none

end ChangeRelay.Number.Lenient
