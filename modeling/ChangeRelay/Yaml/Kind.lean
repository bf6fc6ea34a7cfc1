import ChangeRelay.Number.Lenient
import ChangeRelay.Yaml.Cursor

/-!
The kinds of values. A tag names a kind; a plain scalar without one has the kind that its text looks
like. Truth values have eleven words each way of writing them, whole numbers may be binary, octal,
hexadecimal or in parts of sixty, and a number is real only if it has a point.
-/
namespace ChangeRelay.Yaml

inductive Kind where
  | null
  | bool
  | int
  | real
  | bytes
  | moment
  | text
  | sequence
  | mapping
  | set
  | orderedMapping
  | pairs
  | merge
  | default
  | unknown
  deriving DecidableEq, Repr

namespace Kind

def standardTag : List Char := "tag:yaml.org,2002:".toList

def names : List (String × Kind) :=
  [("null", .null), ("bool", .bool), ("int", .int), ("float", .real), ("binary", .bytes),
    ("timestamp", .moment), ("str", .text), ("seq", .sequence), ("map", .mapping), ("set", .set),
    ("omap", .orderedMapping), ("pairs", .pairs), ("merge", .merge), ("value", .default)]

def ofTag (tag : List Char) : Kind :=
  match Text.after? standardTag tag with
  | some name => (names.lookup (String.ofList name)).getD .unknown
  | none => .unknown

def isWord (words : List String) (text : List Char) : Bool :=
  words.any fun word =>
    text == word.toList || text == word.toList.map Char.toUpper ||
      text == word.toList.mapIdx fun i c => if i = 0 then c.toUpper else c

def isBool : List Char → Bool := isWord ["yes", "no", "true", "false", "on", "off"]

def isNull (text : List Char) : Bool := text == [] || text == ['~'] || isWord ["null"] text

def isDigitOrGap (c : Char) : Bool := Number.isDigit c || c == '_'

def withoutSign : List Char → List Char
  | '+' :: rest => rest
  | '-' :: rest => rest
  | rest => rest

def isSixtieth : List Char → Bool
  | [d] => Number.isDigit d
  | [c, d] => '0' ≤ c && c ≤ '5' && Number.isDigit d
  | _ => false

def areSixtieths (parts : List (List Char)) : Bool := parts != [] && parts.all isSixtieth

def startsNumber (isFirst : Char → Bool) : List Char → Bool
  | c :: rest => isFirst c && rest.all isDigitOrGap
  | [] => false

def isCounting (c : Char) : Bool := '1' ≤ c && c ≤ '9'

def isInt (text : List Char) : Bool :=
  match withoutSign text with
  | '0' :: 'b' :: digits => digits != [] && digits.all fun c => c == '0' || c == '1' || c == '_'
  | '0' :: 'x' :: digits =>
    digits != [] && digits.all fun c =>
      isDigitOrGap c || ('a' ≤ c && c ≤ 'f') || ('A' ≤ c && c ≤ 'F')
  | '0' :: digits => digits.all fun c => ('0' ≤ c && c ≤ '7') || c == '_'
  | digits =>
    match Text.pieces ':' digits with
    | first :: parts => startsNumber isCounting first && (parts == [] || areSixtieths parts)
    | [] => false

def isExponent : List Char → Bool
  | [] => true
  | e :: sign :: digits =>
    (e == 'e' || e == 'E') && (sign == '+' || sign == '-') && digits != [] &&
      digits.all Number.isDigit
  | _ => false

def isFraction (text : List Char) : Bool := isExponent (text.dropWhile isDigitOrGap)

def isDecimal (text : List Char) : Bool :=
  match Text.cut '.' text with
  | (whole, some fraction) => startsNumber Number.isDigit whole && isFraction fraction
  | (_, none) => false

def isSexagesimal (text : List Char) : Bool :=
  match Text.cut '.' text with
  | (whole, some fraction) =>
    fraction.all isDigitOrGap &&
      match Text.pieces ':' whole with
      | first :: parts => startsNumber Number.isDigit first && areSixtieths parts
      | [] => false
  | (_, none) => false

def isReal (text : List Char) : Bool :=
  match text with
  | '.' :: c :: rest =>
    (Number.isDigit c && isFraction rest) || isWord ["inf"] (c :: rest) ||
      ["nan", "NaN", "NAN"].contains (String.ofList (c :: rest))
  | signed =>
    match withoutSign signed with
    | '.' :: rest => isWord ["inf"] rest
    | number => isDecimal number || isSexagesimal number

end Kind
end ChangeRelay.Yaml
