import ChangeRelay.Number.Decimal
import ChangeRelay.Text.Quoted

/-!
Why a message template cannot be filled with its arguments.
-/
namespace ChangeRelay.Template

inductive Flaw where
  /-- The template ends within a directive. -/
  | incomplete
  | incompleteKey
  /-- A directive has a key, but the arguments are no record. -/
  | noRecord
  | noField (key : List Char)
  | tooFew
  | tooMany
  | sizeIsNoInt
  | noReal (letter : Char) (kind : String)
  | noInt (letter : Char) (kind : String)
  | noFloat (kind : String)
  | noWhole
  | tooLarge
  | noCharacter
  | characterOutOfRange
  | unknownLetter (letter : Char) (position : Nat)
  deriving DecidableEq, Repr

namespace Flaw

def shownLetter (letter : Char) : Char :=
  if 31 ≤ letter.toNat ∧ letter.toNat ≤ 126 then letter else '?'

def codeOf (letter : Char) : List Char :=
  match (Text.hexDigits letter.toNat 6).dropWhile (· == '0') with
  | [] => ['0']
  | digits => digits

def message : Flaw → String
  | .incomplete => "incomplete format"
  | .incompleteKey => "incomplete format key"
  | .noRecord => "format requires a mapping"
  | .noField key => String.ofList (Text.quoted key)
  | .tooFew => "not enough arguments for format string"
  | .tooMany => "not all arguments converted during string formatting"
  | .sizeIsNoInt => "* wants int"
  | .noReal letter kind =>
    "%" ++ letter.toString ++ " format: a real number is required, not " ++ kind
  | .noInt letter kind =>
    "%" ++ letter.toString ++ " format: an integer is required, not " ++ kind
  | .noFloat kind => "must be real number, not " ++ kind
  | .noWhole => "cannot convert float infinity to integer"
  | .tooLarge => "int too large to convert to float"
  | .noCharacter => "%c requires int or char"
  | .characterOutOfRange => "%c arg not in range(0x110000)"
  | .unknownLetter letter position =>
    "unsupported format character '" ++ (shownLetter letter).toString ++ "' (0x" ++
      String.ofList (codeOf letter) ++ ") at index " ++
      String.ofList (Number.decimalDigits position)

end Flaw
end ChangeRelay.Template
