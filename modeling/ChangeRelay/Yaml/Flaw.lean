import ChangeRelay.Number.Decimal
import ChangeRelay.Text.Quoted

/-!
Why a YAML text has no value: it is no YAML at all, or one of its scalars does not stand for what
it claims to be.
-/
namespace ChangeRelay.Yaml

inductive Flaw where
  /-- Against the grammar of the language, or a document that stands for no value. -/
  | malformed
  | noCharacter (code : Nat)
  | noTruth (text : List Char)
  | noWhole (base : Nat) (text : List Char)
  | tooManyDigits (count : Nat)
  | noNumber (text : List Char)
  | emptyNumber
  | noDate
  | yearOutOfRange (year : Nat)
  | monthOutOfRange
  | dayOutOfRange
  | hourOutOfRange
  | minuteOutOfRange
  | secondOutOfRange
  /-- An offset from universal time of a day or more, in seconds. -/
  | offsetOutOfRange (seconds : Int)
  deriving DecidableEq, Repr

namespace Flaw

def quoted (text : List Char) : String := String.ofList (Text.quoted text)

def decimal (n : Int) : String := String.ofList (Number.intDigits n)

def span (seconds : Int) : String :=
  let day : Int := 86400
  let days := if seconds / day = 0 then [] else ["days=" ++ decimal (seconds / day)]
  let rest := if seconds % day = 0 then [] else ["seconds=" ++ decimal (seconds % day)]
  "datetime.timedelta(" ++ ", ".intercalate (days ++ rest) ++ ")"

def largestCode : Nat := 0x7FFFFFFF

def message : Flaw → String
  | .malformed => ""
  | .noCharacter code =>
    if code ≤ largestCode then "chr() arg not in range(0x110000)"
    else "Python int too large to convert to C int"
  | .noTruth text => quoted text
  | .noWhole base text =>
    "invalid literal for int() with base " ++ decimal base ++ ": " ++ quoted text
  | .tooManyDigits count =>
    "Exceeds the limit (4300 digits) for integer string conversion: value has " ++
      decimal count ++ " digits; use sys.set_int_max_str_digits() to increase the limit"
  | .noNumber text => "could not convert string to float: " ++ quoted text
  | .emptyNumber => "string index out of range"
  | .noDate => "'NoneType' object has no attribute 'groupdict'"
  | .yearOutOfRange year => "year " ++ decimal year ++ " is out of range"
  | .monthOutOfRange => "month must be in 1..12"
  | .dayOutOfRange => "day is out of range for month"
  | .hourOutOfRange => "hour must be in 0..23"
  | .minuteOutOfRange => "minute must be in 0..59"
  | .secondOutOfRange => "second must be in 0..59"
  | .offsetOutOfRange seconds =>
    "offset must be a timedelta strictly between -timedelta(hours=24) and " ++
      "timedelta(hours=24), not " ++ span seconds ++ "."

end Flaw
end ChangeRelay.Yaml
