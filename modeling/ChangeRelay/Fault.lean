import ChangeRelay.Language

/-!
What can be wrong with a value that is to become a setting, a snapshot or a batch. A fault names
the place, as field names and positions from the outside in, and the problem there.
-/
namespace ChangeRelay

namespace Fault

inductive Problem where
  | noText
  | noTuple
  | noList
  | noRecord
  | notAboveZero
  | belowZero
  | notFinite
  | noNumber
  | unreadableNumber
  | noWhole
  | unreadableWhole
  | overlongWhole
  | brokenWhole
  | noBoolean
  | unreadableBoolean
  | noPath
  | noLanguage
  | missing
  | frozen
  | noModel (name : String)
  deriving DecidableEq, Repr

inductive Step where
  | field (name : String)
  | position (index : Nat)
  deriving DecidableEq, Repr

def Problem.code : Problem → String
  | .noText => "string_type"
  | .noTuple => "tuple_type"
  | .noList => "list_type"
  | .noRecord => "dict_type"
  | .notAboveZero => "greater_than"
  | .belowZero => "greater_than_equal"
  | .notFinite => "finite_number"
  | .noNumber => "float_type"
  | .unreadableNumber => "float_parsing"
  | .noWhole => "int_type"
  | .unreadableWhole => "int_parsing"
  | .overlongWhole => "int_parsing_size"
  | .brokenWhole => "int_from_float"
  | .noBoolean => "bool_type"
  | .unreadableBoolean => "bool_parsing"
  | .noPath => "path_type"
  | .noLanguage => "enum"
  | .missing => "missing"
  | .frozen => "frozen_instance"
  | .noModel _ => "model_type"

def languageChoice : List String → String
  | [] => ""
  | [last] => "'" ++ last ++ "'"
  | [a, last] => "'" ++ a ++ "' or '" ++ last ++ "'"
  | name :: more => "'" ++ name ++ "', " ++ languageChoice more

def Problem.message : Problem → String
  | .noText => "Input should be a valid string"
  | .noTuple => "Input should be a valid tuple"
  | .noList => "Input should be a valid list"
  | .noRecord => "Input should be a valid dictionary"
  | .notAboveZero => "Input should be greater than 0"
  | .belowZero => "Input should be greater than or equal to 0"
  | .notFinite => "Input should be a finite number"
  | .noNumber => "Input should be a valid number"
  | .unreadableNumber => "Input should be a valid number, unable to parse string as a number"
  | .noWhole => "Input should be a valid integer"
  | .unreadableWhole => "Input should be a valid integer, unable to parse string as an integer"
  | .overlongWhole => "Unable to parse input string as an integer, exceeded maximum size"
  | .brokenWhole => "Input should be a valid integer, got a number with a fractional part"
  | .noBoolean => "Input should be a valid boolean"
  | .unreadableBoolean => "Input should be a valid boolean, unable to interpret input"
  | .noPath => "Input is not a valid path for <class 'pathlib.Path'>"
  | .noLanguage => "Input should be " ++ languageChoice (Language.all.map Language.name)
  | .missing => "Field required"
  | .frozen => "Instance is frozen"
  | .noModel name => "Input should be a valid dictionary or instance of " ++ name

end Fault

structure Fault where
  place : List Fault.Step
  problem : Fault.Problem
  deriving DecidableEq, Repr

namespace Fault

/-- The same faults seen from one step further out. -/
def under (step : Step) (faults : List Fault) : List Fault :=
  faults.map fun fault => { fault with place := step :: fault.place }

end Fault
end ChangeRelay
