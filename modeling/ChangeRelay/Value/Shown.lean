import ChangeRelay.Number.Shortest
import ChangeRelay.Text.Quoted
import ChangeRelay.Value

/-!
Values as log entries show them: a text as it is, but inside lists and records in quotes.
-/
namespace ChangeRelay.Value

open Number (Binary64 RealStyle)

def realStyle : RealStyle := ⟨-4, 16, true, 2⟩

def shownReal : Binary64 → List Char
  | .finite negative bits => realStyle.finite negative bits
  | .infinite false => "inf".toList
  | .infinite true => "-inf".toList
  | .notANumber => "nan".toList

mutual

def shownInside : Value → List Char
  | .null => "None".toList
  | .bool true => "True".toList
  | .bool false => "False".toList
  | .int n => Number.intDigits n
  | .real x => shownReal x
  | .text s => Text.quoted s.toList
  | .list [] => "[]".toList
  | .list (item :: items) => '[' :: shownInside item ++ shownItems items
  | .record [] => ['\x7b', '\x7d']
  | .record ((name, value) :: fields) =>
    '\x7b' :: Text.quoted name.toList ++ ':' :: ' ' :: shownInside value ++ shownFields fields

def shownItems : List Value → List Char
  | [] => [']']
  | item :: items => ',' :: ' ' :: shownInside item ++ shownItems items

def shownFields : List (String × Value) → List Char
  | [] => ['\x7d']
  | (name, value) :: fields =>
    ',' :: ' ' :: Text.quoted name.toList ++ ':' :: ' ' :: shownInside value ++ shownFields fields

end

def shown : Value → String
  | .text s => s
  | value => String.ofList (shownInside value)

end ChangeRelay.Value
