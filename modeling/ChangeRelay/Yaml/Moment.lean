import ChangeRelay.Number.Decimal
import ChangeRelay.Yaml.Token

/-!
Days and times of day. A day alone is written with four and twice two digits; before a time of day
the month and the day may have one digit. A time may be followed by its offset from universal time.
-/
namespace ChangeRelay.Yaml

structure TimeOfDay where
  hour : Nat
  minute : Nat
  second : Nat
  /-- Seconds ahead of universal time, if that is given. -/
  offset : Option Int
  deriving DecidableEq, Repr

structure Moment where
  year : Nat
  month : Nat
  day : Nat
  time : Option TimeOfDay
  deriving DecidableEq, Repr

namespace Moment

def number? (least most : Nat) (text : List Char) : Option (Nat × List Char) :=
  let digits := text.takeWhile Number.isDigit
  if least ≤ digits.length ∧ digits.length ≤ most then
    some (Number.readDecimal digits, text.drop digits.length)
  else none

def behind? (mark : Char) : List Char → Option (List Char)
  | c :: rest => if c = mark then some rest else none
  | [] => none

def isBlank (c : Char) : Bool := c == ' ' || c == '\t'

def offsetBehindSign? (ahead : Bool) (text : List Char) : Option Int := do
  let (hours, rest) ← number? 1 2 text
  let minutes ← (match rest with
    | [] => some 0
    | ':' :: rest => (number? 2 2 rest).bind fun (minutes, rest) =>
      if rest = [] then some minutes else none
    | _ => none)
  let seconds : Int := hours * 3600 + minutes * 60
  return if ahead then seconds else -seconds

def offset? (text : List Char) : Option (Option Int) :=
  if text = [] then some none
  else
    match text.dropWhile isBlank with
    | ['Z'] => some (some 0)
    | '+' :: rest => (offsetBehindSign? true rest).map some
    | '-' :: rest => (offsetBehindSign? false rest).map some
    | _ => none

def time? (text : List Char) : Option TimeOfDay := do
  let (hour, rest) ← number? 1 2 text
  let (minute, rest) ← number? 2 2 (← behind? ':' rest)
  let (second, rest) ← number? 2 2 (← behind? ':' rest)
  let rest := match rest with
    | '.' :: rest => rest.dropWhile Number.isDigit
    | rest => rest
  return ⟨hour, minute, second, ← offset? rest⟩

def timeBehindDay? : List Char → Option (Option TimeOfDay)
  | [] => some none
  | c :: rest =>
    if c = 'T' ∨ c = 't' then (time? rest).map some
    else if isBlank c then (time? (rest.dropWhile isBlank)).map some
    else none

def parse? (text : List Char) : Option Moment := do
  let (year, rest) ← number? 4 4 text
  let (month, rest) ← number? 1 2 (← behind? '-' rest)
  let (day, rest) ← number? 1 2 (← behind? '-' rest)
  return ⟨year, month, day, ← timeBehindDay? rest⟩

def isMoment (text : List Char) : Bool :=
  match parse? text with
  | some moment => moment.time.isSome || text.length == 10
  | none => false

def isLeap (year : Nat) : Bool := year % 4 == 0 && (year % 100 != 0 || year % 400 == 0)

def daysIn (year month : Nat) : Nat :=
  if month = 2 then if isLeap year then 29 else 28
  else if month = 4 ∨ month = 6 ∨ month = 9 ∨ month = 11 then 30
  else 31

def dayFlaw? (moment : Moment) : Option Flaw :=
  if moment.year = 0 then some (.yearOutOfRange moment.year)
  else if moment.month = 0 ∨ 12 < moment.month then some .monthOutOfRange
  else if moment.day = 0 ∨ daysIn moment.year moment.month < moment.day then some .dayOutOfRange
  else none

def secondsOfDay : Int := 86400

def offsetFlaw? (time : TimeOfDay) : Option Flaw :=
  time.offset.bind fun seconds =>
    if seconds ≤ -secondsOfDay ∨ secondsOfDay ≤ seconds then some (.offsetOutOfRange seconds)
    else none

def timeFlaw? (time : TimeOfDay) : Option Flaw :=
  if 23 < time.hour then some .hourOutOfRange
  else if 59 < time.minute then some .minuteOutOfRange
  else if 59 < time.second then some .secondOutOfRange
  else none

/-- What is wrong with a moment as a point in time; an offset is looked at first. -/
def flaw? (moment : Moment) : Option Flaw :=
  match moment.time with
  | none => moment.dayFlaw?
  | some time => (offsetFlaw? time).or (moment.dayFlaw?.or (timeFlaw? time))

def ofText (text : List Char) : Except Flaw Moment :=
  match parse? text with
  | none => .error .noDate
  | some moment =>
    match moment.flaw? with
    | some flaw => .error flaw
    | none => .ok moment

end Moment
end ChangeRelay.Yaml
