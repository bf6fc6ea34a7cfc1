import ChangeRelay.Text.CaseTable
import ChangeRelay.Text.CasedTable
import ChangeRelay.Text.UpperTable

/-!
Letters without regard to case, and the lower-case and upper-case forms of a text. Two characters
are equal when case is ignored iff they have the same key; the key of a character is taken from its
lower-case form. The lower-case form of a text goes character by character, but for a dotted capital
`I`, which leaves its dot behind, and for a capital sigma at the end of a word. The upper-case form
of a character depends on nothing else, but may be several characters.
-/
namespace ChangeRelay.Text

def inAnyRange (ranges : List (Nat × Nat)) (point : Nat) : Bool :=
  ranges.any fun (first, last) => first ≤ point && point ≤ last

def mappedPoint (point : Nat) : List (Nat × Nat × Nat × Int) → Nat
  | [] => point
  | (first, last, step, distance) :: more =>
    if first ≤ point ∧ point ≤ last ∧ (point - first) % step = 0 then (point + distance).toNat
    else mappedPoint point more

def lowerChar (c : Char) : Char :=
  if c.toNat < 0x80 then c.toLower else Char.ofNat (mappedPoint c.toNat lowerRuns)

def siblingPoint (point : Nat) : Nat :=
  match caseSiblings.find? (·.1 == point) with
  | some (_, key) => key
  | none => point

def caseKey (c : Char) : Nat := siblingPoint (lowerChar c).toNat

def sameIgnoringCase (a b : Char) : Bool := caseKey a == caseKey b

def isCased (c : Char) : Bool := inAnyRange casedRanges c.toNat
def isCaseIgnored (c : Char) : Bool := inAnyRange caseIgnoredRanges c.toNat

/-- Whether a letter is met before anything that is not passed over. -/
def meetsLetter (text : List Char) : Bool :=
  match text.dropWhile isCaseIgnored with
  | [] => false
  | c :: _ => isCased c

/-- The lower-case form of a character between what stands before it, nearest first, and what
stands after it. -/
def lowerBetween (before : List Char) (c : Char) (after : List Char) : List Char :=
  if c = 'Σ' then [if meetsLetter before && !meetsLetter after then 'ς' else 'σ']
  else if c = 'İ' then ['i', '\u0307']
  else [lowerChar c]

def lowerAfter (before : List Char) : List Char → List Char
  | [] => []
  | c :: after => lowerBetween before c after ++ lowerAfter (c :: before) after

def lowercase (text : List Char) : List Char := lowerAfter [] text

def upperChar (c : Char) : List Char :=
  if c.toNat < 0x80 then [c.toUpper]
  else
    match upperExpansions.lookup c.toNat with
    | some points => points.map Char.ofNat
    | none => [Char.ofNat (mappedPoint c.toNat upperRuns)]

def uppercase (text : List Char) : List Char := text.flatMap upperChar

end ChangeRelay.Text
