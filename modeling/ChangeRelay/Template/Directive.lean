import ChangeRelay.Number.Decimal

/-!
Reading message templates. A percent sign opens a directive: a key in parentheses, flags, a width, a
precision and a letter. Two percent signs stand for one.
-/
namespace ChangeRelay.Template

inductive Size where
  | given (count : Nat)
  | asked
  deriving DecidableEq, Repr

structure Directive where
  key : Option (List Char)
  flags : List Char
  width : Option Size
  precision : Option Size
  /-- None if the template ends before it. -/
  letter : Option Char
  position : Nat
  deriving DecidableEq, Repr

inductive Piece where
  | plain (c : Char)
  | directive (directive : Directive)
  /-- A key without an end, and so the end of the template. -/
  | openKey
  deriving DecidableEq, Repr

def isFlag (c : Char) : Bool := ['-', '+', ' ', '#', '0'].contains c

def readKey (depth : Nat) : List Char → Option (List Char × List Char)
  | [] => none
  | c :: rest =>
    if c = ')' ∧ depth = 0 then some ([], rest)
    else
      let depth := if c = '(' then depth + 1 else if c = ')' then depth - 1 else depth
      (readKey depth rest).map fun (key, after) => (c :: key, after)

def readSize (text : List Char) : Option Size × List Char :=
  match text with
  | '*' :: rest => (some .asked, rest)
  | text =>
    match text.takeWhile Number.isDigit with
    | [] => (none, text)
    | digits => (some (.given (Number.readDecimal digits)), text.dropWhile Number.isDigit)

/-- A precision follows a point; without digits it is zero. -/
def readPrecision (text : List Char) : Option Size × List Char :=
  match text with
  | '.' :: rest =>
    let (size, rest) := readSize rest
    (some (size.getD (.given 0)), rest)
  | text => (none, text)

/-- One mark for the size of a number means nothing. -/
def skipMark (text : List Char) : List Char :=
  match text with
  | c :: rest => if ['h', 'l', 'L'].contains c then rest else c :: rest
  | [] => []

def readDirective (length : Nat) (key : Option (List Char)) (text : List Char) :
    Directive × List Char :=
  let flags := text.takeWhile isFlag
  let (width, rest) := readSize (text.dropWhile isFlag)
  let (precision, rest) := readPrecision rest
  match skipMark rest with
  | letter :: after =>
    (⟨key, flags, width, precision, some letter, length - after.length - 1⟩, after)
  | [] => (⟨key, flags, width, precision, none, length⟩, [])

def piecesFrom (length : Nat) : Nat → List Char → List Piece
  | 0, _ => []
  | _, [] => []
  | fuel + 1, '%' :: '%' :: rest => .plain '%' :: piecesFrom length fuel rest
  | fuel + 1, '%' :: '(' :: rest =>
    match readKey 0 rest with
    | none => [.openKey]
    | some (key, after) =>
      let (directive, after) := readDirective length (some key) after
      .directive directive :: piecesFrom length fuel after
  | fuel + 1, '%' :: rest =>
    let (directive, after) := readDirective length none rest
    .directive directive :: piecesFrom length fuel after
  | fuel + 1, c :: rest => .plain c :: piecesFrom length fuel rest

def pieces (template : List Char) : List Piece :=
  piecesFrom template.length template.length template

end ChangeRelay.Template
