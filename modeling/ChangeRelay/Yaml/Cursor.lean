/-!
A place in a text: what is still to be read, and how far the place is from the beginning of the
text and of its line. Lines end at a line feed, a carriage return, both together, a next-line
character or one of the two separators; a byte order mark takes no column.
-/
namespace ChangeRelay.Yaml

def isBreak (c : Char) : Bool :=
  c == '\n' || c == '\r' || c == '\u0085' || c == '\u2028' || c == '\u2029'

def endsLine : Option Char → Bool
  | none => true
  | some c => isBreak c

/-- Whether something that has to be followed by a space or by nothing on its line ends here. -/
def endsPart : Option Char → Bool
  | none => true
  | some c => c == ' ' || isBreak c

/-- Whether a word ends here; other than a part, a word may be followed by a tab. -/
def endsWord : Option Char → Bool
  | none => true
  | some c => c == ' ' || c == '\t' || isBreak c

def startsWithMarks (mark : Char) : List Char → Bool
  | a :: b :: c :: rest => a == mark && b == mark && c == mark && endsWord rest.head?
  | _ => false

def startsWithSeparator (text : List Char) : Bool :=
  startsWithMarks '-' text || startsWithMarks '.' text

structure Cursor where
  rest : List Char
  index : Nat
  line : Nat
  column : Nat
  deriving Repr

namespace Cursor

def start (text : List Char) : Cursor := ⟨text, 0, 0, 0⟩

def peek (cursor : Cursor) : Option Char := cursor.rest.head?

def next (cursor : Cursor) : Cursor :=
  match cursor.rest with
  | [] => cursor
  | c :: rest =>
    if isBreak c && !(c == '\r' && rest.head? == some '\n') then
      ⟨rest, cursor.index + 1, cursor.line + 1, 0⟩
    else if c == '\uFEFF' then ⟨rest, cursor.index + 1, cursor.line, cursor.column⟩
    else ⟨rest, cursor.index + 1, cursor.line, cursor.column + 1⟩

def skip : Nat → Cursor → Cursor
  | 0, cursor => cursor
  | n + 1, cursor => skip n cursor.next

def run (inClass : Char → Bool) (cursor : Cursor) : List Char × Cursor :=
  let found := cursor.rest.takeWhile inClass
  (found, cursor.skip found.length)

def skipWhile (inClass : Char → Bool) (cursor : Cursor) : Cursor := (cursor.run inClass).2

def skipSpaces (cursor : Cursor) : Cursor := cursor.skipWhile (· == ' ')

def skipComment (cursor : Cursor) : Cursor :=
  if cursor.peek = some '#' then cursor.skipWhile (!isBreak ·) else cursor

/-- The break at this place as it is kept: a separator stays what it is, any other break counts as
a line feed, and without a break nothing is kept. -/
def lineBreak (cursor : Cursor) : List Char × Cursor :=
  match cursor.rest with
  | '\r' :: '\n' :: _ => (['\n'], cursor.skip 2)
  | c :: _ =>
    if c == '\u2028' || c == '\u2029' then ([c], cursor.next)
    else if isBreak c then (['\n'], cursor.next)
    else ([], cursor)
  | [] => ([], cursor)

def finishLine (cursor : Cursor) : Option Cursor :=
  let cursor := cursor.skipSpaces.skipComment
  if endsLine cursor.peek then some cursor.lineBreak.2 else none

end Cursor
end ChangeRelay.Yaml
