import ChangeRelay.Yaml.Property

/-!
The three ways to write a scalar. A plain one ends before anything that could be a mark; a quoted
one ends at its quote; a block ends where the indentation does. Within a plain or a quoted scalar a
single line break reads as a space and further breaks are kept.
-/
namespace ChangeRelay.Yaml

def foldedGap (first more : List Char) : List Char :=
  if first ≠ ['\n'] then first ++ more else if more = [] then [' '] else more

namespace Plain

def isFlowMark (c : Char) : Bool := ",[]\x7b\x7d".toList.contains c

def endsKey (inFlow : Bool) (c : Option Char) : Bool := endsWord c || (inFlow && c.any isFlowMark)

def word (inFlow : Bool) : List Char → List Char
  | [] => []
  | c :: rest =>
    if endsWord (some c) || (c == ':' && endsKey inFlow rest.head?) ||
        (inFlow && (isFlowMark c || c == '?')) then []
    else c :: word inFlow rest

/-- What stands between two words: the text that it reads as, nothing if the scalar ends, the place
behind it, and whether a line ended on the way. -/
structure Gap where
  text : List Char
  behind : Cursor
  brokeLine : Bool

def moreBreaks : Nat → Cursor → Option (List Char) × Cursor
  | 0, cursor => (some [], cursor)
  | fuel + 1, cursor =>
    match cursor.peek with
    | some c =>
      if c == ' ' then moreBreaks fuel cursor.next
      else if isBreak c then
        let (kept, cursor) := cursor.lineBreak
        if startsWithSeparator cursor.rest then (none, cursor)
        else
          let (more, cursor) := moreBreaks fuel cursor
          (more.map (kept ++ ·), cursor)
      else (some [], cursor)
    | none => (some [], cursor)

def gap (cursor : Cursor) : Gap :=
  let (spaces, cursor) := cursor.run (· == ' ')
  if cursor.peek.any isBreak then
    let (first, cursor) := cursor.lineBreak
    if startsWithSeparator cursor.rest then ⟨[], cursor, true⟩
    else
      match moreBreaks (cursor.rest.length + 1) cursor with
      | (none, cursor) => ⟨[], cursor, true⟩
      | (some more, cursor) => ⟨foldedGap first more, cursor, true⟩
  else ⟨spaces, cursor, false⟩

structure Read where
  text : List Char
  brokeLine : Bool

/-- Words and the gaps between them; `before` is the gap that leads here. -/
def words (inFlow : Bool) (indent : Int) : Nat → Gap → Read × Cursor
  | 0, before => (⟨[], before.brokeLine⟩, before.behind)
  | fuel + 1, before =>
    let cursor := before.behind
    let found := word inFlow cursor.rest
    if cursor.peek = some '#' ∨ found = [] then (⟨[], before.brokeLine⟩, cursor)
    else
      let after := gap (cursor.skip found.length)
      let ends := after.text = [] ∨ after.behind.peek = some '#' ∨
        (!inFlow ∧ (after.behind.column : Int) < indent)
      if ends then (⟨before.text ++ found, after.brokeLine⟩, after.behind)
      else
        let (read, cursor) := words inFlow indent fuel after
        (⟨before.text ++ found ++ read.text, read.brokeLine⟩, cursor)

def read (inFlow : Bool) (indent : Int) (cursor : Cursor) : Read × Cursor :=
  words inFlow indent (cursor.rest.length + 1) ⟨[], cursor, false⟩

end Plain

namespace Quoted

def isInner (c : Char) : Bool :=
  !(c == '\'' || c == '"' || c == '\\' || c == ' ' || c == '\t' || isBreak c)

def shortEscapes : List (Char × Char) :=
  [('0', '\x00'), ('a', '\x07'), ('b', '\x08'), ('t', '\t'), ('\t', '\t'), ('n', '\n'),
    ('v', '\x0b'), ('f', '\x0c'), ('r', '\r'), ('e', '\x1b'), (' ', ' '), ('"', '"'),
    ('\\', '\\'), ('/', '/'), ('N', '\u0085'), ('_', '\u00A0'), ('L', '\u2028'), ('P', '\u2029')]

def codeEscapes : List (Char × Nat) := [('x', 2), ('u', 4), ('U', 8)]

def hexNumber? (digits : List Char) : Option Nat :=
  digits.foldl (fun done c => match done, Json.hexValue? c with
    | some n, some d => some (n * 16 + d)
    | _, _ => none) (some 0)

def codeChar (code : Nat) : Except Flaw Char :=
  if 0x10FFFF < code then .error (.noCharacter code)
  else if 0xD800 ≤ code ∧ code < 0xE000 then .ok '\uFFFD'
  else .ok (Char.ofNat code)

def breaks : Nat → Cursor → Except Flaw (List Char × Cursor)
  | 0, _ => malformed
  | fuel + 1, cursor =>
    if startsWithSeparator cursor.rest then malformed
    else
      let cursor := cursor.skipWhile fun c => c == ' ' || c == '\t'
      if cursor.peek.any isBreak then do
        let (kept, cursor) := cursor.lineBreak
        let (more, cursor) ← breaks fuel cursor
        return (kept ++ more, cursor)
      else .ok ([], cursor)

def escape (cursor : Cursor) : Except Flaw (List Char × Cursor) :=
  match cursor.rest with
  | '\\' :: c :: rest =>
    match shortEscapes.lookup c, codeEscapes.lookup c with
    | some d, _ => .ok ([d], cursor.skip 2)
    | none, some length =>
      match hexNumber? (rest.take length) with
      | some code => do
        if rest.length < length then malformed
        else return ([← codeChar code], cursor.skip (2 + length))
      | none => malformed
    | none, none =>
      if isBreak c then breaks (rest.length + 2) cursor.next.lineBreak.2 else malformed
  | _ => malformed

def blanks (cursor : Cursor) : Except Flaw (List Char × Cursor) :=
  let (spaces, cursor) := cursor.run fun c => c == ' ' || c == '\t'
  match cursor.peek with
  | none => malformed
  | some c =>
    if isBreak c then do
      let (first, cursor) := cursor.lineBreak
      let (more, cursor) ← breaks (cursor.rest.length + 2) cursor
      return (foldedGap first more, cursor)
    else .ok (spaces, cursor)

/-- The text up to the closing quote and the place behind it. A quote doubled within single quotes
is one quote, and escapes exist within double quotes only. -/
def body (quote : Char) : Nat → Cursor → Except Flaw (List Char × Cursor)
  | 0, _ => malformed
  | fuel + 1, cursor => do
    let (found, cursor) := cursor.run isInner
    let (piece, ends, cursor) ← (match cursor.rest with
      | c :: rest =>
        if c == quote then
          if quote == '\'' && rest.head? == some '\'' then .ok (['\''], false, cursor.skip 2)
          else .ok ([], true, cursor.next)
        else if c == '\\' && quote == '"' then do
          let (piece, cursor) ← escape cursor
          return (piece, false, cursor)
        else if c == '\'' || c == '"' || c == '\\' then .ok ([c], false, cursor.next)
        else do
          let (piece, cursor) ← blanks cursor
          return (piece, false, cursor)
      | [] => malformed : Except Flaw (List Char × Bool × Cursor))
    if ends then return (found, cursor)
    else
      let (more, cursor) ← body quote fuel cursor
      return (found ++ piece ++ more, cursor)

def read (quote : Char) (cursor : Cursor) : Except Flaw (List Char × Cursor) :=
  body quote (cursor.rest.length + 1) cursor.next

end Quoted

namespace Block

inductive Chomping where
  | strip
  | clip
  | keep
  deriving DecidableEq, Repr

def chomping? : Char → Option Chomping
  | '+' => some .keep
  | '-' => some .strip
  | _ => none

structure Header where
  chomping : Chomping
  /-- Columns by which the block is indented, if that is given. -/
  increment : Option Nat

def digit (cursor : Cursor) : Except Flaw (Option Nat × Cursor) :=
  match cursor.peek with
  | some c =>
    if Number.isDigit c then
      if c = '0' then malformed else .ok (some (Number.digitValue c), cursor.next)
    else .ok (none, cursor)
  | none => .ok (none, cursor)

def sign (cursor : Cursor) : Option Chomping × Cursor :=
  match cursor.peek.bind chomping? with
  | some chomping => (some chomping, cursor.next)
  | none => (none, cursor)

def header (cursor : Cursor) : Except Flaw (Header × Cursor) := do
  let (before, cursor) := sign cursor.next
  let (increment, cursor) ← digit cursor
  let (after, cursor) := if before.isNone && increment.isSome then sign cursor else (none, cursor)
  if !endsPart cursor.peek then malformed
  else
    match cursor.finishLine with
    | some cursor => return (⟨(before.orElse fun _ => after).getD .clip, increment⟩, cursor)
    | none => malformed

def leadingBreaks : Nat → Cursor → List Char × Nat × Cursor
  | 0, cursor => ([], 0, cursor)
  | fuel + 1, cursor =>
    match cursor.peek with
    | some c =>
      if c == ' ' then
        let cursor := cursor.next
        let (more, widest, behind) := leadingBreaks fuel cursor
        (more, max cursor.column widest, behind)
      else if isBreak c then
        let (kept, cursor) := cursor.lineBreak
        let (more, widest, behind) := leadingBreaks fuel cursor
        (kept ++ more, widest, behind)
      else ([], 0, cursor)
    | none => ([], 0, cursor)

def skipIndent (indent : Nat) (cursor : Cursor) : Cursor :=
  let spaces := (cursor.rest.takeWhile (· == ' ')).length
  cursor.skip (min spaces (indent - cursor.column))

def breaks (indent : Nat) : Nat → Cursor → List Char × Cursor
  | 0, cursor => ([], cursor)
  | fuel + 1, cursor =>
    let cursor := skipIndent indent cursor
    if cursor.peek.any isBreak then
      let (kept, cursor) := cursor.lineBreak
      let (more, cursor) := breaks indent fuel cursor
      (kept ++ more, cursor)
    else ([], cursor)

def isBlank (c : Option Char) : Bool := c == some ' ' || c == some '\t'

/-- What stands for the break between two lines of a block, further breaks apart. -/
def joint (folded leads follows : Bool) (kept more : List Char) : List Char :=
  if folded && kept == ['\n'] && leads && follows then if more = [] then [' '] else []
  else kept

/-- The lines of a block, each after the breaks before it; at the end the last line's break and the
breaks behind it. -/
def lines (folded : Bool) (indent : Nat) :
    Nat → List Char → List Char → Cursor → List Char × List Char × List Char × Cursor
  | 0, kept, before, cursor => ([], kept, before, cursor)
  | fuel + 1, kept, before, cursor =>
    if cursor.column = indent ∧ cursor.peek.isSome then
      let leads := !isBlank cursor.peek
      let (found, cursor) := cursor.run (!isBreak ·)
      let (kept, cursor) := cursor.lineBreak
      let (more, cursor) := breaks indent (cursor.rest.length + 1) cursor
      if cursor.column = indent ∧ cursor.peek.isSome then
        let between := joint folded leads (!isBlank cursor.peek) kept more
        let (rest, last, after, cursor) := lines folded indent fuel kept more cursor
        (before ++ found ++ between ++ rest, last, after, cursor)
      else (before ++ found, kept, more, cursor)
    else ([], kept, before, cursor)

def read (folded : Bool) (parent : Int) (cursor : Cursor) : Except Flaw (List Char × Cursor) := do
  let (header, cursor) ← header cursor
  let least := max 1 (parent + 1).toNat
  let fuel := cursor.rest.length + 1
  let (indent, before, cursor) := match header.increment with
    | some increment =>
      let indent := least + increment - 1
      let (before, cursor) := breaks indent fuel cursor
      (indent, before, cursor)
    | none =>
      let (before, widest, cursor) := leadingBreaks fuel cursor
      (max least widest, before, cursor)
  let (text, last, after, cursor) := lines folded indent fuel [] before cursor
  let ending := match header.chomping with
    | .strip => []
    | .clip => last
    | .keep => last ++ after
  return (text ++ ending, cursor)

end Block
end ChangeRelay.Yaml
