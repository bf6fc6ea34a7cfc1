import ChangeRelay.Json.Parse
import ChangeRelay.Yaml.Cursor
import ChangeRelay.Yaml.Token

/-!
What stands before a value or a document: names of anchors and aliases, tags with their handles,
and directives.
-/
namespace ChangeRelay.Yaml

def malformed {α : Type} : Except Flaw α := .error .malformed

def isNameChar (c : Char) : Bool :=
  ('a' ≤ c && c ≤ 'z') || ('A' ≤ c && c ≤ 'Z') || Number.isDigit c || c == '-' || c == '_'

namespace Property

def endsName : Option Char → Bool
  | none => true
  | some c => endsWord (some c) || "?:,]\x7d%@\x60".toList.contains c

def name (cursor : Cursor) : Except Flaw (List Char × Cursor) :=
  let (found, cursor) := cursor.next.run isNameChar
  if found ≠ [] ∧ endsName cursor.peek then .ok (found, cursor) else malformed

/-- A handle: an exclamation mark alone, or two of them around a name. -/
def handle (cursor : Cursor) : Except Flaw (List Char × Cursor) :=
  match cursor.rest with
  | '!' :: rest =>
    if rest.head? = some ' ' then .ok (['!'], cursor.next)
    else
      let (found, behind) := cursor.next.run isNameChar
      if behind.peek = some '!' then .ok ('!' :: found ++ ['!'], behind.next) else malformed
  | _ => malformed

def isTagChar (c : Char) : Bool :=
  isNameChar c || ";/?:@&=+$,.!~*'()[]".toList.contains c

def escapedBytes : List Char → Except Flaw (List UInt8)
  | '%' :: high :: low :: rest =>
    match Json.hexValue? high, Json.hexValue? low with
    | some high, some low => (escapedBytes rest).map ((high * 16 + low).toUInt8 :: ·)
    | _, _ => malformed
  | '%' :: _ => malformed
  | _ => .ok []

def tagText : Nat → Cursor → Except Flaw (List Char × Cursor)
  | 0, _ => malformed
  | fuel + 1, cursor =>
    let (plain, cursor) := cursor.run isTagChar
    if cursor.peek = some '%' then do
      let bytes ← escapedBytes cursor.rest
      match Text.Utf8.decode? bytes with
      | none => malformed
      | some escaped =>
        let (more, cursor) ← tagText fuel (cursor.skip (3 * bytes.length))
        return (plain ++ escaped ++ more, cursor)
    else .ok (plain, cursor)

def wholeTagText (cursor : Cursor) : Except Flaw (List Char × Cursor) := do
  let (text, behind) ← tagText (cursor.rest.length + 1) cursor
  if behind.index = cursor.index then malformed else return (text, behind)

def hasHandle : List Char → Bool
  | [] => false
  | c :: rest => !endsPart (some c) && (c == '!' || hasHandle rest)

def tagParts (cursor : Cursor) : Except Flaw (Token × Cursor) :=
  match cursor.rest.tail with
  | '<' :: _ => do
    let (text, cursor) ← wholeTagText (cursor.skip 2)
    if cursor.peek = some '>' then return (.tag none text, cursor.next) else malformed
  | rest =>
    if endsWord rest.head? then .ok (.tag none ['!'], cursor.next)
    else if hasHandle rest then do
      let (name, cursor) ← handle cursor
      let (text, cursor) ← wholeTagText cursor
      return (.tag (some name) text, cursor)
    else do
      let (text, cursor) ← wholeTagText cursor.next
      return (.tag (some ['!']) text, cursor)

def tag (cursor : Cursor) : Except Flaw (Token × Cursor) := do
  let (token, cursor) ← tagParts cursor
  if endsPart cursor.peek then return (token, cursor) else malformed

end Property

namespace Directive

def number (cursor : Cursor) : Except Flaw (Nat × Cursor) :=
  let (digits, cursor) := cursor.run Number.isDigit
  if digits = [] then malformed else .ok (Number.readDecimal digits, cursor)

def versionOf (cursor : Cursor) : Except Flaw (Directive × Cursor) := do
  let (major, cursor) ← number cursor.skipSpaces
  if cursor.peek ≠ some '.' then malformed
  else
    let (_, cursor) ← number cursor.next
    if endsPart cursor.peek then return (.version major, cursor) else malformed

def handleOf (cursor : Cursor) : Except Flaw (Directive × Cursor) := do
  let (name, cursor) ← Property.handle cursor.skipSpaces
  if cursor.peek ≠ some ' ' then malformed
  else
    let (replacement, cursor) ← Property.wholeTagText cursor.skipSpaces
    if endsPart cursor.peek then return (.handle name replacement, cursor) else malformed

def bodyOf (name : List Char) (cursor : Cursor) : Except Flaw (Directive × Cursor) :=
  if name = "YAML".toList then versionOf cursor
  else if name = "TAG".toList then handleOf cursor
  else .ok (.other, cursor.skipWhile (!isBreak ·))

def line (cursor : Cursor) : Except Flaw (Directive × Cursor) := do
  let (name, cursor) := cursor.next.run isNameChar
  if name = [] ∨ !endsPart cursor.peek then malformed
  else
    let (directive, cursor) ← bodyOf name cursor
    match cursor.finishLine with
    | some cursor => return (directive, cursor)
    | none => malformed

end Directive
end ChangeRelay.Yaml
