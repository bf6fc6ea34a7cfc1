import ChangeRelay.Yaml.Scalar

/-!
The tokens of a text by its layout. Outside of brackets the indentation opens and closes blocks.
What may turn out to be a key of a mapping is remembered with its place among the tokens: a colon
that follows on the same line, at most 1024 characters behind, announces the key there.
-/
namespace ChangeRelay.Yaml

/-- A token that may be a key, by its place among the tokens and in the text. A required one has to
be a key, because it stands where only keys may stand. -/
structure KeyCandidate where
  depth : Nat
  place : Nat
  required : Bool
  index : Nat
  line : Nat
  column : Nat

structure Layout where
  cursor : Cursor
  /-- Number of open brackets. -/
  depth : Nat
  /-- Column of the innermost open block, -1 if none is open, and those of the blocks around it. -/
  indent : Int
  outer : List Int
  keyAllowed : Bool
  candidates : List KeyCandidate
  tokens : List Token

namespace Layout

def start (text : List Char) : Layout := ⟨.start text, 0, -1, [], true, [], []⟩

def inFlow (layout : Layout) : Bool := layout.depth != 0

def emit (layout : Layout) (token : Token) : Layout :=
  { layout with tokens := layout.tokens ++ [token] }

def emitAt (layout : Layout) (cursor : Cursor) (token : Token) : Layout :=
  { layout with cursor := cursor, tokens := layout.tokens ++ [token] }

def unwindFrom (column : Int) : List Int → Layout → Layout
  | [], layout => layout
  | parent :: outer, layout =>
    if column < layout.indent then
      unwindFrom column outer
        { layout with indent := parent, outer := outer, tokens := layout.tokens ++ [.blockEnd] }
    else layout

def unwind (layout : Layout) (column : Int) : Layout :=
  if layout.inFlow then layout else unwindFrom column layout.outer layout

def openBlock (layout : Layout) (column : Nat) (token : Token) (place : Nat) : Layout :=
  if !layout.inFlow && layout.indent < column then
    { layout with
      indent := column
      outer := layout.indent :: layout.outer
      tokens := layout.tokens.take place ++ token :: layout.tokens.drop place }
  else layout

/-- Forgets the candidate at this depth; a required one must not be forgotten. -/
def withdrawKey (layout : Layout) : Except Flaw Layout :=
  if layout.candidates.any fun key => key.depth == layout.depth && key.required then malformed
  else .ok { layout with candidates := layout.candidates.filter (·.depth != layout.depth) }

def isStale (layout : Layout) (key : KeyCandidate) : Bool :=
  key.line != layout.cursor.line || 1024 < layout.cursor.index - key.index

def dropStale (layout : Layout) : Except Flaw Layout :=
  if layout.candidates.any fun key => layout.isStale key && key.required then malformed
  else .ok { layout with candidates := layout.candidates.filter (!layout.isStale ·) }

def offerKey (layout : Layout) : Except Flaw Layout := do
  if layout.keyAllowed then
    let layout ← layout.withdrawKey
    let here := layout.cursor
    let required := !layout.inFlow && layout.indent == here.column
    let key := ⟨layout.depth, layout.tokens.length, required, here.index, here.line, here.column⟩
    return { layout with candidates := layout.candidates ++ [key] }
  else return layout

def skipGap : Nat → Layout → Layout
  | 0, layout => layout
  | fuel + 1, layout =>
    let cursor := layout.cursor.skipSpaces.skipComment
    if cursor.peek.any isBreak then
      skipGap fuel
        { layout with
          cursor := cursor.lineBreak.2, keyAllowed := layout.keyAllowed || !layout.inFlow }
    else { layout with cursor := cursor }

def skipMark (layout : Layout) : Layout :=
  if layout.cursor.index = 0 ∧ layout.cursor.peek = some '\uFEFF' then
    { layout with cursor := layout.cursor.next }
  else layout

def approach (layout : Layout) : Except Flaw Layout := do
  let layout := layout.skipMark
  let layout ← (layout.skipGap (layout.cursor.rest.length + 1)).dropStale
  return layout.unwind layout.cursor.column

def endBlocks (layout : Layout) : Except Flaw Layout := do
  let layout ← (layout.unwind (-1)).withdrawKey
  return { layout with keyAllowed := false }

def directive (layout : Layout) : Except Flaw Layout := do
  let layout ← layout.endBlocks
  let (directive, cursor) ← Directive.line layout.cursor
  return layout.emitAt cursor (.directive directive)

def documentMark (layout : Layout) (token : Token) : Except Flaw Layout := do
  let layout ← layout.endBlocks
  return layout.emitAt (layout.cursor.skip 3) token

def openFlow (layout : Layout) (token : Token) : Except Flaw Layout := do
  let layout ← layout.offerKey
  let layout := layout.emitAt layout.cursor.next token
  return { layout with depth := layout.depth + 1, keyAllowed := true }

def closeFlow (layout : Layout) (token : Token) : Except Flaw Layout := do
  let layout ← layout.withdrawKey
  let layout := layout.emitAt layout.cursor.next token
  return { layout with depth := layout.depth - 1, keyAllowed := false }

def flowEntry (layout : Layout) : Except Flaw Layout := do
  let layout ← layout.withdrawKey
  return { layout.emitAt layout.cursor.next .flowEntry with keyAllowed := true }

def blockEntry (layout : Layout) : Except Flaw Layout := do
  if !layout.inFlow && !layout.keyAllowed then malformed
  else
    let column := layout.cursor.column
    let layout ← (layout.openBlock column .blockSequenceStart layout.tokens.length).withdrawKey
    return { layout.emitAt layout.cursor.next .blockEntry with keyAllowed := true }

def mark (layout : Layout) (token : Token) : Except Flaw Layout := do
  if !layout.inFlow && !layout.keyAllowed then malformed
  else
    let column := layout.cursor.column
    let layout ← (layout.openBlock column .blockMappingStart layout.tokens.length).withdrawKey
    return { layout.emitAt layout.cursor.next token with keyAllowed := !layout.inFlow }

/-- A colon turns the candidate at its depth into a key. -/
def value (layout : Layout) : Except Flaw Layout :=
  match layout.candidates.find? (·.depth == layout.depth) with
  | none => layout.mark .value
  | some key =>
    let announced :=
      { layout with
        candidates := layout.candidates.filter (·.depth != layout.depth)
        tokens := layout.tokens.take key.place ++ Token.key :: layout.tokens.drop key.place }
    let opened := announced.openBlock key.column .blockMappingStart key.place
    .ok { opened.emitAt opened.cursor.next .value with keyAllowed := false }

def item (layout : Layout) (read : Cursor → Except Flaw (Token × Cursor)) :
    Except Flaw Layout := do
  let layout ← layout.offerKey
  let (token, cursor) ← read layout.cursor
  return { layout.emitAt cursor token with keyAllowed := false }

def quoted (layout : Layout) (quote : Char) : Except Flaw Layout :=
  layout.item fun cursor =>
    (Quoted.read quote cursor).map fun (text, cursor) => (.scalar text false, cursor)

def block (layout : Layout) (folded : Bool) : Except Flaw Layout := do
  let layout ← layout.withdrawKey
  let (text, cursor) ← Block.read folded layout.indent layout.cursor
  return { layout.emitAt cursor (.scalar text false) with keyAllowed := true }

def plain (layout : Layout) : Except Flaw Layout := do
  let layout ← layout.offerKey
  let (read, cursor) := Plain.read layout.inFlow (layout.indent + 1) layout.cursor
  return { layout.emitAt cursor (.scalar read.text true) with keyAllowed := read.brokeLine }

/-- Characters that no plain scalar starts with, unless a character that ends no word follows one
of the first three. -/
def indicators : List Char := "-?:,[]\x7b\x7d#&*!|>'\"%@\x60".toList

def startsPlain (layout : Layout) (c : Char) (next : Option Char) : Bool :=
  !indicators.contains c && !endsWord (some c) ||
    !endsWord next && (c == '-' || !layout.inFlow && (c == '?' || c == ':'))

def token (layout : Layout) (c : Char) (next : Option Char) : Except Flaw Layout :=
  let lineStart := layout.cursor.column == 0
  let alone := layout.inFlow || endsWord next
  if c == '%' && lineStart then layout.directive
  else if lineStart && startsWithMarks '-' layout.cursor.rest then
    layout.documentMark .documentStart
  else if lineStart && startsWithMarks '.' layout.cursor.rest then layout.documentMark .documentEnd
  else if c == '[' then layout.openFlow .flowSequenceStart
  else if c == '\x7b' then layout.openFlow .flowMappingStart
  else if c == ']' then layout.closeFlow .flowSequenceEnd
  else if c == '\x7d' then layout.closeFlow .flowMappingEnd
  else if c == ',' then layout.flowEntry
  else if c == '-' && endsWord next then layout.blockEntry
  else if c == '?' && alone then layout.mark .key
  else if c == ':' && alone then layout.value
  else if c == '*' then
    layout.item fun cursor => (Property.name cursor).map fun (name, cursor) => (.alias name, cursor)
  else if c == '&' then
    layout.item fun cursor =>
      (Property.name cursor).map fun (name, cursor) => (.anchor name, cursor)
  else if c == '!' then layout.item Property.tag
  else if (c == '|' || c == '>') && !layout.inFlow then layout.block (c == '>')
  else if c == '\'' || c == '"' then layout.quoted c
  else if layout.startsPlain c next then layout.plain
  else malformed

def tokensFrom : Nat → Layout → List Token
  | 0, layout => layout.tokens
  | fuel + 1, layout =>
    match layout.approach with
    | .error flaw => layout.tokens ++ [.broken flaw]
    | .ok here =>
      match here.cursor.rest with
      | [] =>
        match here.endBlocks with
        | .ok done => done.tokens
        | .error flaw => layout.tokens ++ [.broken flaw]
      | c :: rest =>
        match here.token c rest.head? with
        | .ok next => tokensFrom fuel next
        | .error flaw => layout.tokens ++ [.broken flaw]

end Layout

def isPrintable (c : Char) : Bool :=
  let n := c.toNat
  n == 9 || n == 10 || n == 13 || (0x20 ≤ n && n ≤ 0x7E) || n == 0x85 ||
    (0xA0 ≤ n && n != 0xFFFE && n != 0xFFFF)

def tokens (text : List Char) : List Token :=
  if text.all isPrintable then Layout.tokensFrom (text.length + 1) (.start text)
  else [.broken .malformed]

end ChangeRelay.Yaml
