import ChangeRelay.Yaml.Kind
import ChangeRelay.Yaml.Layout
import ChangeRelay.Yaml.Moment

/-!
The tree of a document: every node has a kind. An alias stands for the node with its anchor; an
alias of a collection that is still open stands for the collection as far as its kind goes.
-/
namespace ChangeRelay.Yaml

inductive Node where
  | scalar (kind : Kind) (text : List Char)
  | sequence (kind : Kind) (items : List Node)
  | mapping (kind : Kind) (entries : List (Node × Node))
  deriving Repr

def Kind.ofPlain (text : List Char) : Kind :=
  if Kind.isBool text then .bool
  else if Kind.isReal text then .real
  else if Kind.isInt text then .int
  else if text = ['<', '<'] then .merge
  else if Kind.isNull text then .null
  else if Moment.isMoment text then .moment
  else if text = ['='] then .default
  else .text

namespace Node

/-- What a document's directives and anchors mean so far, and the tokens still to be read. -/
structure Reader where
  tokens : List Token
  handles : List (List Char × List Char)
  anchors : List (List Char × Node)

abbrev Reading (α : Type) := StateT Reader (Except Flaw) α

def unexpected {α : Type} : List Token → Except Flaw α
  | .broken flaw :: _ => .error flaw
  | _ => .error .malformed

def refuse {α : Type} : Reading α := fun reader => unexpected reader.tokens

def peek : Reading (Option Token) := fun reader => .ok (reader.tokens.head?, reader)

def drop : Reading Unit := fun reader => .ok ((), { reader with tokens := reader.tokens.tail })

def aliased (name : List Char) : Reading Node := fun reader =>
  match reader.anchors.lookup name with
  | some node => .ok (node, reader)
  | none => .error .malformed

def anchor (name : Option (List Char)) (node : Node) : Reading Unit := fun reader =>
  match name with
  | none => .ok ((), reader)
  | some name =>
    if (reader.anchors.lookup name).isSome then .error .malformed
    else .ok ((), { reader with anchors := (name, node) :: reader.anchors })

def close (name : Option (List Char)) (node : Node) : Reading Node := fun reader =>
  match name with
  | none => .ok (node, reader)
  | some name => .ok (node, { reader with anchors := (name, node) :: reader.anchors })

structure Properties where
  name : Option (List Char)
  tag : Option (List Char)

def nonSpecific : List Char := ['!']

def tagOf (handle : Option (List Char)) (suffix : List Char) : Reading (List Char) :=
  fun reader =>
    match handle with
    | none => .ok (suffix, reader)
    | some handle =>
      match reader.handles.lookup handle with
      | some replacement => .ok (replacement ++ suffix, reader)
      | none => .error .malformed

def properties : Reading Properties := do
  match ← peek with
  | some (.anchor name) =>
    drop
    match ← peek with
    | some (.tag handle suffix) =>
      drop
      return ⟨some name, some (← tagOf handle suffix)⟩
    | _ => return ⟨some name, none⟩
  | some (.tag handle suffix) =>
    drop
    match ← peek with
    | some (.anchor name) =>
      drop
      return ⟨some name, some (← tagOf handle suffix)⟩
    | _ => return ⟨none, some (← tagOf handle suffix)⟩
  | _ => return ⟨none, none⟩

def Properties.isEmpty (properties : Properties) : Bool :=
  properties.name.isNone && properties.tag.isNone

def Properties.kindOr (properties : Properties) (fallback : Kind) : Kind :=
  match properties.tag with
  | none => fallback
  | some tag => if tag = nonSpecific then fallback else Kind.ofTag tag

/-- The kind of a scalar. With the tag `!` even a quoted one is taken for what it looks like. -/
def Properties.scalarKind (properties : Properties) (text : List Char) (plain : Bool) : Kind :=
  if properties.tag = some nonSpecific ∨ (plain ∧ properties.tag = none) then Kind.ofPlain text
  else properties.kindOr .text

def empty : Node := .scalar .null []

/-- Where a node stands: in a block, in a block whose entries may stand unindented, or in
brackets. -/
inductive Place where
  | block
  | blockOrEntries
  | flow
  deriving DecidableEq

def isAny (tokens : List Token) : Option Token → Bool
  | some token => tokens.contains token
  | none => false

mutual

def read : Nat → Place → Reading Node
  | 0, _ => refuse
  | fuel + 1, place => do
    match ← peek with
    | some (.alias name) =>
      drop
      aliased name
    | _ => content fuel place (← properties)

def content : Nat → Place → Properties → Reading Node
  | 0, _, _ => refuse
  | fuel + 1, place, properties => do
    let token ← peek
    let sequence (items : Reading (List Node)) : Reading Node := do
      let kind := properties.kindOr .sequence
      anchor properties.name (.sequence kind [])
      close properties.name (.sequence kind (← items))
    let mapping (entries : Reading (List (Node × Node))) : Reading Node := do
      let kind := properties.kindOr .mapping
      anchor properties.name (.mapping kind [])
      close properties.name (.mapping kind (← entries))
    match token, place with
    | some .blockEntry, .blockOrEntries => sequence (entries fuel)
    | some (.scalar text plain), _ =>
      drop
      let node := Node.scalar (properties.scalarKind text plain) text
      anchor properties.name node
      return node
    | some .flowSequenceStart, _ =>
      drop
      sequence (flowItems fuel true)
    | some .flowMappingStart, _ =>
      drop
      mapping (flowPairs fuel true)
    | some .blockSequenceStart, .block | some .blockSequenceStart, .blockOrEntries =>
      drop
      sequence (blockItems fuel)
    | some .blockMappingStart, .block | some .blockMappingStart, .blockOrEntries =>
      drop
      mapping (blockPairs fuel)
    | _, _ =>
      if properties.isEmpty then refuse
      else
        let node := Node.scalar (properties.scalarKind [] true) []
        anchor properties.name node
        return node

def optional : Nat → Place → List Token → Reading Node
  | 0, _, _ => refuse
  | fuel + 1, place, ends => do
    if isAny ends (← peek) then return empty else read fuel place

def optionalValue : Nat → Place → List Token → Reading Node
  | 0, _, _ => refuse
  | fuel + 1, place, ends => do
    if (← peek) = some .value then
      drop
      optional fuel place ends
    else return empty

def blockItems : Nat → Reading (List Node)
  | 0 => refuse
  | fuel + 1 => do
    match ← peek with
    | some .blockEntry =>
      drop
      let item ← optional fuel .block [.blockEntry, .blockEnd]
      return item :: (← blockItems fuel)
    | some .blockEnd =>
      drop
      return []
    | _ => refuse

/-- The entries of a sequence that is not indented below its key. -/
def entries : Nat → Reading (List Node)
  | 0 => refuse
  | fuel + 1 => do
    if (← peek) = some .blockEntry then
      drop
      let item ← optional fuel .block [.blockEntry, .key, .value, .blockEnd]
      return item :: (← entries fuel)
    else return []

def blockPairs : Nat → Reading (List (Node × Node))
  | 0 => refuse
  | fuel + 1 => do
    match ← peek with
    | some .key =>
      drop
      let key ← optional fuel .blockOrEntries [.key, .value, .blockEnd]
      let value ← optionalValue fuel .blockOrEntries [.key, .value, .blockEnd]
      return (key, value) :: (← blockPairs fuel)
    | some .blockEnd =>
      drop
      return []
    | _ => refuse

def flowItems : Nat → Bool → Reading (List Node)
  | 0, _ => refuse
  | fuel + 1, first => do
    if (← peek) = some .flowSequenceEnd then
      drop
      return []
    else
      if !first then
        if (← peek) = some .flowEntry then drop else refuse
      match ← peek with
      | some .key =>
        drop
        let key ← optional fuel .flow [.value, .flowEntry, .flowSequenceEnd]
        let value ← optionalValue fuel .flow [.flowEntry, .flowSequenceEnd]
        return .mapping .mapping [(key, value)] :: (← flowItems fuel false)
      | some .flowSequenceEnd =>
        drop
        return []
      | _ =>
        let item ← read fuel .flow
        return item :: (← flowItems fuel false)

def flowPairs : Nat → Bool → Reading (List (Node × Node))
  | 0, _ => refuse
  | fuel + 1, first => do
    if (← peek) = some .flowMappingEnd then
      drop
      return []
    else
      if !first then
        if (← peek) = some .flowEntry then drop else refuse
      match ← peek with
      | some .key =>
        drop
        let key ← optional fuel .flow [.value, .flowEntry, .flowMappingEnd]
        let value ← optionalValue fuel .flow [.flowEntry, .flowMappingEnd]
        return (key, value) :: (← flowPairs fuel false)
      | some .flowMappingEnd =>
        drop
        return []
      | _ =>
        let key ← read fuel .flow
        return (key, empty) :: (← flowPairs fuel false)

end

def directives (versionSeen : Bool) (handles : List (List Char × List Char)) :
    List Token → Except Flaw (List (List Char × List Char) × List Token)
  | .directive (.version major) :: rest =>
    if versionSeen ∨ major ≠ 1 then .error .malformed else directives true handles rest
  | .directive (.handle name replacement) :: rest =>
    if (handles.lookup name).isSome then .error .malformed
    else directives versionSeen (handles ++ [(name, replacement)]) rest
  | .directive .other :: rest => directives versionSeen handles rest
  | rest => .ok (handles, rest)

def standardHandles : List (List Char × List Char) :=
  [(['!'], ['!']), (['!', '!'], Kind.standardTag)]

def isBeforeDocument : List Token → Bool
  | .directive _ :: _ | .documentStart :: _ => true
  | _ => false

def isDocumentEnd : Token → Bool
  | .documentEnd => true
  | _ => false

def isBare : List Token → Bool
  | [] | .directive _ :: _ | .documentStart :: _ | .documentEnd :: _ => true
  | _ => false

def root (handles : List (List Char × List Char)) (tokens : List Token) :
    Except Flaw (Node × List Token) :=
  ((read (4 * tokens.length + 4) .block).run ⟨tokens, handles, []⟩).map fun (node, reader) =>
    (node, reader.tokens)

def document (tokens : List Token) : Except Flaw (Node × List Token) :=
  if isBeforeDocument tokens then
    match directives false [] tokens with
    | .error flaw => .error flaw
    | .ok (handles, .documentStart :: rest) =>
      if isBare rest then .ok (empty, rest) else root (handles ++ standardHandles) rest
    | .ok (_, rest) => unexpected rest
  else root standardHandles tokens

def ofTokens : List Token → Except Flaw (Option Node)
  | [] => .ok none
  | tokens =>
    match document tokens with
    | .error flaw => .error flaw
    | .ok (node, rest) =>
      match rest.dropWhile isDocumentEnd with
      | [] => .ok (some node)
      | rest => unexpected rest

end Node
end ChangeRelay.Yaml
