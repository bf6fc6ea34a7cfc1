import ChangeRelay.Yaml.Flaw

/-!
What a YAML text consists of once its layout is known: indentation has become the start and the end
of blocks, and keys are announced. A text that breaks off has its flaw as the last token.
-/
namespace ChangeRelay.Yaml

inductive Directive where
  | version (major : Nat)
  | handle (name replacement : List Char)
  | other
  deriving DecidableEq, Repr

inductive Token where
  | directive (directive : Directive)
  | documentStart
  | documentEnd
  | blockSequenceStart
  | blockMappingStart
  | blockEnd
  | flowSequenceStart
  | flowSequenceEnd
  | flowMappingStart
  | flowMappingEnd
  | blockEntry
  | flowEntry
  | key
  | value
  | alias (name : List Char)
  | anchor (name : List Char)
  /-- A tag with its handle; one that is written out has no handle. -/
  | tag (handle : Option (List Char)) (suffix : List Char)
  | scalar (text : List Char) (plain : Bool)
  | broken (flaw : Flaw)
  deriving DecidableEq, Repr

end ChangeRelay.Yaml
