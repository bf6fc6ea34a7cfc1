import ChangeRelay.Text.Pieces

/-!
Slash-separated paths. Reading a text drops empty components and `.` components and keeps `..`.
A path that starts with exactly two slashes has a root of its own; three or more slashes count
as one. The root, where there is one, is itself the first part of a path.
-/
namespace ChangeRelay

inductive Anchor where
  | relative
  | single
  | double
  deriving DecidableEq, Repr

structure Path where
  anchor : Anchor
  names : List String
  deriving DecidableEq, Repr

def Anchor.chars : Anchor → List Char
  | .relative => []
  | .single => ['/']
  | .double => ['/', '/']

def Anchor.ofChars : List Char → Anchor
  | '/' :: '/' :: '/' :: _ => .single
  | '/' :: '/' :: _ => .double
  | '/' :: _ => .single
  | _ => .relative

namespace Path

def significant (name : List Char) : Bool := name != [] && name != ['.']

def ofChars (text : List Char) : Path :=
  ⟨Anchor.ofChars text, ((Text.pieces '/' text).filter significant).map String.ofList⟩

def parse (text : String) : Path := ofChars text.toList

def chars (path : Path) : List Char :=
  match path.anchor.chars ++ Text.joined '/' (path.names.map String.toList) with
  | [] => ['.']
  | text => text

def text (path : Path) : String := String.ofList path.chars

def parts (path : Path) : List String :=
  match path.anchor with
  | .relative => path.names
  | anchor => String.ofList anchor.chars :: path.names

def name (path : Path) : String := path.names.getLast?.getD ""

def parent (path : Path) : Path := { path with names := path.names.dropLast }

def child (path : Path) (name : String) : Path := { path with names := path.names ++ [name] }

/-- The second path below the first, unless it has a root and so stands for itself. -/
def join (base path : Path) : Path :=
  match path.anchor with
  | .relative => { base with names := base.names ++ path.names }
  | _ => path

/-- Whether the path equals the other one or lies below it, component by component. -/
def isWithin (path folder : Path) : Bool :=
  path.anchor == folder.anchor && folder.names.isPrefixOf path.names

def below? (path folder : Path) : Option (List String) :=
  if path.isWithin folder then some (path.names.drop folder.names.length) else none

/-- Takes `..` components away together with the component before them. -/
def resolveNames (done : List String) : List String → List String
  | [] => done.reverse
  | name :: rest =>
    if name = ".." then resolveNames done.tail rest else resolveNames (name :: done) rest

def resolved (path : Path) : Path := ⟨.single, resolveNames [] path.names⟩

/-- Component order: the first differing component decides, by code points. -/
def namesBefore : List String → List String → Bool
  | [], _ => true
  | _ :: _, [] => false
  | a :: as, b :: bs => if a = b then namesBefore as bs else decide (a < b)

def before (a b : Path) : Bool := namesBefore a.parts b.parts

/-- A name from its last dot on, unless the dot opens or ends the name. -/
def suffixOf (name : List Char) : List Char :=
  let tail := (name.reverse.takeWhile (· != '.')).reverse
  if tail.length + 1 < name.length ∧ tail ≠ [] then '.' :: tail else []

def suffix (path : Path) : List Char := suffixOf path.name.toList

end Path
end ChangeRelay
