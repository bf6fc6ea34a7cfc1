/-!
Glob patterns over whole texts. A star stands for any text and a question mark for any one
character, line breaks and slashes included; a bracket stands for one character in, or after `!`
not in, its members and ranges. A bracket that is never closed is an ordinary character.

The matcher fills a table from the back of the pattern, so its cost is the product of the two
lengths however many stars there are. `Belongs` is the language of a pattern, by recursion on it.
-/
namespace ChangeRelay.Glob

inductive Piece where
  | anyText
  | anyChar
  | oneOf (negated : Bool) (ranges : List (Char × Char))
  | exactly (c : Char)
  deriving DecidableEq, Repr

def inRanges (ranges : List (Char × Char)) (c : Char) : Bool :=
  ranges.any fun (low, high) => decide (low ≤ c) && decide (c ≤ high)

def Piece.accepts : Piece → Char → Bool
  | .anyText, _ => false
  | .anyChar, _ => true
  | .oneOf negated ranges, c => inRanges ranges c != negated
  | .exactly d, c => c == d

/-- A bracket's inside: a first `]` is a member, the next one closes. Answers the inside and what
follows the closing bracket. -/
def inside : List Char → Option (List Char × List Char)
  | [] => none
  | c :: rest => if c = ']' then some ([], rest) else (inside rest).map fun (i, r) => (c :: i, r)

def insideAfterFirst : List Char → Option (List Char × List Char)
  | ']' :: rest => (inside rest).map fun (i, r) => (']' :: i, r)
  | rest => inside rest

def bracket : List Char → Option (List Char × List Char)
  | '!' :: rest => (insideAfterFirst rest).map fun (i, r) => ('!' :: i, r)
  | rest => insideAfterFirst rest

theorem inside_shorter {text i r : List Char} (found : inside text = some (i, r)) :
    r.length < text.length := by
  induction text generalizing i with
  | nil => simp [inside] at found
  | cons c rest ih =>
    by_cases here : c = ']'
    · simp [inside, here] at found
      simp [found.2]
    · simp [inside, here] at found
      obtain ⟨j, _, tail⟩ := found
      rcases tail with ⟨_, rfl⟩
      have := ih (i := j) (by assumption)
      simp; omega

theorem insideAfterFirst_shorter {text i r : List Char}
    (found : insideAfterFirst text = some (i, r)) : r.length < text.length := by
  unfold insideAfterFirst at found
  split at found
  · simp only [Option.map_eq_some_iff] at found
    obtain ⟨⟨j, s⟩, inner, same⟩ := found
    simp only [Prod.mk.injEq] at same
    have := inside_shorter inner
    simp [← same.2]; omega
  · exact inside_shorter found

theorem bracket_shorter {text i r : List Char} (found : bracket text = some (i, r)) :
    r.length < text.length := by
  unfold bracket at found
  split at found
  · simp only [Option.map_eq_some_iff] at found
    obtain ⟨⟨j, s⟩, inner, same⟩ := found
    simp only [Prod.mk.injEq] at same
    have := insideAfterFirst_shorter inner
    simp [← same.2]; omega
  · exact insideAfterFirst_shorter found

/-- Cuts a bracket's inside at the hyphens that make ranges: a hyphen cuts once at least `least`
characters stand before it, and two after every cut, so that `a-c-e` is a range and two members. -/
def chunks (least : Nat) (held : List Char) : List Char → List (List Char)
  | [] => [held.reverse]
  | c :: rest =>
    if c = '-' ∧ least ≤ held.length then held.reverse :: chunks 2 [] rest
    else chunks least (c :: held) rest

def keepLastHyphen : List (List Char) → List (List Char)
  | [] => []
  | [chunk] => [chunk]
  | [chunk, []] => [chunk ++ ['-']]
  | chunk :: more => chunk :: keepLastHyphen more

/-- Takes empty ranges away, both end points with them. -/
def dropEmptyRanges : List (List Char) → List (List Char)
  | [] => []
  | chunk :: more =>
    match dropEmptyRanges more with
    | [] => [chunk]
    | next :: others =>
      match chunk.getLast?, next with
      | some low, high :: tail =>
        if high < low then (chunk.dropLast ++ tail) :: others else chunk :: next :: others
      | _, _ => chunk :: next :: others

inductive Mark where
  | char (c : Char)
  | range
  deriving DecidableEq, Repr

def marks : List (List Char) → List Mark
  | [] => []
  | [chunk] => chunk.map .char
  | chunk :: more => chunk.map .char ++ .range :: marks more

/-- The ranges of a bracket. A range mark with no character before it is a hyphen. -/
def ranges : List Mark → List (Char × Char)
  | [] => []
  | .range :: rest => ('-', '-') :: ranges rest
  | .char low :: .range :: .char high :: rest => (low, high) :: ranges rest
  | .char c :: rest => (c, c) :: ranges rest

def oneOf (content : List Char) : Piece :=
  let least := if content.head? = some '!' then 2 else 1
  match marks (dropEmptyRanges (keepLastHyphen (chunks least [] content))) with
  | .char '!' :: rest => .oneOf true (ranges rest)
  | rest => .oneOf false (ranges rest)

def parse : List Char → List Piece
  | [] => []
  | c :: rest =>
    if c = '*' then .anyText :: parse rest
    else if c = '?' then .anyChar :: parse rest
    else if c = '[' then
      match found : bracket rest with
      | some (content, tail) =>
        have : tail.length < rest.length := bracket_shorter found
        oneOf content :: parse tail
      | none => .exactly '[' :: parse rest
    else .exactly c :: parse rest
termination_by text => text.length

/-- For each tail of the text, longest first, whether a piece and the pieces after it stand for
that tail, given the same for the pieces after it. -/
def Piece.row (piece : Piece) : List Char → List Bool → List Bool
  | [], after =>
    match piece with
    | .anyText => [after.headD false]
    | _ => [false]
  | c :: text, after =>
    let shorter := piece.row text after.tail
    match piece with
    | .anyText => (after.headD false || shorter.headD false) :: shorter
    | _ => (piece.accepts c && after.tail.headD false) :: shorter

def table : List Piece → List Char → List Bool
  | [], text => text.map (fun _ => false) ++ [true]
  | piece :: rest, text => piece.row text (table rest text)

def covers (pattern : List Piece) (text : List Char) : Bool := (table pattern text).headD false

inductive Belongs : List Piece → List Char → Prop where
  | done : Belongs [] []
  | text (before : List Char) {rest : List Piece} {after : List Char} :
      Belongs rest after → Belongs (.anyText :: rest) (before ++ after)
  | char {piece : Piece} {rest : List Piece} {c : Char} {after : List Char} :
      piece.accepts c = true → Belongs rest after → Belongs (piece :: rest) (c :: after)

end ChangeRelay.Glob
