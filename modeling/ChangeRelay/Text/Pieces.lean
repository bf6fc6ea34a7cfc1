/-!
Cutting a text at every occurrence of a mark, and joining pieces with that mark between them.
A text always has at least one piece; the empty text is one empty piece.
-/
namespace ChangeRelay.Text

def pieces (mark : Char) : List Char → List (List Char)
  | [] => [[]]
  | c :: rest =>
    if c = mark then [] :: pieces mark rest
    else
      match pieces mark rest with
      | [] => [[c]]
      | piece :: more => (c :: piece) :: more

def joined (mark : Char) : List (List Char) → List Char
  | [] => []
  | [piece] => piece
  | piece :: more => piece ++ mark :: joined mark more

theorem pieces_ne_nil (mark : Char) (text : List Char) : pieces mark text ≠ [] := by
  cases text with
  | nil => simp [pieces]
  | cons c rest =>
    by_cases here : c = mark
    · simp [pieces, here]
    · cases found : pieces mark rest <;> simp [pieces, here, found]

theorem joined_pieces (mark : Char) (text : List Char) : joined mark (pieces mark text) = text := by
  induction text with
  | nil => rfl
  | cons c rest ih =>
    by_cases here : c = mark
    · cases found : pieces mark rest with
      | nil => exact absurd found (pieces_ne_nil mark rest)
      | cons piece more =>
        rw [found] at ih
        simp [pieces, here, found, joined, ih]
    · cases found : pieces mark rest with
      | nil => exact absurd found (pieces_ne_nil mark rest)
      | cons piece more =>
        rw [found] at ih
        cases more with
        | nil => simp_all [pieces, joined]
        | cons next others => simp_all [pieces, joined]

def cut (mark : Char) : List Char → List Char × Option (List Char)
  | [] => ([], none)
  | c :: rest =>
    if c = mark then ([], some rest)
    else ((c :: (cut mark rest).1), (cut mark rest).2)

def after? : List Char → List Char → Option (List Char)
  | [], text => some text
  | _ :: _, [] => none
  | c :: more, d :: rest => if c = d then after? more rest else none

def cutAt (mark : List Char) : List Char → Option (List Char × List Char)
  | [] => if mark = [] then some ([], []) else none
  | c :: rest =>
    match after? mark (c :: rest) with
    | some tail => some ([], tail)
    | none => (cutAt mark rest).map fun (before, tail) => (c :: before, tail)

end ChangeRelay.Text
