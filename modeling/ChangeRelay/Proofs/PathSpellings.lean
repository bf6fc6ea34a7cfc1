import ChangeRelay.Proofs.PathLaws
import ChangeRelay.Proofs.PathText
import Mathlib.Logic.Function.Iterate

/-!
The texts that spell a path. Slashes may be repeated and stand at the end, and lone dots may stand
between names; two dots are a name. Each text spells one path, the one it is read as, so paths lie
within each other exactly as their texts tell by root and names.
-/
namespace ChangeRelay.Path

/-- The texts that tell of these names, whatever root stands before them. -/
inductive Written : List String → List Char → Prop where
  | nothing : Written [] []
  | dot : Written [] ['.']
  | name {name : String} (proper : IsName name) : Written [name] name.toList
  | slash {names : List String} {text : List Char} (more : Written names text) :
      Written names ('/' :: text)
  | dotSlash {names : List String} {text : List Char} (more : Written names text) :
      Written names ('.' :: '/' :: text)
  | nameSlash {name : String} {names : List String} {text : List Char} (proper : IsName name)
      (more : Written names text) : Written (name :: names) (name.toList ++ '/' :: text)

/-- The texts that tell of a path. Only two slashes that no third one follows are a root of their
own. -/
inductive Spells : Path → List Char → Prop where
  | rooted {anchor : Anchor} {names : List String} {text : List Char}
      (bare : text.head? ≠ some '/') (written : Written names text) :
      Spells ⟨anchor, names⟩ (anchor.chars ++ text)
  | manySlashes {names : List String} {text : List Char} (written : Written names text) :
      Spells ⟨.single, names⟩ ('/' :: '/' :: '/' :: text)

theorem ofChars_slash (text : List Char) : (ofChars ('/' :: text)).names = (ofChars text).names :=
  congrArg (List.map String.ofList) (names_after_slash text)

theorem ofChars_piece {piece : List Char} (free : '/' ∉ piece) :
    (ofChars piece).names = if significant piece then [String.ofList piece] else [] := by
  simp only [ofChars, Text.pieces_unmarked free, List.filter_cons, List.filter_nil]
  split <;> rfl

theorem ofChars_pieces {piece : List Char} (free : '/' ∉ piece) (text : List Char) :
    (ofChars (piece ++ '/' :: text)).names =
      (if significant piece then [String.ofList piece] else []) ++ (ofChars text).names := by
  simp only [ofChars, Text.pieces_marked free, List.filter_cons]
  split <;> rfl

theorem names_of_written {names : List String} {text : List Char} (written : Written names text) :
    (ofChars text).names = names := by
  induction written with
  | nothing => rfl
  | dot => rfl
  | name proper => rw [ofChars_piece proper.2, if_pos proper.1, String.ofList_toList]
  | slash _ ih => rw [ofChars_slash, ih]
  | @dotSlash _ text _ ih =>
    have free : '/' ∉ ['.'] := by decide
    exact (ofChars_pieces free text).trans ih
  | nameSlash proper _ ih =>
    rw [ofChars_pieces proper.2, if_pos proper.1, String.ofList_toList, ih]
    rfl

theorem piece_cases {piece : List Char} (free : '/' ∉ piece) :
    (∃ name : String, IsName name ∧ name.toList = piece) ∨
      significant piece = false ∧ (piece = [] ∨ piece = ['.']) := by
  cases counts : significant piece with
  | true => exact Or.inl ⟨String.ofList piece, by simp [IsName, counts, free], by simp⟩
  | false =>
    refine Or.inr ⟨rfl, ?_⟩
    by_cases empty : piece = []
    · exact Or.inl empty
    · simpa [significant, empty] using counts

theorem written_joined {parts : List (List Char)} (free : ∀ part ∈ parts, '/' ∉ part) :
    Written ((parts.filter significant).map String.ofList) (Text.joined '/' parts) := by
  induction parts with
  | nil => exact .nothing
  | cons part rest ih =>
    have others := ih fun other member => free other (List.mem_cons_of_mem _ member)
    have here := piece_cases (free part List.mem_cons_self)
    cases rest with
    | nil =>
      rcases here with ⟨name, proper, rfl⟩ | ⟨-, rfl | rfl⟩
      · simpa [Text.joined, proper.1] using Written.name proper
      · exact .nothing
      · exact .dot
    | cons next more =>
      rcases here with ⟨name, proper, rfl⟩ | ⟨-, rfl | rfl⟩
      · rw [List.filter_cons, if_pos proper.1, List.map_cons, String.ofList_toList]
        exact .nameSlash proper others
      · exact .slash others
      · exact .dotSlash others

theorem written_iff (names : List String) (text : List Char) :
    Written names text ↔ (ofChars text).names = names := by
  constructor
  · exact names_of_written
  · rintro rfl
    have free : ∀ piece ∈ Text.pieces '/' text, '/' ∉ piece :=
      fun _ member => Text.mark_not_in_piece member
    have whole := written_joined free
    rwa [Text.joined_pieces] at whole

theorem ofChars_rooted {text : List Char} (bare : text.head? ≠ some '/') (anchor : Anchor) :
    ofChars (anchor.chars ++ text) = ⟨anchor, (ofChars text).names⟩ := by
  have names : (ofChars (anchor.chars ++ text)).names = (ofChars text).names := by
    cases anchor with
    | relative => rfl
    | single => exact ofChars_slash text
    | double => exact (ofChars_slash _).trans (ofChars_slash text)
  rw [← names]
  exact congrArg (Path.mk · _) (anchor_of_bare bare anchor)

theorem ofChars_manySlashes (text : List Char) :
    ofChars ('/' :: '/' :: '/' :: text) = ⟨.single, (ofChars text).names⟩ := by
  rw [← ofChars_slash text, ← ofChars_slash ('/' :: text), ← ofChars_slash ('/' :: '/' :: text)]
  rfl

theorem rooted_or_manySlashes (text : List Char) :
    (∃ (anchor : Anchor) (rest : List Char),
        text = anchor.chars ++ rest ∧ rest.head? ≠ some '/') ∨
      ∃ rest, text = '/' :: '/' :: '/' :: rest := by
  by_cases first : text.head? = some '/'
  · obtain ⟨rest, rfl⟩ := List.head?_eq_some_iff.mp first
    by_cases second : rest.head? = some '/'
    · obtain ⟨more, rfl⟩ := List.head?_eq_some_iff.mp second
      by_cases third : more.head? = some '/'
      · obtain ⟨others, rfl⟩ := List.head?_eq_some_iff.mp third
        exact Or.inr ⟨others, rfl⟩
      · exact Or.inl ⟨.double, more, rfl, third⟩
    · exact Or.inl ⟨.single, rest, rfl, second⟩
  · exact Or.inl ⟨.relative, text, rfl, first⟩

/-- Every text spells the path that it is read as, and no other. -/
theorem spells_iff (path : Path) (text : List Char) :
    path.Spells text ↔ ofChars text = path := by
  constructor
  · rintro (⟨bare, written⟩ | ⟨written⟩)
    · rw [ofChars_rooted bare, names_of_written written]
    · rw [ofChars_manySlashes, names_of_written written]
  · rintro rfl
    have written (rest : List Char) : Written (ofChars rest).names rest :=
      (written_iff _ _).mpr rfl
    rcases rooted_or_manySlashes text with ⟨anchor, rest, rfl, bare⟩ | ⟨rest, rfl⟩
    · rw [ofChars_rooted bare]
      exact .rooted bare (written rest)
    · rw [ofChars_manySlashes]
      exact .manySlashes (written rest)

def SameSpelled (text other : String) : Prop :=
  ∃ path : Path, path.Spells text.toList ∧ path.Spells other.toList

theorem sameSpelled_iff (text other : String) :
    SameSpelled text other ↔ parse text = parse other := by
  simp only [SameSpelled, spells_iff]
  exact ⟨fun ⟨_, first, second⟩ => first.trans second.symm, fun same => ⟨_, same, rfl⟩⟩

/-- A text of a folder and one of the folder itself or of a path below it: the root is the same, and
the names of the folder come first. -/
def SpelledBelow (folder text : String) : Prop :=
  ∃ anchor names more, Spells ⟨anchor, names⟩ folder.toList ∧
    Spells ⟨anchor, names ++ more⟩ text.toList

theorem spelledBelow_iff (folder text : String) :
    SpelledBelow folder text ↔ (parse text).isWithin (parse folder) = true := by
  simp only [SpelledBelow, spells_iff, isWithin_iff]
  constructor
  · rintro ⟨anchor, names, more, outer, inner⟩
    rw [parse, parse, outer, inner]
    exact ⟨rfl, List.prefix_append names more⟩
  · rintro ⟨anchors, more, names⟩
    refine ⟨(parse folder).anchor, (parse folder).names, more, rfl, ?_⟩
    rw [← anchors, names]
    rfl

theorem isWithin_parent (path : Path) : path.isWithin path.parent = true :=
  (isWithin_iff _ _).mpr ⟨rfl, List.dropLast_prefix path.names⟩

theorem isWithin_parents (path : Path) (steps : Nat) :
    path.isWithin (parent^[steps] path) = true := by
  induction steps with
  | zero => exact isWithin_refl path
  | succ steps ih =>
    rw [Function.iterate_succ_apply']
    exact isWithin_trans ih (isWithin_parent _)

theorem parents_append (anchor : Anchor) (names more : List String) :
    parent^[more.length] ⟨anchor, names ++ more⟩ = ⟨anchor, names⟩ := by
  induction more generalizing names with
  | nil =>
    rw [List.append_nil]
    rfl
  | cons name rest ih =>
    rw [List.append_cons, List.length_cons, Function.iterate_succ_apply', ih, parent,
      List.dropLast_concat]

/-- A path lies within its own folders only: itself, its parent and so on up to the root. -/
theorem isWithin_iff_parents (path folder : Path) :
    path.isWithin folder = true ↔ ∃ steps ≤ path.names.length, parent^[steps] path = folder := by
  constructor
  · intro within
    obtain ⟨anchors, more, names⟩ := (isWithin_iff path folder).mp within
    have whole : path = ⟨folder.anchor, folder.names ++ more⟩ := by
      rw [← anchors, names]
    refine ⟨more.length, ?_, ?_⟩
    · rw [← names, List.length_append]
      exact Nat.le_add_left _ _
    · conv => lhs; rw [whole]
      exact parents_append _ _ _
  · rintro ⟨steps, -, rfl⟩
    exact isWithin_parents path steps

end ChangeRelay.Path
