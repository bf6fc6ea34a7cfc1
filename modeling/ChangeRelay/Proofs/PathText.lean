import ChangeRelay.Path

/-!
Paths and their texts. Every path that is read has only names that a path can have, and a path with
such names is read back from its own text.
-/
namespace ChangeRelay

namespace Text

theorem pieces_unmarked {mark : Char} {text : List Char} (free : mark ∉ text) :
    pieces mark text = [text] := by
  induction text with
  | nil => rfl
  | cons c rest ih =>
    simp only [List.mem_cons, not_or] at free
    simp [pieces, Ne.symm free.1, ih free.2]

theorem pieces_marked {mark : Char} {first : List Char} (free : mark ∉ first) (rest : List Char) :
    pieces mark (first ++ mark :: rest) = first :: pieces mark rest := by
  induction first with
  | nil => simp [pieces]
  | cons c more ih =>
    simp only [List.mem_cons, not_or] at free
    simp [pieces, Ne.symm free.1, ih free.2]

theorem pieces_joined {mark : Char} {parts : List (List Char)} (filled : parts ≠ [])
    (free : ∀ part ∈ parts, mark ∉ part) : pieces mark (joined mark parts) = parts := by
  induction parts with
  | nil => exact absurd rfl filled
  | cons part more ih =>
    have here := free part List.mem_cons_self
    cases more with
    | nil => exact pieces_unmarked here
    | cons next others =>
      rw [joined, pieces_marked here]
      · rw [ih (List.cons_ne_nil _ _)
          fun other member => free other (List.mem_cons_of_mem _ member)]
      · exact List.cons_ne_nil _ _

theorem mark_not_in_piece {mark : Char} {text piece : List Char}
    (member : piece ∈ pieces mark text) : mark ∉ piece := by
  induction text generalizing piece with
  | nil =>
    rw [List.mem_singleton.mp member]
    exact List.not_mem_nil
  | cons c rest ih =>
    by_cases here : c = mark
    · simp only [pieces, here, if_true, List.mem_cons] at member
      rcases member with rfl | later
      · exact List.not_mem_nil
      · exact ih later
    · cases found : pieces mark rest with
      | nil => exact absurd found (pieces_ne_nil mark rest)
      | cons first more =>
        simp only [pieces, here, if_false, found, List.mem_cons] at member
        rcases member with rfl | later
        · have inFirst := ih (found ▸ List.mem_cons_self)
          simp [inFirst, Ne.symm here]
        · exact ih (found ▸ List.mem_cons_of_mem _ later)

end Text

namespace Path

/-- A name that a path can have: not empty, not a lone dot and without slashes. -/
def IsName (name : String) : Prop := significant name.toList = true ∧ '/' ∉ name.toList

def Clean (path : Path) : Prop := ∀ name ∈ path.names, IsName name

theorem parse_clean (text : String) : (parse text).Clean := by
  intro name member
  obtain ⟨piece, kept, rfl⟩ := List.mem_map.mp member
  obtain ⟨found, significant⟩ := List.mem_filter.mp kept
  rw [IsName, String.toList_ofList]
  exact ⟨significant, Text.mark_not_in_piece found⟩

theorem clean_join {base path : Path} (baseClean : base.Clean) (clean : path.Clean) :
    (base.join path).Clean := by
  unfold join
  split
  · intro name member
    rcases List.mem_append.mp member with inBase | inPath
    · exact baseClean name inBase
    · exact clean name inPath
  · exact clean

theorem resolveNames_mem {done names : List String} {name : String}
    (member : name ∈ resolveNames done names) : name ∈ done ∨ name ∈ names ∧ name ≠ ".." := by
  induction names generalizing done with
  | nil => exact Or.inl (List.mem_reverse.mp member)
  | cons first rest ih =>
    rw [resolveNames] at member
    split at member
    · rcases ih member with earlier | ⟨later, proper⟩
      · exact Or.inl (List.mem_of_mem_tail earlier)
      · exact Or.inr ⟨List.mem_cons_of_mem _ later, proper⟩
    · rename_i proper
      rcases ih member with earlier | ⟨later, others⟩
      · rcases List.mem_cons.mp earlier with rfl | before
        · exact Or.inr ⟨List.mem_cons_self, proper⟩
        · exact Or.inl before
      · exact Or.inr ⟨List.mem_cons_of_mem _ later, others⟩

theorem clean_resolved {path : Path} (clean : path.Clean) : path.resolved.Clean := by
  intro name member
  rcases resolveNames_mem member with nothing | ⟨own, -⟩
  · cases nothing
  · exact clean name own

theorem resolved_without_parents (path : Path) : ".." ∉ path.resolved.names := by
  intro member
  rcases resolveNames_mem member with nothing | ⟨-, proper⟩
  · cases nothing
  · exact proper rfl

def joinedNames (path : Path) : List Char := Text.joined '/' (path.names.map String.toList)

theorem joined_head {parts : List (List Char)}
    (names : ∀ part ∈ parts, significant part = true ∧ '/' ∉ part) (rest : List Char) :
    Text.joined '/' parts ≠ '/' :: rest := by
  intro same
  cases parts with
  | nil => cases same
  | cons part more =>
    obtain ⟨filled, free⟩ := names part List.mem_cons_self
    cases part with
    | nil => cases filled
    | cons c others =>
      have opens : Text.joined '/' ((c :: others) :: more) =
          c :: (Text.joined '/' ((c :: others) :: more)).tail := by
        cases more <;> rfl
      rw [opens] at same
      exact free (List.mem_cons.mpr (Or.inl (List.cons.inj same).1.symm))

theorem clean_parts {path : Path} (clean : path.Clean) :
    ∀ part ∈ path.names.map String.toList, significant part = true ∧ '/' ∉ part := by
  intro part member
  obtain ⟨name, own, rfl⟩ := List.mem_map.mp member
  exact clean name own

theorem joinedNames_head {path : Path} (clean : path.Clean) (rest : List Char) :
    path.joinedNames ≠ '/' :: rest :=
  joined_head (clean_parts clean) rest

theorem joinedNames_filled {path : Path} (clean : path.Clean) (filled : path.names ≠ []) :
    path.joinedNames ≠ [] := by
  obtain ⟨anchor, names⟩ := path
  cases names with
  | nil => exact absurd rfl filled
  | cons name rest =>
    have isName := (clean name List.mem_cons_self).1
    cases spelled : name.toList with
    | nil =>
      rw [spelled] at isName
      cases isName
    | cons c more => cases rest <;> simp [joinedNames, Text.joined, spelled]

theorem names_of_joined {path : Path} (clean : path.Clean) :
    ((Text.pieces '/' path.joinedNames).filter significant).map String.ofList = path.names := by
  obtain ⟨anchor, names⟩ := path
  by_cases empty : names = []
  · subst empty
    rfl
  · have parts := clean_parts clean
    rw [joinedNames, Text.pieces_joined (by simpa using empty) fun part member =>
      (parts part member).2, List.filter_eq_self.mpr fun part member => (parts part member).1,
      List.map_map]
    simp

theorem names_after_slash (text : List Char) :
    (Text.pieces '/' ('/' :: text)).filter significant =
      (Text.pieces '/' text).filter significant := by
  simp [Text.pieces, significant]

theorem anchor_of_bare {text : List Char} (bare : text.head? ≠ some '/') (anchor : Anchor) :
    Anchor.ofChars (anchor.chars ++ text) = anchor := by
  cases text with
  | nil => cases anchor <;> rfl
  | cons c rest =>
    have noSlash : c ≠ '/' := fun slash => bare (congrArg some slash)
    cases anchor <;> simp [Anchor.chars, Anchor.ofChars, noSlash]

theorem anchor_of_joined {path : Path} (clean : path.Clean) (anchor : Anchor) :
    Anchor.ofChars (anchor.chars ++ path.joinedNames) = anchor := by
  refine anchor_of_bare (fun slash => ?_) anchor
  obtain ⟨rest, opened⟩ := List.head?_eq_some_iff.mp slash
  exact joinedNames_head clean rest opened

theorem chars_eq {path : Path} (clean : path.Clean)
    (filled : path.anchor ≠ .relative ∨ path.names ≠ []) :
    path.chars = path.anchor.chars ++ path.joinedNames := by
  have some_ : path.anchor.chars ++ path.joinedNames ≠ [] := by
    rcases filled with rooted | named
    · cases anchor : path.anchor with
      | relative => exact absurd anchor rooted
      | single => exact List.cons_ne_nil _ _
      | double => exact List.cons_ne_nil _ _
    · exact List.append_ne_nil_of_right_ne_nil _ (joinedNames_filled clean named)
  rw [chars]
  split
  · rename_i nothing
    exact absurd nothing some_
  · rfl

theorem ofChars_chars {path : Path} (clean : path.Clean) : ofChars path.chars = path := by
  by_cases filled : path.anchor ≠ .relative ∨ path.names ≠ []
  · have names : ((Text.pieces '/' (path.anchor.chars ++ path.joinedNames)).filter
        significant).map String.ofList = path.names := by
      cases path.anchor with
      | relative => exact names_of_joined clean
      | single =>
        rw [Anchor.chars, List.cons_append, names_after_slash]
        exact names_of_joined clean
      | double =>
        rw [Anchor.chars, List.cons_append, names_after_slash, List.cons_append, names_after_slash]
        exact names_of_joined clean
    rw [chars_eq clean filled, ofChars, anchor_of_joined clean, names]
  · obtain ⟨anchor, names⟩ := path
    simp only [ne_eq, not_or, Decidable.not_not] at filled
    obtain ⟨rfl, rfl⟩ := filled
    rfl

end Path
end ChangeRelay
