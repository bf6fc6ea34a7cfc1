import ChangeRelay.Advisors
import ChangeRelay.Proofs.GlobBrackets
import Mathlib.Data.List.Basic

/-!
The language of a glob pattern, told by recursion on the pattern and without any table. A pattern
matches exactly the texts of its language, with every bracket taken for what it is read as; unless a
bracket is misread, that is what it means.
-/
namespace ChangeRelay

namespace Glob

def Tells (pattern : List Piece) : List Char → List Bool → Prop
  | [], bits => ∃ bit, bits = [bit] ∧ (bit = true ↔ Belongs pattern [])
  | c :: text, bits =>
    ∃ bit more, bits = bit :: more ∧ (bit = true ↔ Belongs pattern (c :: text)) ∧
      Tells pattern text more

theorem Tells.first {pattern : List Piece} {text : List Char} {bits : List Bool}
    (tells : Tells pattern text bits) : bits.headD false = true ↔ Belongs pattern text := by
  cases text with
  | nil =>
    obtain ⟨bit, rfl, told⟩ := tells
    exact told
  | cons c more =>
    obtain ⟨bit, bits, rfl, told, -⟩ := tells
    exact told

theorem belongs_nothing (text : List Char) : Belongs [] text ↔ text = [] := by
  constructor
  · rintro ⟨⟩
    rfl
  · rintro rfl
    exact .done

theorem belongs_anyText (rest : List Piece) (text : List Char) :
    Belongs (.anyText :: rest) text ↔
      ∃ before after, text = before ++ after ∧ Belongs rest after := by
  constructor
  · intro belongs
    cases belongs with
    | text before later => exact ⟨before, _, rfl, later⟩
    | char accepted _ => cases accepted
  · rintro ⟨before, after, rfl, later⟩
    exact .text before later

theorem belongs_longer (rest : List Piece) (c : Char) (text : List Char) :
    Belongs (.anyText :: rest) (c :: text) ↔
      Belongs rest (c :: text) ∨ Belongs (.anyText :: rest) text := by
  rw [belongs_anyText, belongs_anyText]
  constructor
  · rintro ⟨before, after, same, later⟩
    cases before with
    | nil =>
      cases same
      exact Or.inl later
    | cons d more =>
      cases same
      exact Or.inr ⟨more, after, rfl, later⟩
  · rintro (here | ⟨before, after, rfl, later⟩)
    · exact ⟨[], c :: text, rfl, here⟩
    · exact ⟨c :: before, after, rfl, later⟩

theorem belongs_one {piece : Piece} (single : piece ≠ .anyText) (rest : List Piece)
    (text : List Char) :
    Belongs (piece :: rest) text ↔
      ∃ c after, text = c :: after ∧ piece.accepts c = true ∧ Belongs rest after := by
  constructor
  · intro belongs
    cases belongs with
    | text => exact absurd rfl single
    | char accepted later => exact ⟨_, _, rfl, accepted, later⟩
  · rintro ⟨c, after, rfl, accepted, later⟩
    exact .char accepted later

theorem row_tells (piece : Piece) {rest : List Piece} {text : List Char} {after : List Bool}
    (tells : Tells rest text after) : Tells (piece :: rest) text (piece.row text after) := by
  induction text generalizing after with
  | nil =>
    by_cases star : piece = .anyText
    · subst star
      refine ⟨after.headD false, rfl, ?_⟩
      rw [tells.first, belongs_anyText]
      constructor
      · exact fun here => ⟨[], [], rfl, here⟩
      · rintro ⟨before, rest, nothing, here⟩
        rwa [(List.append_eq_nil_iff.mp nothing.symm).2] at here
    · refine ⟨false, ?_, ?_⟩
      · cases piece <;> first | rfl | exact absurd rfl star
      · rw [belongs_one star]
        simp
  | cons c more ih =>
    have whole := tells.first
    obtain ⟨bit, bits, rfl, -, later⟩ := tells
    have shorter := ih later
    by_cases star : piece = .anyText
    · subst star
      refine ⟨bit || (Piece.anyText.row more bits).headD false, _, rfl, ?_, shorter⟩
      rw [Bool.or_eq_true, shorter.first, belongs_longer]
      exact or_congr_left whole
    · refine ⟨piece.accepts c && bits.headD false, piece.row more bits, ?_, ?_, shorter⟩
      · cases piece <;> first | rfl | exact absurd rfl star
      · rw [Bool.and_eq_true, later.first, belongs_one star]
        constructor
        · intro both
          exact ⟨c, more, rfl, both⟩
        · rintro ⟨_, _, ⟨⟩, both⟩
          exact both

theorem table_tells (pattern : List Piece) (text : List Char) :
    Tells pattern text (table pattern text) := by
  induction pattern with
  | cons piece rest ih => exact row_tells piece ih
  | nil =>
    induction text with
    | nil => exact ⟨true, rfl, by simp [belongs_nothing]⟩
    | cons c more ih => exact ⟨false, _, rfl, by simp [belongs_nothing], ih⟩

theorem covers_iff (pattern : List Piece) (text : List Char) :
    covers pattern text = true ↔ Belongs pattern text :=
  (table_tells pattern text).first

/-- A closed bracket at the start of what follows the opening of one. The first character, or the
first after `!`, is inside whatever it is; after it the next `]` closes. -/
structure Bracket (negated : Bool) (content text rest : List Char) : Prop where
  spelled : text = shown negated content ++ ']' :: rest
  filled : content ≠ []
  closes : ']' ∉ content.tail
  unmarked : negated = false → content.head? ≠ some '!'

theorem inside_iff (text content rest : List Char) :
    inside text = some (content, rest) ↔ text = content ++ ']' :: rest ∧ ']' ∉ content := by
  induction text generalizing content with
  | nil => simp [inside]
  | cons c more ih =>
    rw [inside]
    by_cases here : c = ']'
    · subst here
      rw [if_pos rfl, Option.some.injEq, Prod.mk.injEq]
      constructor
      · rintro ⟨rfl, rfl⟩
        exact ⟨rfl, List.not_mem_nil⟩
      · rintro ⟨same, free⟩
        cases content with
        | nil =>
          cases same
          exact ⟨rfl, rfl⟩
        | cons d others =>
          cases same
          exact absurd List.mem_cons_self free
    · rw [if_neg here, Option.map_eq_some_iff]
      constructor
      · rintro ⟨⟨later, after⟩, found, same⟩
        cases same
        obtain ⟨rfl, free⟩ := (ih later).mp found
        exact ⟨rfl, by simpa using ⟨Ne.symm here, free⟩⟩
      · rintro ⟨same, free⟩
        cases content with
        | nil =>
          cases same
          exact absurd rfl here
        | cons d others =>
          cases same
          rw [List.mem_cons, not_or] at free
          exact ⟨(others, rest), (ih others).mpr ⟨rfl, free.2⟩, rfl⟩

theorem insideAfterFirst_iff (text content rest : List Char) :
    insideAfterFirst text = some (content, rest) ↔
      text = content ++ ']' :: rest ∧ content ≠ [] ∧ ']' ∉ content.tail := by
  cases text with
  | nil => simp [insideAfterFirst, inside]
  | cons c more =>
    have step : insideAfterFirst (c :: more) =
        (inside more).map fun found => (c :: found.1, found.2) := by
      by_cases first : c = ']'
      · subst first
        rfl
      · simp [insideAfterFirst, inside, first]
    rw [step, Option.map_eq_some_iff]
    constructor
    · rintro ⟨⟨later, after⟩, found, same⟩
      cases same
      obtain ⟨rfl, free⟩ := (inside_iff more later after).mp found
      exact ⟨rfl, List.cons_ne_nil _ _, free⟩
    · rintro ⟨same, filled, free⟩
      cases content with
      | nil => exact absurd rfl filled
      | cons d others =>
        cases same
        exact ⟨(others, rest), (inside_iff _ others rest).mpr ⟨rfl, free⟩, rfl⟩

theorem Bracket.head {negated : Bool} {content text rest : List Char}
    (closed : Bracket negated content text rest) : text.head? = some '!' ↔ negated = true := by
  rw [closed.spelled]
  cases negated with
  | true => simp [shown]
  | false =>
    rw [shown, if_neg Bool.false_ne_true, List.head?_append_of_ne_nil _ closed.filled]
    exact iff_of_false (closed.unmarked rfl) Bool.false_ne_true

theorem bracket_iff (text found rest : List Char) :
    bracket text = some (found, rest) ↔
      ∃ negated content, Bracket negated content text rest ∧ found = shown negated content := by
  by_cases marked : text.head? = some '!'
  · obtain ⟨more, rfl⟩ : ∃ more, text = '!' :: more := List.head?_eq_some_iff.mp marked
    rw [bracket, Option.map_eq_some_iff]
    constructor
    · rintro ⟨⟨content, after⟩, inner, same⟩
      cases same
      obtain ⟨rfl, filled, closes⟩ := (insideAfterFirst_iff more content rest).mp inner
      exact ⟨true, content, ⟨rfl, filled, closes, nofun⟩, rfl⟩
    · rintro ⟨negated, content, closed, rfl⟩
      have negates : negated = true := closed.head.mp marked
      subst negates
      have spelled : more = content ++ ']' :: rest := (List.cons.inj closed.spelled).2
      exact ⟨(content, rest),
        (insideAfterFirst_iff more content rest).mpr ⟨spelled, closed.filled, closed.closes⟩, rfl⟩
  · have step : bracket text = insideAfterFirst text := by
      cases text with
      | nil => rfl
      | cons c more =>
        have other : c ≠ '!' := fun same => marked (by rw [same]; rfl)
        simp [bracket, other]
    rw [step, insideAfterFirst_iff]
    constructor
    · rintro ⟨rfl, filled, closes⟩
      refine ⟨false, found, ⟨rfl, filled, closes, ?_⟩, rfl⟩
      rw [List.head?_append_of_ne_nil _ filled] at marked
      exact fun _ => marked
    · rintro ⟨negated, content, closed, rfl⟩
      have plain : negated = false := Bool.eq_false_iff.mpr (mt closed.head.mpr marked)
      subst plain
      exact ⟨closed.spelled, closed.filled, closed.closes⟩

theorem Bracket.unique {negated other : Bool} {content others text rest more : List Char}
    (closed : Bracket negated content text rest) (also : Bracket other others text more) :
    negated = other ∧ content = others ∧ rest = more := by
  have same : negated = other := by
    rw [Bool.eq_iff_iff, ← closed.head, ← also.head]
  have found := (bracket_iff text _ rest).mpr ⟨negated, content, closed, rfl⟩
  rw [(bracket_iff text _ more).mpr ⟨other, others, also, rfl⟩] at found
  cases same
  obtain ⟨inner, rfl⟩ := Prod.mk.inj (Option.some.inj found)
  refine ⟨rfl, ?_, rfl⟩
  cases negated with
  | true => exact (List.cons.inj inner.symm).2
  | false => exact inner.symm

/-- The language of a pattern, by recursion on the pattern and with each bracket taken as told: a
star stands for any text, a question mark for any character and a closed bracket for one character;
a bracket that is never closed and every other character stand for themselves. -/
inductive InLanguage (taken : Bool → List Char → Char → Prop) : List Char → List Char → Prop where
  | nothing : InLanguage taken [] []
  | star (before : List Char) {rest after : List Char} (later : InLanguage taken rest after) :
      InLanguage taken ('*' :: rest) (before ++ after)
  | question (c : Char) {rest after : List Char} (later : InLanguage taken rest after) :
      InLanguage taken ('?' :: rest) (c :: after)
  | bracket {negated : Bool} {content text rest after : List Char} {c : Char}
      (closed : Bracket negated content text rest) (fits : taken negated content c)
      (later : InLanguage taken rest after) : InLanguage taken ('[' :: text) (c :: after)
  | unclosed {text after : List Char}
      (unclosed : ∀ negated content rest, ¬Bracket negated content text rest)
      (later : InLanguage taken text after) : InLanguage taken ('[' :: text) ('[' :: after)
  | itself {c : Char} {rest after : List Char} (plain : c ∉ ['*', '?', '['])
      (later : InLanguage taken rest after) : InLanguage taken (c :: rest) (c :: after)

section
variable {taken : Bool → List Char → Char → Prop}

theorem in_nothing (word : List Char) : InLanguage taken [] word ↔ word = [] := by
  constructor
  · rintro ⟨⟩
    rfl
  · rintro rfl
    exact .nothing

theorem in_star (rest word : List Char) :
    InLanguage taken ('*' :: rest) word ↔
      ∃ before after, word = before ++ after ∧ InLanguage taken rest after := by
  constructor
  · intro belongs
    cases belongs with
    | star before later => exact ⟨before, _, rfl, later⟩
    | itself plain _ => exact absurd List.mem_cons_self plain
  · rintro ⟨before, after, rfl, later⟩
    exact .star before later

theorem in_question (rest word : List Char) :
    InLanguage taken ('?' :: rest) word ↔
      ∃ c after, word = c :: after ∧ InLanguage taken rest after := by
  constructor
  · intro belongs
    cases belongs with
    | question c later => exact ⟨c, _, rfl, later⟩
    | itself plain _ => exact absurd (by decide) plain
  · rintro ⟨c, after, rfl, later⟩
    exact .question c later

theorem in_bracket {negated : Bool} {content text rest : List Char}
    (closed : Bracket negated content text rest) (word : List Char) :
    InLanguage taken ('[' :: text) word ↔
      ∃ c after, word = c :: after ∧ taken negated content c ∧ InLanguage taken rest after := by
  constructor
  · intro belongs
    cases belongs with
    | bracket also fits later =>
      obtain ⟨rfl, rfl, rfl⟩ := closed.unique also
      exact ⟨_, _, rfl, fits, later⟩
    | unclosed unclosed _ => exact absurd closed (unclosed _ _ _)
    | itself plain _ => exact absurd (by decide) plain
  · rintro ⟨c, after, rfl, fits, later⟩
    exact .bracket closed fits later

theorem in_unclosed {text : List Char}
    (unclosed : ∀ negated content rest, ¬Bracket negated content text rest) (word : List Char) :
    InLanguage taken ('[' :: text) word ↔
      ∃ after, word = '[' :: after ∧ InLanguage taken text after := by
  constructor
  · intro belongs
    cases belongs with
    | bracket closed _ _ => exact absurd closed (unclosed _ _ _)
    | unclosed _ later => exact ⟨_, rfl, later⟩
    | itself plain _ => exact absurd (by decide) plain
  · rintro ⟨after, rfl, later⟩
    exact .unclosed unclosed later

theorem in_itself {c : Char} (plain : c ∉ ['*', '?', '[']) (rest word : List Char) :
    InLanguage taken (c :: rest) word ↔
      ∃ after, word = c :: after ∧ InLanguage taken rest after := by
  constructor
  · intro belongs
    cases belongs with
    | star | question | bracket | unclosed => exact absurd (by decide) plain
    | itself _ later => exact ⟨_, rfl, later⟩
  · rintro ⟨after, rfl, later⟩
    exact .itself plain later

end

theorem belongs_exactly (c : Char) (rest : List Piece) (word : List Char) :
    Belongs (.exactly c :: rest) word ↔ ∃ after, word = c :: after ∧ Belongs rest after := by
  rw [belongs_one (by nofun)]
  constructor
  · rintro ⟨d, after, rfl, same, later⟩
    exact ⟨after, by rw [eq_of_beq same], later⟩
  · rintro ⟨after, rfl, later⟩
    exact ⟨c, after, rfl, beq_self_eq_true c, later⟩

/-- The pieces of a pattern stand for the language of the pattern, with its brackets as read. -/
theorem belongs_parse (pattern word : List Char) :
    Belongs (parse pattern) word ↔ InLanguage AsRead pattern word := by
  fun_induction parse pattern generalizing word with
  | case1 => rw [belongs_nothing, in_nothing]
  | case2 rest ih => simp only [belongs_anyText, in_star, ih]
  | case3 rest _ ih =>
    rw [belongs_one (by nofun), in_question]
    simp only [ih, Piece.accepts, true_and]
  | case4 rest found tail isFound _ _ _ ih =>
    obtain ⟨negated, content, closed, rfl⟩ := (bracket_iff rest found tail).mp isFound
    have single : oneOf (shown negated content) ≠ .anyText := by
      unfold oneOf
      dsimp only
      split <;> exact Piece.noConfusion
    rw [belongs_one single, in_bracket closed]
    simp only [accepts_bracket closed.unmarked, ih]
  | case5 rest noneFound _ _ ih =>
    have unclosed : ∀ negated content tail, ¬Bracket negated content rest tail := by
      intro negated content tail closed
      rw [(bracket_iff rest _ tail).mpr ⟨negated, content, closed, rfl⟩] at noneFound
      cases noneFound
    rw [belongs_exactly, in_unclosed unclosed]
    simp only [ih]
  | case6 c rest noStar noQuestion noBracket ih =>
    rw [belongs_exactly, in_itself (by simp [noStar, noQuestion, noBracket])]
    simp only [ih]

/-- A pattern none of whose brackets is misread. -/
inductive Clear : List Char → Prop where
  | nothing : Clear []
  | bracket {negated : Bool} {content text rest : List Char}
      (closed : Bracket negated content text rest) (straight : ¬Misread negated content)
      (later : Clear rest) : Clear ('[' :: text)
  | unclosed {text : List Char}
      (unclosed : ∀ negated content rest, ¬Bracket negated content text rest)
      (later : Clear text) : Clear ('[' :: text)
  | other {c : Char} {rest : List Char} (other : c ≠ '[') (later : Clear rest) : Clear (c :: rest)

theorem clear_language {pattern : List Char} (clear : Clear pattern) (word : List Char) :
    InLanguage AsRead pattern word ↔ InLanguage AsWritten pattern word := by
  induction clear generalizing word with
  | nothing => rw [in_nothing, in_nothing]
  | bracket closed straight _ ih =>
    rw [in_bracket closed, in_bracket closed]
    simp only [asRead_of_not_misread straight, ih]
  | unclosed unclosed _ ih =>
    rw [in_unclosed unclosed, in_unclosed unclosed]
    simp only [ih]
  | @other c rest other _ ih =>
    by_cases star : c = '*'
    · subst star
      simp only [in_star, ih]
    · by_cases question : c = '?'
      · subst question
        simp only [in_question, ih]
      · have plain : c ∉ ['*', '?', '['] := by simp [star, question, other]
        rw [in_itself plain, in_itself plain]
        simp only [ih]

theorem covers_parse (pattern : String) (word : List Char) :
    covers (parse pattern.toList) word = true ↔ InLanguage AsRead pattern.toList word := by
  rw [covers_iff, belongs_parse]

end Glob

namespace TestFile

open Glob (InLanguage AsRead AsWritten Clear Misread)

def slashed (path : String) : List Char := '/' :: path.toList.dropWhile (· == '/')

theorem slashed_slashes (count : Nat) (path : String) :
    slashed (String.ofList (List.replicate count '/') ++ path) = slashed path := by
  rw [slashed, slashed, String.toList_append, String.toList_ofList,
    List.dropWhile_append_of_pos (by simp)]

theorem isTest_iff (patterns : List String) (path : String) :
    isTest patterns path = true ↔
      ∃ pattern ∈ patterns, InLanguage AsRead pattern.toList (slashed path) := by
  rw [isTest, List.any_eq_true]
  simp only [Glob.covers_parse, slashed]

/-- For all patterns and paths: a file counts as a test exactly if its path, with one slash before
it, is in the language of one of the patterns, each bracket taken for what it is read as. That is
what the bracket means, unless empty ranges stand before a `!`; a bracket that is misread in this
way is never taken for what it means. How many slashes a path starts with makes no difference. -/
theorem tests_by_language (patterns : List String) (path : String) :
    (isTest patterns path = true ↔
      ∃ pattern ∈ patterns, InLanguage AsRead pattern.toList (slashed path)) ∧
    ((∀ pattern ∈ patterns, Clear pattern.toList) →
      (isTest patterns path = true ↔
        ∃ pattern ∈ patterns, InLanguage AsWritten pattern.toList (slashed path))) ∧
    (∀ negated content, Misread negated content →
      ∃ c, ¬(AsRead negated content c ↔ AsWritten negated content c)) ∧
    ∀ count, isTest patterns (String.ofList (List.replicate count '/') ++ path) =
      isTest patterns path := by
  refine ⟨isTest_iff patterns path, ?_, fun _ _ => Glob.misread_differs, ?_⟩
  · intro clear
    rw [isTest_iff]
    refine exists_congr fun pattern => and_congr_right fun listed => ?_
    exact Glob.clear_language (clear pattern listed) _
  · intro count
    rw [Bool.eq_iff_iff, isTest_iff, isTest_iff, slashed_slashes]

/-- A pattern with a negated bracket, and one whose empty range stands before a `!`. -/
theorem tests_by_language_sample :
    isTest ["*/[!a-c]]?"] "//src/x]y" = true ∧
    isTest ["/[b-a!c]"] "x" = true ∧
      ¬∃ pattern ∈ ["/[b-a!c]"], InLanguage AsWritten pattern.toList (slashed "x") := by
  have negated : Glob.Bracket true "a-c".toList "!a-c]]?".toList "]?".toList :=
    ⟨rfl, by decide, by decide, nofun⟩
  have hidden : Glob.Bracket false "b-a!c".toList "b-a!c]".toList [] :=
    ⟨rfl, by decide, by decide, fun _ => by decide⟩
  have clear : ∀ pattern ∈ ["*/[!a-c]]?"], Clear pattern.toList := by
    rintro _ ⟨⟩
    · refine .other (by decide) (.other (by decide) (.bracket negated ?_ ?_))
      · exact fun misread => absurd misread.1 (by decide)
      · exact .other (by decide) (.other (by decide) .nothing)
    · contradiction
  refine ⟨?_, ?_, ?_⟩
  · refine ((tests_by_language _ _).2.1 clear).mpr ⟨_, List.mem_cons_self, ?_⟩
    refine .star "/src".toList (.itself (by decide) (.bracket negated (by decide) ?_))
    exact .itself (by decide) (.question 'y' .nothing)
  · refine (tests_by_language _ _).1.mpr ⟨_, List.mem_cons_self, ?_⟩
    have other : AsRead false "b-a!c".toList 'x' := by
      change ¬∃ item ∈ [Glob.Item.member 'c'], item.Holds 'x'
      decide
    exact .itself (by decide) (.bracket hidden other .nothing)
  · rintro ⟨pattern, listed, belongs⟩
    rw [List.mem_singleton.mp listed] at belongs
    obtain ⟨_, ⟨⟩, later⟩ := (Glob.in_itself (by decide) _ _).mp belongs
    obtain ⟨_, _, ⟨⟩, fits, -⟩ := (Glob.in_bracket hidden _).mp later
    revert fits
    decide

end TestFile
end ChangeRelay
