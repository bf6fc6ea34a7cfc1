import ChangeRelay.Proofs.GlobLanguage
import ChangeRelay.Proofs.PathText

/-!
What the standard patterns tell of a path. A star crosses slashes, so a pattern for names may find
its beginning in the name of a folder and its end in that of the file. That comes to more than the
name alone for one pattern only, the one that has something in front of its star behind the folders.
-/
namespace ChangeRelay

namespace Text

theorem marked_pieces (mark : Char) (text : List Char) :
    mark :: text = (pieces mark text).flatMap (mark :: ·) := by
  induction text with
  | nil => rfl
  | cons c rest ih =>
    by_cases here : c = mark
    · subst here
      rw [pieces, if_pos rfl, List.flatMap_cons, ← ih]
      rfl
    · cases found : pieces mark rest with
      | nil => exact absurd found (pieces_ne_nil mark rest)
      | cons piece more =>
        rw [found, List.flatMap_cons] at ih
        have tail : rest = piece ++ more.flatMap (mark :: ·) := (List.cons.inj ih).2
        rw [pieces, if_neg here, found, List.flatMap_cons]
        conv => lhs; rw [tail]
        rfl

theorem marked_cut {mark : Char} {parts : List (List Char)} (free : ∀ part ∈ parts, mark ∉ part)
    {before after : List Char}
    (same : parts.flatMap (mark :: ·) = before ++ mark :: after) :
    ∃ earlier later, parts = earlier ++ later ∧ before = earlier.flatMap (mark :: ·) ∧
      mark :: after = later.flatMap (mark :: ·) := by
  induction parts generalizing before with
  | nil => simp at same
  | cons part rest ih =>
    have others := fun other member => free other (List.mem_cons_of_mem part member)
    cases before with
    | nil => exact ⟨[], part :: rest, rfl, rfl, same.symm⟩
    | cons c more =>
      rw [List.flatMap_cons, List.cons_append, List.cons_append] at same
      obtain ⟨rfl, behind⟩ := List.cons.inj same
      rcases List.append_eq_append_iff.mp behind with ⟨tail, rfl, later⟩ | ⟨tail, own, later⟩
      · obtain ⟨earlier, cutOff, rfl, rfl, cut⟩ := ih others later
        exact ⟨part :: earlier, cutOff, rfl, rfl, cut⟩
      · cases tail with
        | nil =>
          rw [List.append_nil] at own
          have next : rest.flatMap (mark :: ·) = [] ++ mark :: after := later.symm
          obtain ⟨earlier, cutOff, rfl, nothing, cut⟩ := ih others next
          refine ⟨part :: earlier, cutOff, rfl, ?_, cut⟩
          rw [List.flatMap_cons, ← nothing, List.append_nil, own]
        | cons d tail =>
          obtain ⟨rfl, -⟩ := List.cons.inj later
          exact absurd (by simp [own]) (free part List.mem_cons_self)

theorem marked_front {mark : Char} {part front tail : List Char} {rest : List (List Char)}
    (free : mark ∉ front) (same : part ++ rest.flatMap (mark :: ·) = front ++ tail) :
    front <+: part := by
  rcases List.append_eq_append_iff.mp same with ⟨extra, rfl, behind⟩ | ⟨extra, rfl, -⟩
  · cases extra with
    | nil => exact (List.append_nil part).symm ▸ List.prefix_refl part
    | cons c more =>
      cases rest with
      | nil => cases behind
      | cons next others =>
        obtain ⟨rfl, -⟩ := List.cons.inj behind
        exact absurd (List.mem_append_right _ List.mem_cons_self) free
  · exact List.prefix_append front extra

theorem marked_ending {mark : Char} {before last back : List Char} (free : mark ∉ back)
    (ends : back <:+ before ++ mark :: last) : back <:+ last := by
  have marked : mark :: last <:+ before ++ mark :: last := List.suffix_append before _
  rcases List.suffix_or_suffix_of_suffix ends marked with shorter | longer
  · rcases List.suffix_cons_iff.mp shorter with rfl | within
    · exact absurd List.mem_cons_self free
    · exact within
  · exact absurd (longer.subset List.mem_cons_self) free

end Text

namespace Glob

variable {taken : Bool → List Char → Char → Prop}

def Plain (literal : List Char) : Prop := ∀ c ∈ literal, c ∉ ['*', '?', '[']

instance (literal : List Char) : Decidable (Plain literal) :=
  List.decidableBAll (fun c => c ∉ ['*', '?', '[']) literal

theorem in_literal {literal : List Char} (plain : Plain literal) (rest word : List Char) :
    InLanguage taken (literal ++ rest) word ↔
      ∃ after, word = literal ++ after ∧ InLanguage taken rest after := by
  induction literal generalizing word with
  | nil => simp
  | cons c more ih =>
    obtain ⟨here, others⟩ := List.forall_mem_cons.mp plain
    rw [List.cons_append, in_itself here]
    constructor
    · rintro ⟨after, rfl, later⟩
      obtain ⟨tail, rfl, rest⟩ := (ih others after).mp later
      exact ⟨tail, rfl, rest⟩
    · rintro ⟨tail, rfl, rest⟩
      exact ⟨more ++ tail, rfl, (ih others _).mpr ⟨tail, rfl, rest⟩⟩

theorem in_twoStars (rest word : List Char) :
    InLanguage taken ('*' :: '*' :: rest) word ↔
      ∃ before after, word = before ++ after ∧ InLanguage taken rest after := by
  rw [in_star]
  constructor
  · rintro ⟨before, after, rfl, later⟩
    obtain ⟨middle, tail, rfl, rest⟩ := (in_star _ _).mp later
    exact ⟨before ++ middle, tail, (List.append_assoc _ _ _).symm, rest⟩
  · rintro ⟨before, after, rfl, later⟩
    exact ⟨before, after, rfl, (in_star _ _).mpr ⟨[], after, rfl, later⟩⟩

theorem in_around {literal : List Char} (plain : Plain literal) (word : List Char) :
    InLanguage taken ('*' :: '*' :: (literal ++ ['*', '*'])) word ↔ literal <:+: word := by
  rw [in_twoStars]
  constructor
  · rintro ⟨before, after, rfl, later⟩
    obtain ⟨tail, rfl, -⟩ := (in_literal plain _ _).mp later
    exact ⟨before, tail, List.append_assoc _ _ _⟩
  · rintro ⟨before, tail, rfl⟩
    have ends : InLanguage taken ['*', '*'] tail :=
      (in_twoStars _ _).mpr ⟨tail, [], (List.append_nil tail).symm, .nothing⟩
    exact ⟨before, literal ++ tail, List.append_assoc _ _ _,
      (in_literal plain _ _).mpr ⟨tail, rfl, ends⟩⟩

theorem in_name {front back : List Char} (frontPlain : Plain front) (backPlain : Plain back)
    (word : List Char) :
    InLanguage taken (front ++ '*' :: back) word ↔ ∃ middle, word = front ++ middle ++ back := by
  have ends (tail : List Char) : InLanguage taken back tail ↔ tail = back := by
    have whole : InLanguage taken (back ++ []) tail ↔ _ := in_literal backPlain [] tail
    simpa [in_nothing] using whole
  rw [in_literal frontPlain]
  constructor
  · rintro ⟨after, rfl, later⟩
    obtain ⟨middle, tail, rfl, last⟩ := (in_star _ _).mp later
    rw [ends] at last
    exact ⟨middle, by rw [last, List.append_assoc]⟩
  · rintro ⟨middle, rfl⟩
    exact ⟨middle ++ back, List.append_assoc _ _ _,
      (in_star _ _).mpr ⟨middle, back, rfl, (ends back).mpr rfl⟩⟩

theorem in_ending {back : List Char} (plain : Plain back) (word : List Char) :
    InLanguage taken ('*' :: back) word ↔ back <:+ word := by
  have nothing : Plain [] := List.forall_mem_nil _
  refine (in_name nothing plain word).trans ?_
  constructor
  · rintro ⟨middle, rfl⟩
    exact List.suffix_append _ _
  · rintro ⟨middle, rfl⟩
    exact ⟨middle, rfl⟩

end Glob

namespace TestFile

open Glob (InLanguage AsRead AsWritten Plain)

def folders (path : String) : List (List Char) := (Text.pieces '/' path.toList).dropLast

def fileName (path : String) : List Char := (Text.pieces '/' path.toList).getLastD []

def components (path : String) : List (List Char) :=
  Text.pieces '/' (path.toList.dropWhile (· == '/'))

theorem slashed_components (path : String) :
    slashed path = (components path).flatMap ('/' :: ·) :=
  Text.marked_pieces '/' _

theorem component_free {path : String} :
    ∀ component ∈ components path, '/' ∉ component :=
  fun _ member => Text.mark_not_in_piece member

theorem pieces_slashes (text : List Char) :
    ∃ count, Text.pieces '/' text =
      List.replicate count [] ++ Text.pieces '/' (text.dropWhile (· == '/')) := by
  induction text with
  | nil => exact ⟨0, rfl⟩
  | cons c rest ih =>
    by_cases slash : c = '/'
    · subst slash
      obtain ⟨count, same⟩ := ih
      refine ⟨count + 1, ?_⟩
      rw [Text.pieces, if_pos rfl, same]
      rfl
    · exact ⟨0, by simp [slash]⟩

/-- The components of a path are its folders, but for slashes in front of it, and its file name. -/
theorem components_eq (path : String) :
    ∃ count inner, folders path = List.replicate count [] ++ inner ∧
      components path = inner ++ [fileName path] := by
  obtain ⟨count, same⟩ : ∃ count, Text.pieces '/' path.toList =
      List.replicate count [] ++ components path := pieces_slashes path.toList
  have filled : components path ≠ [] := Text.pieces_ne_nil _ _
  refine ⟨count, (components path).dropLast, ?_, ?_⟩
  · rw [folders, same, List.dropLast_append_of_ne_nil filled]
  · have last : fileName path = (components path).getLast filled := by
      rw [fileName, List.getLastD_eq_getLast?, same, List.getLast?_append_of_ne_nil _ filled]
      exact congrArg (·.getD []) (List.getLast?_eq_some_getLast filled)
    rw [last, List.dropLast_append_getLast]

theorem folder_of_inner {path : String} {count : Nat} {inner : List (List Char)}
    (told : folders path = List.replicate count [] ++ inner) {folder : List Char} :
    folder ∈ folders path ↔ folder = [] ∧ count ≠ 0 ∨ folder ∈ inner := by
  rw [told, List.mem_append, List.mem_replicate, and_comm]

theorem component_cases {inner earlier rest : List (List Char)} {last component : List Char}
    (same : inner ++ [last] = earlier ++ component :: rest) :
    rest = [] ∧ component = last ∨
      ∃ more, rest = more ++ [last] ∧ component ∈ inner := by
  rcases List.eq_nil_or_concat' rest with rfl | ⟨more, other, rfl⟩
  · obtain ⟨-, lasts⟩ := List.append_inj' same rfl
    exact Or.inl ⟨rfl, (List.singleton_inj.mp lasts).symm⟩
  · rw [← List.cons_append, ← List.append_assoc] at same
    obtain ⟨rfl, lasts⟩ := List.append_inj' same rfl
    rw [List.singleton_inj.mp lasts]
    exact Or.inr ⟨more, rfl, List.mem_append_right _ List.mem_cons_self⟩

theorem folder_iff {name : List Char} (filled : name ≠ []) (free : '/' ∉ name) (path : String) :
    '/' :: (name ++ ['/']) <:+: slashed path ↔ name ∈ folders path := by
  obtain ⟨count, inner, outer, whole⟩ := components_eq path
  have named : name ∈ folders path ↔ name ∈ inner := by
    rw [folder_of_inner outer]
    exact or_iff_right fun nothing => filled nothing.1
  rw [named, slashed_components]
  constructor
  · rintro ⟨before, after, same⟩
    have cuttable : (components path).flatMap ('/' :: ·) =
        before ++ '/' :: (name ++ '/' :: after) := by
      simp [← same]
    obtain ⟨earlier, later, parts, -, cut⟩ := Text.marked_cut component_free cuttable
    cases later with
    | nil => cases cut
    | cons component rest =>
      have behind : component ++ rest.flatMap ('/' :: ·) = name ++ '/' :: after :=
        (List.cons.inj cut).2.symm
      obtain ⟨extra, rfl⟩ := Text.marked_front free behind
      rw [List.append_assoc, List.append_cancel_left_eq] at behind
      cases extra with
      | cons c more =>
        obtain ⟨rfl, -⟩ := List.cons.inj behind
        have component : name ++ '/' :: more ∈ components path := by simp [parts]
        exact absurd (List.mem_append_right _ List.mem_cons_self) (component_free _ component)
      | nil =>
        rw [List.append_nil] at parts
        rcases component_cases (whole.symm.trans parts) with ⟨rfl, -⟩ | ⟨-, -, inside⟩
        · cases behind
        · exact inside
  · intro member
    obtain ⟨earlier, later, rfl⟩ := List.append_of_mem member
    have next : ∃ tail, later.flatMap ('/' :: ·) ++ '/' :: fileName path = '/' :: tail := by
      cases later with
      | nil => exact ⟨_, rfl⟩
      | cons => exact ⟨_, rfl⟩
    obtain ⟨tail, opens⟩ := next
    refine ⟨earlier.flatMap ('/' :: ·), tail, ?_⟩
    rw [whole]
    simp [← opens]

/-- Something with a beginning behind a slash and an end: the file name is such a thing, or a folder
has the beginning and the file name has the end. -/
theorem spread_iff {front back : List Char} (frontFree : '/' ∉ front) (backFree : '/' ∉ back)
    (path : String) :
    (∃ before middle, slashed path = before ++ '/' :: (front ++ middle ++ back)) ↔
      (∃ middle, fileName path = front ++ middle ++ back) ∨
        (∃ folder ∈ folders path, front <+: folder) ∧ back <:+ fileName path := by
  obtain ⟨count, inner, outer, whole⟩ := components_eq path
  constructor
  · rintro ⟨before, middle, same⟩
    rw [slashed_components] at same
    obtain ⟨earlier, later, parts, -, cut⟩ := Text.marked_cut component_free same
    cases later with
    | nil => cases cut
    | cons component rest =>
      have behind : component ++ rest.flatMap ('/' :: ·) = front ++ (middle ++ back) := by
        rw [← List.append_assoc]
        exact (List.cons.inj cut).2.symm
      rcases component_cases (whole.symm.trans parts) with ⟨rfl, rfl⟩ | ⟨more, rfl, inside⟩
      · refine Or.inl ⟨middle, ?_⟩
        rw [List.append_assoc, ← behind, List.flatMap_nil, List.append_nil]
      · refine Or.inr ⟨⟨component, (folder_of_inner outer).mpr (Or.inr inside),
          Text.marked_front frontFree behind⟩, ?_⟩
        have ends : back <:+ component ++ more.flatMap ('/' :: ·) ++ '/' :: fileName path := by
          refine ⟨front ++ middle, ?_⟩
          rw [List.append_assoc, ← behind]
          simp
        exact Text.marked_ending backFree ends
  · have last : slashed path = inner.flatMap ('/' :: ·) ++ '/' :: fileName path := by
      rw [slashed_components, whole]
      simp
    rintro (⟨middle, named⟩ | ⟨⟨folder, listed, begins⟩, ends⟩)
    · exact ⟨_, middle, by rw [last, named]⟩
    · obtain ⟨tail, ended⟩ := ends
      rcases (folder_of_inner outer).mp listed with ⟨rfl, -⟩ | inside
      · -- Nothing in front is nothing that a slash before the path could lack.
        rw [List.prefix_nil.mp begins]
        exact ⟨_, tail, by rw [last, ← ended]; rfl⟩
      · obtain ⟨extra, rfl⟩ := begins
        obtain ⟨earlier, later, rfl⟩ := List.append_of_mem inside
        refine ⟨earlier.flatMap ('/' :: ·), extra ++ later.flatMap ('/' :: ·) ++ '/' :: tail, ?_⟩
        rw [last, ← ended]
        simp

def namePatterns : List String :=
  ["*Test.java", "*Tests.java", "test_*.py", "*_test.py", "*_test.go", "*.spec.ts", "*.test.ts",
    "*.spec.js", "*.test.js"]

def InTestFolder (path : String) : Prop :=
  ∃ folder ∈ folders path, folder = "test".toList ∨ folder = "tests".toList

/-- A test by the name of the file alone. -/
def NamedAsTest (path : String) : Prop :=
  ∃ pattern ∈ namePatterns, InLanguage AsWritten pattern.toList (fileName path)

/-- A Python file, whatever its name, below a folder whose name begins as those of test files do. -/
def BelowTestName (path : String) : Prop :=
  (∃ folder ∈ folders path, "test_".toList <+: folder) ∧ ".py".toList <:+ fileName path

theorem below_iff {front back : List Char} (frontPlain : Plain front) (backPlain : Plain back)
    (frontFree : '/' ∉ front) (backFree : '/' ∉ back) (path : String) :
    InLanguage AsRead ("**/".toList ++ (front ++ '*' :: back)) (slashed path) ↔
      InLanguage AsWritten (front ++ '*' :: back) (fileName path) ∨
        (∃ folder ∈ folders path, front <+: folder) ∧ back <:+ fileName path := by
  have slashPlain : Plain ('/' :: front) := List.forall_mem_cons.mpr ⟨by decide, frontPlain⟩
  have open_ : "**/".toList ++ (front ++ '*' :: back) =
      '*' :: '*' :: ('/' :: front ++ '*' :: back) := rfl
  rw [Glob.in_name frontPlain backPlain, ← spread_iff frontFree backFree, open_, Glob.in_twoStars]
  simp only [Glob.in_name slashPlain backPlain]
  constructor
  · rintro ⟨before, _, same, middle, rfl⟩
    exact ⟨before, middle, same⟩
  · rintro ⟨before, middle, same⟩
    exact ⟨before, _, same, middle, rfl⟩

theorem below_ending {back : List Char} (plain : Plain back) (free : '/' ∉ back) (path : String) :
    InLanguage AsRead ("**/".toList ++ '*' :: back) (slashed path) ↔
      InLanguage AsWritten ('*' :: back) (fileName path) := by
  have nothing : Plain [] := List.forall_mem_nil _
  have spread := below_iff nothing plain List.not_mem_nil free path
  exact spread.trans (or_iff_left_of_imp fun both => (Glob.in_ending plain _).mpr both.2)

theorem below_folder (name : List Char) (plain : Plain name) (filled : name ≠ [])
    (free : '/' ∉ name) (path : String) :
    InLanguage AsRead ("**/".toList ++ name ++ "/**".toList) (slashed path) ↔
      name ∈ folders path := by
  have between : Plain ('/' :: (name ++ ['/'])) := by
    refine List.forall_mem_cons.mpr ⟨by decide, ?_⟩
    rw [List.forall_mem_append]
    exact ⟨plain, show Plain ['/'] by decide⟩
  have spelled : "**/".toList ++ name ++ "/**".toList =
      '*' :: '*' :: ('/' :: (name ++ ['/']) ++ ['*', '*']) := by
    simp
  rw [spelled, Glob.in_around between, folder_iff filled free]

theorem namePattern_cases :
    ∀ pattern ∈ namePatterns, pattern = "test_*.py" ∨
      ∃ back, pattern.toList = '*' :: back ∧ Plain back ∧ '/' ∉ back := by
  have each : ∀ pattern ∈ namePatterns, pattern = "test_*.py" ∨
      pattern.toList = '*' :: pattern.toList.tail ∧ Plain pattern.toList.tail ∧
        '/' ∉ pattern.toList.tail := by
    decide
  intro pattern listed
  exact (each pattern listed).imp id fun opens => ⟨_, opens⟩

theorem python_eq : "test_*.py".toList = "test_".toList ++ '*' :: ".py".toList := by
  decide

theorem standardPatterns_eq : Settings.standardTestPatterns =
    ["**/test/**", "**/tests/**"] ++ namePatterns.map ("**/" ++ ·) := by
  decide

theorem below_name {pattern : String} (listed : pattern ∈ namePatterns) (path : String) :
    InLanguage AsRead ("**/" ++ pattern).toList (slashed path) ↔
      InLanguage AsWritten pattern.toList (fileName path) ∨
        pattern = "test_*.py" ∧ BelowTestName path := by
  rw [String.toList_append]
  rcases namePattern_cases pattern listed with rfl | ⟨back, opens, plain, free⟩
  · rw [python_eq, below_iff (by decide) (by decide) (by decide) (by decide)]
    exact or_congr_right ⟨fun below => ⟨rfl, below⟩, And.right⟩
  · have other : pattern ≠ "test_*.py" := by
      rintro rfl
      have star : "test_*.py".toList.head? = some '*' := by rw [opens]; rfl
      exact absurd star (by decide)
    rw [opens, below_ending plain free]
    exact (or_iff_left fun both => other both.1).symm

theorem isTest_standard (path : String) :
    isTest Settings.standardTestPatterns path = true ↔
      InTestFolder path ∨ NamedAsTest path ∨ BelowTestName path := by
  have test : InLanguage AsRead "**/test/**".toList (slashed path) ↔
      "test".toList ∈ folders path :=
    below_folder "test".toList (by decide) (by decide) (by decide) path
  have tests : InLanguage AsRead "**/tests/**".toList (slashed path) ↔
      "tests".toList ∈ folders path :=
    below_folder "tests".toList (by decide) (by decide) (by decide) path
  rw [isTest_iff, standardPatterns_eq]
  constructor
  · rintro ⟨pattern, listed, belongs⟩
    rcases List.mem_append.mp listed with folder | named
    · rcases List.mem_cons.mp folder with rfl | later
      · exact Or.inl ⟨_, test.mp belongs, Or.inl rfl⟩
      · rw [List.mem_singleton.mp later] at belongs
        exact Or.inl ⟨_, tests.mp belongs, Or.inr rfl⟩
    · obtain ⟨name, member, rfl⟩ := List.mem_map.mp named
      rcases (below_name member path).mp belongs with own | ⟨-, below⟩
      · exact Or.inr (Or.inl ⟨name, member, own⟩)
      · exact Or.inr (Or.inr below)
  · have named : ∀ {name : String}, name ∈ namePatterns →
        "**/" ++ name ∈ ["**/test/**", "**/tests/**"] ++ namePatterns.map ("**/" ++ ·) :=
      fun member => List.mem_append_right _ (List.mem_map_of_mem member)
    rintro (⟨folder, listed, rfl | rfl⟩ | ⟨name, member, own⟩ | below)
    · exact ⟨_, List.mem_cons_self, test.mpr listed⟩
    · exact ⟨_, List.mem_cons_of_mem _ List.mem_cons_self, tests.mpr listed⟩
    · exact ⟨_, named member, (below_name member path).mpr (Or.inl own)⟩
    · have python : "test_*.py" ∈ namePatterns := by decide
      exact ⟨_, named python, (below_name python path).mpr (Or.inr ⟨rfl, below⟩)⟩

theorem not_namedAsTest {path : String} (front : ¬"test_".toList <+: fileName path)
    (back : ∀ pattern ∈ namePatterns, ¬pattern.toList.tail <:+ fileName path) :
    ¬NamedAsTest path := by
  rintro ⟨pattern, listed, belongs⟩
  rcases namePattern_cases pattern listed with rfl | ⟨ending, opens, plain, -⟩
  · rw [python_eq, Glob.in_name (by decide) (by decide)] at belongs
    obtain ⟨middle, same⟩ := belongs
    rw [same, List.append_assoc] at front
    exact front (List.prefix_append _ _)
  · rw [opens, Glob.in_ending plain] at belongs
    have missing := back pattern listed
    rw [opens] at missing
    exact missing belongs

/-- By the standard patterns a file counts as a test exactly if one of its folders is called test
or tests, or its name alone is that of a test, or it is a Python file and the name of one of its
folders begins as the names of test files do. So the folders for tests and the names of test files
decide alone for all paths but those to which only the last applies. -/
theorem standard_patterns_told (path : String) :
    (isTest Settings.standardTestPatterns path = true ↔
      InTestFolder path ∨ NamedAsTest path ∨ BelowTestName path) ∧
    ((isTest Settings.standardTestPatterns path = true ↔ InTestFolder path ∨ NamedAsTest path) ↔
      (BelowTestName path → InTestFolder path ∨ NamedAsTest path)) := by
  refine ⟨isTest_standard path, ?_⟩
  rw [isTest_standard, ← or_assoc]
  constructor
  · exact fun same below => same.mp (Or.inr below)
  · exact fun covered => or_iff_left_of_imp covered

/-- A production file is taken for a test because of the name of its folder. -/
theorem standard_patterns_mislead :
    isTest Settings.standardTestPatterns "test_data/Main.py" = true ∧
      ¬(InTestFolder "test_data/Main.py" ∨ NamedAsTest "test_data/Main.py") := by
  have listed : "test_data".toList ∈ folders "test_data/Main.py" := by decide
  have outside : ¬InTestFolder "test_data/Main.py" := by
    unfold InTestFolder
    decide
  have named : ¬NamedAsTest "test_data/Main.py" := not_namedAsTest (by decide) (by decide)
  exact ⟨(isTest_standard _).mpr (Or.inr (Or.inr ⟨⟨_, listed, by decide⟩, by decide⟩)),
    not_or.mpr ⟨outside, named⟩⟩

end TestFile
end ChangeRelay
