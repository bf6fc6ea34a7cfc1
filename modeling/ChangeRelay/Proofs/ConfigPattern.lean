import ChangeRelay.ConfigFile
import Mathlib.Data.List.Forall2

/-!
Which files are configuration files. The pattern for JSON files is written as a text, in which every
character of the folder's name that could mean something else is escaped; read as a pattern, it is
the one that paths are matched against. What that pattern matches is told without any matching.
-/
namespace ChangeRelay

namespace Text

theorem mappedPoint_above {bound point : Nat} {ranges : List (Nat × Nat × Nat × Int)}
    (above : ∀ range ∈ ranges, (bound : Int) < range.1 + range.2.2.2) (apart : point ≠ bound) :
    mappedPoint point ranges ≠ bound := by
  induction ranges with
  | nil => exact apart
  | cons range more ih =>
    obtain ⟨first, last, step, distance⟩ := range
    have here := above _ List.mem_cons_self
    rw [mappedPoint]
    split
    · rename_i inside
      dsimp only at here
      omega
    · exact ih fun other listed => above other (List.mem_cons_of_mem _ listed)

theorem siblingPoint_slash {point : Nat} (same : siblingPoint point = '/'.toNat) :
    point = '/'.toNat := by
  rw [siblingPoint] at same
  split at same
  · rename_i found
    have others : ∀ pair ∈ caseSiblings, pair.2 ≠ '/'.toNat := by decide
    exact absurd same (others _ (List.mem_of_find?_eq_some found))
  · exact same

theorem lowerChar_slash {c : Char} (same : lowerChar c = '/') : c = '/' := by
  rw [lowerChar] at same
  split at same
  · rename_i small
    have all : ∀ point < 0x80, (Char.ofNat point).toLower = '/' → Char.ofNat point = '/' := by
      decide
    have here := all c.toNat small
    rw [Char.ofNat_toNat] at here
    exact here same
  · rename_i large
    have apart : c.toNat ≠ '/'.toNat := fun equal => large (by rw [equal]; decide)
    have above : ∀ range ∈ lowerRuns, ('/'.toNat : Int) < range.1 + range.2.2.2 := by
      decide +kernel
    have mapped := mappedPoint_above above apart
    generalize mappedPoint c.toNat lowerRuns = point at same mapped
    by_cases valid : point.isValidChar
    · have code : (Char.ofNat point).toNat = point := by
        rw [Char.ofNat, dif_pos valid]
        rfl
      exact absurd (code.symm.trans (congrArg Char.toNat same)) mapped
    · rw [Char.ofNat, dif_neg valid] at same
      exact absurd same (by decide)

theorem sameIgnoringCase_slash (c : Char) : sameIgnoringCase '/' c = true ↔ c = '/' := by
  constructor
  · intro same
    have keys : caseKey '/' = caseKey c := by simpa [sameIgnoringCase] using same
    have slash : caseKey '/' = '/'.toNat := by decide
    have lower := siblingPoint_slash (keys.symm.trans slash)
    exact lowerChar_slash (Char.toNat_inj.mp lower)
  · rintro rfl
    simp [sameIgnoringCase]

end Text

namespace ConfigFile

open Text (sameIgnoringCase)

def meaningful : List Char :=
  ['.', '^', '$', '*', '+', '?', '(', ')', '[', '\x7b', '|', '\\']

/-- Reads the text of a pattern behind its beginning. An escaped character stands for itself unless
it is a letter or a digit; `.*` stands for a text without line breaks, `$` for the end. Whatever
else patterns offer is not read. -/
def readItems : List Char → Option (List PatternItem)
  | [] => some []
  | ['$'] => some [.atEnd]
  | '\\' :: c :: rest => if c.isAlphanum then none else (readItems rest).map (.char c :: ·)
  | '.' :: '*' :: rest => (readItems rest).map (.anyInLine :: ·)
  | c :: rest => if meaningful.contains c then none else (readItems rest).map (.char c :: ·)

def readPattern : List Char → Option (List PatternItem)
  | '^' :: rest => readItems rest
  | _ => none

theorem readItems_plain {c : Char} (plain : meaningful.contains c = false) (rest : List Char) :
    readItems (c :: rest) = (readItems rest).map (.char c :: ·) := by
  have apart : ∀ other ∈ meaningful, c ≠ other := by
    rintro other listed rfl
    simp [listed] at plain
  have dollar := apart '$' (by decide)
  have escape := apart '\\' (by decide)
  have dot := apart '.' (by decide)
  rw [readItems.eq_5]
  · simp only [plain, Bool.false_eq_true, if_false]
  all_goals simp_all

theorem readItems_escaped (text rest : List Char) :
    readItems (Settings.escapedForPattern text ++ rest) =
      (readItems rest).map (text.map .char ++ ·) := by
  induction text with
  | nil => simp [Settings.escapedForPattern]
  | cons c more ih =>
    have step : Settings.escapedForPattern (c :: more) =
        (if Settings.specialChars.contains c then ['\\', c] else [c]) ++
          Settings.escapedForPattern more := rfl
    have front : readItems (Settings.escapedForPattern (c :: more) ++ rest) =
        (readItems (Settings.escapedForPattern more ++ rest)).map (.char c :: ·) := by
      rw [step, List.append_assoc]
      by_cases special : Settings.specialChars.contains c = true
      · have plain : (Settings.specialChars.all fun other => !other.isAlphanum) = true := by decide
        have noName : c.isAlphanum = false := by
          simpa using List.all_eq_true.mp plain c (by simpa using special)
        rw [if_pos special, List.cons_append, List.singleton_append, readItems, noName]
        simp only [Bool.false_eq_true, if_false]
      · have escaped : meaningful.all Settings.specialChars.contains = true := by decide
        have free : meaningful.contains c = false := Bool.eq_false_iff.mpr fun listed =>
          special (List.all_eq_true.mp escaped c (by simpa using listed))
        rw [if_neg special, List.singleton_append, readItems_plain free]
    rw [front, ih, Option.map_map]
    rfl

/-- The text of the pattern is read as the pattern that is matched, whatever the folder's name. -/
theorem pattern_read (settings : Settings) :
    readPattern settings.patternText.toList = some (folderPattern settings) := by
  have tail : readItems "/.*\\.json$".toList =
      some (.char '/' :: .anyInLine :: ".json".toList.map .char ++ [.atEnd]) := by decide
  rw [Settings.patternText, String.toList_ofList, List.cons_append, readPattern, readItems_escaped,
    tail, Option.map_some, folderPattern]
  simp

/-- A text character by character, each as it is or in the other case. -/
def InAnyCase (text spelled : List Char) : Prop :=
  List.Forall₂ (fun c d => sameIgnoringCase c d = true) text spelled

theorem matchesAt_chars (chars : List Char) (items : List PatternItem) (text : List Char) :
    matchesAt (chars.map .char ++ items) text = true ↔
      ∃ spelled rest, text = spelled ++ rest ∧ InAnyCase chars spelled ∧
        matchesAt items rest = true := by
  induction chars generalizing text with
  | nil =>
    constructor
    · intro matched
      exact ⟨[], text, rfl, .nil, matched⟩
    · rintro ⟨_, rest, rfl, ⟨⟩, matched⟩
      exact matched
  | cons c more ih =>
    rw [List.map_cons, List.cons_append]
    constructor
    · intro matched
      cases text with
      | nil => simp [matchesAt] at matched
      | cons d tail =>
        rw [matchesAt, Bool.and_eq_true] at matched
        obtain ⟨spelled, rest, rfl, inCase, later⟩ := (ih tail).mp matched.2
        exact ⟨d :: spelled, rest, rfl, .cons matched.1 inCase, later⟩
    · rintro ⟨_, rest, rfl, inCase, later⟩
      cases inCase with
      | cons here others =>
        rw [List.cons_append, matchesAt, Bool.and_eq_true]
        exact ⟨here, (ih _).mpr ⟨_, rest, rfl, others, later⟩⟩

theorem matchesAt_char (c : Char) (items : List PatternItem) (text : List Char) :
    matchesAt (.char c :: items) text = true ↔
      ∃ d rest, text = d :: rest ∧ sameIgnoringCase c d = true ∧ matchesAt items rest = true := by
  cases text with
  | nil => simp [matchesAt]
  | cons d rest => simp [matchesAt]

theorem matchesAt_anyInLine (items : List PatternItem) (text : List Char) :
    matchesAt (.anyInLine :: items) text = true ↔
      ∃ inner rest, text = inner ++ rest ∧ '\n' ∉ inner ∧ matchesAt items rest = true := by
  rw [matchesAt]
  induction text with
  | nil => simp [runs]
  | cons c more ih =>
    rw [runs, Bool.or_eq_true, Bool.and_eq_true, bne_iff_ne, ih]
    constructor
    · rintro (here | ⟨inLine, inner, rest, rfl, free, later⟩)
      · exact ⟨[], c :: more, rfl, List.not_mem_nil, here⟩
      · exact ⟨c :: inner, rest, rfl, List.not_mem_cons_of_ne_of_not_mem inLine.symm free, later⟩
    · rintro ⟨inner, rest, same, free, later⟩
      cases inner with
      | nil =>
        cases same
        exact Or.inl later
      | cons d others =>
        cases same
        rw [List.mem_cons, not_or] at free
        exact Or.inr ⟨Ne.symm free.1, others, rest, rfl, free.2, later⟩

theorem matchesAt_end (text : List Char) :
    matchesAt [.atEnd] text = true ↔ text = [] ∨ text = ['\n'] := by
  simp [matchesAt]

/-- The folder in any case, a slash, anything on the same line, the ending in any case, and possibly
one line break. -/
def NamesFolderJson (settings : Settings) (path : List Char) : Prop :=
  ∃ folder inner ending last, path = folder ++ '/' :: inner ++ ending ++ last ∧
    InAnyCase settings.configFolder.toList folder ∧ '\n' ∉ inner ∧
    InAnyCase ".json".toList ending ∧ (last = [] ∨ last = ['\n'])

theorem folderPattern_matches (settings : Settings) (path : List Char) :
    matchesAt (folderPattern settings) path = true ↔ NamesFolderJson settings path := by
  rw [folderPattern]
  simp only [List.append_assoc, List.cons_append, matchesAt_chars, matchesAt_char,
    matchesAt_anyInLine, matchesAt_end, Text.sameIgnoringCase_slash]
  constructor
  · rintro ⟨folder, _, rfl, inCase, _, _, rfl, rfl, inner, _, rfl, free, ending, last, rfl, json,
      ends⟩
    exact ⟨folder, inner, ending, last, by simp, inCase, free, json, ends⟩
  · rintro ⟨folder, inner, ending, last, rfl, inCase, free, json, ends⟩
    exact ⟨folder, _, by simp, inCase, _, _, rfl, rfl, inner, _, rfl, free, ending, last, rfl,
      json, ends⟩

/-- Whatever the configuration folder is called: the text of its pattern is read as the pattern that
is matched; a path matches exactly if it is the folder in any case, a slash, anything on that line,
`.json` in any case and at most one line break; and a file is a configuration file exactly if its
relative path matches or its name ends with that of a scanner's configuration file. -/
theorem config_files_told (settings : Settings) :
    readPattern settings.patternText.toList = some (folderPattern settings) ∧
    (∀ path : String, isFolderJson settings path = true ↔ NamesFolderJson settings path.toList) ∧
    ∀ name path : String, isConfigFile settings name path = true ↔
      NamesFolderJson settings path.toList ∨
        ∃ ending ∈ settings.scannerConfigFileNames, ∃ front, name = front ++ ending := by
  have json : ∀ path : String,
      isFolderJson settings path = true ↔ NamesFolderJson settings path.toList :=
    fun path => folderPattern_matches settings path.toList
  refine ⟨pattern_read settings, json, ?_⟩
  intro name path
  rw [isConfigFile, Bool.or_eq_true, json, or_comm]
  refine or_congr_right ?_
  simp only [isScannerConfig, List.any_eq_true, List.isSuffixOf_iff_suffix]
  refine exists_congr fun ending => and_congr_right fun _ => ?_
  constructor
  · rintro ⟨front, same⟩
    refine ⟨String.ofList front, String.toList_inj.mp ?_⟩
    rw [String.toList_append, String.toList_ofList, same]
  · rintro ⟨front, rfl⟩
    exact ⟨front.toList, (String.toList_append ..).symm⟩

end ConfigFile
end ChangeRelay
