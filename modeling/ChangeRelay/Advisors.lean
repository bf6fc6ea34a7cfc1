import ChangeRelay.Exclusion
import ChangeRelay.Glob
import ChangeRelay.Settings

/-!
The collaborators of a relay: who excludes paths, who knows sub-projects, who detects languages and
who tells test files. The order of language providers matters, the first answer is kept.
-/
namespace ChangeRelay

structure Hierarchy where
  isPart : Project → Except Failure Bool
  subProjects : Project → Except Failure (List Project)

/-- Answers null where it has no opinion. -/
structure LanguageDetector where
  name : String
  language : FileView → Except Failure Value

abbrev TestClassifier := FileView → Except Failure Value

/-- Where a URI is stored locally, none for what has no local file. -/
abbrev Resolver := Value → Except Failure (Option Path)

namespace LanguageDetector

def bySuffix (table : List (String × Value)) : LanguageDetector where
  name := "ExtensionLanguageProvider"
  language view := .ok ((table.lookup (Language.suffixOf view.name)).getD .null)

def standardTable : List (String × Value) :=
  Language.suffixes.map fun (suffix, language) => (suffix, .text language.name)

end LanguageDetector

namespace TestFile

def isTest (patterns : List String) (relativePath : String) : Bool :=
  let path := '/' :: relativePath.toList.dropWhile (· == '/')
  patterns.any fun pattern => Glob.covers (Glob.parse pattern.toList) path

def byPatterns (patterns : List String) : TestClassifier := fun view =>
  .ok (.bool (isTest patterns view.relativePath))

end TestFile

structure Advisors where
  exclusions : List Exclusion.Provider
  hierarchies : List Hierarchy
  languages : List LanguageDetector
  isTest : TestClassifier

namespace Advisors

def standard : Advisors := ⟨[], [], [], TestFile.byPatterns Settings.standardTestPatterns⟩

end Advisors
end ChangeRelay
