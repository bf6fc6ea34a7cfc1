import ChangeRelay.Settings

/-!
Configuration files: the scanner's own files, known by the end of their names, and the JSON files
below the configuration folder. The latter are found by a small pattern that is matched by trying
all lengths of its open part, case being ignored.
-/
namespace ChangeRelay.ConfigFile

/-- One part of a pattern: a character in any case, a text without line breaks, or the end, before
which one line break may stand. -/
inductive PatternItem where
  | char (c : Char)
  | anyInLine
  | atEnd
  deriving DecidableEq, Repr

def runs (rest : List Char → Bool) : List Char → Bool
  | [] => rest []
  | c :: text => rest (c :: text) || (c != '\n' && runs rest text)

def matchesAt : List PatternItem → List Char → Bool
  | [], _ => true
  | .char _ :: _, [] => false
  | .char c :: items, d :: text => Text.sameIgnoringCase c d && matchesAt items text
  | .anyInLine :: items, text => runs (matchesAt items) text
  | .atEnd :: items, text => (text == [] || text == ['\n']) && matchesAt items text

def folderPattern (settings : Settings) : List PatternItem :=
  settings.configFolder.toList.map .char ++ .char '/' :: .anyInLine ::
    ".json".toList.map .char ++ [.atEnd]

def isFolderJson (settings : Settings) (relativePath : String) : Bool :=
  matchesAt (folderPattern settings) relativePath.toList

def isScannerConfig (settings : Settings) (fileName : String) : Bool :=
  settings.scannerConfigFileNames.any fun ending => ending.toList.isSuffixOf fileName.toList

def isConfigFile (settings : Settings) (fileName relativePath : String) : Bool :=
  isScannerConfig settings fileName || isFolderJson settings relativePath

end ChangeRelay.ConfigFile
