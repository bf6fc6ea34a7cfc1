import ChangeRelay.Validation

/-!
Settings of a relay. Every setting has a value to fall back on; unknown names are ignored. Once
made, settings never change.
-/
namespace ChangeRelay

open Number (Binary64)

structure Settings where
  configFolder : String
  scannerConfigFileNames : List String
  vcsFolders : List String
  toolingFolders : List String
  testFilePatterns : List String
  workerName : String
  /-- Seconds to wait for pending work on closing, none for any time. -/
  flushTimeout : Option Binary64
  /-- Milliseconds. -/
  watchDebounce : Nat
  deriving DecidableEq, Repr

namespace Settings

def standardTestPatterns : List String :=
  ["**/test/**", "**/tests/**", "**/*Test.java", "**/*Tests.java", "**/test_*.py", "**/*_test.py",
    "**/*_test.go", "**/*.spec.ts", "**/*.test.ts", "**/*.spec.js", "**/*.test.js"]

def standard : Settings where
  configFolder := ".sonarlint"
  scannerConfigFileNames := ["sonar-project.properties", ".sonarcloud.properties"]
  vcsFolders := [".git", ".svn", ".hg", ".bzr", "CVS", "_darcs"]
  toolingFolders := ["node_modules"]
  testFilePatterns := standardTestPatterns
  workerName := "workspace-sync"
  flushTimeout := some (Binary64.ofNat 30)
  watchDebounce := 100

def ignoredFolders (settings : Settings) : List String :=
  settings.vcsFolders ++ settings.toolingFolders

open Validation in
def ofRecord (record : List (String × Value)) : Checked Settings :=
  let setting {α : Type} (name : String) (fallback : α) (read : Value → Checked α) :=
    fieldOr record name fallback read
  (both (setting "config_folder" standard.configFolder text)
    (both (setting "scanner_config_filenames" standard.scannerConfigFileNames tupleOfTexts)
      (both (setting "vcs_folders" standard.vcsFolders tupleOfTexts)
        (both (setting "tooling_folders" standard.toolingFolders tupleOfTexts)
          (both (setting "test_file_patterns" standard.testFilePatterns tupleOfTexts)
            (both (setting "worker_thread_name" standard.workerName text)
              (both (setting "flush_timeout" standard.flushTimeout (nullOr realAboveZero))
                (setting "watch_debounce" standard.watchDebounce wholeFromZero)))))))).map
    fun (folder, scanners, vcs, tooling, tests, worker, timeout, debounce) =>
      ⟨folder, scanners, vcs, tooling, tests, worker, timeout, debounce⟩

def ofValue : Value → Validation.Checked Settings
  | .record fields => ofRecord fields
  | _ => Validation.fail (.noModel "SyncConfig")

def toRecord (settings : Settings) : List (String × Value) :=
  let texts (items : List String) : Value := .list (items.map .text)
  [("config_folder", .text settings.configFolder),
    ("scanner_config_filenames", texts settings.scannerConfigFileNames),
    ("vcs_folders", texts settings.vcsFolders),
    ("tooling_folders", texts settings.toolingFolders),
    ("test_file_patterns", texts settings.testFilePatterns),
    ("worker_thread_name", .text settings.workerName),
    ("flush_timeout", match settings.flushTimeout with
      | some seconds => .real seconds
      | none => .null),
    ("watch_debounce", .int settings.watchDebounce)]

def assign (_ : Settings) (name : String) : Validation.Checked Settings :=
  Validation.inStep (.field name) (Validation.fail .frozen)

def specialChars : List Char :=
  ['(', ')', '[', ']', '\x7b', '\x7d', '?', '*', '+', '-', '|', '^', '$', '\\', '.', '&', '~',
    '#', ' ', '\t', '\n', '\r', '\x0b', '\x0c']

def escapedForPattern (text : List Char) : List Char :=
  text.flatMap fun c => if specialChars.contains c then ['\\', c] else [c]

def patternText (settings : Settings) : String :=
  String.ofList ('^' :: escapedForPattern settings.configFolder.toList ++ "/.*\\.json$".toList)

end Settings
end ChangeRelay
