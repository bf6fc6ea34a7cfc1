import ChangeRelay.Validation

/-!
A snapshot: what the receiver is told about one file. A snapshot is made from dynamic values; every
field is checked, and all faults are reported in the order of the fields. As a record, a snapshot
names its fields in camel case; reading a record accepts plain names as well.
-/
namespace ChangeRelay

structure Snapshot where
  uri : String
  /-- Path relative to the project with this scope. -/
  relativePath : String
  scope : String
  isTest : Bool
  charset : Option String
  /-- The local file, if there is one. -/
  localPath : Option Path
  /-- Embedded content. -/
  content : Option String
  language : Option Language
  isUserDefined : Bool
  deriving DecidableEq, Repr

namespace Snapshot

open Validation (Checked both inStep fieldUnder required text boolean path nullOr)

structure Draft where
  uri : Value
  relativePath : Value
  scope : Value
  isTest : Value
  charset : Value
  localPath : Option Path
  content : Value
  language : Value

def names : List (String × String) :=
  [("uri", "uri"), ("ideRelativePath", "ide_relative_path"), ("configScopeId", "config_scope_id"),
    ("isTest", "is_test"), ("charset", "charset"), ("fsPath", "fs_path"), ("content", "content"),
    ("detectedLanguage", "detected_language"), ("isUserDefined", "is_user_defined")]

def namedFields (fields : Checked (String × String × String × Bool × Option String × Option Path ×
    Option String × Option Language × Bool)) : Checked Snapshot :=
  fields.map fun (uri, relativePath, scope, isTest, charset, localPath, content, language, user) =>
    ⟨uri, relativePath, scope, isTest, charset, localPath, content, language, user⟩

def ofDraft (draft : Draft) : Checked Snapshot :=
  let field {α : Type} (name : String) (read : Value → Checked α) (value : Value) : Checked α :=
    inStep (.field name) (read value)
  namedFields <|
    both (field "uri" text draft.uri) <|
    both (field "ide_relative_path" text draft.relativePath) <|
    both (field "config_scope_id" text draft.scope) <|
    both (field "is_test" boolean draft.isTest) <|
    both (field "charset" (nullOr text) draft.charset) <|
    both (.ok draft.localPath) <|
    both (field "content" (nullOr text) draft.content) <|
    both (field "detected_language" (nullOr Validation.language) draft.language) (.ok true)

def ofRecord (record : List (String × Value)) : Checked Snapshot :=
  namedFields <|
    both (fieldUnder record ("uri", "uri") required text) <|
    both (fieldUnder record ("ideRelativePath", "ide_relative_path") required text) <|
    both (fieldUnder record ("configScopeId", "config_scope_id") required text) <|
    both (fieldUnder record ("isTest", "is_test") required boolean) <|
    both (fieldUnder record ("charset", "charset") required (nullOr text)) <|
    both (fieldUnder record ("fsPath", "fs_path") (.ok none) (nullOr path)) <|
    both (fieldUnder record ("content", "content") (.ok none) (nullOr text)) <|
    both (fieldUnder record ("detectedLanguage", "detected_language") (.ok none)
      (nullOr Validation.language)) <|
    fieldUnder record ("isUserDefined", "is_user_defined") (.ok true) boolean

def ofValue : Value → Checked Snapshot
  | .record fields => ofRecord fields
  | _ => Validation.fail (.noModel "FileSnapshot")

def optionalText : Option String → Value
  | none => .null
  | some text => .text text

def toValue (snapshot : Snapshot) : Value :=
  .record [("uri", .text snapshot.uri), ("ideRelativePath", .text snapshot.relativePath),
    ("configScopeId", .text snapshot.scope), ("isTest", .bool snapshot.isTest),
    ("charset", optionalText snapshot.charset),
    ("fsPath", optionalText (snapshot.localPath.map Path.text)),
    ("content", optionalText snapshot.content),
    ("detectedLanguage", optionalText (snapshot.language.map Language.name)),
    ("isUserDefined", .bool snapshot.isUserDefined)]

end Snapshot
end ChangeRelay
