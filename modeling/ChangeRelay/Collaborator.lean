import ChangeRelay.Failure
import ChangeRelay.Value

/-!
Which collaborator an object can serve as. An object is known by its members; it can serve in a role
if it has every member that the role asks for, under that very name and with a value. Only providers
and classifiers are told apart in this way.
-/
namespace ChangeRelay.Collaborator

inductive Role where
  | exclusions
  | hierarchy
  | language
  | testFiles
  | project
  | file
  | resource
  | delta
  | storage
  | receiver
  deriving DecidableEq, Repr

namespace Role

def all : List Role :=
  [.exclusions, .hierarchy, .language, .testFiles, .project, .file, .resource, .delta, .storage,
    .receiver]

def name : Role → String
  | .exclusions => "ExclusionProvider"
  | .hierarchy => "HierarchyProvider"
  | .language => "LanguageProvider"
  | .testFiles => "TestFileClassifier"
  | .project => "Project"
  | .file => "WorkspaceFile"
  | .resource => "Resource"
  | .delta => "ResourceDelta"
  | .storage => "StorageResolver"
  | .receiver => "FileService"

def named? (name : String) : Option Role := all.find? (·.name == name)

/-- The members that a role asks for, if objects can be checked for it. -/
def members? : Role → Option (List String)
  | .exclusions => some ["get_exclusions"]
  | .hierarchy => some ["part_of_hierarchy", "get_sub_projects"]
  | .language => some ["language"]
  | .testFiles => some ["is_test"]
  | _ => none

end Role

abbrev Members := List (String × Value)

def hasMember (object : Members) (name : String) : Bool :=
  match object.lookup name with
  | none | some .null => false
  | some _ => true

def serves (object : Members) (role : Role) : Except Failure Bool :=
  match role.members? with
  | none => .error .notCheckable
  | some names => .ok (names.all (hasMember object))

inductive Supplied where
  | suffixLanguages
  | globTests
  | staticExclusions
  | nestedHierarchy
  | advisors
  | workspace
  | storageResolver
  | loggingService
  deriving DecidableEq, Repr

def Supplied.roles : Supplied → List Role
  | .suffixLanguages => [.language]
  | .globTests => [.testFiles]
  | .staticExclusions => [.exclusions]
  | .nestedHierarchy => [.hierarchy]
  | .storageResolver => [.storage]
  | .loggingService => [.receiver]
  | .advisors | .workspace => []

def Supplied.members (supplied : Supplied) : Members :=
  (supplied.roles.flatMap fun role => role.members?.getD []).map fun name => (name, .text "method")

end ChangeRelay.Collaborator
