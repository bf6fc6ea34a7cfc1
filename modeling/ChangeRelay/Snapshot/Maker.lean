import ChangeRelay.ConfigFile
import ChangeRelay.Advisors
import ChangeRelay.Snapshot
import ChangeRelay.Storage

/-!
Making the snapshot of a file. The local path is looked up first; content is read if there is none
or if the file is a configuration file; then come test kind, charset and language. A collaborator
that fails costs no more than its own field. All language providers are asked, the first answer is
kept and every later answer that differs from it is noted.
-/
namespace ChangeRelay.Snapshot

structure Maker where
  settings : Settings
  advisors : Advisors
  resolver : Resolver

structure Noted (α : Type) where
  value : α
  notices : List Notice

/-- What a collaborator answered, or a substitute and a note of its failure. -/
def orElse {α : Type} (answer : Except Failure α) (substitute : α) (notice : Failure → Notice) :
    Noted α :=
  match answer with
  | .ok value => ⟨value, []⟩
  | .error failure => ⟨substitute, [notice failure]⟩

/-- The answer kept so far, null for none, and the notes made about later ones. -/
def askLanguages (view : FileView) : Value → List LanguageDetector → Noted Value
  | kept, [] => ⟨kept, []⟩
  | kept, provider :: more =>
    match provider.language view with
    | .error failure =>
      let rest := askLanguages view kept more
      ⟨rest.value, .languageFailed view.uri provider.name failure :: rest.notices⟩
    | .ok answer =>
      if answer = .null then askLanguages view kept more
      else if kept = .null then askLanguages view answer more
      else if answer.agrees kept then askLanguages view kept more
      else
        let rest := askLanguages view kept more
        ⟨rest.value, .languagesConflict view.name kept answer :: rest.notices⟩

def firstLanguage (providers : List LanguageDetector) (view : FileView) : Noted Value :=
  askLanguages view .null providers

def storageResolver : Resolver
  | .text uri =>
    (Storage.locate uri).mapError fun refusal => .unresolvable uri refusal.reason
  | _ => .error .uriIsNoText

def isConfigFile (maker : Maker) (view : FileView) : Bool :=
  ConfigFile.isConfigFile maker.settings view.name view.relativePath

def make (maker : Maker) (view : FileView) : Noted (Except Failure Snapshot) :=
  let localPath := orElse (maker.resolver view.uri) none (.pathUnknown view.uri)
  let content : Noted Value :=
    if localPath.value.isNone || isConfigFile maker view then
      orElse view.document .null (.contentUnread view.uri)
    else ⟨.null, []⟩
  let isTest := orElse (maker.advisors.isTest view) (.bool false) (.testUnknown view.uri)
  let charset := orElse view.charset .null (.charsetUnread view.uri)
  let language := firstLanguage maker.advisors.languages view
  let draft : Draft :=
    ⟨view.uri, .text view.relativePath, view.project.scope, isTest.value, charset.value,
      localPath.value, content.value, language.value⟩
  ⟨(ofDraft draft).mapError .invalid,
    localPath.notices ++ content.notices ++ isTest.notices ++ charset.notices ++ language.notices⟩

end ChangeRelay.Snapshot
