import ChangeRelay.Snapshot.Maker

/-!
A snapshot field by field. Every field that a collaborator fills is that collaborator's answer, or
what stands for no answer if the collaborator failed; the other fields are the file's own. Making a
snapshot does not fail as long as all answers are of their declared types: a collaborator may fail,
but it does not answer something else. Then each field passes its own check.
-/
namespace ChangeRelay

/-- Collaborators that fail or answer a truth value, and a known language or null. -/
structure Advisors.Typed (advisors : Advisors) : Prop where
  isTest : ∀ view answer, advisors.isTest view = .ok answer → ∃ truth, answer = .bool truth
  languages : ∀ detector ∈ advisors.languages, ∀ view answer, detector.language view = .ok answer →
    answer = .null ∨ ∃ language : Language, answer = .text language.name

structure FileView.Typed (view : FileView) (uri scope : String) : Prop where
  uri : view.uri = .text uri
  scope : view.project.scope = .text scope
  charset : ∀ answer, view.charset = .ok answer → ∃ name, answer = .text name
  document : ∀ answer, view.document = .ok answer → ∃ text, answer = .text text

namespace Snapshot

theorem named_name (language : Language) : Language.named? language.name = some language := by
  cases language <;> decide

def languageValue (language : Option Language) : Value := optionalText (language.map Language.name)

theorem read_optionalText (text : Option String) :
    Validation.nullOr Validation.text (optionalText text) = .ok text := by
  cases text <;> rfl

theorem read_language (language : Option Language) :
    Validation.nullOr Validation.language (languageValue language) = .ok language := by
  cases language with
  | none => rfl
  | some language =>
    have named : Validation.language (.text language.name) = .ok language := by
      simp [Validation.language, named_name]
    simp only [languageValue, optionalText, Option.map_some, Validation.nullOr, named]
    rfl

theorem ofDraft_ok (uri relativePath scope : String) (isTest : Bool)
    (charset content : Option String) (localPath : Option Path) (language : Option Language) :
    ofDraft ⟨.text uri, .text relativePath, .text scope, .bool isTest, optionalText charset,
        localPath, optionalText content, languageValue language⟩ =
      .ok ⟨uri, relativePath, scope, isTest, charset, localPath, content, language, true⟩ := by
  simp only [ofDraft, read_optionalText, read_language]
  rfl

/-- The first opinion among the answers of the providers that do not fail, null if there is none. -/
def firstOpinion (view : FileView) (detectors : List LanguageDetector) : Value :=
  let answers := detectors.filterMap fun detector => (detector.language view).toOption
  (answers.find? fun answer => answer != .null).getD .null

def embedded (maker : Maker) (view : FileView) : Value :=
  if (maker.resolver view.uri).toOption.getD none = none ∨ isConfigFile maker view = true then
    view.document.toOption.getD .null
  else .null

/-- A snapshot whose fields are what the file shows and what the collaborators answered. -/
structure Tells (maker : Maker) (view : FileView) (snapshot : Snapshot) : Prop where
  uri : view.uri = .text snapshot.uri
  relativePath : snapshot.relativePath = view.relativePath
  scope : view.project.scope = .text snapshot.scope
  isTest : .bool snapshot.isTest = (maker.advisors.isTest view).toOption.getD (.bool false)
  charset : optionalText snapshot.charset = view.charset.toOption.getD .null
  localPath : snapshot.localPath = (maker.resolver view.uri).toOption.getD none
  content : optionalText snapshot.content = embedded maker view
  language : languageValue snapshot.language = firstOpinion view maker.advisors.languages
  isUserDefined : snapshot.isUserDefined = true

theorem orElse_value {α : Type} (answer : Except Failure α) (substitute : α)
    (notice : Failure → Notice) :
    (orElse answer substitute notice).value = answer.toOption.getD substitute := by
  cases answer <;> rfl

theorem askLanguages_value (view : FileView) (detectors : List LanguageDetector) (kept : Value) :
    (askLanguages view kept detectors).value =
      if kept = .null then firstOpinion view detectors else kept := by
  induction detectors generalizing kept with
  | nil =>
    unfold askLanguages firstOpinion
    split
    · assumption
    · rfl
  | cons detector rest ih =>
    unfold askLanguages
    cases told : detector.language view with
    | error failure =>
      have passed : firstOpinion view (detector :: rest) = firstOpinion view rest := by
        simp [firstOpinion, told, Except.toOption]
      simp only [ih, passed]
    | ok answer =>
      by_cases silent : answer = .null
      · have passed : firstOpinion view (detector :: rest) = firstOpinion view rest := by
          simp [firstOpinion, told, Except.toOption, silent]
        simp only [silent, if_true, ih, passed]
      · have taken : firstOpinion view (detector :: rest) = answer := by
          simp [firstOpinion, told, Except.toOption, silent]
        by_cases first : kept = .null
        · simp only [first, silent, if_true, if_false, ih, taken]
        · -- a later answer changes the notes at most
          simp only [first, silent, if_false]
          split <;> simp only [ih, first, if_false]

def draftOf (maker : Maker) (view : FileView) : Draft where
  uri := view.uri
  relativePath := .text view.relativePath
  scope := view.project.scope
  isTest := (maker.advisors.isTest view).toOption.getD (.bool false)
  charset := view.charset.toOption.getD .null
  localPath := (maker.resolver view.uri).toOption.getD none
  content := embedded maker view
  language := firstOpinion view maker.advisors.languages

theorem make_value (maker : Maker) (view : FileView) :
    (make maker view).value = (ofDraft (draftOf maker view)).mapError .invalid := by
  have content : ∀ notice, (if ((maker.resolver view.uri).toOption.getD none).isNone ||
      isConfigFile maker view then orElse view.document .null notice else ⟨.null, []⟩ :
      Noted Value).value = embedded maker view := by
    intro notice
    unfold embedded
    by_cases wanted : (maker.resolver view.uri).toOption.getD none = none ∨
        isConfigFile maker view = true
    · rw [if_pos wanted, if_pos (by simpa using wanted), orElse_value]
    · rw [if_neg wanted, if_neg (by simpa using wanted)]
  simp only [make, orElse_value, content, firstLanguage, askLanguages_value, if_true]
  rfl

theorem answered_text {answer : Except Failure Value}
    (typed : ∀ value, answer = .ok value → ∃ text, value = .text text) :
    ∃ text, answer.toOption.getD .null = optionalText text := by
  cases answer with
  | error failure => exact ⟨none, rfl⟩
  | ok value =>
    obtain ⟨text, same⟩ := typed value rfl
    exact ⟨some text, same⟩

theorem answered_truth {answer : Except Failure Value}
    (typed : ∀ value, answer = .ok value → ∃ truth, value = .bool truth) :
    ∃ truth, answer.toOption.getD (.bool false) = .bool truth := by
  cases answer with
  | error failure => exact ⟨false, rfl⟩
  | ok value =>
    obtain ⟨truth, same⟩ := typed value rfl
    exact ⟨truth, same⟩

theorem embedded_text (maker : Maker) {view : FileView} {uri scope : String}
    (shown : view.Typed uri scope) : ∃ text, embedded maker view = optionalText text := by
  unfold embedded
  split
  · exact answered_text shown.document
  · exact ⟨none, rfl⟩

theorem firstOpinion_typed {view : FileView} {detectors : List LanguageDetector}
    (typed : ∀ detector ∈ detectors, ∀ answer, detector.language view = .ok answer →
      answer = .null ∨ ∃ language : Language, answer = .text language.name) :
    ∃ language, firstOpinion view detectors = languageValue language := by
  cases found : (detectors.filterMap fun detector => (detector.language view).toOption).find?
      fun answer => answer != .null with
  | none =>
    refine ⟨none, ?_⟩
    simp only [firstOpinion, found]
    rfl
  | some answer =>
    have filled : answer ≠ .null := by simpa using List.find?_some found
    obtain ⟨detector, member, told⟩ := List.mem_filterMap.mp (List.mem_of_find?_eq_some found)
    have answered : detector.language view = .ok answer := by
      cases asked : detector.language view with
      | error failure => simp [asked, Except.toOption] at told
      | ok other => simpa [asked, Except.toOption] using told
    rcases typed detector member answer answered with silent | ⟨language, same⟩
    · exact absurd silent filled
    · refine ⟨some language, ?_⟩
      simp only [firstOpinion, found, same]
      rfl

/-- A snapshot of a file that shows texts is made whatever fails, and tells what was answered. -/
theorem make_tells {maker : Maker} {view : FileView} {uri scope : String}
    (advisors : maker.advisors.Typed) (shown : view.Typed uri scope) :
    ∃ snapshot, (make maker view).value = .ok snapshot ∧ Tells maker view snapshot := by
  obtain ⟨truth, truthIs⟩ := answered_truth (advisors.isTest view)
  obtain ⟨charset, charsetIs⟩ := answered_text shown.charset
  obtain ⟨content, contentIs⟩ := embedded_text maker shown
  obtain ⟨language, languageIs⟩ := firstOpinion_typed
    fun detector member answer => advisors.languages detector member view answer
  refine ⟨⟨uri, view.relativePath, scope, truth, charset,
    (maker.resolver view.uri).toOption.getD none, content, language, true⟩, ?_, ?_⟩
  · rw [make_value, draftOf, shown.uri, shown.scope, truthIs, charsetIs, contentIs, languageIs,
      ofDraft_ok]
    rfl
  · exact ⟨shown.uri, rfl, shown.scope, truthIs.symm, charsetIs.symm, rfl, contentIs.symm,
      languageIs.symm, rfl⟩

theorem make_typed {maker : Maker} {view : FileView} {uri scope : String}
    (advisors : maker.advisors.Typed) (shown : view.Typed uri scope) :
    ∃ isTest charset localPath content language, (make maker view).value =
      .ok ⟨uri, view.relativePath, scope, isTest, charset, localPath, content, language, true⟩ := by
  obtain ⟨snapshot, made, tells⟩ := make_tells advisors shown
  obtain ⟨ownUri, path, ownScope, isTest, charset, localPath, content, language, user⟩ := snapshot
  have sameUri := shown.uri.symm.trans tells.uri
  have sameScope := shown.scope.symm.trans tells.scope
  have samePath := tells.relativePath
  have userDefined := tells.isUserDefined
  simp only [Value.text.injEq] at sameUri sameScope samePath userDefined
  subst sameUri sameScope samePath userDefined
  exact ⟨isTest, charset, localPath, content, language, made⟩

end Snapshot
end ChangeRelay
