import ChangeRelay.Snapshot.Maker

/-!
What the fields of a snapshot that was made tell about the file. A value passes its check only as
what it is read as, so the path is the file's, and a configuration file's content is its document.
-/
namespace ChangeRelay

namespace Validation

theorem both_ok_iff {α β : Type} (first : Checked α) (second : Checked β) (a : α) (b : β) :
    both first second = .ok (a, b) ↔ first = .ok a ∧ second = .ok b := by
  cases first <;> cases second <;> simp [both]

theorem inStep_ok_iff {α : Type} (step : Fault.Step) (checked : Checked α) (a : α) :
    inStep step checked = .ok a ↔ checked = .ok a := by
  cases checked <;> simp [inStep]

theorem text_ok_iff (value : Value) (s : String) : text value = .ok s ↔ value = .text s := by
  cases value <;> simp [text, fail]

theorem nullOr_text_ok_iff (value : Value) (found : Option String) :
    nullOr text value = .ok found ↔ value = Snapshot.optionalText found := by
  cases value <;> cases found <;> simp [nullOr, text, fail, Snapshot.optionalText, Except.map]

end Validation

namespace Snapshot

theorem namedFields_ok_iff (fields : Validation.Checked (String × String × String × Bool ×
    Option String × Option Path × Option String × Option Language × Bool)) (snapshot : Snapshot) :
    namedFields fields = .ok snapshot ↔
      fields = .ok (snapshot.uri, snapshot.relativePath, snapshot.scope, snapshot.isTest,
        snapshot.charset, snapshot.localPath, snapshot.content, snapshot.language,
        snapshot.isUserDefined) := by
  cases fields with
  | error faults => simp [namedFields, Except.map]
  | ok all =>
    obtain ⟨uri, relativePath, scope, isTest, charset, localPath, content, language, user⟩ := all
    cases snapshot
    simp [namedFields, Except.map]

theorem ofDraft_shows {draft : Draft} {snapshot : Snapshot} (made : ofDraft draft = .ok snapshot) :
    draft.uri = .text snapshot.uri ∧ draft.relativePath = .text snapshot.relativePath ∧
      draft.scope = .text snapshot.scope ∧ draft.content = optionalText snapshot.content := by
  simp only [ofDraft, namedFields_ok_iff, Validation.both_ok_iff, Validation.inStep_ok_iff,
    Validation.text_ok_iff, Validation.nullOr_text_ok_iff] at made
  exact ⟨made.1, made.2.1, made.2.2.1, made.2.2.2.2.2.2.1⟩

theorem mapError_ok {α β γ : Type} {f : α → β} {answer : Except α γ} {value : γ}
    (made : answer.mapError f = .ok value) : answer = .ok value := by
  cases answer with
  | error failure => cases made
  | ok other =>
    cases made
    rfl

theorem make_ok {maker : Maker} {view : FileView} {snapshot : Snapshot}
    (made : (make maker view).value = .ok snapshot) :
    ∃ draft : Draft, ofDraft draft = .ok snapshot ∧ draft.uri = view.uri ∧
      draft.relativePath = .text view.relativePath ∧ draft.scope = view.project.scope ∧
      (isConfigFile maker view = true → ∀ value, view.document = .ok value →
        draft.content = value) := by
  refine ⟨_, mapError_ok made, rfl, rfl, rfl, ?_⟩
  intro isConfig value read
  simp [isConfig, read, orElse]

theorem make_relativePath {maker : Maker} {view : FileView} {snapshot : Snapshot}
    (made : (make maker view).value = .ok snapshot) :
    snapshot.relativePath = view.relativePath := by
  obtain ⟨draft, passed, -, path, -⟩ := make_ok made
  have shown := (ofDraft_shows passed).2.1
  rw [path] at shown
  exact (Value.text.inj shown).symm

theorem make_source {maker : Maker} {view : FileView} {snapshot : Snapshot}
    (made : (make maker view).value = .ok snapshot) :
    view.uri = .text snapshot.uri ∧ view.project.scope = .text snapshot.scope := by
  obtain ⟨draft, passed, uri, -, scope, -⟩ := make_ok made
  have shown := ofDraft_shows passed
  rw [← uri, ← scope]
  exact ⟨shown.1, shown.2.2.1⟩

/-- A configuration file's snapshot has the document, whether or not there is a local file. -/
theorem make_content {maker : Maker} {view : FileView} {snapshot : Snapshot}
    (made : (make maker view).value = .ok snapshot)
    (isConfig : ConfigFile.isFolderJson maker.settings snapshot.relativePath = true) (value : Value)
    (read : view.document = .ok value) : value = optionalText snapshot.content := by
  rw [make_relativePath made] at isConfig
  have wanted : isConfigFile maker view = true := by
    simp [isConfigFile, ConfigFile.isConfigFile, isConfig]
  obtain ⟨draft, passed, -, -, -, content⟩ := make_ok made
  rw [← content wanted value read]
  exact (ofDraft_shows passed).2.2.2

end Snapshot

end ChangeRelay
