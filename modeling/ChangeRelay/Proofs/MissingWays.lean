import ChangeRelay.Proofs.CycleBatch

/-!
What a sub-project costs to which there is no way. Copies are made pair by pair, and the first pair
of a sub-project and a file between which there is no way ends the whole cycle: the file service is
not called at all, although the snapshots of all files were made before. If there is a way for every
pair, the batch goes with all of them.
-/
namespace ChangeRelay

/-- A provider that always answers, with sub-projects whose scopes are texts. -/
structure Hierarchy.Answers (provider : Hierarchy) : Prop where
  isPart : ∀ project, ∃ part, provider.isPart project = .ok part
  subProjects : ∀ project, ∃ found, provider.subProjects project = .ok found ∧
    ∀ subProject ∈ found, ∃ scope, subProject.scope = .text scope

namespace SubProject

/-- Why there is no way to a file, for the first pair of a sub-project and a file without one. -/
def firstObstacle (pairs : List (Project × Snapshot)) : Option Uri.NoRelative :=
  pairs.findSome? fun pair =>
    match Uri.fromTo pair.1.location pair.2.uri with
    | .ok _ => none
    | .error obstacle => some obstacle

def TextScopes (pairs : List (Project × Snapshot)) : Prop :=
  ∀ pair ∈ pairs, ∃ scope, pair.1.scope = .text scope

def copyOf (pair : Project × Snapshot) : Except Failure Snapshot := duplicate pair.1 pair.2

theorem firstObstacle_cons (pair : Project × Snapshot) (rest : List (Project × Snapshot)) :
    firstObstacle (pair :: rest) =
      match Uri.fromTo pair.1.location pair.2.uri with
      | .ok _ => firstObstacle rest
      | .error obstacle => some obstacle := by
  unfold firstObstacle
  rw [List.findSome?_cons]
  cases Uri.fromTo pair.1.location pair.2.uri <;> rfl

theorem texts_rest {pair : Project × Snapshot} {rest : List (Project × Snapshot)}
    (texts : TextScopes (pair :: rest)) : TextScopes rest :=
  fun other member => texts other (List.mem_cons_of_mem _ member)

theorem all_copied {pairs : List (Project × Snapshot)} (texts : TextScopes pairs)
    (free : firstObstacle pairs = none) :
    ∃ copies, List.Forall₂ (fun pair copy => Copies pair.1 pair.2 copy) pairs copies := by
  induction pairs with
  | nil => exact ⟨[], .nil⟩
  | cons pair rest ih =>
    rw [firstObstacle_cons] at free
    obtain ⟨scope, told⟩ := texts pair List.mem_cons_self
    cases found : Uri.fromTo pair.1.location pair.2.uri with
    | error obstacle =>
      rw [found] at free
      cases free
    | ok way =>
      rw [found] at free
      obtain ⟨copies, others⟩ := ih (texts_rest texts) free
      exact ⟨{ pair.2 with relativePath := way.text, scope := scope } :: copies,
        .cons ⟨⟨way, found, rfl⟩, told, rfl⟩ others⟩

/-- What making the copies one after the other fails with is decided by the first pair that has no
way; the pairs behind it do not matter. -/
theorem copying_obstructed {pairs : List (Project × Snapshot)} (texts : TextScopes pairs)
    {obstacle : Uri.NoRelative} (obstructed : firstObstacle pairs = some obstacle) :
    pairs.mapM copyOf = .error (.ofRelative obstacle) := by
  induction pairs with
  | nil => cases obstructed
  | cons pair rest ih =>
    rw [firstObstacle_cons] at obstructed
    rw [List.mapM_cons]
    obtain ⟨scope, told⟩ := texts pair List.mem_cons_self
    cases found : Uri.fromTo pair.1.location pair.2.uri with
    | error other =>
      rw [found] at obstructed
      cases obstructed
      have failed : copyOf pair = .error (.ofRelative obstacle) := by
        simp only [copyOf, duplicate, found]
      rw [failed]
      rfl
    | ok way =>
      rw [found] at obstructed
      have made : copyOf pair = .ok { pair.2 with relativePath := way.text, scope := scope } := by
        simp only [copyOf, duplicate, found, told]
      rw [made, ih (texts_rest texts) obstructed]
      rfl

theorem duplicates_eq (originals : List Snapshot) (subProjects : List Project) :
    duplicates originals subProjects = (pairs originals subProjects).mapM copyOf := by
  induction subProjects with
  | nil => rfl
  | cons subProject rest ih =>
    have own : (originals.map fun original => (subProject, original)).mapM copyOf =
        originals.mapM (duplicate subProject) := by
      rw [List.mapM_map]
      rfl
    have split : pairs originals (subProject :: rest) =
        (originals.map fun original => (subProject, original)) ++ pairs originals rest := rfl
    rw [duplicates, split, List.mapM_append, own, ih]

theorem ask_answering {providers : List Hierarchy}
    (answering : ∀ provider ∈ providers, provider.Answers) (project : Project) :
    ∃ found, ask project providers = .ok found ∧
      ∀ subProject ∈ found, ∃ scope, subProject.scope = .text scope := by
  induction providers with
  | nil => exact ⟨[], rfl, List.forall_mem_nil _⟩
  | cons provider rest ih =>
    obtain ⟨others, asked, texts⟩ :=
      ih fun other member => answering other (List.mem_cons_of_mem _ member)
    have answers := answering provider List.mem_cons_self
    obtain ⟨part, counts⟩ := answers.isPart project
    obtain ⟨own, told, ownTexts⟩ := answers.subProjects project
    cases part with
    | false => exact ⟨others, by simp [ask, bind, Except.bind, counts, asked], texts⟩
    | true =>
      refine ⟨own ++ others, ?_, ?_⟩
      · simp [ask, bind, Except.bind, counts, told, asked, pure, Except.pure]
      · intro subProject member
        rcases List.mem_append.mp member with here | later
        · exact ownTexts subProject here
        · exact texts subProject later

theorem resolve_answering {providers : List Hierarchy}
    (answering : ∀ provider ∈ providers, provider.Answers) (project : Project) :
    ∃ subProjects, resolve project providers = .ok subProjects ∧
      ∀ subProject ∈ subProjects, ∃ scope, subProject.scope = .text scope := by
  obtain ⟨found, asked, texts⟩ := ask_answering answering project
  refine ⟨ChangeList.firstPerScope found, by rw [resolve, asked]; rfl, ?_⟩
  intro subProject member
  rw [ChangeList.firstPerScope_eq] at member
  exact texts subProject (mem_of_mem_eraseDupsBy member)

end SubProject

namespace Sending

variable {φ : Type}

def dueCopies (means : Means φ) (files : List φ) (own : List Snapshot) :
    List (Project × Snapshot) :=
  due (configs means (files.zip own)) (resolved means.hierarchies)

section
variable {means : Means φ} (answering : ∀ provider ∈ means.hierarchies, provider.Answers)
include answering

theorem resolve_resolved (owner : Project) :
    SubProject.resolve owner means.hierarchies = .ok (resolved means.hierarchies owner) := by
  obtain ⟨subProjects, answer, -⟩ := SubProject.resolve_answering answering owner
  rw [answer, resolved_ok answer]

theorem due_texts (files : List φ) (own : List Snapshot) :
    SubProject.TextScopes (dueCopies means files own) := by
  intro pair member
  obtain ⟨owner, -, inOwner⟩ := List.mem_flatMap.mp member
  obtain ⟨subProject, listed, inScope⟩ := List.mem_flatMap.mp inOwner
  obtain ⟨original, -, rfl⟩ := List.mem_map.mp inScope
  obtain ⟨subProjects, answer, texts⟩ := SubProject.resolve_answering answering owner
  rw [resolved_ok answer] at listed
  exact texts subProject listed

theorem duplicateAll_eq (projects : List Project) (snapshots : Project → List Snapshot)
    (notices : List Notice) :
    (duplicateAll means.hierarchies (projects.map fun owner => (owner, snapshots owner))
        notices).1 =
      (projects.flatMap fun owner => SubProject.pairs (snapshots owner)
        (resolved means.hierarchies owner)).mapM SubProject.copyOf := by
  induction projects generalizing notices with
  | nil => rfl
  | cons owner rest ih =>
    rw [List.map_cons, duplicateAll_cons, List.flatMap_cons, List.mapM_append,
      resolve_resolved answering owner, ← SubProject.duplicates_eq]
    simp only [bind, Except.bind, ih]

theorem contents_unobstructed {files : List φ} {own : List Snapshot}
    (made : List.Forall₂ (Made means) files own)
    (free : SubProject.firstObstacle (dueCopies means files own) = none) :
    ∃ copies, Contents means files own copies (resolved means.hierarchies) := by
  obtain ⟨copies, copied⟩ := SubProject.all_copied (due_texts answering files own) free
  refine ⟨copies, made, ?_, copied⟩
  intro owner _
  exact (SubProject.resolve_ok_iff _ _ _).mp (resolve_resolved answering owner)

theorem snapshotsOf_obstructed {files : List φ} {own : List Snapshot}
    (made : List.Forall₂ (Made means) files own) {obstacle : Uri.NoRelative}
    (obstructed : SubProject.firstObstacle (dueCopies means files own) = some obstacle) :
    (snapshotsOf means files).1 = .error (.ofRelative obstacle) := by
  have failed := SubProject.copying_obstructed (due_texts answering files own) obstructed
  rw [snapshotsOf_result, makeAll_made made, addAll_nil, List.nil_append]
  simp only [bind, Except.bind, groupsOf, duplicateAll_eq answering]
  unfold dueCopies due at failed
  rw [failed]

end

/-- With providers that answer and snapshots of all files made, a cycle with changes goes one of two
ways. Either there is a way for each copy that is due, and the file service is called once, with all
places removed, the snapshots of all files and all copies. Or the cycle fails with why there is no
way for the first of them, and the service is not called: what was made for the files is lost. -/
theorem run_needs_every_way {means : Means φ} {changes : ChangeList φ}
    (filled : changes.isEmpty = false) {own : List Snapshot}
    (made : List.Forall₂ (Made means) changes.present own)
    (answering : ∀ provider ∈ means.hierarchies, provider.Answers) :
    (SubProject.firstObstacle (dueCopies means changes.present own) = none →
      ∃ copies, Calls means changes ⟨changes.removed, own ++ copies⟩ ∧
        List.Forall₂ (fun pair copy => SubProject.Copies pair.1 pair.2 copy)
          (dueCopies means changes.present own) copies) ∧
    ∀ obstacle, SubProject.firstObstacle (dueCopies means changes.present own) = some obstacle →
      ∀ service : Receiver,
        (run { means with service := service } changes).result = .error (.ofRelative obstacle) ∧
          (run { means with service := service } changes).delivery = none := by
  constructor
  · intro free
    obtain ⟨copies, contents⟩ := contents_unobstructed answering made free
    have whole := (snapshotsOf_ok_iff means changes.present (own ++ copies)).mpr
      ⟨own, copies, _, contents, rfl⟩
    exact ⟨copies, run_made filled whole, contents.copied⟩
  · intro obstacle obstructed
    exact run_failure filled (snapshotsOf_obstructed answering made obstructed)

def meansWith (subProjects : List Project) : Means FileView :=
  { sampleMeans with hierarchies := [⟨fun _ => .ok true, fun _ => .ok subProjects⟩] }

def related : Project := ⟨"lib", .text "scope:lib", "file:///w/app/lib"⟩
def unrelated : Project := ⟨"core", .text "scope:core", "memory:core"⟩

theorem meansWith_answer {subProjects : List Project}
    (texts : ∀ subProject ∈ subProjects, ∃ scope, subProject.scope = .text scope) :
    ∀ provider ∈ (meansWith subProjects).hierarchies, provider.Answers := by
  intro provider member
  rw [List.mem_singleton.mp member]
  exact ⟨fun _ => ⟨true, rfl⟩, fun _ => ⟨subProjects, rfl, texts⟩⟩

theorem related_texts : ∀ subProject ∈ [related, unrelated], ∃ scope,
    subProject.scope = .text scope := by
  intro subProject listed
  rcases List.mem_cons.mp listed with rfl | later
  · exact ⟨_, rfl⟩
  · rw [List.mem_singleton.mp later]
    exact ⟨_, rfl⟩

/-- With the related sub-project alone, the batch has both files and a copy; with the other one as
well, nothing goes although both files' snapshots can be made as before. -/
theorem run_needs_every_way_sample :
    (∃ own copies, own.length = 2 ∧ copies.length = 1 ∧
      Calls (meansWith [related]) sampleChanges ⟨sampleChanges.removed, own ++ copies⟩) ∧
    ∃ own, List.Forall₂ (Made (meansWith [related, unrelated])) sampleChanges.present own ∧
      ∀ service : Receiver,
        let outcome := run { meansWith [related, unrelated] with service := service } sampleChanges
        outcome.result = .error (.way (.differentRoots
          ⟨.single, ["w", "app", ".sonarlint", "a.json"]⟩ ⟨.relative, ["core"]⟩)) ∧
        outcome.delivery = none := by
  have one : ∃ own, List.Forall₂ (Made (meansWith [related])) sampleChanges.present own ∧
      own.length = 2 ∧ (dueCopies (meansWith [related]) sampleChanges.present own).length = 1 ∧
      SubProject.firstObstacle (dueCopies (meansWith [related]) sampleChanges.present own) = none :=
    ⟨_, .cons rfl (.cons rfl .nil), rfl, rfl, rfl⟩
  have two : ∃ own, List.Forall₂ (Made (meansWith [related, unrelated])) sampleChanges.present own ∧
      SubProject.firstObstacle
          (dueCopies (meansWith [related, unrelated]) sampleChanges.present own) =
        some (.way (.differentRoots ⟨.single, ["w", "app", ".sonarlint", "a.json"]⟩
          ⟨.relative, ["core"]⟩)) :=
    ⟨_, .cons rfl (.cons rfl .nil), rfl⟩
  constructor
  · obtain ⟨own, made, both, due, free⟩ := one
    have texts := fun subProject member => related_texts subProject
      (List.mem_cons.mpr (Or.inl (List.mem_singleton.mp member)))
    obtain ⟨calls, -⟩ := run_needs_every_way rfl made (meansWith_answer texts)
    obtain ⟨copies, whole, copied⟩ := calls free
    exact ⟨own, copies, both, copied.length_eq.symm.trans due, whole⟩
  · obtain ⟨own, made, obstructed⟩ := two
    obtain ⟨-, fails⟩ := run_needs_every_way rfl made (meansWith_answer related_texts)
    exact ⟨own, made, fails _ obstructed⟩

end Sending
end ChangeRelay
