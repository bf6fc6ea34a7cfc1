import ChangeRelay.Proofs.CycleBatch
import ChangeRelay.Proofs.SnapshotMaking

/-!
Two cycles over the same files, whose collaborators answer or fail differently. Both call their file
service or neither does, and the batches match snapshot by snapshot: a file that is answered the
same in both has the same snapshot in both, whatever fails for the other files.
-/
namespace ChangeRelay.Sending

variable {φ : Type}

/-- A file that shows the same in two cycles, its charset and its document apart. -/
structure SameFile (means other : Means φ) (file : φ) : Prop where
  uri : (other.look file).uri = (means.look file).uri
  name : (other.look file).name = (means.look file).name
  project : (other.look file).project = (means.look file).project
  relativePath : (other.look file).relativePath = (means.look file).relativePath

/-- A file about which all collaborators answer, or fail, as they do in another cycle. -/
structure Unaffected (means other : Means φ) (file : φ) : Prop where
  resolver : other.maker.resolver (other.look file).uri = means.maker.resolver (means.look file).uri
  document : (other.look file).document = (means.look file).document
  charset : (other.look file).charset = (means.look file).charset
  isTest : other.maker.advisors.isTest (other.look file) =
    means.maker.advisors.isTest (means.look file)
  languages :
    other.maker.advisors.languages.map (fun detector => detector.language (other.look file)) =
      means.maker.advisors.languages.map fun detector => detector.language (means.look file)

structure SameFiles (means other : Means φ) (files : List φ) : Prop where
  settings : other.maker.settings = means.maker.settings
  hierarchies : other.hierarchies = means.hierarchies
  same : ∀ file ∈ files, SameFile means other file

/-- Collaborators that fail or answer as declared, about files that show texts. -/
structure Declared (means : Means φ) (files : List φ) : Prop where
  advisors : means.maker.advisors.Typed
  shown : ∀ file ∈ files, ∃ uri scope, (means.look file).Typed uri scope

structure Twins (means other : Means φ) (file : φ) (snapshot twin : Snapshot) : Prop where
  made : Made means file snapshot
  twinMade : Made other file twin
  uri : twin.uri = snapshot.uri
  relativePath : twin.relativePath = snapshot.relativePath
  unaffected : Unaffected means other file → twin = snapshot

def TwinCopies (means other : Means φ) (files : List φ) (copy twin : Snapshot) : Prop :=
  ∃ file ∈ files, ∃ original originalTwin, Twins means other file original originalTwin ∧
    copy = { original with relativePath := copy.relativePath, scope := copy.scope } ∧
    twin = { originalTwin with relativePath := copy.relativePath, scope := copy.scope }

/-- A batch that matches another one: the same removals, then for every file its own snapshot, the
same in both if nothing differs about the file, then the copies in the same order. -/
structure Matches (means other : Means φ) (files : List φ) (batch twin : Batch) : Prop where
  removed : twin.removed = batch.removed
  own : ∀ (position : Nat) (file : φ), files[position]? = some file →
    ∃ snapshot twinSnapshot, batch.addedOrChanged[position]? = some snapshot ∧
      twin.addedOrChanged[position]? = some twinSnapshot ∧
      Snapshot.Tells other.maker (other.look file) twinSnapshot ∧
      (Unaffected means other file → twinSnapshot = snapshot)
  copies : List.Forall₂ (TwinCopies means other files) (batch.addedOrChanged.drop files.length)
    (twin.addedOrChanged.drop files.length)

theorem SameFile.symm {means other : Means φ} {file : φ} (same : SameFile means other file) :
    SameFile other means file :=
  ⟨same.uri.symm, same.name.symm, same.project.symm, same.relativePath.symm⟩

theorem SameFiles.symm {means other : Means φ} {files : List φ}
    (same : SameFiles means other files) : SameFiles other means files :=
  ⟨same.settings.symm, same.hierarchies.symm, fun file member => (same.same file member).symm⟩

theorem firstOpinion_same {view other : FileView} {detectors others : List LanguageDetector}
    (same : others.map (·.language other) = detectors.map (·.language view)) :
    Snapshot.firstOpinion other others = Snapshot.firstOpinion view detectors := by
  have answers : ∀ (view : FileView) (detectors : List LanguageDetector),
      (detectors.filterMap fun detector => (detector.language view).toOption) =
        (detectors.map (·.language view)).filterMap Except.toOption := by
    intro view detectors
    rw [List.filterMap_map]
    rfl
  simp only [Snapshot.firstOpinion, answers, same]

theorem draft_unaffected {means other : Means φ} {file : φ}
    (settings : other.maker.settings = means.maker.settings) (same : SameFile means other file)
    (unaffected : Unaffected means other file) :
    Snapshot.draftOf other.maker (other.look file) =
      Snapshot.draftOf means.maker (means.look file) := by
  have isConfig : Snapshot.isConfigFile other.maker (other.look file) =
      Snapshot.isConfigFile means.maker (means.look file) := by
    simp only [Snapshot.isConfigFile, settings, same.name, same.relativePath]
  have resolved := unaffected.resolver
  rw [same.uri] at resolved
  simp only [Snapshot.draftOf, Snapshot.embedded, isConfig, resolved, unaffected.document,
    unaffected.charset, unaffected.isTest, same.uri, same.project, same.relativePath,
    firstOpinion_same unaffected.languages]

theorem made_tells {means : Means φ} {files : List φ} (declared : Declared means files) {file : φ}
    (member : file ∈ files) {snapshot : Snapshot} (made : Made means file snapshot) :
    Snapshot.Tells means.maker (means.look file) snapshot := by
  obtain ⟨uri, scope, shown⟩ := declared.shown file member
  obtain ⟨other, also, tells⟩ := Snapshot.make_tells declared.advisors shown
  have same : other = snapshot := Except.ok.inj (also.symm.trans made)
  rw [← same]
  exact tells

theorem all_made {means : Means φ} {files : List φ} (declared : Declared means files) :
    ∃ own, List.Forall₂ (Made means) files own := by
  induction files with
  | nil => exact ⟨[], .nil⟩
  | cons file rest ih =>
    obtain ⟨uri, scope, shown⟩ := declared.shown file List.mem_cons_self
    obtain ⟨snapshot, made, -⟩ := Snapshot.make_tells declared.advisors shown
    obtain ⟨own, others⟩ := ih
      ⟨declared.advisors, fun other member => declared.shown other (List.mem_cons_of_mem _ member)⟩
    exact ⟨snapshot :: own, .cons made others⟩

section
variable {means other : Means φ} {files : List φ} (same : SameFiles means other files)
  (declared : Declared means files) (otherDeclared : Declared other files)
include same declared otherDeclared

theorem made_twins {file : φ} (member : file ∈ files) {snapshot twin : Snapshot}
    (made : Made means file snapshot) (twinMade : Made other file twin) :
    Twins means other file snapshot twin := by
  have tells := made_tells declared member made
  have twinTells := made_tells otherDeclared member twinMade
  have sameFile := same.same file member
  refine ⟨made, twinMade, ?_, ?_, ?_⟩
  · have uris := (twinTells.uri.symm.trans sameFile.uri).trans tells.uri
    exact Value.text.inj uris
  · exact (twinTells.relativePath.trans sameFile.relativePath).trans tells.relativePath.symm
  · intro unaffected
    have draft := draft_unaffected same.settings sameFile unaffected
    rw [Made, Snapshot.make_value, draft, ← Snapshot.make_value] at twinMade
    exact Except.ok.inj (twinMade.symm.trans made)

end

def TwinFiles (means other : Means φ) (files : List φ) (pair twin : φ × Snapshot) : Prop :=
  twin.1 = pair.1 ∧ pair.1 ∈ files ∧ Twins means other pair.1 pair.2 twin.2

def TwinSnapshots (means other : Means φ) (files : List φ) (snapshot twin : Snapshot) : Prop :=
  ∃ file ∈ files, Twins means other file snapshot twin

def TwinPairs (means other : Means φ) (files : List φ) (pair twin : Project × Snapshot) : Prop :=
  twin.1 = pair.1 ∧ TwinSnapshots means other files pair.2 twin.2

theorem zip_twins {means other : Means φ} {files part : List φ}
    (listed : ∀ file ∈ part, file ∈ files)
    (twins : ∀ file ∈ files, ∀ {snapshot twin}, Made means file snapshot → Made other file twin →
      Twins means other file snapshot twin)
    {own twinOwn : List Snapshot} (made : List.Forall₂ (Made means) part own)
    (twinMade : List.Forall₂ (Made other) part twinOwn) :
    List.Forall₂ (TwinFiles means other files) (part.zip own) (part.zip twinOwn) := by
  induction made generalizing twinOwn with
  | nil =>
    cases twinMade
    exact .nil
  | cons here _ ih =>
    cases twinMade with
    | cons twinHere twinOthers =>
      have member := listed _ List.mem_cons_self
      have others := ih (fun file later => listed file (List.mem_cons_of_mem _ later)) twinOthers
      exact .cons ⟨rfl, member, twins _ member here twinHere⟩ others

theorem configs_twins {means other : Means φ} {files : List φ} (same : SameFiles means other files)
    {made twinMade : List (φ × Snapshot)}
    (twins : List.Forall₂ (TwinFiles means other files) made twinMade) :
    List.Forall₂ (TwinPairs means other files) (configs means made) (configs other twinMade) := by
  unfold configs
  rw [List.forall₂_map_left_iff, List.forall₂_map_right_iff]
  have kept := List.rel_filter (R := TwinFiles means other files)
    (p := fun pair => ConfigFile.isFolderJson means.maker.settings pair.2.relativePath)
    (q := fun pair => ConfigFile.isFolderJson other.maker.settings pair.2.relativePath)
    (by
      intro pair twin ⟨_, _, snapshots⟩
      dsimp only
      rw [same.settings, snapshots.relativePath]) twins
  apply kept.imp
  intro pair twin ⟨file, member, snapshots⟩
  refine ⟨?_, pair.1, member, snapshots⟩
  rw [file]
  exact (same.same pair.1 member).project

theorem owners_twins {means other : Means φ} {files : List φ}
    {pairs twins : List (Project × Snapshot)}
    (all : List.Forall₂ (TwinPairs means other files) pairs twins) :
    owners twins = owners pairs := by
  have projects : List.Forall₂ Eq (twins.map (·.1)) (pairs.map (·.1)) := by
    rw [List.forall₂_map_left_iff, List.forall₂_map_right_iff]
    apply List.Forall₂.flip
    exact all.imp fun _ _ twin => twin.1
  rw [List.forall₂_eq_eq_eq] at projects
  rw [owners, owners, projects]

theorem ofScope_twins {means other : Means φ} {files : List φ}
    {pairs twins : List (Project × Snapshot)}
    (all : List.Forall₂ (TwinPairs means other files) pairs twins) (scope : Value) :
    List.Forall₂ (TwinSnapshots means other files) (ofScope scope pairs) (ofScope scope twins) := by
  unfold ofScope
  rw [List.forall₂_map_left_iff, List.forall₂_map_right_iff]
  have kept := List.rel_filter (R := TwinPairs means other files)
    (p := fun pair => pair.1.scope == scope) (q := fun pair => pair.1.scope == scope)
    (by
      intro pair twin ⟨project, _⟩
      dsimp only
      rw [project]) all
  exact kept.imp fun _ _ twin => twin.2

theorem flatMap_related {ι α β : Type} {relation : α → β → Prop} {first : ι → List α}
    {second : ι → List β} (each : ∀ item, List.Forall₂ relation (first item) (second item))
    (items : List ι) : List.Forall₂ relation (items.flatMap first) (items.flatMap second) := by
  induction items with
  | nil => exact .nil
  | cons item rest ih => exact List.rel_append (each item) ih

theorem due_twins {means other : Means φ} {files : List φ}
    {pairs twins : List (Project × Snapshot)}
    (all : List.Forall₂ (TwinPairs means other files) pairs twins)
    (subProjects : Project → List Project) :
    List.Forall₂ (TwinPairs means other files) (due pairs subProjects) (due twins subProjects) := by
  unfold due
  rw [owners_twins all]
  apply flatMap_related
  intro owner
  apply flatMap_related
  intro subProject
  rw [List.forall₂_map_left_iff, List.forall₂_map_right_iff]
  exact (ofScope_twins all owner.scope).imp fun _ _ twin => ⟨rfl, twin⟩

theorem copies_twins {means other : Means φ} {files : List φ}
    {pairs twins : List (Project × Snapshot)}
    (all : List.Forall₂ (TwinPairs means other files) pairs twins) {copies : List Snapshot}
    (copied : List.Forall₂ (fun pair copy => SubProject.Copies pair.1 pair.2 copy) pairs copies) :
    ∃ twinCopies,
      List.Forall₂ (fun pair copy => SubProject.Copies pair.1 pair.2 copy) twins twinCopies ∧
        List.Forall₂ (TwinCopies means other files) copies twinCopies := by
  induction all generalizing copies with
  | nil =>
    cases copied
    exact ⟨[], .nil, .nil⟩
  | @cons pair twin _ _ here _ ih =>
    cases copied with
    | @cons _ copy _ _ copies others =>
      obtain ⟨twinCopies, twinCopied, related⟩ := ih others
      obtain ⟨project, file, member, snapshots⟩ := here
      let twinCopy : Snapshot :=
        { twin.2 with relativePath := copy.relativePath, scope := copy.scope }
      have twinCopies_ : SubProject.Copies twin.1 twin.2 twinCopy := by
        rw [project]
        refine ⟨?_, copies.scope, rfl⟩
        rw [snapshots.uri]
        exact copies.way
      exact ⟨twinCopy :: twinCopies, .cons twinCopies_ twinCopied,
        .cons ⟨file, member, pair.2, twin.2, snapshots, copies.same, rfl⟩ related⟩

/-- A cycle calls its file service with what its changes come to, or calls nobody. -/
theorem calls_or_nobody (means : Means φ) (changes : ChangeList φ) :
    (∃ own copies subProjects, changes.isEmpty = false ∧
      Contents means changes.present own copies subProjects ∧
      Calls means changes ⟨changes.removed, own ++ copies⟩) ∨ CallsNobody means changes := by
  cases filled : changes.isEmpty with
  | true => exact Or.inr (run_empty filled)
  | false =>
    cases made : (snapshotsOf means changes.present).1 with
    | error failure => exact Or.inr (run_failed made)
    | ok snapshots =>
      obtain ⟨own, copies, subProjects, contents, same⟩ := (snapshotsOf_ok_iff _ _ _).mp made
      subst same
      exact Or.inl ⟨own, copies, subProjects, rfl, contents, run_made filled made⟩

theorem forall₂_at {α β : Type} {relation : α → β → Prop} {items : List α} {results : List β}
    (all : List.Forall₂ relation items results) {position : Nat} {item : α}
    (found : items[position]? = some item) :
    ∃ result, results[position]? = some result ∧ relation item result := by
  induction all generalizing position with
  | nil => cases found
  | cons here _ ih =>
    cases position with
    | zero =>
      cases found
      exact ⟨_, rfl, here⟩
    | succ before => exact ih found

section
variable {means other : Means φ} {changes : ChangeList φ}
  (same : SameFiles means other changes.present) (declared : Declared means changes.present)
  (otherDeclared : Declared other changes.present)
include same declared otherDeclared

theorem contents_twin {own copies : List Snapshot} {subProjects : Project → List Project}
    (contents : Contents means changes.present own copies subProjects) :
    ∃ twinOwn twinCopies, Contents other changes.present twinOwn twinCopies subProjects ∧
      List.Forall₂ (TwinCopies means other changes.present) copies twinCopies := by
  obtain ⟨twinOwn, twinMade⟩ := all_made otherDeclared
  have files := zip_twins (fun _ member => member)
    (fun _ member _ _ made twin => made_twins same declared otherDeclared member made twin)
    contents.made twinMade
  have pairs := configs_twins same files
  obtain ⟨twinCopies, twinCopied, related⟩ :=
    copies_twins (due_twins pairs subProjects) contents.copied
  refine ⟨twinOwn, twinCopies, ⟨twinMade, ?_, twinCopied⟩, related⟩
  rw [owners_twins pairs, same.hierarchies]
  exact contents.reported

theorem calls_twin {batch : Batch} (calls : Calls means changes batch) :
    ∃ twin, Calls other changes twin ∧ Matches means other changes.present batch twin := by
  rcases calls_or_nobody means changes with
    ⟨own, copies, subProjects, filled, contents, whole⟩ | nobody
  · obtain ⟨twinOwn, twinCopies, twinContents, related⟩ :=
      contents_twin same declared otherDeclared contents
    have made := (snapshotsOf_ok_iff other changes.present (twinOwn ++ twinCopies)).mpr
      ⟨twinOwn, twinCopies, subProjects, twinContents, rfl⟩
    have length := contents.made.length_eq
    have twinLength := twinContents.made.length_eq
    rw [calls_inj calls whole]
    refine ⟨_, run_made filled made, rfl, ?_, ?_⟩
    · intro position file found
      have below := (List.getElem?_eq_some_iff.mp found).1
      obtain ⟨snapshot, there, made⟩ := forall₂_at contents.made found
      obtain ⟨twinSnapshot, twinThere, twinMade⟩ := forall₂_at twinContents.made found
      have member := List.mem_of_getElem? found
      have twins := made_twins same declared otherDeclared member made twinMade
      refine ⟨snapshot, twinSnapshot, ?_, ?_, made_tells otherDeclared member twinMade,
        twins.unaffected⟩
      · rw [List.getElem?_append_left (by omega)]
        exact there
      · rw [List.getElem?_append_left (by omega)]
        exact twinThere
    · rw [List.drop_left' length.symm, List.drop_left' twinLength.symm]
      exact related
  · exact absurd nobody (calls_somebody calls)

theorem nobody_twin (nobody : CallsNobody means changes) : CallsNobody other changes := by
  rcases calls_or_nobody other changes with ⟨own, copies, subProjects, -, -, whole⟩ | idle
  · obtain ⟨twin, calls, -⟩ := calls_twin same.symm otherDeclared declared whole
    exact absurd nobody (calls_somebody calls)
  · exact idle

end

/-- Making a snapshot never fails for a file that shows texts, and each field is what its
collaborator answered, or stands for no answer if that one failed. So a cycle has the snapshots of
all its files, and failing collaborators decide neither whether a batch goes nor what stands where:
two cycles over the same files match, and a file that is answered the same in both has the same
snapshot in both. -/
theorem failures_stay_with_their_file :
    (∀ maker view uri scope, maker.advisors.Typed → view.Typed uri scope →
      ∃ snapshot, (Snapshot.make maker view).value = .ok snapshot ∧
        Snapshot.Tells maker view snapshot) ∧
    (∀ (means : Means φ) files, Declared means files → ∃ own groups,
      (makeAll means files [] [] []).result = .ok (own, groups) ∧
        List.Forall₂ (fun file snapshot =>
          Snapshot.Tells means.maker (means.look file) snapshot) files own) ∧
    ∀ (means other : Means φ) (changes : ChangeList φ), SameFiles means other changes.present →
      Declared means changes.present → Declared other changes.present →
      (CallsNobody other changes ↔ CallsNobody means changes) ∧
        ∀ batch, Calls means changes batch →
          ∃ twin, Calls other changes twin ∧ Matches means other changes.present batch twin := by
  refine ⟨?_, ?_, ?_⟩
  · intro maker view uri scope advisors shown
    exact Snapshot.make_tells advisors shown
  · intro means files declared
    obtain ⟨own, made⟩ := all_made declared
    refine ⟨own, _, makeAll_made made [] [] [], ?_⟩
    have member : ∀ file ∈ files, file ∈ files := fun _ member => member
    exact (((List.forall₂_and_left _ _).mpr ⟨member, made⟩).imp
      fun _ _ both => made_tells declared both.1 both.2)
  · intro means other changes same declared otherDeclared
    constructor
    · constructor
      · exact nobody_twin same.symm otherDeclared declared
      · exact nobody_twin same declared otherDeclared
    · intro batch calls
      exact calls_twin same declared otherDeclared calls

def failingMeans : Means FileView where
  maker :=
    { settings := .standard
      advisors :=
        { Advisors.standard with
          isTest := fun view =>
            if view.name = "main.c" then .error (.reported .runtime "classifier crashed")
            else Advisors.standard.isTest view }
      resolver := fun uri =>
        if uri = .text "file:///w/app/main.c" then .error (.reported .system "no storage")
        else sampleMeans.maker.resolver uri }
  hierarchies := sampleMeans.hierarchies
  service := sampleMeans.service
  look := sampleMeans.look

theorem sample_shown : ∀ file ∈ sampleChanges.present, ∃ uri scope, file.Typed uri scope := by
  intro file member
  rcases List.mem_cons.mp member with rfl | later
  · exact ⟨_, _, rfl, rfl, fun _ told => ⟨_, (Except.ok.inj told).symm⟩,
      fun _ told => ⟨_, (Except.ok.inj told).symm⟩⟩
  · rw [List.mem_singleton.mp later]
    exact ⟨_, _, rfl, rfl, fun _ told => ⟨_, (Except.ok.inj told).symm⟩,
      fun _ told => ⟨_, (Except.ok.inj told).symm⟩⟩

theorem sample_declared : Declared sampleMeans sampleChanges.present := by
  refine ⟨⟨?_, nofun⟩, sample_shown⟩
  intro view answer told
  exact ⟨_, (Except.ok.inj told).symm⟩

theorem failing_declared : Declared failingMeans sampleChanges.present := by
  refine ⟨⟨?_, nofun⟩, sample_shown⟩
  intro view answer told
  simp only [failingMeans] at told
  split at told
  · cases told
  · exact ⟨_, (Except.ok.inj told).symm⟩

/-- The configuration file keeps its snapshot; that of the other file has its document instead of a
path. -/
theorem failures_stay_sample : ∃ batch twin snapshot degraded,
    Calls sampleMeans sampleChanges batch ∧ Calls failingMeans sampleChanges twin ∧
      batch.addedOrChanged[0]? = some snapshot ∧ twin.addedOrChanged[0]? = some snapshot ∧
      twin.addedOrChanged[1]? = some degraded ∧ degraded.localPath = none ∧
      degraded.content = some "main.c" ∧ degraded.isTest = false := by
  obtain ⟨-, -, same⟩ := failures_stay_with_their_file (φ := FileView)
  have files : SameFiles sampleMeans failingMeans sampleChanges.present :=
    ⟨rfl, rfl, fun _ _ => ⟨rfl, rfl, rfl, rfl⟩⟩
  obtain ⟨-, matched⟩ := same _ _ _ files sample_declared failing_declared
  have built : (snapshotsOf sampleMeans sampleChanges.present).1.isOk = true := by rfl
  cases whole : (snapshotsOf sampleMeans sampleChanges.present).1 with
  | error failure =>
    rw [whole] at built
    cases built
  | ok snapshots =>
    have calls := run_made (rfl : sampleChanges.isEmpty = false) whole
    obtain ⟨twin, twinCalls, removed, own, copies⟩ := matched _ calls
    obtain ⟨snapshot, kept, here, there, -, unaffected⟩ := own 0 _ rfl
    obtain ⟨-, degraded, -, found, tells, -⟩ := own 1 _ rfl
    have same : kept = snapshot := by
      apply unaffected
      exact ⟨rfl, rfl, rfl, rfl, rfl⟩
    refine ⟨_, twin, snapshot, degraded, calls, twinCalls, here, same ▸ there, found,
      tells.localPath, ?_, ?_⟩
    · have content : Snapshot.optionalText degraded.content = .text "main.c" := tells.content
      cases text : degraded.content with
      | none => simp [text, Snapshot.optionalText] at content
      | some other => simpa [text, Snapshot.optionalText] using content
    · exact Value.bool.inj tells.isTest

end ChangeRelay.Sending
