import ChangeRelay.Proofs.ConfigGroups
import ChangeRelay.Proofs.SendingAll
import ChangeRelay.Proofs.SnapshotFields
import Mathlib.Algebra.GroupWithZero.Nat

/-!
What a cycle sends. A batch has the snapshots of all files in their order; behind them stand the
copies of configuration files, scope by scope, sub-project by sub-project, file by file. The file
service is called with it if all of this can be made, and is not called otherwise.
-/
namespace ChangeRelay

def Receiver.answer (service : Receiver) (batch : Batch) :
    Except Failure (Option Batch) × Option Delivery :=
  match service.outage with
  | some failure => (.error failure, none)
  | none => (.ok (some batch), some (service.style batch))

namespace Sending

variable {φ : Type}

def Made (means : Means φ) (file : φ) (snapshot : Snapshot) : Prop :=
  (Snapshot.make means.maker (means.look file)).value = .ok snapshot

def configs (means : Means φ) (made : List (φ × Snapshot)) : List (Project × Snapshot) :=
  (made.filter fun pair => ConfigFile.isFolderJson means.maker.settings pair.2.relativePath).map
    fun pair => ((means.look pair.1).project, pair.2)

/-- The copies that are due: scope by scope, for each sub-project, of each snapshot. -/
def due (pairs : List (Project × Snapshot)) (subProjects : Project → List Project) :
    List (Project × Snapshot) :=
  (owners pairs).flatMap fun owner =>
    SubProject.pairs (ofScope owner.scope pairs) (subProjects owner)

/-- The snapshots of some files and the copies due, all of which could be made. -/
structure Contents (means : Means φ) (files : List φ) (own copies : List Snapshot)
    (subProjects : Project → List Project) : Prop where
  made : List.Forall₂ (Made means) files own
  reported : ∀ owner ∈ owners (configs means (files.zip own)), ∃ found,
    SubProject.Reports owner means.hierarchies found ∧
      subProjects owner = found.eraseDupsBy Project.sharesScope
  copied : List.Forall₂ (fun pair copy => SubProject.Copies pair.1 pair.2 copy)
    (due (configs means (files.zip own)) subProjects) copies

/-- A cycle that calls its file service once, with this batch: whatever the service is, the cycle
comes to what that service answers. -/
def Calls (means : Means φ) (changes : ChangeList φ) (batch : Batch) : Prop :=
  ∀ service : Receiver,
    ((run { means with service := service } changes).result,
      (run { means with service := service } changes).delivery) = service.answer batch

/-- A cycle to whose result it makes no difference what the file service is. -/
def CallsNobody (means : Means φ) (changes : ChangeList φ) : Prop :=
  ∃ result, ∀ service : Receiver,
    (run { means with service := service } changes).result = result ∧
      (run { means with service := service } changes).delivery = none

theorem makeAll_made {means : Means φ} {files : List φ} {own : List Snapshot}
    (all : List.Forall₂ (Made means) files own) (snapshots : List Snapshot) (groups : List Group)
    (notices : List Notice) :
    (makeAll means files snapshots groups notices).result =
      .ok (snapshots ++ own, addAll groups (configs means (files.zip own))) := by
  induction all generalizing snapshots groups notices with
  | nil => simp [makeAll, configs, addAll]
  | @cons file snapshot rest more here others ih =>
    simp only [Made] at here
    simp only [makeAll, here, ih, List.append_assoc, List.singleton_append, List.zip_cons_cons]
    by_cases isConfig : ConfigFile.isFolderJson means.maker.settings snapshot.relativePath = true
    · simp [configs, isConfig, addAll]
    · simp [configs, isConfig]

theorem made_of_makeAll {means : Means φ} {files : List φ} {snapshots : List Snapshot}
    {groups : List Group} {notices : List Notice} {answer : List Snapshot × List Group}
    (built : (makeAll means files snapshots groups notices).result = .ok answer) :
    ∃ own, List.Forall₂ (Made means) files own := by
  induction files generalizing snapshots groups notices with
  | nil => exact ⟨[], .nil⟩
  | cons file rest ih =>
    cases made : (Snapshot.make means.maker (means.look file)).value with
    | error failure =>
      simp only [makeAll, made] at built
      cases built
    | ok snapshot =>
      simp only [makeAll, made] at built
      obtain ⟨own, others⟩ := ih built
      exact ⟨snapshot :: own, .cons made others⟩

theorem makeAll_service (means : Means φ) (service : Receiver) (files : List φ)
    (snapshots : List Snapshot) (groups : List Group) (notices : List Notice) :
    makeAll { means with service := service } files snapshots groups notices =
      makeAll means files snapshots groups notices := by
  induction files generalizing snapshots groups notices with
  | nil => rfl
  | cons file rest ih =>
    simp only [makeAll]
    split
    · rfl
    · exact ih _ _ _

theorem snapshotsOf_service (means : Means φ) (service : Receiver) (files : List φ) :
    snapshotsOf { means with service := service } files = snapshotsOf means files := by
  simp only [snapshotsOf, makeAll_service]

theorem duplicateAll_cons (hierarchies : List Hierarchy) (owner : Project)
    (snapshots : List Snapshot) (rest : List Group) (notices : List Notice) :
    (duplicateAll hierarchies ((owner, snapshots) :: rest) notices).1 = (do
      let subProjects ← SubProject.resolve owner hierarchies
      let own ← SubProject.duplicates snapshots subProjects
      let others ← (duplicateAll hierarchies rest
        (notices ++ (SubProject.spread snapshots subProjects).2)).1
      return own ++ others) := by
  simp only [duplicateAll, bind, Except.bind]
  cases SubProject.resolve owner hierarchies with
  | error failure => rfl
  | ok subProjects =>
    dsimp only
    rw [← SubProject.spread_result]
    obtain ⟨answer, noted⟩ := SubProject.spread snapshots subProjects
    cases answer with
    | error failure => rfl
    | ok own =>
      dsimp only
      cases (duplicateAll hierarchies rest (notices ++ noted)).1 <;> rfl

def resolved (hierarchies : List Hierarchy) (owner : Project) : List Project :=
  match SubProject.resolve owner hierarchies with
  | .ok subProjects => subProjects
  | .error _ => []

theorem duplicateAll_ok_iff (hierarchies : List Hierarchy) (projects : List Project)
    (snapshots : Project → List Snapshot) (notices : List Notice) (copies : List Snapshot) :
    (duplicateAll hierarchies (projects.map fun owner => (owner, snapshots owner)) notices).1 =
        .ok copies ↔
      (∀ owner ∈ projects,
        SubProject.resolve owner hierarchies = .ok (resolved hierarchies owner)) ∧
      List.Forall₂ (fun pair copy => SubProject.Copies pair.1 pair.2 copy)
        (projects.flatMap fun owner =>
          SubProject.pairs (snapshots owner) (resolved hierarchies owner)) copies := by
  induction projects generalizing notices copies with
  | nil => cases copies <;> simp [duplicateAll]
  | cons owner rest ih =>
    rw [List.map_cons, duplicateAll_cons, List.flatMap_cons, SubProject.forall_append_iff,
      List.forall_mem_cons]
    cases answer : SubProject.resolve owner hierarchies with
    | error failure => simp [bind, Except.bind]
    | ok subProjects =>
      have same : resolved hierarchies owner = subProjects := by rw [resolved, answer]
      rw [same]
      simp only [true_and, ← SubProject.duplicates_ok_iff]
      cases made : SubProject.duplicates (snapshots owner) subProjects with
      | error failure => simp [bind, Except.bind, made]
      | ok own =>
        simp only [bind, Except.bind, made]
        constructor
        · intro whole
          cases later : (duplicateAll hierarchies
              (rest.map fun owner => (owner, snapshots owner))
              (notices ++ (SubProject.spread (snapshots owner) subProjects).2)).1 with
          | error failure => simp [later] at whole
          | ok others =>
            simp only [later, pure, Except.pure, Except.ok.injEq] at whole
            obtain ⟨all, copied⟩ := (ih _ others).mp later
            exact ⟨all, own, others, whole.symm, rfl, copied⟩
        · rintro ⟨all, left, others, rfl, here, copied⟩
          cases here
          rw [(ih _ others).mpr ⟨all, copied⟩]
          rfl

theorem resolved_ok {hierarchies : List Hierarchy} {owner : Project} {subProjects : List Project}
    (answer : SubProject.resolve owner hierarchies = .ok subProjects) :
    resolved hierarchies owner = subProjects := by
  rw [resolved, answer]

theorem snapshotsOf_result (means : Means φ) (files : List φ) :
    (snapshotsOf means files).1 = (do
      let (own, groups) ← (makeAll means files [] [] []).result
      let copies ← (duplicateAll means.hierarchies groups
        (makeAll means files [] [] []).notices).1
      return own ++ copies) := by
  unfold snapshotsOf
  obtain ⟨answer, notices⟩ := makeAll means files [] [] []
  cases answer with
  | error failure => rfl
  | ok pair =>
    simp only [bind, Except.bind]
    cases (duplicateAll means.hierarchies pair.2 notices).1 <;> rfl

/-- What is made for a list of files is exactly its contents. -/
theorem snapshotsOf_ok_iff (means : Means φ) (files : List φ) (snapshots : List Snapshot) :
    (snapshotsOf means files).1 = .ok snapshots ↔
      ∃ own copies subProjects, Contents means files own copies subProjects ∧
        snapshots = own ++ copies := by
  rw [snapshotsOf_result]
  constructor
  · intro answer
    cases built : (makeAll means files [] [] []).result with
    | error failure => simp [built, bind, Except.bind] at answer
    | ok pair =>
      obtain ⟨own, all⟩ := made_of_makeAll built
      rw [makeAll_made all, addAll_nil, List.nil_append] at answer
      simp only [bind, Except.bind] at answer
      cases copied : (duplicateAll means.hierarchies (groupsOf (configs means (files.zip own)))
          (makeAll means files [] [] []).notices).1 with
      | error failure => simp [copied] at answer
      | ok copies =>
        simp only [copied, pure, Except.pure, Except.ok.injEq] at answer
        obtain ⟨answers, each⟩ := (duplicateAll_ok_iff _ _ _ _ _).mp copied
        refine ⟨own, copies, resolved means.hierarchies, ⟨all, ?_, each⟩, answer.symm⟩
        intro owner member
        exact (SubProject.resolve_ok_iff _ _ _).mp (answers owner member)
  · rintro ⟨own, copies, subProjects, ⟨all, reported, copied⟩, rfl⟩
    have answers : ∀ owner ∈ owners (configs means (files.zip own)),
        SubProject.resolve owner means.hierarchies = .ok (subProjects owner) := by
      intro owner member
      exact (SubProject.resolve_ok_iff _ _ _).mpr (reported owner member)
    have made : (duplicateAll means.hierarchies (groupsOf (configs means (files.zip own)))
        (makeAll means files [] [] []).notices).1 = .ok copies := by
      rw [groupsOf, duplicateAll_ok_iff]
      constructor
      · intro owner member
        rw [answers owner member, resolved_ok (answers owner member)]
      · have same : ∀ owner ∈ owners (configs means (files.zip own)),
            SubProject.pairs (ofScope owner.scope (configs means (files.zip own)))
                (resolved means.hierarchies owner) =
              SubProject.pairs (ofScope owner.scope (configs means (files.zip own)))
                (subProjects owner) := by
          intro owner member
          rw [resolved_ok (answers owner member)]
        rw [List.flatMap_congr same]
        exact copied
    rw [makeAll_made all, addAll_nil, List.nil_append]
    simp only [bind, Except.bind, made]
    rfl

theorem run_empty {means : Means φ} {changes : ChangeList φ} (nothing : changes.isEmpty = true) :
    CallsNobody means changes := by
  refine ⟨.ok none, ?_⟩
  intro service
  simp [run, nothing]

theorem run_failure {means : Means φ} {changes : ChangeList φ} {failure : Failure}
    (filled : changes.isEmpty = false)
    (failed : (snapshotsOf means changes.present).1 = .error failure) (service : Receiver) :
    (run { means with service := service } changes).result = .error failure ∧
      (run { means with service := service } changes).delivery = none := by
  rcases made : snapshotsOf means changes.present with ⟨answer, notices⟩
  rw [made] at failed
  cases failed
  simp [run, filled, snapshotsOf_service, made]

theorem run_failed {means : Means φ} {changes : ChangeList φ} {failure : Failure}
    (failed : (snapshotsOf means changes.present).1 = .error failure) :
    CallsNobody means changes := by
  cases filled : changes.isEmpty with
  | true => exact run_empty filled
  | false => exact ⟨.error failure, run_failure filled failed⟩

theorem run_made {means : Means φ} {changes : ChangeList φ} {snapshots : List Snapshot}
    (filled : changes.isEmpty = false)
    (whole : (snapshotsOf means changes.present).1 = .ok snapshots) :
    Calls means changes ⟨changes.removed, snapshots⟩ := by
  intro service
  rcases made : snapshotsOf means changes.present with ⟨answer, notices⟩
  rw [made] at whole
  cases whole
  unfold run
  rw [filled, snapshotsOf_service, made]
  simp only [Bool.false_eq_true, if_false, Receiver.answer]
  cases service.outage <;> rfl

theorem calls_inj {means : Means φ} {changes : ChangeList φ} {batch other : Batch}
    (calls : Calls means changes batch) (also : Calls means changes other) : batch = other := by
  have same := (calls .recording).symm.trans (also .recording)
  simpa [Receiver.answer, Receiver.recording] using same

theorem calls_somebody {means : Means φ} {changes : ChangeList φ} {batch : Batch}
    (calls : Calls means changes batch) : ¬CallsNobody means changes := by
  rintro ⟨result, nobody⟩
  have kept := congrArg Prod.snd (calls .recording)
  rw [(nobody .recording).2] at kept
  cases kept

theorem due_config {means : Means φ} {made : List (φ × Snapshot)}
    {subProjects : Project → List Project} {pair : Project × Snapshot}
    (member : pair ∈ due (configs means made) subProjects) :
    ∃ file, (file, pair.2) ∈ made ∧
      ConfigFile.isFolderJson means.maker.settings pair.2.relativePath = true := by
  obtain ⟨owner, -, inOwner⟩ := List.mem_flatMap.mp member
  obtain ⟨subProject, -, inScope⟩ := List.mem_flatMap.mp inOwner
  obtain ⟨original, ofOwner, rfl⟩ := List.mem_map.mp inScope
  obtain ⟨config, kept, rfl⟩ := List.mem_map.mp ofOwner
  obtain ⟨source, listed, rfl⟩ := List.mem_map.mp (List.mem_filter.mp kept).1
  obtain ⟨own, isConfig⟩ := List.mem_filter.mp listed
  exact ⟨source.1, own, isConfig⟩

theorem mem_forall₂ {α β : Type} {relation : α → β → Prop} {items : List α} {results : List β}
    (all : List.Forall₂ relation items results) {result : β} (member : result ∈ results) :
    ∃ item ∈ items, relation item result := by
  induction all with
  | nil => cases member
  | cons here _ ih =>
    rcases List.mem_cons.mp member with rfl | later
    · exact ⟨_, List.mem_cons_self, here⟩
    · obtain ⟨item, found, related⟩ := ih later
      exact ⟨item, List.mem_cons_of_mem _ found, related⟩

theorem copy_content {means : Means φ} {files : List φ} {own copies : List Snapshot}
    {subProjects : Project → List Project} (contents : Contents means files own copies subProjects)
    {copy : Snapshot} (member : copy ∈ copies) :
    ∃ file ∈ files, ∃ original, Made means file original ∧
      copy = { original with relativePath := copy.relativePath, scope := copy.scope } ∧
        ∀ value, (means.look file).document = .ok value →
          value = Snapshot.optionalText copy.content := by
  obtain ⟨pair, isDue, copied⟩ := mem_forall₂ contents.copied member
  obtain ⟨file, own, isConfig⟩ := due_config isDue
  have made : Made means file pair.2 := List.forall₂_zip contents.made own
  refine ⟨file, (List.of_mem_zip own).1, pair.2, made, copied.same, ?_⟩
  intro value read
  have shown := Snapshot.make_content made isConfig value read
  rw [copied.same]
  exact shown

theorem length_pairs (originals : List Snapshot) (subProjects : List Project) :
    (SubProject.pairs originals subProjects).length = subProjects.length * originals.length := by
  simp [SubProject.pairs, List.length_flatMap]

theorem length_due (pairs : List (Project × Snapshot)) (subProjects : Project → List Project) :
    (due pairs subProjects).length = ((owners pairs).map fun owner =>
      (subProjects owner).length * (ofScope owner.scope pairs).length).sum := by
  simp only [due, List.length_flatMap, length_pairs]

/-- A cycle calls its file service with a batch exactly if there are changes and the batch is what
they come to: the places removed, the snapshots of all files and every copy that is due. It calls
nobody if there are no changes or if some part cannot be made. A copy is its original but for path
and scope, and its content is the document whenever that could be read. -/
theorem run_calls_with_contents (means : Means φ) (changes : ChangeList φ) :
    (∀ batch, Calls means changes batch ↔
      changes.isEmpty = false ∧ ∃ own copies subProjects,
        Contents means changes.present own copies subProjects ∧
          batch = ⟨changes.removed, own ++ copies⟩) ∧
    (CallsNobody means changes ↔
      changes.isEmpty = true ∨
        ¬∃ own copies subProjects, Contents means changes.present own copies subProjects) ∧
    ∀ own copies subProjects, Contents means changes.present own copies subProjects →
      (∀ copy ∈ copies, ∃ file ∈ changes.present, ∃ original, Made means file original ∧
        copy = { original with relativePath := copy.relativePath, scope := copy.scope } ∧
          ∀ value, (means.look file).document = .ok value →
            value = Snapshot.optionalText copy.content) ∧
      (own ++ copies).length = changes.present.length +
        ((owners (configs means (changes.present.zip own))).map fun owner =>
          (subProjects owner).length *
            (ofScope owner.scope (configs means (changes.present.zip own))).length).sum := by
  have made : ∀ {own copies subProjects}, Contents means changes.present own copies subProjects →
      changes.isEmpty = false → Calls means changes ⟨changes.removed, own ++ copies⟩ := by
    intro own copies subProjects contents filled
    have whole := (snapshotsOf_ok_iff means changes.present (own ++ copies)).mpr
      ⟨own, copies, subProjects, contents, rfl⟩
    exact run_made filled whole
  have idle : (changes.isEmpty = true ∨
      ¬∃ own copies subProjects, Contents means changes.present own copies subProjects) →
      CallsNobody means changes := by
    rintro (nothing | missing)
    · exact run_empty nothing
    · cases answer : (snapshotsOf means changes.present).1 with
      | error failure => exact run_failed answer
      | ok snapshots =>
        obtain ⟨own, copies, subProjects, contents, -⟩ := (snapshotsOf_ok_iff _ _ _).mp answer
        exact absurd ⟨own, copies, subProjects, contents⟩ missing
  refine ⟨?_, ⟨?_, idle⟩, ?_⟩
  · intro batch
    constructor
    · intro calls
      by_cases ready : changes.isEmpty = false ∧
          ∃ own copies subProjects, Contents means changes.present own copies subProjects
      · obtain ⟨filled, own, copies, subProjects, contents⟩ := ready
        exact ⟨filled, own, copies, subProjects, contents, calls_inj calls (made contents filled)⟩
      · refine absurd (idle ?_) (calls_somebody calls)
        cases nothing : changes.isEmpty with
        | true => exact Or.inl rfl
        | false => exact Or.inr fun contents => ready ⟨nothing, contents⟩
    · rintro ⟨filled, own, copies, subProjects, contents, rfl⟩
      exact made contents filled
  · intro nobody
    cases nothing : changes.isEmpty with
    | true => exact Or.inl rfl
    | false =>
      refine Or.inr ?_
      rintro ⟨own, copies, subProjects, contents⟩
      exact calls_somebody (made contents nothing) nobody
  · intro own copies subProjects contents
    constructor
    · intro copy member
      exact copy_content contents member
    · rw [List.length_append, ← contents.made.length_eq, ← contents.copied.length_eq, length_due]

def sampleChanges : ChangeList FileView :=
  let app : Project := ⟨"app", .text "scope:app", "file:///w/app"⟩
  let file (name path : String) : FileView :=
    ⟨.text ("file:///w/app/" ++ path), name, app, path, .ok (.text "utf-8"), .ok (.text name)⟩
  ⟨[file "a.json" ".sonarlint/a.json", file "main.c" "main.c"], ["file:///w/app/old.c"]⟩

def sampleMeans : Means FileView :=
  let lib : Project := ⟨"lib", .text "scope:lib", "file:///w/app/lib"⟩
  let web : Project := ⟨"web", .text "scope:web", "file:///w/web"⟩
  let stranger : Hierarchy := ⟨fun _ => .ok false, fun _ => .ok [lib]⟩
  let owner : Hierarchy := ⟨fun _ => .ok true, fun _ => .ok [lib, web, lib]⟩
  ⟨⟨.standard, .standard, fun _ => .ok (some (.parse "/disk/file"))⟩, [stranger, owner],
    .recording, fun view => view⟩

theorem run_calls_sample : ∃ own copies subProjects,
    Calls sampleMeans sampleChanges ⟨["file:///w/app/old.c"], own ++ copies⟩ ∧
      Contents sampleMeans sampleChanges.present own copies subProjects ∧
      (own ++ copies).map (·.relativePath) =
        [".sonarlint/a.json", "main.c", "../.sonarlint/a.json", "../app/.sonarlint/a.json"] ∧
      (∀ copy ∈ copies, ∃ file ∈ sampleChanges.present, ∀ value,
        file.document = .ok value → value = Snapshot.optionalText copy.content) := by
  have paths : (snapshotsOf sampleMeans sampleChanges.present).1.map
      (fun snapshots => snapshots.map (·.relativePath)) = .ok
        [".sonarlint/a.json", "main.c", "../.sonarlint/a.json", "../app/.sonarlint/a.json"] := by
    rfl
  cases whole : (snapshotsOf sampleMeans sampleChanges.present).1 with
  | error failure =>
    rw [whole] at paths
    cases paths
  | ok snapshots =>
    rw [whole] at paths
    have filled : sampleChanges.isEmpty = false := rfl
    have calls := run_made filled whole
    obtain ⟨theBatch, -, contained⟩ := run_calls_with_contents sampleMeans sampleChanges
    obtain ⟨-, own, copies, subProjects, contents, same⟩ := (theBatch _).mp calls
    have listed : snapshots = own ++ copies := congrArg Batch.addedOrChanged same
    subst listed
    refine ⟨own, copies, subProjects, calls, contents, Except.ok.inj paths, ?_⟩
    intro copy member
    obtain ⟨file, present, original, -, -, read⟩ :=
      (contained own copies subProjects contents).1 copy member
    exact ⟨file, present, read⟩

end Sending
end ChangeRelay
