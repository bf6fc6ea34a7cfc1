import ChangeRelay.Sending

/-!
A cycle that can be sent as a whole. If the snapshot of every file and every duplicate can be made,
the batch has the snapshots of the files, in their order, and then the duplicates, each of them one
of a configuration file's snapshot.
-/
namespace ChangeRelay

namespace SubProject

theorem mapM_ok {subProject : Project} {snapshots : List Snapshot}
    (all : ∀ snapshot ∈ snapshots, ∃ copy, duplicate subProject snapshot = .ok copy) :
    ∃ copies, snapshots.mapM (duplicate subProject) = .ok copies ∧
      ∀ copy ∈ copies, ∃ snapshot ∈ snapshots, duplicate subProject snapshot = .ok copy := by
  induction snapshots with
  | nil => exact ⟨[], rfl, List.forall_mem_nil _⟩
  | cons snapshot rest ih =>
    obtain ⟨copy, made⟩ := all snapshot List.mem_cons_self
    obtain ⟨copies, others, from_⟩ :=
      ih fun other member => all other (List.mem_cons_of_mem _ member)
    refine ⟨copy :: copies, ?_, ?_⟩
    · rw [List.mapM_cons, made, others]
      rfl
    · intro other member
      rcases List.mem_cons.mp member with rfl | later
      · exact ⟨snapshot, List.mem_cons_self, made⟩
      · obtain ⟨original, listed, same⟩ := from_ other later
        exact ⟨original, List.mem_cons_of_mem _ listed, same⟩

theorem duplicates_ok {snapshots : List Snapshot} {subProjects : List Project}
    (all : ∀ subProject ∈ subProjects, ∀ snapshot ∈ snapshots,
      ∃ copy, duplicate subProject snapshot = .ok copy) :
    ∃ copies, duplicates snapshots subProjects = .ok copies ∧
      ∀ copy ∈ copies, ∃ subProject ∈ subProjects, ∃ snapshot ∈ snapshots,
        duplicate subProject snapshot = .ok copy := by
  induction subProjects with
  | nil => exact ⟨[], rfl, List.forall_mem_nil _⟩
  | cons subProject rest ih =>
    obtain ⟨own, made, fromOwn⟩ := mapM_ok (all subProject List.mem_cons_self)
    obtain ⟨others, more, fromOthers⟩ :=
      ih fun other member => all other (List.mem_cons_of_mem _ member)
    refine ⟨own ++ others, ?_, ?_⟩
    · rw [duplicates, made, more]
      rfl
    · intro copy member
      rcases List.mem_append.mp member with here | later
      · exact ⟨subProject, List.mem_cons_self, fromOwn copy here⟩
      · obtain ⟨other, listed, from_⟩ := fromOthers copy later
        exact ⟨other, List.mem_cons_of_mem _ listed, from_⟩

theorem spread_result (snapshots : List Snapshot) (subProjects : List Project) :
    (spread snapshots subProjects).1 = duplicates snapshots subProjects := by
  unfold spread
  split <;> simp_all

end SubProject

namespace Sending

variable {φ : Type}

def Grouped (means : Means φ) (pairs : List (φ × Snapshot)) (groups : List Group) : Prop :=
  ∀ group ∈ groups, ∀ snapshot ∈ group.2, ∃ file, (file, snapshot) ∈ pairs ∧
    ConfigFile.isFolderJson means.maker.settings snapshot.relativePath = true ∧
      (means.look file).project.scope = group.1.scope

theorem mem_addToGroup {groups : List Group} {project : Project} {snapshot : Snapshot}
    {group : Group} (member : group ∈ addToGroup groups project snapshot)
    {other : Snapshot} (listed : other ∈ group.2) :
    other = snapshot ∧ project.scope = group.1.scope ∨
      ∃ old ∈ groups, other ∈ old.2 ∧ old.1.scope = group.1.scope := by
  induction groups with
  | nil =>
    rw [List.mem_singleton.mp member] at listed ⊢
    exact Or.inl ⟨List.mem_singleton.mp listed, rfl⟩
  | cons first rest ih =>
    obtain ⟨owner, snapshots⟩ := first
    rw [addToGroup] at member
    split at member
    · rename_i same
      rcases List.mem_cons.mp member with rfl | later
      · rcases List.mem_append.mp listed with old | added
        · exact Or.inr ⟨(owner, snapshots), List.mem_cons_self, old, rfl⟩
        · exact Or.inl ⟨List.mem_singleton.mp added, same.symm⟩
      · exact Or.inr ⟨group, List.mem_cons_of_mem _ later, listed, rfl⟩
    · rcases List.mem_cons.mp member with rfl | later
      · exact Or.inr ⟨(owner, snapshots), List.mem_cons_self, listed, rfl⟩
      · rcases ih later with added | ⟨old, found, inOld, same⟩
        · exact Or.inl added
        · exact Or.inr ⟨old, List.mem_cons_of_mem _ found, inOld, same⟩

theorem grouped_more {means : Means φ} {pairs more : List (φ × Snapshot)} {groups : List Group}
    (grouped : Grouped means pairs groups) : Grouped means (pairs ++ more) groups := by
  intro group member snapshot listed
  obtain ⟨file, pair, isConfig, scope⟩ := grouped group member snapshot listed
  exact ⟨file, List.mem_append_left _ pair, isConfig, scope⟩

theorem addToGroup_grouped {means : Means φ} {pairs : List (φ × Snapshot)} {groups : List Group}
    {file : φ} {snapshot : Snapshot} (grouped : Grouped means pairs groups)
    (isConfig : ConfigFile.isFolderJson means.maker.settings snapshot.relativePath = true) :
    Grouped means (pairs ++ [(file, snapshot)])
      (addToGroup groups (means.look file).project snapshot) := by
  intro group member other listed
  rcases mem_addToGroup member listed with ⟨rfl, scope⟩ | ⟨old, found, inOld, scope⟩
  · exact ⟨file, List.mem_append_right _ (List.mem_singleton.mpr rfl), isConfig, scope⟩
  · obtain ⟨source, pair, sourceConfig, sourceScope⟩ := grouped old found other inOld
    exact ⟨source, List.mem_append_left _ pair, sourceConfig, sourceScope.trans scope⟩

theorem makeAll_ok {means : Means φ} {files : List φ}
    (all : ∀ file ∈ files, ∃ snapshot,
      (Snapshot.make means.maker (means.look file)).value = .ok snapshot)
    {pairs : List (φ × Snapshot)} {groups : List Group} (grouped : Grouped means pairs groups)
    (notices : List Notice) :
    ∃ made groups', (makeAll means files (pairs.map Prod.snd) groups notices).result =
        .ok ((pairs ++ made).map Prod.snd, groups') ∧
      made.map Prod.fst = files ∧
      (∀ pair ∈ made, (Snapshot.make means.maker (means.look pair.1)).value = .ok pair.2) ∧
      Grouped means (pairs ++ made) groups' := by
  induction files generalizing pairs groups notices with
  | nil => exact ⟨[], groups, by simp [makeAll], rfl, List.forall_mem_nil _, by simpa using grouped⟩
  | cons file rest ih =>
    obtain ⟨snapshot, here⟩ := all file List.mem_cons_self
    have others := fun other member => all other (List.mem_cons_of_mem file member)
    have next : Grouped means (pairs ++ [(file, snapshot)])
        (if ConfigFile.isFolderJson means.maker.settings snapshot.relativePath then
          addToGroup groups (means.look file).project snapshot else groups) := by
      split
      · rename_i isConfig
        exact addToGroup_grouped grouped isConfig
      · exact grouped_more grouped
    obtain ⟨made, after, result, sources, makes, final⟩ := ih others next
      (notices ++ (Snapshot.make means.maker (means.look file)).notices)
    rw [List.append_assoc, List.singleton_append] at result final
    refine ⟨(file, snapshot) :: made, after, ?_, ?_, ?_, final⟩
    · rw [List.map_append] at result
      simp only [makeAll, here]
      exact result
    · rw [List.map_cons, sources]
    · intro pair member
      rcases List.mem_cons.mp member with rfl | later
      · exact here
      · exact makes pair later

theorem duplicateAll_ok {hierarchies : List Hierarchy} {groups : List Group}
    (all : ∀ group ∈ groups, ∃ subProjects,
      SubProject.resolve group.1 hierarchies = .ok subProjects ∧
        ∀ subProject ∈ subProjects, ∀ snapshot ∈ group.2,
          ∃ copy, SubProject.duplicate subProject snapshot = .ok copy)
    (notices : List Notice) :
    ∃ copies, (duplicateAll hierarchies groups notices).1 = .ok copies ∧
      ∀ copy ∈ copies, ∃ group ∈ groups, ∃ subProjects,
        SubProject.resolve group.1 hierarchies = .ok subProjects ∧
          ∃ subProject ∈ subProjects, ∃ snapshot ∈ group.2,
            SubProject.duplicate subProject snapshot = .ok copy := by
  induction groups generalizing notices with
  | nil => exact ⟨[], rfl, List.forall_mem_nil _⟩
  | cons group rest ih =>
    obtain ⟨project, snapshots⟩ := group
    obtain ⟨subProjects, resolved, each⟩ := all (project, snapshots) List.mem_cons_self
    obtain ⟨own, made, fromOwn⟩ := SubProject.duplicates_ok each
    have spread := (SubProject.spread_result snapshots subProjects).trans made
    obtain ⟨others, more, fromOthers⟩ := ih
      (fun other member => all other (List.mem_cons_of_mem _ member))
      (notices ++ (SubProject.spread snapshots subProjects).2)
    refine ⟨own ++ others, ?_, ?_⟩
    · simp only [duplicateAll, resolved]
      revert spread more
      obtain ⟨answer, noted⟩ := SubProject.spread snapshots subProjects
      intro spread more
      change answer = .ok own at spread
      subst spread
      simp only at more ⊢
      rw [more]
      rfl
    · intro copy member
      rcases List.mem_append.mp member with here | later
      · exact ⟨(project, snapshots), List.mem_cons_self, subProjects, resolved, fromOwn copy here⟩
      · obtain ⟨group, listed, from_⟩ := fromOthers copy later
        exact ⟨group, List.mem_cons_of_mem _ listed, from_⟩

theorem snapshotsOf_ok {means : Means φ} {files : List φ} {own copies : List Snapshot}
    {groups : List Group} (made : (makeAll means files [] [] []).result = .ok (own, groups))
    (copied : (duplicateAll means.hierarchies groups (makeAll means files [] [] []).notices).1 =
      .ok copies) : (snapshotsOf means files).1 = .ok (own ++ copies) := by
  unfold snapshotsOf
  revert made copied
  obtain ⟨answer, notices⟩ := makeAll means files [] [] []
  intro made copied
  change answer = .ok (own, groups) at made
  subst made
  simp only at copied ⊢
  rw [copied]
  rfl

theorem snapshotsOf_alone {means : Means φ} (alone : means.hierarchies = []) {files : List φ}
    (all : ∀ file ∈ files, ∃ snapshot,
      (Snapshot.make means.maker (means.look file)).value = .ok snapshot) :
    ∃ sent, (snapshotsOf means files).1 = .ok sent := by
  have start : Grouped means [] [] := List.forall_mem_nil _
  obtain ⟨made, groups, result, -⟩ := makeAll_ok all start []
  rw [List.nil_append] at result
  have resolved : ∀ project, SubProject.resolve project means.hierarchies = .ok [] := by
    intro project
    rw [alone]
    rfl
  obtain ⟨copies, copied, -⟩ := duplicateAll_ok
    (fun group _ => ⟨[], resolved group.1, List.forall_mem_nil _⟩)
    (makeAll means files [] [] []).notices
  exact ⟨_, snapshotsOf_ok result copied⟩

end Sending
end ChangeRelay
