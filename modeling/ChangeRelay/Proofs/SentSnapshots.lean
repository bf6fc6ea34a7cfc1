import ChangeRelay.Proofs.NestedCopies
import ChangeRelay.Proofs.SnapshotFields
import ChangeRelay.Proofs.SnapshotMaking
import Mathlib.Data.List.Forall2

/-!
The snapshots that a cycle sends of a workspace's files. Every file comes to one of its own, in the
order of the files and in the scope of the innermost project around it; a configuration file's is
then copied for the projects within that project.
-/
namespace ChangeRelay.Workspace

/-- A file's own snapshot, in the scope of the innermost project around it. -/
def IsOwn (workspace : Workspace) (path : Path) (snapshot : Snapshot) : Prop :=
  snapshot.uri = Uri.ofPath path ∧
    ∃ owner, workspace.Innermost owner path ∧ snapshot.scope = owner.uri

/-- A snapshot of a configuration file as it is copied for a project within that of the file. -/
def IsCopy (workspace : Workspace) (settings : Settings) (own : List Snapshot) (copy : Snapshot) :
    Prop :=
  ∃ snapshot ∈ own, ConfigFile.isFolderJson settings snapshot.relativePath = true ∧
    ∃ owner ∈ workspace.members, snapshot.scope = owner.uri ∧
      ∃ member ∈ workspace.members, member ≠ owner ∧
        member.folder.isWithin owner.folder = true ∧
          copy = { snapshot with relativePath := copy.relativePath, scope := member.uri }

theorem view_typed (workspace : Workspace) (file : File) :
    (workspace.view file).Typed file.uri file.owner.uri := by
  refine ⟨rfl, rfl, ?_, ?_⟩
  · intro answer told
    cases told
    exact ⟨workspace.charset, rfl⟩
  · intro answer told
    simp only [view] at told
    cases found : workspace.read file with
    | error failure =>
      rw [found] at told
      cases told
    | ok text =>
      rw [found] at told
      cases told
      exact ⟨text, rfl⟩

theorem own_snapshot {workspace : Workspace} {maker : Snapshot.Maker} (typed : maker.advisors.Typed)
    (file : File) :
    ∃ snapshot, (Snapshot.make maker (workspace.view file)).value = .ok snapshot := by
  obtain ⟨isTest, charset, localPath, content, language, made⟩ :=
    Snapshot.make_typed typed (view_typed workspace file)
  exact ⟨_, made⟩

theorem own_fields {workspace : Workspace} {maker : Snapshot.Maker} {file : File}
    {snapshot : Snapshot}
    (made : (Snapshot.make maker (workspace.view file)).value = .ok snapshot) :
    snapshot.uri = file.uri ∧ snapshot.scope = file.owner.uri := by
  obtain ⟨uri, scope⟩ := Snapshot.make_source made
  exact ⟨(Value.text.inj uri).symm, (Value.text.inj scope).symm⟩

structure Sendable (workspace : Workspace) (file : File) : Prop where
  owner : workspace.Innermost file.owner file.path
  clean : file.path.Clean
  rooted : file.path.anchor = .single
  plain : Plain file.path

structure Sends (workspace : Workspace) (file : File) (snapshot : Snapshot) : Prop where
  sendable : workspace.Sendable file
  uri : snapshot.uri = file.uri
  scope : snapshot.scope = file.owner.uri

/-- The copies for the projects within a file's project can all be made. -/
theorem copies_made {workspace : Workspace} (sound : workspace.Sound)
    (membersPlain : ∀ member ∈ workspace.members, Plain member.folder) {file : File}
    {snapshot : Snapshot} (sends : workspace.Sends file snapshot) {project : Project}
    (scope : Value.text file.owner.uri = project.scope) :
    ∀ subProject ∈ ChangeList.firstPerScope
        ((workspace.subProjects project.scope).map Member.project),
      ∃ member ∈ workspace.members, member ≠ file.owner ∧
        member.folder.isWithin file.owner.folder = true ∧ ∃ relativePath,
          SubProject.duplicate subProject snapshot =
            .ok { snapshot with relativePath := relativePath, scope := member.uri } := by
  intro subProject found
  obtain ⟨member, listed, rfl⟩ := List.mem_map.mp (ChangeList.mem_firstPerScope found)
  rw [← scope] at listed
  have ready := sends.sendable
  obtain ⟨inside, other, within⟩ := mem_subProjects sound ready.owner.1 listed
  exact ⟨member, inside, other, within,
    duplicate_ok sound inside (membersPlain member inside) ready.clean ready.rooted ready.plain
      sends.uri⟩

section
variable {workspace : Workspace} (sound : workspace.Sound)
  (membersPlain : ∀ member ∈ workspace.members, Plain member.folder) {means : Sending.Means File}
  (look : means.look = workspace.view) {made : List (File × Snapshot)}
  (sends : ∀ pair ∈ made, workspace.Sends pair.1 pair.2) {groups : List Sending.Group}
  (grouped : Sending.Grouped means made groups)
include sound membersPlain look sends grouped

theorem groups_copied : ∀ group ∈ groups, ∃ subProjects,
    SubProject.resolve group.1 [workspace.hierarchy] = .ok subProjects ∧
      ∀ subProject ∈ subProjects, ∀ snapshot ∈ group.2,
        ∃ copy, SubProject.duplicate subProject snapshot = .ok copy := by
  intro group listed
  refine ⟨_, resolve_hierarchy workspace group.1, ?_⟩
  intro subProject found snapshot inGroup
  obtain ⟨file, pair, -, scope⟩ := grouped group listed snapshot inGroup
  rw [look] at scope
  obtain ⟨member, -, -, -, relativePath, same⟩ :=
    copies_made sound membersPlain (sends _ pair) scope subProject found
  exact ⟨_, same⟩

theorem copy_of_group {group : Sending.Group} (listed : group ∈ groups)
    {subProjects : List Project}
    (resolved : SubProject.resolve group.1 [workspace.hierarchy] = .ok subProjects)
    {subProject : Project} (found : subProject ∈ subProjects) {snapshot copy : Snapshot}
    (inGroup : snapshot ∈ group.2) (same : SubProject.duplicate subProject snapshot = .ok copy) :
    workspace.IsCopy means.maker.settings (made.map Prod.snd) copy := by
  rw [resolve_hierarchy] at resolved
  cases resolved
  obtain ⟨file, pair, isConfig, scope⟩ := grouped group listed snapshot inGroup
  rw [look] at scope
  have sent := sends _ pair
  obtain ⟨member, inside, other, within, relativePath, told⟩ :=
    copies_made sound membersPlain sent scope subProject found
  rw [told] at same
  cases same
  exact ⟨snapshot, List.mem_map_of_mem pair, isConfig, file.owner, sent.sendable.owner.1,
    sent.scope, member, inside, other, within, rfl⟩

end

theorem made_own {workspace : Workspace} {maker : Snapshot.Maker} {files : List File}
    {own : List Snapshot}
    (made : List.Forall₂ (fun file snapshot =>
      (Snapshot.make maker (workspace.view file)).value = .ok snapshot) files own)
    (owned : ∀ file ∈ files, workspace.Innermost file.owner file.path) :
    List.Forall₂ workspace.IsOwn (files.map (·.path)) own := by
  induction made with
  | nil => exact .nil
  | cons here _ ih =>
    obtain ⟨ownedHere, others⟩ := List.forall_mem_cons.mp owned
    obtain ⟨uri, scope⟩ := own_fields here
    exact .cons ⟨uri, _, ownedHere, scope⟩ (ih others)

theorem snapshots_sent {workspace : Workspace} (sound : workspace.Sound)
    (membersPlain : ∀ member ∈ workspace.members, Plain member.folder)
    {means : Sending.Means File} (typed : means.maker.advisors.Typed)
    (nested : means.hierarchies = [workspace.hierarchy]) (look : means.look = workspace.view)
    {files : List File} (sendable : ∀ file ∈ files, workspace.Sendable file) :
    ∃ own copies, (Sending.snapshotsOf means files).1 = .ok (own ++ copies) ∧
      List.Forall₂ workspace.IsOwn (files.map (·.path)) own ∧
        ∀ copy ∈ copies, workspace.IsCopy means.maker.settings own copy := by
  have all : ∀ file ∈ files, ∃ snapshot,
      (Snapshot.make means.maker (means.look file)).value = .ok snapshot := by
    intro file _
    rw [look]
    exact own_snapshot typed file
  have start : Sending.Grouped means [] [] := List.forall_mem_nil _
  obtain ⟨made, groups, result, sources, makes, grouped⟩ := Sending.makeAll_ok all start []
  rw [List.nil_append] at result grouped
  rw [look] at makes
  have sends : ∀ pair ∈ made, workspace.Sends pair.1 pair.2 := by
    intro pair member
    have source : pair.1 ∈ files := by
      rw [← sources]
      exact List.mem_map_of_mem member
    obtain ⟨uri, scope⟩ := own_fields (makes pair member)
    exact ⟨sendable pair.1 source, uri, scope⟩
  have every := groups_copied sound membersPlain look sends grouped
  rw [← nested] at every
  obtain ⟨copies, copied, origins⟩ :=
    Sending.duplicateAll_ok every (Sending.makeAll means files [] [] []).notices
  refine ⟨made.map Prod.snd, copies, Sending.snapshotsOf_ok result copied, ?_, ?_⟩
  · have each : List.Forall₂ (fun file snapshot =>
        (Snapshot.make means.maker (workspace.view file)).value = .ok snapshot) files
          (made.map Prod.snd) := by
      rw [← sources, List.forall₂_map_left_iff, List.forall₂_map_right_iff, List.forall₂_same]
      exact makes
    exact made_own each fun file member => (sendable file member).owner
  · intro copy member
    obtain ⟨group, listed, subProjects, resolved, subProject, found, snapshot, inGroup, same⟩ :=
      origins copy member
    rw [nested] at resolved
    exact copy_of_group sound membersPlain look sends grouped listed resolved found inGroup same

end ChangeRelay.Workspace
