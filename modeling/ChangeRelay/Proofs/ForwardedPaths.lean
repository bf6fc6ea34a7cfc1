import ChangeRelay.Proofs.CalmNotification

/-!
What a set of changes comes to. Of the changed paths, in their order and each once, those that lead
nowhere now are told of as removed, and those that are files of a project as added or changed; the
folders on the way to a changed path and the paths in ignored folders leave no trace.
-/
namespace ChangeRelay.Workspace

/-- A path none of whose parts, seen from the root of the workspace, is an ignored folder's name. -/
def Regards (workspace : Workspace) (ignored : List String) (path : Path) : Prop :=
  ∃ full, workspace.workspacePath path = .ok full ∧ ∀ part ∈ full.parts, part ∉ ignored

def Changed (workspace : Workspace) (changes : List (Change × Path)) (path : Path) : Prop :=
  ∃ change ∈ changes, workspace.changedPath change.2 = path

/-- A changed path of a file that is a project's and not itself a project's folder. -/
structure IsShown (workspace : Workspace) (ignored : List String) (changes : List (Change × Path))
    (path : Path) : Prop where
  changed : workspace.Changed changes path
  isFile : workspace.tree.hasFile path = true
  owned : ∃ member ∈ workspace.members, path.isWithin member.folder = true
  proper : ∀ member ∈ workspace.members, member.folder ≠ path
  regarded : workspace.Regards ignored path

theorem regards_iff {workspace : Workspace} {path : Path}
    (within : path.isWithin workspace.root = true) (ignored : List String) :
    workspace.Regards ignored path ↔ workspace.ignores ignored path = false := by
  have shown : workspace.workspacePath path = .ok ⟨.single, workspace.namesBelow path⟩ := by
    simp [workspacePath, Path.below?, within, namesBelow]
  simp [Regards, shown, ignores, Exclusion.passesThrough]

def Mark.tells (mark : Mark) : Bool :=
  match mark.kind with
  | .removed => false
  | .added => true
  | .changed => !(Reasons.ofFlags mark.flags).isEmpty

theorem file_eventAt (workspace : Workspace) (ignored : List String) (node : Path × Mark) :
    (workspace.eventAt ignored node.1 node.2).bind FileEvent.file? =
      if workspace.ignores ignored node.1 = false ∧ node.2.tells = true then
        workspace.file? node.1
      else none := by
  obtain ⟨path, kind, flags⟩ := node
  simp only [eventAt, Mark.tells, location?]
  by_cases passed : workspace.ignores ignored path = true
  · simp [passed]
  · have owner := Option.eq_none_or_eq_some (workspace.owner? path)
    have file := Option.eq_none_or_eq_some (workspace.file? path)
    cases kind with
    | removed => rcases owner with owned | ⟨member, owned⟩ <;> simp [passed, owned, FileEvent.file?]
    | added => rcases file with found | ⟨file, found⟩ <;> simp [passed, found, FileEvent.file?]
    | changed =>
      by_cases empty : (Reasons.ofFlags flags).isEmpty = true
      · simp [passed, empty]
      · rcases file with found | ⟨file, found⟩ <;> simp [passed, empty, found, FileEvent.file?]

theorem markOf_tells (workspace : Workspace) (changes : List (Change × Path)) (path : Path) :
    (workspace.markOf changes path).tells = workspace.tree.contains path := by
  unfold markOf
  cases workspace.tree.contains path with
  | false => rfl
  | true =>
    simp only [Bool.not_true, Bool.false_eq_true, if_false]
    split <;> rfl

theorem hasFile_contains {tree : FileTree} {path : Path} (isFile : tree.hasFile path = true) :
    tree.contains path = true := by
  unfold FileTree.hasFile at isFile
  unfold FileTree.contains
  split at isFile
  · rename_i found
    rw [found]
    rfl
  · cases isFile

def shownFiles (workspace : Workspace) (ignored : List String) (changes : List (Change × Path)) :
    List File :=
  (workspace.events ignored changes).filterMap FileEvent.file?

theorem mem_changedPaths_iff (workspace : Workspace) (changes : List (Change × Path))
    (path : Path) :
    path ∈ workspace.changedPaths changes ↔ workspace.Changed changes path ∧
      path.isWithin workspace.root = true ∧ path ≠ workspace.root := by
  rw [mem_changedPaths, isBelowRoot, Bool.and_eq_true, bne_iff_ne]
  rfl

theorem shownFiles_eq (workspace : Workspace) (ignored : List String)
    (changes : List (Change × Path)) :
    workspace.shownFiles ignored changes = (workspace.nodes changes).filterMap fun node =>
      if workspace.ignores ignored node.1 = false ∧ node.2.tells = true then
        workspace.file? node.1
      else none := by
  rw [shownFiles, events, List.filterMap_filterMap]
  simp only [file_eventAt]

theorem mem_shownFiles (workspace : Workspace) (ignored : List String)
    (changes : List (Change × Path)) (file : File) :
    file ∈ workspace.shownFiles ignored changes ↔
      file.path ∈ workspace.changedPaths changes ∧
        workspace.ignores ignored file.path = false ∧
          workspace.file? file.path = some file := by
  rw [shownFiles_eq, List.mem_filterMap]
  constructor
  · rintro ⟨⟨path, mark⟩, member, found⟩
    split at found
    · rename_i told
      have same := (file_cases found).1
      subst same
      rcases (mem_nodes workspace changes _ mark).mp member with ⟨changed, -⟩ | ⟨-, rfl, -⟩
      · exact ⟨changed, told.1, found⟩
      · have silent : Mark.passing.tells = false := by decide
        rw [silent] at told
        cases told.2
    · cases found
  · rintro ⟨changed, regarded, found⟩
    have isFile := (file_cases found).2.2.2
    refine ⟨(file.path, workspace.markOf changes file.path), ?_, ?_⟩
    · exact (mem_nodes workspace changes file.path _).mpr (Or.inl ⟨changed, rfl⟩)
    · have tells : (workspace.markOf changes file.path).tells = true := by
        rw [markOf_tells, hasFile_contains isFile]
      rw [if_pos ⟨regarded, tells⟩]
      exact found

theorem owned_within {workspace : Workspace} (sound : workspace.Sound) {path : Path}
    (owned : ∃ member ∈ workspace.members, path.isWithin member.folder = true) :
    path.isWithin workspace.root = true := by
  obtain ⟨member, found, within⟩ := owned
  exact Path.isWithin_trans within (sound.inside member found)

theorem mem_shownPaths {workspace : Workspace} (sound : workspace.Sound) (ignored : List String)
    (changes : List (Change × Path)) (path : Path) :
    path ∈ (workspace.shownFiles ignored changes).map (·.path) ↔
      workspace.IsShown ignored changes path := by
  rw [List.mem_map]
  constructor
  · rintro ⟨file, member, rfl⟩
    obtain ⟨changed, regarded, found⟩ := (mem_shownFiles workspace ignored changes file).mp member
    obtain ⟨told, below⟩ := (mem_changedPaths_iff workspace changes _).mp changed
    obtain ⟨isFile, owned, proper⟩ :=
      (file_isSome_iff workspace file.path).mp (Option.isSome_iff_exists.mpr ⟨file, found⟩)
    exact ⟨told, isFile, owned, proper, (regards_iff below.1 ignored).mpr regarded⟩
  · intro shown
    have within := owned_within sound shown.owned
    have notRoot : path ≠ workspace.root := by
      rintro rfl
      obtain ⟨member, found, inMember⟩ := shown.owned
      have outside := sound.inside member found
      have depths := Path.isWithin_depth inMember
      have same := Path.isWithin_same_depth (Path.isWithin_refl member.folder) outside
        (Nat.le_antisymm depths (Path.isWithin_depth outside))
      exact shown.proper member found same
    have changed := (mem_changedPaths_iff workspace changes path).mpr
      ⟨shown.changed, within, notRoot⟩
    have given := (file_isSome_iff workspace path).mpr ⟨shown.isFile, shown.owned, shown.proper⟩
    obtain ⟨file, found⟩ := Option.isSome_iff_exists.mp given
    have same := (file_cases found).1
    subst same
    exact ⟨file, (mem_shownFiles workspace ignored changes file).mpr
      ⟨changed, (regards_iff within ignored).mp shown.regarded, found⟩, rfl⟩

end ChangeRelay.Workspace
