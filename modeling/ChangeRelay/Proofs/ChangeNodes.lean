import ChangeRelay.Proofs.ChangeTreeLaws
import Mathlib.Data.List.Basic

/-!
The nodes of the notification for changed paths. There is one for every changed path below the root
and one for every folder from the root on the way to it, strictly in the order of their paths.
-/
namespace ChangeRelay.Workspace

open ChangeTree (marks marksAll)

def below (workspace : Workspace) (names : List String) : Path :=
  ⟨workspace.root.anchor, workspace.root.names ++ names⟩

def nodes (workspace : Workspace) (changes : List (Change × Path)) : List (Path × Mark) :=
  (marks (workspace.changeTree changes)).map fun node => (workspace.below node.1, node.2)

mutual

theorem preorder_delta (workspace : Workspace) (path : Path) (tree : ChangeTree) :
    (workspace.delta path tree).preorder = (marks tree).map fun node =>
      workspace.subject ⟨path.anchor, path.names ++ node.1⟩ node.2 := by
  obtain ⟨mark, children⟩ := tree
  rw [delta, Delta.preorder, marks, List.map_cons, preorder_deltas workspace path children,
    List.append_nil]

theorem preorder_deltas (workspace : Workspace) (path : Path)
    (children : List (String × ChangeTree)) :
    Delta.preorderAll (workspace.deltas path children) = (marksAll children).map fun node =>
      workspace.subject ⟨path.anchor, path.names ++ node.1⟩ node.2 := by
  match children with
  | [] => rfl
  | (name, child) :: rest =>
    rw [deltas, Delta.preorderAll, marksAll, List.map_append, List.map_map,
      preorder_delta workspace (path.child name) child, preorder_deltas workspace path rest]
    congr 1
    refine List.map_congr_left ?_
    intro node _
    simp [Path.child]

end

theorem preorder_deltaOf (workspace : Workspace) (changes : List (Change × Path)) :
    (workspace.deltaOf changes).preorder =
      (workspace.nodes changes).map fun node => workspace.subject node.1 node.2 := by
  rw [deltaOf, preorder_delta, nodes, List.map_map]
  rfl

theorem isBelowRoot_iff (workspace : Workspace) (path : Path) :
    workspace.isBelowRoot path = true ↔ ∃ names, names ≠ [] ∧ path = workspace.below names := by
  simp only [isBelowRoot, Bool.and_eq_true, Path.isWithin_iff, bne_iff_ne]
  constructor
  · rintro ⟨⟨anchor, names, same⟩, differs⟩
    refine ⟨names, ?_, ?_⟩
    · rintro rfl
      apply differs
      obtain ⟨own, ownNames⟩ := path
      rw [List.append_nil] at same
      change own = workspace.root.anchor at anchor
      change workspace.root.names = ownNames at same
      rw [anchor, ← same]
    · obtain ⟨own, ownNames⟩ := path
      change own = workspace.root.anchor at anchor
      change workspace.root.names ++ names = ownNames at same
      rw [anchor, ← same, below]
  · rintro ⟨names, some_, rfl⟩
    refine ⟨⟨rfl, List.prefix_append _ _⟩, ?_⟩
    intro same
    have lengths := congrArg (fun path => path.names.length) same
    simp only [below, List.length_append] at lengths
    exact some_ (List.length_eq_zero_iff.mp (by omega))

theorem mem_changedPaths (workspace : Workspace) (changes : List (Change × Path)) (path : Path) :
    path ∈ workspace.changedPaths changes ↔
      (∃ change ∈ changes, workspace.changedPath change.2 = path) ∧
        workspace.isBelowRoot path = true := by
  simp [changedPaths, List.mem_filter]

theorem changedPaths_sorted (workspace : Workspace) (changes : List (Change × Path)) :
    (workspace.changedPaths changes).Pairwise fun first second => first.before second = true :=
  List.pairwise_mergeSort Path.before_trans Path.before_total _

def namesBelow (workspace : Workspace) (path : Path) : List String :=
  path.names.drop workspace.root.names.length

theorem path_of_namesBelow {workspace : Workspace} {changes : List (Change × Path)} {path : Path}
    (changed : path ∈ workspace.changedPaths changes) :
    path = workspace.below (workspace.namesBelow path) := by
  have inside := ((mem_changedPaths workspace changes path).mp changed).2
  obtain ⟨names, -, rfl⟩ := (isBelowRoot_iff workspace path).mp inside
  simp [namesBelow, below]

/-- What is said about the path at the end of names below the root. -/
def markBelow (workspace : Workspace) (changes : List (Change × Path)) (names : List String) :
    Mark :=
  workspace.markOf changes (workspace.below names)

theorem changeTree_eq (workspace : Workspace) (changes : List (Change × Path)) :
    workspace.changeTree changes =
      ((workspace.changedPaths changes).map workspace.namesBelow).foldl
        (fun tree names => ChangeTree.insert (workspace.markBelow changes names) names tree)
        .leaf := by
  rw [changeTree, List.foldl_map]
  refine List.foldl_ext _ _ _ ?_
  intro tree path changed
  rw [markBelow, ← path_of_namesBelow changed]
  rfl

theorem namesBelow_sorted (workspace : Workspace) (changes : List (Change × Path)) :
    ((workspace.changedPaths changes).map workspace.namesBelow).Pairwise
      fun first second => Path.namesBefore first second = true := by
  rw [List.pairwise_map]
  refine (changedPaths_sorted workspace changes).imp_of_mem ?_
  intro first second inFirst inSecond before
  rw [path_of_namesBelow inFirst, path_of_namesBelow inSecond, below, below,
    Path.before_below] at before
  exact before

theorem changeTree_ordered (workspace : Workspace) (changes : List (Change × Path)) :
    ChangeTree.Ordered (workspace.changeTree changes) := by
  rw [changeTree_eq]
  refine ChangeTree.inserted_ordered _ ChangeTree.leaf_ordered (namesBelow_sorted _ _) ?_
  intro names own marked list _
  rw [ChangeTree.markAt_leaf] at marked
  split at marked
  · rename_i empty
    subst empty
    exact Path.namesBefore_prefix List.nil_prefix
  · cases marked

theorem nodes_sorted (workspace : Workspace) (changes : List (Change × Path)) :
    (workspace.nodes changes).Pairwise fun first second => first.1.Precedes second.1 := by
  rw [nodes, List.pairwise_map]
  refine (ChangeTree.marks_sorted _ (changeTree_ordered workspace changes)).imp ?_
  rintro first second ⟨before, differ⟩
  constructor
  · exact (Path.before_below workspace.root first.1 second.1).trans before
  · intro same
    exact differ (List.append_cancel_left (congrArg Path.names same))

/-- A path on the way from the root to a changed path. -/
def LeadsOn (workspace : Workspace) (changes : List (Change × Path)) (path : Path) : Prop :=
  path = workspace.root ∨
    path.isWithin workspace.root = true ∧
      ∃ changed ∈ workspace.changedPaths changes, changed.isWithin path = true

theorem below_changed_iff (workspace : Workspace) (changes : List (Change × Path))
    (names : List String) :
    workspace.below names ∈ workspace.changedPaths changes ↔
      names ∈ (workspace.changedPaths changes).map workspace.namesBelow := by
  rw [List.mem_map]
  constructor
  · intro changed
    exact ⟨workspace.below names, changed, by simp [namesBelow, below]⟩
  · rintro ⟨path, changed, rfl⟩
    rw [← path_of_namesBelow changed]
    exact changed

theorem below_within (workspace : Workspace) (names : List String) :
    (workspace.below names).isWithin workspace.root = true := by
  rw [Path.isWithin_iff]
  exact ⟨rfl, List.prefix_append _ _⟩

theorem below_passed_iff (workspace : Workspace) (changes : List (Change × Path))
    (names : List String) :
    (∃ changed ∈ workspace.changedPaths changes,
        changed.isWithin (workspace.below names) = true) ↔
      ∃ list ∈ (workspace.changedPaths changes).map workspace.namesBelow, names <+: list := by
  constructor
  · rintro ⟨path, changed, within⟩
    refine ⟨_, List.mem_map_of_mem changed, ?_⟩
    rw [path_of_namesBelow changed, Path.isWithin_iff] at within
    exact (List.prefix_append_right_inj workspace.root.names).mp within.2
  · rintro ⟨list, member, passed⟩
    obtain ⟨path, changed, rfl⟩ := List.mem_map.mp member
    refine ⟨path, changed, ?_⟩
    rw [path_of_namesBelow changed, Path.isWithin_iff]
    exact ⟨rfl, (List.prefix_append_right_inj workspace.root.names).mpr passed⟩

theorem below_eq_root_iff (workspace : Workspace) (names : List String) :
    workspace.below names = workspace.root ↔ names = [] := by
  constructor
  · intro same
    have inNames : workspace.root.names ++ names = workspace.root.names :=
      congrArg Path.names same
    exact List.append_right_eq_self.mp inNames
  · rintro rfl
    rw [below, List.append_nil]

theorem markAt_changeTree (workspace : Workspace) (changes : List (Change × Path))
    (names : List String) (mark : Mark) :
    ChangeTree.markAt names (workspace.changeTree changes) = some mark ↔
      workspace.below names ∈ workspace.changedPaths changes ∧
          mark = workspace.markOf changes (workspace.below names) ∨
        workspace.below names ∉ workspace.changedPaths changes ∧ mark = .passing ∧
          workspace.LeadsOn changes (workspace.below names) := by
  rw [changeTree_eq, ChangeTree.markAt_inserted, ChangeTree.markAt_leaf, LeadsOn,
    below_changed_iff, below_passed_iff, below_eq_root_iff]
  split
  · rename_i changed
    constructor
    · intro told
      exact Or.inl ⟨changed, (Option.some.inj told).symm⟩
    · rintro (⟨-, rfl⟩ | ⟨unchanged, -⟩)
      · rfl
      · exact absurd changed unchanged
  · rename_i unchanged
    split
    · rename_i passed
      have filled : (if names = [] then some Mark.passing else none).getD .passing = .passing := by
        split <;> rfl
      rw [filled]
      constructor
      · intro told
        exact Or.inr ⟨unchanged, (Option.some.inj told).symm,
          Or.inr ⟨below_within workspace names, passed⟩⟩
      · rintro (⟨changed, -⟩ | ⟨-, rfl, -⟩)
        · exact absurd changed unchanged
        · rfl
    · rename_i aside
      split
      · rename_i empty
        constructor
        · intro told
          exact Or.inr ⟨unchanged, (Option.some.inj told).symm, Or.inl empty⟩
        · rintro (⟨changed, -⟩ | ⟨-, rfl, -⟩)
          · exact absurd changed unchanged
          · rfl
      · rename_i filled
        constructor
        · intro told
          cases told
        · rintro (⟨changed, -⟩ | ⟨-, -, empty | ⟨-, passed⟩⟩)
          · exact absurd changed unchanged
          · exact absurd empty filled
          · exact absurd passed aside

theorem mem_nodes (workspace : Workspace) (changes : List (Change × Path)) (path : Path)
    (mark : Mark) :
    (path, mark) ∈ workspace.nodes changes ↔
      path ∈ workspace.changedPaths changes ∧ mark = workspace.markOf changes path ∨
        path ∉ workspace.changedPaths changes ∧ mark = .passing ∧
          workspace.LeadsOn changes path := by
  rw [nodes, List.mem_map]
  constructor
  · rintro ⟨node, member, same⟩
    cases same
    have marked := (ChangeTree.mem_marks _ (changeTree_ordered workspace changes) node).mp member
    exact (markAt_changeTree workspace changes node.1 node.2).mp marked
  · intro told
    have inside : ∃ names, path = workspace.below names := by
      rcases told with ⟨changed, -⟩ | ⟨-, -, atRoot | ⟨within, -⟩⟩
      · exact ⟨_, path_of_namesBelow changed⟩
      · exact ⟨[], by rw [atRoot, (below_eq_root_iff workspace []).mpr rfl]⟩
      · obtain ⟨own, ownNames⟩ := path
        obtain ⟨anchor, names, same⟩ := (Path.isWithin_iff _ _).mp within
        change own = workspace.root.anchor at anchor
        change workspace.root.names ++ names = ownNames at same
        exact ⟨names, by rw [anchor, ← same, below]⟩
    obtain ⟨names, rfl⟩ := inside
    have marked := (markAt_changeTree workspace changes names mark).mpr told
    refine ⟨(names, mark), ?_, rfl⟩
    exact (ChangeTree.mem_marks _ (changeTree_ordered workspace changes) (names, mark)).mpr marked

end ChangeRelay.Workspace
