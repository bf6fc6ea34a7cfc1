import ChangeRelay.Proofs.ChangeSets
import ChangeRelay.Proofs.NodePlaces

/-!
The shape of the notification for changed paths. It is a tree of folders in which every node hangs
under the node of its parent path, and only the set of changes matters to it: neither their order
nor that one of them is told twice.
-/
namespace ChangeRelay.Workspace

open ChangeTree (marks marksAll)

theorem eraseDups_nodup (paths : List Path) : paths.eraseDups.Nodup := by
  match paths with
  | [] => exact List.Pairwise.nil
  | path :: rest =>
    rw [List.eraseDups_cons, List.nodup_cons]
    refine ⟨by simp [List.mem_eraseDups], eraseDups_nodup _⟩
termination_by paths.length
decreasing_by
  exact Nat.lt_succ_of_le (List.length_filter_le _ _)

theorem changedPaths_eq {workspace : Workspace} {changes others : List (Change × Path)}
    (same : ∀ path, path ∈ workspace.changedPaths changes ↔ path ∈ workspace.changedPaths others) :
    workspace.changedPaths changes = workspace.changedPaths others := by
  have single (changes : List (Change × Path)) : (workspace.changedPaths changes).Nodup :=
    (List.mergeSort_perm _ Path.before).nodup_iff.mpr (eraseDups_nodup _)
  have perm := (List.perm_ext_iff_of_nodup (single changes) (single others)).mpr same
  refine perm.eq_of_pairwise ?_ (changedPaths_sorted workspace changes)
    (changedPaths_sorted workspace others)
  intro first second inFirst inSecond early late
  rw [path_of_namesBelow inFirst, path_of_namesBelow inSecond] at early late ⊢
  rw [below, below, Path.before_below] at early late
  rw [Path.namesBefore_antisymm early late]

section
variable {workspace : Workspace} {changes others : List (Change × Path)}
  (same : ∀ change, change ∈ changes ↔ change ∈ others)
include same

theorem markOf_same : workspace.markOf changes = workspace.markOf others := by
  funext path
  have added : workspace.wasAdded changes path = workspace.wasAdded others path := by
    rw [Bool.eq_iff_iff]
    simp only [wasAdded, List.any_eq_true, same]
  rw [markOf, added, markOf]

theorem deltaOf_same : workspace.deltaOf changes = workspace.deltaOf others := by
  have paths : workspace.changedPaths changes = workspace.changedPaths others := by
    apply changedPaths_eq
    intro path
    simp only [mem_changedPaths, same]
  rw [deltaOf, changeTree, paths, markOf_same same]
  rfl

end

def shownAt (workspace : Workspace) (path : Path) (node : List String × Mark) :
    Delta.Subject File :=
  workspace.subject ⟨path.anchor, path.names ++ node.1⟩ node.2

theorem shownAt_child (workspace : Workspace) (path : Path) (name : String)
    (node : List String × Mark) :
    workspace.shownAt (path.child name) node = workspace.shownAt path (name :: node.1, node.2) := by
  simp [shownAt, Path.child]

theorem mem_marksAll_cons {name : String} {tree : ChangeTree} {rest : List (String × ChangeTree)}
    {node : List String × Mark} (member : node ∈ marks tree) :
    (name :: node.1, node.2) ∈ marksAll ((name, tree) :: rest) :=
  List.mem_append_left _ (List.mem_map_of_mem member)

theorem outermost_deltas {workspace : Workspace} {path : Path}
    {children : List (String × ChangeTree)} {child : Delta.Subject File}
    (lies : Delta.Lies (workspace.deltas path children) [] child) :
    ∃ name mark, ([name], mark) ∈ marksAll children ∧
      child = workspace.shownAt path ([name], mark) := by
  induction children with
  | nil => cases lies
  | cons entry rest ih =>
    obtain ⟨name, ⟨mark, inner⟩⟩ := entry
    rw [deltas, delta] at lies
    cases lies with
    | here =>
      have own : ([], mark) ∈ marks (.node mark inner) := List.mem_cons_self
      exact ⟨name, mark, mem_marksAll_cons own, rfl⟩
    | later others =>
      obtain ⟨other, told, member, same⟩ := ih others
      exact ⟨other, told, List.mem_append_right _ member, same⟩

/-- Two nodes of which one is one name further on than the other. -/
def OneFurther (inner outer : List String × Mark) : Prop := ∃ name, inner.1 = outer.1 ++ [name]

mutual

theorem hangs_delta {workspace : Workspace} {path : Path} {tree : ChangeTree}
    {above : List (Delta.Subject File)} {parent child : Delta.Subject File}
    (lies : Delta.Lies [workspace.delta path tree] (above ++ [parent]) child) :
    ∃ inner ∈ marks tree, ∃ outer ∈ marks tree, OneFurther inner outer ∧
      child = workspace.shownAt path inner ∧ parent = workspace.shownAt path outer := by
  obtain ⟨mark, children⟩ := tree
  rw [delta, Delta.lies_node] at lies
  rcases lies with ⟨nowhere, -⟩ | ⟨between, chain, below⟩
  · simp at nowhere
  · cases above with
    | nil =>
      obtain ⟨rfl, rfl⟩ := List.cons_eq_cons.mp chain
      obtain ⟨name, told, member, same⟩ := outermost_deltas below
      refine ⟨_, List.mem_cons_of_mem _ member, ([], mark), List.mem_cons_self, ⟨name, rfl⟩, same,
        ?_⟩
      simp [shownAt]
    | cons first more =>
      obtain ⟨rfl, rfl⟩ := List.cons_eq_cons.mp chain
      obtain ⟨inner, inInner, outer, inOuter, told⟩ := hangs_deltas below
      exact ⟨inner, List.mem_cons_of_mem _ inInner, outer, List.mem_cons_of_mem _ inOuter, told⟩

theorem hangs_deltas {workspace : Workspace} {path : Path}
    {children : List (String × ChangeTree)} {above : List (Delta.Subject File)}
    {parent child : Delta.Subject File}
    (lies : Delta.Lies (workspace.deltas path children) (above ++ [parent]) child) :
    ∃ inner ∈ marksAll children, ∃ outer ∈ marksAll children, OneFurther inner outer ∧
      child = workspace.shownAt path inner ∧ parent = workspace.shownAt path outer := by
  match children with
  | [] => cases lies
  | (name, tree) :: rest =>
    rw [deltas, Delta.lies_cons] at lies
    rcases lies with here | later
    · obtain ⟨inner, inInner, outer, inOuter, ⟨last, further⟩, isChild, isParent⟩ :=
        hangs_delta here
      rw [shownAt_child] at isChild isParent
      refine ⟨_, mem_marksAll_cons inInner, _, mem_marksAll_cons inOuter, ⟨last, ?_⟩, isChild,
        isParent⟩
      rw [further, List.cons_append]
    · obtain ⟨inner, inInner, outer, inOuter, told⟩ := hangs_deltas later
      exact ⟨inner, List.mem_append_right _ inInner, outer, List.mem_append_right _ inOuter, told⟩

end

/-- Whether a change of a path below the root was told, a path without a root being one below the
root of the workspace. -/
def Told (workspace : Workspace) (changes : List (Change × String)) (change : Change)
    (path : Path) : Prop :=
  path ≠ workspace.root ∧ path.isWithin workspace.root = true ∧
    ∃ raw, (change, raw) ∈ changes ∧ workspace.root.join (.parse raw) = path

/-- What the node of a path says of it, by the changes told and by what is there now. -/
inductive Marked (workspace : Workspace) (changes : List (Change × String)) (path : Path) :
    Mark → Prop where
  | removed {change : Change} (told : workspace.Told changes change path)
      (gone : workspace.tree.contains path = false) : Marked workspace changes path ⟨.removed, 0⟩
  | added (told : workspace.Told changes .added path)
      (there : workspace.tree.contains path = true) : Marked workspace changes path ⟨.added, 0⟩
  | changed {change : Change} (told : workspace.Told changes change path)
      (notAdded : ¬workspace.Told changes .added path)
      (there : workspace.tree.contains path = true) : Marked workspace changes path ⟨.changed, 1⟩
  | passed (untold : ∀ change, ¬workspace.Told changes change path) :
      Marked workspace changes path ⟨.changed, 0⟩

theorem changed_iff_told (workspace : Workspace) (changes : List (Change × String)) (path : Path) :
    path ∈ workspace.changedPaths (parsed changes) ↔
      ∃ change, workspace.Told changes change path := by
  rw [mem_changedPaths]
  simp only [isBelowRoot, Bool.and_eq_true, bne_iff_ne, Told, changedPath]
  constructor
  · rintro ⟨⟨_, listed, same⟩, within, notRoot⟩
    obtain ⟨⟨change, raw⟩, told, rfl⟩ := List.mem_map.mp listed
    exact ⟨change, notRoot, within, raw, told, same⟩
  · rintro ⟨change, notRoot, within, raw, told, same⟩
    exact ⟨⟨_, List.mem_map.mpr ⟨(change, raw), told, rfl⟩, same⟩, within, notRoot⟩

theorem wasAdded_iff {workspace : Workspace} {changes : List (Change × String)} {path : Path}
    (changed : path ∈ workspace.changedPaths (parsed changes)) :
    workspace.wasAdded (parsed changes) path = true ↔ workspace.Told changes .added path := by
  have below := ((mem_changedPaths _ _ _).mp changed).2
  simp only [isBelowRoot, Bool.and_eq_true, bne_iff_ne] at below
  simp [wasAdded, Told, changedPath, parsed, below]

theorem markOf_marked {workspace : Workspace} {changes : List (Change × String)} {path : Path}
    (changed : path ∈ workspace.changedPaths (parsed changes)) :
    workspace.Marked changes path (workspace.markOf (parsed changes) path) := by
  obtain ⟨change, told⟩ := (changed_iff_told workspace changes path).mp changed
  unfold markOf
  cases there : workspace.tree.contains path with
  | false => exact .removed told there
  | true =>
    cases added : workspace.wasAdded (parsed changes) path with
    | true => exact .added ((wasAdded_iff changed).mp added) there
    | false =>
      refine .changed told ?_ there
      intro toldAdded
      rw [(wasAdded_iff changed).mpr toldAdded] at added
      cases added

theorem nodes_marked {workspace : Workspace} {changes : List (Change × String)}
    {node : Path × Mark} (member : node ∈ workspace.nodes (parsed changes)) :
    workspace.Marked changes node.1 node.2 := by
  obtain ⟨path, mark⟩ := node
  rcases (mem_nodes workspace _ path mark).mp member with ⟨changed, rfl⟩ | ⟨unchanged, rfl, -⟩
  · exact markOf_marked changed
  · refine .passed ?_
    intro change told
    exact unchanged ((changed_iff_told workspace changes path).mpr ⟨change, told⟩)

theorem nodes_paths (workspace : Workspace) (changes : List (Change × Path)) (path : Path) :
    path ∈ (workspace.nodes changes).map Prod.fst ↔ workspace.LeadsOn changes path := by
  rw [List.mem_map]
  constructor
  · rintro ⟨⟨_, mark⟩, member, rfl⟩
    rcases (mem_nodes workspace changes _ mark).mp member with ⟨changed, -⟩ | ⟨-, -, leads⟩
    · have below := ((mem_changedPaths_iff workspace changes _).mp changed).2.1
      exact Or.inr ⟨below, _, changed, Path.isWithin_refl _⟩
    · exact leads
  · intro leads
    by_cases changed : path ∈ workspace.changedPaths changes
    · exact ⟨_, (mem_nodes workspace changes path _).mpr (Or.inl ⟨changed, rfl⟩), rfl⟩
    · exact ⟨_, (mem_nodes workspace changes path _).mpr (Or.inr ⟨changed, rfl, leads⟩), rfl⟩

theorem nodes_within {workspace : Workspace} {changes : List (Change × Path)}
    {node : Path × Mark} (member : node ∈ workspace.nodes changes) :
    ∃ names, node.1 = workspace.below names := by
  obtain ⟨inner, -, rfl⟩ := List.mem_map.mp member
  exact ⟨inner.1, rfl⟩

theorem subject_path {workspace : Workspace} {first second : List String} {mark other : Mark}
    (same : workspace.subject (workspace.below first) mark =
      workspace.subject (workspace.below second) other) : first = second := by
  have inFirst : (workspace.subject (workspace.below first) mark).IsAt _ _ :=
    subject_isAt (below_within workspace first)
  have inSecond : (workspace.subject (workspace.below second) other).IsAt _ _ :=
    subject_isAt (below_within workspace second)
  have resources := Except.ok.inj (congrArg Delta.Subject.resource same)
  have paths := inFirst.2.symm.trans ((congrArg Delta.Resource.workspacePath resources).trans
    inSecond.2)
  simpa [namesBelow, below] using paths

theorem hangs_deltaOf {workspace : Workspace} {changes : List (Change × Path)}
    {child parent : Delta.Subject File}
    (hangs : (workspace.deltaOf changes).HangsUnder child parent) :
    ∃ node ∈ workspace.nodes changes, ∃ outer ∈ workspace.nodes changes,
      node.1 ≠ workspace.root ∧ outer.1 = node.1.parent ∧
        child = workspace.subject node.1 node.2 ∧ parent = workspace.subject outer.1 outer.2 := by
  obtain ⟨above, lies⟩ := hangs
  obtain ⟨inner, inInner, outer, inOuter, ⟨name, further⟩, isChild, isParent⟩ := hangs_delta lies
  refine ⟨_, List.mem_map_of_mem inInner, _, List.mem_map_of_mem inOuter, ?_, ?_, isChild, isParent⟩
  · rw [further]
    intro same
    have empty := (below_eq_root_iff workspace _).mp same
    simp at empty
  · simp only [below, Path.parent, further]
    rw [← List.append_assoc, List.dropLast_concat]

theorem node_hangs {workspace : Workspace} {changes : List (Change × Path)} {node : Path × Mark}
    (member : node ∈ workspace.nodes changes) (notRoot : node.1 ≠ workspace.root) :
    ∃ outer ∈ workspace.nodes changes, outer.1 = node.1.parent ∧
      (workspace.deltaOf changes).HangsUnder (workspace.subject node.1 node.2)
        (workspace.subject outer.1 outer.2) := by
  have listed : workspace.subject node.1 node.2 ∈ (workspace.deltaOf changes).preorder := by
    rw [preorder_deltaOf]
    exact List.mem_map.mpr ⟨node, member, rfl⟩
  obtain ⟨names, own⟩ := nodes_within member
  obtain ⟨above, lies⟩ := Delta.lies_of_mem listed
  rw [own] at lies notRoot ⊢
  rcases Delta.hangs_of_lies lies with isRoot | ⟨parent, hangs⟩
  · have atRoot : ∃ mark, (workspace.deltaOf changes).subject =
        workspace.subject (workspace.below []) mark := by
      rw [(below_eq_root_iff workspace []).mpr rfl, deltaOf]
      obtain ⟨mark, children⟩ := workspace.changeTree changes
      exact ⟨mark, rfl⟩
    obtain ⟨mark, shown⟩ := atRoot
    rw [shown] at isRoot
    exact absurd ((below_eq_root_iff workspace names).mpr (subject_path isRoot)) notRoot
  · obtain ⟨other, inOther, outer, inOuter, -, upper, same, isParent⟩ := hangs_deltaOf hangs
    obtain ⟨others, there⟩ := nodes_within inOther
    rw [there] at same upper
    rw [← subject_path same] at upper
    rw [isParent] at hangs
    exact ⟨outer, inOuter, upper, hangs⟩

/-- The notification for any changes, whatever is stored. Its nodes are the root and all the paths
below it on the way to a path that a change was told of, each once and in component order. Every
node but the root hangs under the one of its parent path, and under no other. A node of a path that
changes were told of says what became of it, and any other one nothing. Changes that are told in
another order, or more than once, make no difference. -/
theorem change_tree_shape (workspace : Workspace) (changes : List (Change × String)) :
    let delta := workspace.deltaOf (parsed changes)
    ∃ nodes : List (Path × Mark),
      delta.preorder = nodes.map (fun node => workspace.subject node.1 node.2) ∧
      nodes.Pairwise (fun first second => first.1.Precedes second.1) ∧
      (∀ path, path ∈ nodes.map Prod.fst ↔ path = workspace.root ∨
        path ≠ workspace.root ∧ path.isWithin workspace.root = true ∧
          ∃ change target, workspace.Told changes change target ∧ target.isWithin path = true) ∧
      (∀ node ∈ nodes, node.1 ≠ workspace.root → ∃ outer ∈ nodes, outer.1 = node.1.parent ∧
        delta.HangsUnder (workspace.subject node.1 node.2) (workspace.subject outer.1 outer.2)) ∧
      (∀ child parent, delta.HangsUnder child parent → ∃ node ∈ nodes, ∃ outer ∈ nodes,
        node.1 ≠ workspace.root ∧ outer.1 = node.1.parent ∧
          child = workspace.subject node.1 node.2 ∧ parent = workspace.subject outer.1 outer.2) ∧
      (∀ node ∈ nodes, workspace.Marked changes node.1 node.2) ∧
      ∀ others, (∀ change, change ∈ changes ↔ change ∈ others) →
        workspace.deltaOf (parsed others) = delta := by
  intro delta
  refine ⟨workspace.nodes (parsed changes), preorder_deltaOf workspace _,
    nodes_sorted workspace _, ?_, ?_, ?_, ?_, ?_⟩
  · intro path
    rw [nodes_paths, LeadsOn]
    simp only [changed_iff_told]
    constructor
    · rintro (atRoot | ⟨within, target, ⟨change, told⟩, further⟩)
      · exact Or.inl atRoot
      · by_cases atRoot : path = workspace.root
        · exact Or.inl atRoot
        · exact Or.inr ⟨atRoot, within, change, target, told, further⟩
    · rintro (atRoot | ⟨-, within, change, target, told, further⟩)
      · exact Or.inl atRoot
      · exact Or.inr ⟨within, target, ⟨change, told⟩, further⟩
  · exact fun node member notRoot => node_hangs member notRoot
  · exact fun child parent hangs => hangs_deltaOf hangs
  · exact fun node member => nodes_marked member
  · intro others same
    apply deltaOf_same
    intro change
    simp only [parsed, List.mem_map, same]

end ChangeRelay.Workspace
