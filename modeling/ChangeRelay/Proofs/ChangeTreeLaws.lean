import ChangeRelay.Proofs.PathLaws
import ChangeRelay.Workspace.ChangeTree

/-!
Trees of marks, seen as marks at lists of names. Inserting changes the mark at one list and at
most adds passing marks on the way to it. If insertions come in component order, new children go
behind their siblings, so that all nodes, each before its children, come in that order as well.
-/
namespace ChangeRelay.Workspace.ChangeTree

open ChangeRelay.Path (namesBefore)

/-- The mark of the node that names lead to. -/
def markAt : List String → ChangeTree → Option Mark
  | [], .node mark _ => some mark
  | name :: rest, .node _ children =>
    match children.lookup name with
    | none => none
    | some child => markAt rest child

mutual

def marks : ChangeTree → List (List String × Mark)
  | .node mark children => ([], mark) :: marksAll children

def marksAll : List (String × ChangeTree) → List (List String × Mark)
  | [] => []
  | (name, child) :: rest =>
    (marks child).map (fun node => (name :: node.1, node.2)) ++ marksAll rest

end

mutual

def Ordered : ChangeTree → Prop
  | .node _ children => (children.map Prod.fst).Pairwise (· < ·) ∧ AllOrdered children

def AllOrdered : List (String × ChangeTree) → Prop
  | [] => True
  | (_, child) :: rest => Ordered child ∧ AllOrdered rest

end

theorem leaf_ordered : Ordered leaf := by
  simp [leaf, Ordered, AllOrdered]

theorem markAt_leaf (names : List String) :
    markAt names leaf = if names = [] then some .passing else none := by
  cases names <;> simp [markAt, leaf]

theorem markAt_nil (tree : ChangeTree) : ∃ mark, markAt [] tree = some mark := by
  obtain ⟨mark, children⟩ := tree
  exact ⟨mark, rfl⟩

theorem lookup_cons_eq (own name : String) (child : ChangeTree)
    (rest : List (String × ChangeTree)) :
    ((own, child) :: rest).lookup name = if name = own then some child else rest.lookup name := by
  by_cases here : name = own
  · simp [here]
  · have differs : (name == own) = false := beq_false_of_ne here
    simp [List.lookup_cons, differs, here]

theorem lookup_atChild (change : ChangeTree → ChangeTree) (name other : String)
    (children : List (String × ChangeTree)) :
    (atChild change name children).lookup other =
      if other = name then some (change ((children.lookup name).getD leaf))
      else children.lookup other := by
  induction children with
  | nil =>
    rw [atChild, lookup_cons_eq]
    rfl
  | cons entry rest ih =>
    obtain ⟨own, child⟩ := entry
    by_cases found : own = name
    · subst found
      by_cases here : other = own
      · simp [atChild, here]
      · simp [atChild, here, lookup_cons_eq]
    · by_cases here : other = own
      · subst here
        simp [atChild, found]
      · simp [atChild, found, here, Ne.symm found, lookup_cons_eq, ih]

theorem names_atChild (change : ChangeTree → ChangeTree) (name : String)
    (children : List (String × ChangeTree)) :
    (atChild change name children).map Prod.fst =
      if name ∈ children.map Prod.fst then children.map Prod.fst
      else children.map Prod.fst ++ [name] := by
  induction children with
  | nil => simp [atChild]
  | cons entry rest ih =>
    obtain ⟨own, child⟩ := entry
    by_cases found : own = name
    · simp [atChild, found]
    · simp only [atChild, found, if_false, List.map_cons, ih, List.mem_cons, Ne.symm found,
        false_or]
      split <;> rfl

theorem mem_names_iff (name : String) (children : List (String × ChangeTree)) :
    name ∈ children.map Prod.fst ↔ ∃ child, children.lookup name = some child := by
  induction children with
  | nil => simp
  | cons entry rest ih =>
    obtain ⟨own, child⟩ := entry
    by_cases here : name = own
    · simp [here]
    · rw [lookup_cons_eq, if_neg here, ← ih, List.map_cons, List.mem_cons]
      simp [here]

theorem markAt_insert (mark : Mark) (names other : List String) (tree : ChangeTree) :
    markAt other (insert mark names tree) =
      if other = names then some mark
      else if other <+: names then some ((markAt other tree).getD .passing)
      else markAt other tree := by
  induction names generalizing other tree with
  | nil =>
    obtain ⟨own, children⟩ := tree
    cases other <;> simp [insert, markAt]
  | cons name rest ih =>
    obtain ⟨own, children⟩ := tree
    cases other with
    | nil => simp [insert, markAt]
    | cons first more =>
      simp only [insert, markAt, lookup_atChild]
      by_cases here : first = name
      · subst here
        simp only [if_true, ih, List.cons.injEq, true_and, List.cons_prefix_cons]
        cases found : children.lookup first with
        | some child => rfl
        | none =>
          simp only [Option.getD_none, markAt_leaf]
          by_cases empty : more = []
          · simp [empty]
          · simp [empty]
      · simp [here]

theorem lookup_ordered {name : String} {child : ChangeTree}
    {children : List (String × ChangeTree)} (ordered : AllOrdered children)
    (found : children.lookup name = some child) : Ordered child := by
  induction children with
  | nil => cases found
  | cons entry rest ih =>
    obtain ⟨own, first⟩ := entry
    rw [lookup_cons_eq] at found
    split at found
    · cases found
      exact ordered.1
    · exact ih ordered.2 found

theorem atChild_ordered {change : ChangeTree → ChangeTree} {name : String}
    {children : List (String × ChangeTree)} (ordered : AllOrdered children)
    (changed : Ordered (change ((children.lookup name).getD leaf))) :
    AllOrdered (atChild change name children) := by
  induction children with
  | nil => exact ⟨changed, trivial⟩
  | cons entry rest ih =>
    obtain ⟨own, first⟩ := entry
    by_cases found : own = name
    · subst found
      simp only [atChild, if_true]
      simp only [List.lookup_cons_self, Option.getD_some] at changed
      exact ⟨changed, ordered.2⟩
    · rw [lookup_cons_eq, if_neg (Ne.symm found)] at changed
      simp only [atChild, found, if_false]
      exact ⟨ordered.1, ih ordered.2 changed⟩

section
variable {name : String} {rest : List String} {own : Mark} {children : List (String × ChangeTree)}
  (last : ∀ other told, markAt other (.node own children) = some told →
    namesBefore other (name :: rest) = true)
include last

theorem siblings_before (absent : name ∉ children.map Prod.fst) (other : String)
    (present : other ∈ children.map Prod.fst) : other < name := by
  obtain ⟨child, found⟩ := (mem_names_iff other children).mp present
  obtain ⟨told, marked⟩ := markAt_nil child
  have before := last [other] told (by simp only [markAt, found, marked])
  rw [Path.namesBefore_cons] at before
  rcases before with less | ⟨same, -⟩
  · exact less
  · subst same
    exact absurd present absent

theorem last_in_child (other : List String) (told : Mark)
    (marked : markAt other ((children.lookup name).getD leaf) = some told) :
    namesBefore other rest = true := by
  cases found : children.lookup name with
  | none =>
    rw [found, Option.getD_none, markAt_leaf] at marked
    split at marked
    · rename_i empty
      subst empty
      exact Path.namesBefore_prefix List.nil_prefix
    · cases marked
  | some child =>
    rw [found, Option.getD_some] at marked
    have before := last (name :: other) told (by simp only [markAt, found, marked])
    rw [Path.namesBefore_cons] at before
    rcases before with less | ⟨-, rest⟩
    · exact absurd less (String.lt_irrefl name)
    · exact rest

end

theorem insert_ordered {mark : Mark} {names : List String} {tree : ChangeTree}
    (ordered : Ordered tree)
    (last : ∀ other own, markAt other tree = some own → namesBefore other names = true) :
    Ordered (insert mark names tree) := by
  induction names generalizing tree with
  | nil =>
    obtain ⟨own, children⟩ := tree
    exact ordered
  | cons name rest ih =>
    obtain ⟨own, children⟩ := tree
    obtain ⟨siblings, below⟩ := ordered
    constructor
    · rw [names_atChild]
      split
      · exact siblings
      · rename_i absent
        rw [List.pairwise_append]
        refine ⟨siblings, List.pairwise_singleton _ _, ?_⟩
        intro other present added here
        rw [List.mem_singleton.mp here]
        exact siblings_before last absent other present
    · refine atChild_ordered below (ih ?_ (last_in_child last))
      cases found : children.lookup name with
      | none => exact leaf_ordered
      | some child => exact lookup_ordered below found

/-- Insertions one after the other: each list gets its own mark, what lies on the way to one keeps
its mark or gets a passing one, and all else stays. -/
theorem markAt_inserted (mark : List String → Mark) (lists : List (List String))
    (names : List String) (tree : ChangeTree) :
    markAt names (lists.foldl (fun tree list => insert (mark list) list tree) tree) =
      if names ∈ lists then some (mark names)
      else if ∃ list ∈ lists, names <+: list then some ((markAt names tree).getD .passing)
      else markAt names tree := by
  induction lists generalizing tree with
  | nil => simp
  | cons list rest ih =>
    rw [List.foldl_cons, ih, markAt_insert]
    by_cases later : names ∈ rest
    · simp [later]
    · by_cases here : names = list
      · subst here
        simp [later]
      · by_cases passed : names <+: list
        · simp [later, here, passed]
        · simp [later, here, passed]

theorem inserted_ordered (mark : List String → Mark) {lists : List (List String)}
    {tree : ChangeTree} (ordered : Ordered tree)
    (sorted : lists.Pairwise fun first second => namesBefore first second = true)
    (last : ∀ names own, markAt names tree = some own →
      ∀ list ∈ lists, namesBefore names list = true) :
    Ordered (lists.foldl (fun tree list => insert (mark list) list tree) tree) := by
  induction lists generalizing tree with
  | nil => exact ordered
  | cons list rest ih =>
    obtain ⟨front, others⟩ := List.pairwise_cons.mp sorted
    refine ih (insert_ordered ordered ?_) others ?_
    · intro names own marked
      exact last names own marked list List.mem_cons_self
    · intro names own marked later member
      rw [markAt_insert] at marked
      split at marked
      · rename_i here
        subst here
        exact front later member
      · split at marked
        · rename_i passed
          exact Path.namesBefore_trans (Path.namesBefore_prefix passed) (front later member)
        · exact last names own marked later (List.mem_cons_of_mem _ member)

mutual

theorem mem_marks (tree : ChangeTree) (ordered : Ordered tree) (node : List String × Mark) :
    node ∈ marks tree ↔ markAt node.1 tree = some node.2 := by
  obtain ⟨own, children⟩ := tree
  obtain ⟨siblings, below⟩ := ordered
  obtain ⟨names, mark⟩ := node
  rw [marks, List.mem_cons, mem_marksAll children siblings below]
  cases names with
  | nil => simp [markAt, eq_comm]
  | cons name rest =>
    simp only [Prod.mk.injEq, reduceCtorEq, false_and, false_or, List.cons.injEq, markAt]
    constructor
    · rintro ⟨first, more, child, ⟨rfl, rfl⟩, found, marked⟩
      rw [found]
      exact marked
    · intro marked
      cases found : children.lookup name with
      | none =>
        rw [found] at marked
        cases marked
      | some child =>
        rw [found] at marked
        exact ⟨name, rest, child, ⟨rfl, rfl⟩, found, marked⟩

theorem mem_marksAll (children : List (String × ChangeTree))
    (siblings : (children.map Prod.fst).Pairwise (· < ·)) (ordered : AllOrdered children)
    (node : List String × Mark) :
    node ∈ marksAll children ↔ ∃ name rest child, node.1 = name :: rest ∧
      children.lookup name = some child ∧ markAt rest child = some node.2 := by
  match children with
  | [] => simp [marksAll]
  | (own, first) :: more =>
    obtain ⟨front, others⟩ := List.pairwise_cons.mp siblings
    rw [marksAll, List.mem_append, mem_marksAll more others ordered.2 node]
    simp only [List.mem_map, lookup_cons_eq]
    constructor
    · rintro (⟨inner, member, rfl⟩ | ⟨name, rest, child, names, found, marked⟩)
      · have marked := (mem_marks first ordered.1 inner).mp member
        exact ⟨own, inner.1, first, rfl, if_pos rfl, marked⟩
      · have present := (mem_names_iff name more).mpr ⟨child, found⟩
        have later : name ≠ own := Ne.symm (String.ne_of_lt (front name present))
        exact ⟨name, rest, child, names, by rw [if_neg later, found], marked⟩
    · rintro ⟨name, rest, child, names, found, marked⟩
      obtain ⟨list, mark⟩ := node
      change list = name :: rest at names
      subst names
      split at found
      · rename_i here
        cases found
        subst here
        exact Or.inl ⟨(rest, mark), (mem_marks first ordered.1 (rest, mark)).mpr marked, rfl⟩
      · exact Or.inr ⟨name, rest, child, rfl, found, marked⟩

end

/-- Strictly earlier by the names that lead to a node. -/
def Earlier (first second : List String × Mark) : Prop :=
  namesBefore first.1 second.1 = true ∧ first.1 ≠ second.1

theorem marksAll_names {children : List (String × ChangeTree)} {node : List String × Mark}
    (member : node ∈ marksAll children) :
    ∃ name rest, node.1 = name :: rest ∧ name ∈ children.map Prod.fst := by
  induction children with
  | nil => cases member
  | cons entry more ih =>
    obtain ⟨own, first⟩ := entry
    rw [marksAll, List.mem_append, List.mem_map] at member
    rcases member with ⟨inner, -, rfl⟩ | later
    · exact ⟨own, inner.1, rfl, List.mem_cons_self⟩
    · obtain ⟨name, rest, names, present⟩ := ih later
      exact ⟨name, rest, names, List.mem_cons_of_mem _ present⟩

mutual

theorem marks_sorted (tree : ChangeTree) (ordered : Ordered tree) :
    (marks tree).Pairwise Earlier := by
  obtain ⟨own, children⟩ := tree
  obtain ⟨siblings, below⟩ := ordered
  rw [marks, List.pairwise_cons]
  refine ⟨?_, marksAll_sorted children siblings below⟩
  intro node member
  obtain ⟨name, rest, names, -⟩ := marksAll_names member
  rw [Earlier, names]
  exact ⟨rfl, List.cons_ne_nil name rest |>.symm⟩

theorem marksAll_sorted (children : List (String × ChangeTree))
    (siblings : (children.map Prod.fst).Pairwise (· < ·)) (ordered : AllOrdered children) :
    (marksAll children).Pairwise Earlier := by
  match children with
  | [] => exact List.Pairwise.nil
  | (own, first) :: more =>
    obtain ⟨front, others⟩ := List.pairwise_cons.mp siblings
    rw [marksAll, List.pairwise_append]
    refine ⟨?_, marksAll_sorted more others ordered.2, ?_⟩
    · rw [List.pairwise_map]
      refine (marks_sorted first ordered.1).imp ?_
      rintro a b ⟨before, differ⟩
      constructor
      · exact (Path.namesBefore_cons _ _ _ _).mpr (Or.inr ⟨rfl, before⟩)
      · intro same
        exact differ (List.cons.inj same).2
    · intro a inFirst b later
      obtain ⟨inner, -, rfl⟩ := List.mem_map.mp inFirst
      obtain ⟨name, rest, names, present⟩ := marksAll_names later
      have less := front name present
      rw [Earlier, names]
      refine ⟨(Path.namesBefore_cons _ _ _ _).mpr (Or.inl less), ?_⟩
      intro same
      exact String.ne_of_lt less (List.cons.inj same).1

end

end ChangeRelay.Workspace.ChangeTree
