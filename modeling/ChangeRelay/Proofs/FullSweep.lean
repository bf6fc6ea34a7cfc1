import ChangeRelay.Proofs.CachesInEffect
import ChangeRelay.Proofs.NodePlaces

/-!
The walk against a sweep that judges every node of a tree, each before its children, and takes no
notice of what is said about the nodes below. Below an ignored folder there are only ignored nodes,
so the sweep's extra nodes come to nothing, and the walk leaves out nothing but them.
-/
namespace ChangeRelay.Delta

variable {φ : Type}

/-- Judges nodes one after the other, whether or not to go on below them. -/
def sweep (guide : Guide φ) : List (Subject φ) → ChangeList φ → Trail → Outcome φ
  | [], changes, trail => ⟨.ok changes, trail⟩
  | subject :: rest, changes, trail =>
    match judge guide subject trail with
    | (.error failure, trail) => ⟨.error failure, trail⟩
    | (.ok (_, event), trail) => sweep guide rest (record changes event) trail

/-- A node that fails in nothing it is asked. Only adapting its resource may fail, which makes it
no file. -/
structure Subject.Readable (subject : Subject φ) (guide : Guide φ) : Prop where
  resource : ∀ failure, subject.resource ≠ .error failure
  path : ∀ resource failure, subject.resource = .ok resource →
    resource.workspacePath ≠ .error failure
  location : ∀ resource failure, subject.resource = .ok resource →
    resource.location ≠ .error failure
  scope : ∀ resource file, subject.resource = .ok resource → resource.file = .ok (some file) →
    (guide.look file).project.checkScope = .ok ()
  kind : ∀ failure, subject.kind ≠ .error failure
  flags : ∀ failure, subject.flags ≠ .error failure
  children : subject.barrier = none

def Subject.Extends (subject outer : Subject φ) : Prop :=
  ∀ resource path outerResource outerPath, subject.IsAt resource path →
    outer.IsAt outerResource outerPath → outerPath.parts <+: path.parts

def Subject.Excluded (subject : Subject φ) (guide : Guide φ) (cache : Exclusion.Cache) : Prop :=
  ∃ path kind file exclusions, subject.Shows guide path kind file ∧
    (guide.find cache file).paths = .ok exclusions ∧ Exclusion.covers exclusions path = true

/-- Trees in which every node's path extends that of the node right above it. -/
def Nested (deltas : List (Delta φ)) : Prop :=
  ∀ above parent child, Lies deltas (above ++ [parent]) child → child.Extends parent

/-- Trees in which nothing lies below a file that is excluded. -/
def ExcludedAreLeaves (guide : Guide φ) (cache : Exclusion.Cache) (deltas : List (Delta φ)) :
    Prop :=
  ∀ above below, Lies deltas above below → ∀ upper ∈ above, ¬upper.Excluded guide cache

section
variable {subject : Subject φ} {delta : Delta φ} {children rest : List (Delta φ)}

theorem lies_entered {above : List (Subject φ)} {below : Subject φ}
    (lies : Lies (children ++ rest) above below) :
    ∃ outer, Lies (.node subject children :: rest) (outer ++ above) below := by
  rcases lies_append lies with inner | others
  · exact ⟨[subject], .inside inner⟩
  · exact ⟨[], .later others⟩

theorem Nested.entered (nested : Nested (.node subject children :: rest)) :
    Nested (children ++ rest) := by
  intro above parent child lies
  obtain ⟨outer, lay⟩ := lies_entered lies
  rw [← List.append_assoc] at lay
  exact nested _ parent child lay

theorem nested_nil : Nested ([] : List (Delta φ)) := fun _ _ _ lies => nomatch lies

theorem nested_node (extends_ : ∀ child ∈ children, child.subject.Extends subject)
    (below : Nested children) (others : Nested rest) : Nested (.node subject children :: rest) := by
  intro above parent child lies
  generalize whole : above ++ [parent] = path at lies
  cases lies with
  | here => simp at whole
  | inside inner =>
    cases above with
    | nil =>
      obtain ⟨rfl, rfl⟩ := List.cons_eq_cons.mp whole
      obtain ⟨delta, listed, rfl⟩ := List.mem_map.mp (lies_outermost inner)
      exact extends_ delta listed
    | cons first more =>
      obtain ⟨rfl, rfl⟩ := List.cons_eq_cons.mp whole
      exact below more parent child inner
  | later lay =>
    subst whole
    exact others above parent child lay

theorem Nested.others (nested : Nested (delta :: rest)) : Nested rest :=
  fun above parent child lies => nested above parent child (.later lies)

theorem ExcludedAreLeaves.entered {guide : Guide φ} {cache : Exclusion.Cache}
    (leaves : ExcludedAreLeaves guide cache (.node subject children :: rest)) :
    ExcludedAreLeaves guide cache (children ++ rest) := by
  intro above below lies upper member
  obtain ⟨outer, lay⟩ := lies_entered lies
  exact leaves _ below lay upper (List.mem_append_right _ member)

theorem excludedAreLeaves_nil (guide : Guide φ) (cache : Exclusion.Cache) :
    ExcludedAreLeaves guide cache [] := fun _ _ lies => nomatch lies

theorem excludedAreLeaves_node {guide : Guide φ} {cache : Exclusion.Cache}
    (leaf : subject.Excluded guide cache → children = [])
    (below : ExcludedAreLeaves guide cache children) (others : ExcludedAreLeaves guide cache rest) :
    ExcludedAreLeaves guide cache (.node subject children :: rest) := by
  intro above lower lies
  cases lies with
  | here => exact List.forall_mem_nil _
  | inside inner =>
    refine List.forall_mem_cons.mpr ⟨?_, below _ _ inner⟩
    intro excluded
    rw [leaf excluded] at inner
    cases inner
  | later lay => exact others _ _ lay

theorem ExcludedAreLeaves.others {guide : Guide φ} {cache : Exclusion.Cache}
    (leaves : ExcludedAreLeaves guide cache (delta :: rest)) : ExcludedAreLeaves guide cache rest :=
  fun above below lies => leaves above below (.later lies)

end

theorem passesThrough_extends {folders : List String} {path outer : Path}
    (extends_ : outer.parts <+: path.parts)
    (ignored : Exclusion.passesThrough folders outer = true) :
    Exclusion.passesThrough folders path = true := by
  obtain ⟨part, listed, named⟩ := List.any_eq_true.mp ignored
  exact List.any_eq_true.mpr ⟨part, extends_.subset listed, named⟩

theorem Subject.Readable.isAt {guide : Guide φ} {subject : Subject φ}
    (readable : subject.Readable guide) : ∃ resource path, subject.IsAt resource path := by
  cases shown : subject.resource with
  | error failure => exact absurd shown (readable.resource failure)
  | ok resource =>
    cases found : resource.workspacePath with
    | error failure => exact absurd found (readable.path resource failure shown)
    | ok path => exact ⟨resource, path, shown, found⟩

theorem ignored_extends {guide : Guide φ} {subject outer : Subject φ}
    (readable : subject.Readable guide) (extends_ : subject.Extends outer)
    (ignored : outer.Ignored guide) : subject.Ignored guide := by
  obtain ⟨outerResource, outerPath, outerAt, named⟩ := ignored
  obtain ⟨resource, path, at_⟩ := readable.isAt
  have longer := extends_ resource path outerResource outerPath at_ outerAt
  exact ⟨resource, path, at_, passesThrough_extends longer named⟩

theorem ignored_below {guide : Guide φ} {deltas : List (Delta φ)} {above : List (Subject φ)}
    {below : Subject φ} (lies : Lies deltas above below)
    (readable : ∀ subject ∈ preorderAll deltas, subject.Readable guide) (nested : Nested deltas)
    {upper : Subject φ} (member : upper ∈ above) (ignored : upper.Ignored guide) :
    below.Ignored guide := by
  induction lies generalizing upper with
  | here => cases member
  | @inside subject below children rest above inner ih =>
    rw [preorderAll_node] at readable
    have readableBelow : ∀ child ∈ preorderAll children, child.Readable guide := by
      intro child listed
      exact readable child (List.mem_cons_of_mem _ (List.mem_append_left _ listed))
    have nestedBelow : Nested children := by
      intro outer parent child lies
      exact nested (subject :: outer) parent child (.inside lies)
    -- The child on the way is ignored with its parent, and so is all below it.
    have step : ∀ {child}, Lies children [] child → subject.Ignored guide →
        child.Ignored guide := by
      intro child lies own
      have extends_ : child.Extends subject := nested [] subject child (.inside lies)
      exact ignored_extends (readableBelow child (lies_memAll lies)) extends_ own
    rcases List.mem_cons.mp member with here | further
    · subst here
      cases above with
      | nil => exact step inner ignored
      | cons child inmost =>
        exact ih readableBelow nestedBelow List.mem_cons_self (step (lies_first inner) ignored)
    · exact ih readableBelow nestedBelow further ignored
  | later others ih =>
    refine ih ?_ nested.others member ignored
    intro subject listed
    apply readable
    rw [preorderAll]
    exact List.mem_append_right _ listed

section
variable {guide : Guide φ}

theorem sweep_ignored {ignored : List (Subject φ)}
    (all : ∀ subject ∈ ignored, subject.Ignored guide) (rest : List (Subject φ))
    (changes : ChangeList φ) (trail : Trail) :
    sweep guide (ignored ++ rest) changes trail = sweep guide rest changes trail := by
  induction ignored with
  | nil => rfl
  | cons subject more ih =>
    obtain ⟨⟨resource, path, ⟨shown, found⟩, named⟩, others⟩ := List.forall_mem_cons.mp all
    rw [List.cons_append, sweep]
    simp only [judge, shown, found, named, if_true, record]
    exact ih others

theorem Subject.Readable.judged (answering : Exclusion.Answering guide.providers)
    {subject : Subject φ} (readable : subject.Readable guide) (trail : Trail) :
    ∃ verdict event after, judge guide subject trail = (.ok (verdict, event), after) := by
  have spec := judge_spec guide subject trail
  revert spec
  obtain ⟨answer, after⟩ := judge guide subject trail
  intro spec
  cases answer with
  | ok answer => exact ⟨answer.1, answer.2, after, rfl⟩
  | error failure =>
    obtain ⟨read, refused⟩ := spec
    generalize after.cache = kept at refused
    cases refused with
    | resource fails => exact absurd fails (readable.resource failure)
    | path shown fails => exact absurd fails (readable.path _ failure shown)
    | kind counts fails => exact absurd fails (readable.kind failure)
    | location counts told fails => exact absurd fails (readable.location _ failure counts.1.1)
    | flags stays fails => exact absurd fails (readable.flags failure)
    | exclusions shows_ fails =>
      obtain ⟨resource, counts, -, -, adapted⟩ := shows_
      have usable := readable.scope resource _ counts.1.1 adapted
      rcases Exclusion.find_answering answering trail.cache (guide.look _).project with
        ⟨-, paths, found⟩ | ⟨cause, unusable, -⟩
      · cases found.symm.trans fails
      · cases usable.symm.trans unusable

theorem sweep_succeeds (answering : Exclusion.Answering guide.providers)
    {subjects : List (Subject φ)} (readable : ∀ subject ∈ subjects, subject.Readable guide)
    (changes : ChangeList φ) (trail : Trail) :
    ∃ final, (sweep guide subjects changes trail).result = .ok final := by
  induction subjects generalizing changes trail with
  | nil => exact ⟨changes, rfl⟩
  | cons subject rest ih =>
    obtain ⟨here, others⟩ := List.forall_mem_cons.mp readable
    obtain ⟨verdict, event, after, judged⟩ := here.judged answering trail
    rw [sweep, judged]
    exact ih others _ after

theorem judge_grown (guide : Guide φ) (subject : Subject φ) (trail : Trail) :
    Grown guide trail.cache (judge guide subject trail).2.cache := by
  have stays : ∀ between file, Grown guide trail.cache between →
      Grown guide trail.cache (guide.find between file).cache := by
    intro between file grown
    exact grown.trans (found_grown (Exclusion.find_spec _ between _))
  have spec := judge_spec guide subject trail
  revert spec
  obtain ⟨answer, after⟩ := judge guide subject trail
  intro spec
  cases answer with
  | ok answer => exact seen_kept stays spec (Grown.refl guide trail.cache)
  | error failure =>
    obtain ⟨read, refused⟩ := spec
    exact refused_kept stays refused (Grown.refl guide trail.cache)

theorem sweep_grown (guide : Guide φ) (subjects : List (Subject φ)) (changes : ChangeList φ)
    (trail : Trail) :
    Grown guide trail.cache (sweep guide subjects changes trail).trail.cache := by
  induction subjects generalizing changes trail with
  | nil => exact Grown.refl guide trail.cache
  | cons subject rest ih =>
    have first := judge_grown guide subject trail
    rw [sweep]
    split
    · rename_i judged
      rw [judged] at first
      exact first
    · rename_i judged
      rw [judged] at first
      exact first.trans (ih _ _)

theorem Grown.held {before after : Exclusion.Cache} (grown : Grown guide before after)
    {scope : Value} {paths : List Path} (held : before.get? scope = some paths) :
    after.get? scope = some paths := by
  rcases grown.entries scope with same | ⟨nothing, -⟩
  · rw [ScopeStore.get?, same]
    exact held
  · rw [held] at nothing
    cases nothing

/-- Exclusions once found are found again in whatever the cache grows to. -/
theorem find_again {cache final : Exclusion.Cache} {file : φ} {exclusions : List Path}
    (found : (guide.find cache file).paths = .ok exclusions)
    (grown : Grown guide (guide.find cache file).cache final) :
    (guide.find final file).paths = .ok exclusions := by
  have spec := Exclusion.find_spec guide.providers cache (guide.look file).project
  have again : ∀ {later : Exclusion.Cache}, (guide.look file).project.checkScope = .ok () →
      later.get? (guide.look file).project.scope = some exclusions →
      (guide.find later file).paths = .ok exclusions := by
    intro later usable held
    simp only [Guide.find, Exclusion.find, usable, ScopeStore.lookUp_found held]
    rfl
  unfold Guide.find at found grown
  rw [found] at spec
  generalize (Exclusion.find guide.providers cache (guide.look file).project).cache = after
    at spec grown
  cases spec with
  | kept usable held =>
    refine again usable (grown.held ?_)
    rw [ScopeStore.get?_register]
    exact held
  | united usable nothing answered =>
    refine again usable (grown.held ?_)
    rw [ScopeStore.get?_put, if_pos rfl]

theorem skipped_cases {subject : Subject φ} {before after final : Exclusion.Cache}
    {event : Option (FileEvent φ)} (seen : Seen guide subject before .skip event after)
    (grown : Grown guide after final) : subject.Ignored guide ∨ subject.Excluded guide final := by
  cases seen with
  | ignored at_ ignored => exact Or.inl ⟨_, _, at_, ignored⟩
  | excluded shows_ found covered =>
    exact Or.inr ⟨_, _, _, _, shows_, find_again found grown, covered⟩

/-- What the walk of a stack leaves out comes to nothing in the sweep of its nodes. -/
theorem walk_sweep (stack : List (Delta φ)) (changes : ChangeList φ) (trail : Trail)
    (readable : ∀ subject ∈ preorderAll stack, subject.Readable guide) (nested : Nested stack)
    (leaves : ExcludedAreLeaves guide
      (sweep guide (preorderAll stack) changes trail).trail.cache stack) :
    walk guide stack changes trail = sweep guide (preorderAll stack) changes trail := by
  fun_induction walk guide stack changes trail with
  | case1 changes trail => rfl
  | case2 changes trail subject children rest failure after judged =>
    rw [preorderAll_node, sweep, judged]
  | case3 changes trail subject children rest event after judged ih =>
    have seen := judge_spec guide subject trail
    rw [judged] at seen
    have below : ∀ child ∈ preorderAll children, child.Ignored guide := by
      intro child member
      obtain ⟨above, lies⟩ := lies_of_memAll member
      rw [preorderAll_node, sweep, judged] at leaves
      have grown := sweep_grown guide (preorderAll children ++ preorderAll rest)
        (record changes event) after
      rcases skipped_cases seen grown with ignored | excluded
      · exact ignored_below (.inside lies) readable nested List.mem_cons_self ignored
      · exact absurd excluded (leaves _ child (.inside lies) subject List.mem_cons_self)
    rw [preorderAll_node] at readable
    have others : ∀ other ∈ preorderAll rest, other.Readable guide := by
      intro other member
      exact readable other (List.mem_cons_of_mem _ (List.mem_append_right _ member))
    have same : sweep guide (preorderAll (.node subject children :: rest)) changes trail =
        sweep guide (preorderAll rest) (record changes event) after := by
      rw [preorderAll_node, sweep, judged]
      exact sweep_ignored below _ _ after
    rw [same] at leaves ⊢
    exact ih others nested.others leaves.others
  | case4 changes trail subject children rest event after failure barrier judged =>
    rw [preorderAll_node] at readable
    have free := (readable subject List.mem_cons_self).children
    rw [free] at barrier
    cases barrier
  | case5 changes trail subject children rest event after barrier judged ih =>
    have same : sweep guide (preorderAll (.node subject children :: rest)) changes trail =
        sweep guide (preorderAll (children ++ rest)) (record changes event) after := by
      rw [preorderAll_node, sweep, judged, preorderAll_append]
    rw [preorderAll_node] at readable
    rw [pushChildren_eq] at ih ⊢
    rw [same] at leaves ⊢
    refine ih ?_ nested.entered leaves.entered
    rw [preorderAll_append]
    exact fun other member => readable other (List.mem_cons_of_mem _ member)

end

/-- Where nothing fails that a walk can ask, nothing is lost by not going into every node: gathering
comes to what judging each single node comes to, each before its children and whether or not the
walk would have gone there. All that this needs is that paths grow on the way down and that nothing
lies below an excluded file, by the exclusions that are kept in the end. -/
theorem gather_full_sweep {guide : Guide φ} (answering : Exclusion.Answering guide.providers)
    {delta : Delta φ} (readable : ∀ subject ∈ delta.preorder, subject.Readable guide)
    (nested : Nested [delta]) {cache : Exclusion.Cache} {full : Outcome φ}
    (swept : full = sweep guide delta.preorder .empty (.start cache))
    (leaves : ExcludedAreLeaves guide full.trail.cache [delta]) :
    gather guide delta cache = full ∧ ∃ changes, full.result = .ok changes := by
  have whole : preorderAll [delta] = delta.preorder := by
    rw [preorderAll, preorderAll, List.append_nil]
  obtain ⟨changes, result⟩ := sweep_succeeds answering readable .empty (.start cache)
  rw [← swept] at result
  rw [swept, ← whole] at leaves
  have walked := walk_sweep [delta] .empty (.start cache) (whole ▸ readable) nested leaves
  rw [whole, ← swept] at walked
  refine ⟨?_, changes, result⟩
  rw [gather_reported, walked]
  obtain ⟨answer, trail⟩ := full
  change answer = .ok changes at result
  rw [result]
  rfl

def prunedNode (names : List String) (kind : Kind) (file : Option Nat) : Subject Nat :=
  ⟨.ok ⟨.ok ⟨.single, names⟩, .ok (some "file:///ws/app/old.c"), .ok file⟩, .ok kind, .ok 1, none⟩

def prunedFiles : List (Delta Nat) :=
  [.node (prunedNode ["app", "a.c"] .changed (some 7)) [],
    .node (prunedNode ["app", "gen.c"] .added (some 8)) [],
    .node (prunedNode ["app", "old.c"] .removed none) []]

/-- A project with a changed file, an excluded one and one that was removed, and with an ignored
folder in which a file was added. -/
def prunedTree : Delta Nat :=
  .node (prunedNode ["app"] .changed none) (.node (prunedNode ["app", ".git"] .changed none)
    [.node (prunedNode ["app", ".git", "HEAD"] .added (some 9)) []] :: prunedFiles)

def prunedGuide : Guide Nat where
  ignoredFolders := [".git"]
  providers := [Exclusion.always [⟨.single, ["app", "gen.c"]⟩]]
  look := fun _ =>
    ⟨.text "file:///ws/app/a.c", "a.c", ⟨"app", .text "scope:app", "file:///ws/app"⟩, "a.c",
      .ok .null, .ok .null⟩

theorem prunedNode_readable (names : List String) (kind : Kind) (file : Option Nat) :
    (prunedNode names kind file).Readable prunedGuide where
  resource := nofun
  path := by rintro resource failure ⟨⟩ ⟨⟩
  location := by rintro resource failure ⟨⟩ ⟨⟩
  scope := fun _ _ _ _ => rfl
  kind := nofun
  flags := nofun
  children := rfl

theorem prunedNode_extends {names outer : List String} {kind outerKind : Kind}
    {file outerFile : Option Nat} (longer : outer <+: names) :
    (prunedNode names kind file).Extends (prunedNode outer outerKind outerFile) := by
  rintro resource path outerResource outerPath ⟨⟨⟩, ⟨⟩⟩ ⟨⟨⟩, ⟨⟩⟩
  exact List.cons_prefix_cons.mpr ⟨rfl, longer⟩

theorem prunedNode_folder (names : List String) (kind : Kind) (cache : Exclusion.Cache) :
    ¬(prunedNode names kind none).Excluded prunedGuide cache := by
  rintro ⟨path, shown, file, exclusions, ⟨resource, ⟨⟨⟨⟩, -⟩, -⟩, -, -, adapted⟩, -, -⟩
  cases adapted

theorem prunedFiles_nested : Nested prunedFiles :=
  nested_node nofun nested_nil
    (nested_node nofun nested_nil (nested_node nofun nested_nil nested_nil))

theorem prunedLeaf_leaves (names : List String) (kind : Kind) (file : Option Nat)
    {rest : List (Delta Nat)} {cache : Exclusion.Cache}
    (others : ExcludedAreLeaves prunedGuide cache rest) :
    ExcludedAreLeaves prunedGuide cache (.node (prunedNode names kind file) [] :: rest) :=
  excludedAreLeaves_node (fun _ => rfl) (excludedAreLeaves_nil _ _) others

theorem prunedFiles_leaves (cache : Exclusion.Cache) :
    ExcludedAreLeaves prunedGuide cache prunedFiles :=
  prunedLeaf_leaves _ _ _ (prunedLeaf_leaves _ _ _ (prunedLeaf_leaves _ _ _
    (excludedAreLeaves_nil _ _)))

theorem gather_full_sweep_pruned :
    let full := sweep prunedGuide prunedTree.preorder .empty (.start Exclusion.emptyCache)
    gather prunedGuide prunedTree Exclusion.emptyCache = full ∧
      full.result = .ok ⟨[7], ["file:///ws/app/old.c"]⟩ := by
  intro full
  have readable : ∀ subject ∈ prunedTree.preorder, subject.Readable prunedGuide := by
    intro subject member
    simp only [prunedTree, prunedFiles, preorder, preorderAll, List.cons_append, List.nil_append,
      List.append_nil, List.mem_cons, List.not_mem_nil, or_false] at member
    rcases member with rfl | rfl | rfl | rfl | rfl | rfl <;> exact prunedNode_readable _ _ _
  have nested : Nested [prunedTree] := by
    refine nested_node ?_ (nested_node ?_ (nested_node nofun nested_nil nested_nil)
      prunedFiles_nested) nested_nil
    · intro child listed
      simp only [prunedFiles, List.mem_cons, List.not_mem_nil, or_false] at listed
      rcases listed with rfl | rfl | rfl | rfl <;> exact prunedNode_extends (by decide)
    · intro child listed
      rw [List.mem_singleton] at listed
      subst listed
      exact prunedNode_extends (by decide)
  have leaves : ExcludedAreLeaves prunedGuide full.trail.cache [prunedTree] := by
    have folder names {children : List (Delta Nat)}
        (excluded : (prunedNode names .changed none).Excluded prunedGuide full.trail.cache) :
        children = [] := absurd excluded (prunedNode_folder names .changed _)
    have hidden := prunedLeaf_leaves ["app", ".git", "HEAD"] .added (some 9)
      (excludedAreLeaves_nil prunedGuide full.trail.cache)
    exact excludedAreLeaves_node (folder _) (excludedAreLeaves_node (folder _) hidden
      (prunedFiles_leaves _)) (excludedAreLeaves_nil _ _)
  exact ⟨(gather_full_sweep (Exclusion.always_answering _) readable nested rfl leaves).1, rfl⟩

end ChangeRelay.Delta
