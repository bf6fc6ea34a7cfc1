import ChangeRelay.Proofs.ChangeSets

/-!
The two ways to a project's files. A project lists the files below its folder that it owns, and a
single path is adapted to a file on its own. Both come to the same files of the same projects, for
paths that do not lead back through `..`. A path that does is taken as it stands: it may lead to a
file, and it is in no listing.
-/
namespace ChangeRelay

theorem Path.same_path {path other : Path} (anchors : path.anchor = other.anchor)
    (names : path.names = other.names) : path = other := by
  cases path
  cases other
  rw [Path.mk.injEq]
  exact ⟨anchors, names⟩

namespace FileTree

/-- The entries of a real folder: one for each list of names, and folders all the way to it. -/
structure Sound (tree : FileTree) : Prop where
  single : (tree.entries.map (·.1)).Nodup
  named : ∀ item ∈ tree.entries, item.1 ≠ [] ∧ ".." ∉ item.1
  founded : ∀ item ∈ tree.entries, ∀ above ∈ beginnings item.1, above ≠ item.1 →
    (above, .folder) ∈ tree.entries

def Stands (tree : FileTree) (path : Path) : Prop :=
  path.anchor = .single ∧ ∃ bytes, (path.names, .file bytes) ∈ tree.entries

theorem mem_beginnings {above names : List String} :
    above ∈ beginnings names ↔ above ≠ [] ∧ above <+: names := by
  simp only [beginnings, List.mem_map, List.mem_range]
  constructor
  · rintro ⟨count, early, rfl⟩
    refine ⟨?_, List.take_prefix _ _⟩
    intro empty
    rw [List.take_eq_nil_iff] at empty
    rcases empty with none | nothing
    · omega
    · rw [nothing] at early
      exact absurd early (Nat.not_lt_zero _)
  · rintro ⟨proper, within⟩
    have positive := List.length_pos_iff.mpr proper
    have bound := within.length_le
    refine ⟨above.length - 1, by omega, ?_⟩
    rw [Nat.sub_add_cancel positive]
    exact (List.prefix_iff_eq_take.mp within).symm

theorem lookup_iff {entries : List (List String × Entry)} (single : (entries.map (·.1)).Nodup)
    (names : List String) (entry : Entry) :
    entries.lookup names = some entry ↔ (names, entry) ∈ entries := by
  induction entries with
  | nil => simp
  | cons item rest ih =>
    obtain ⟨own, held⟩ := item
    rw [List.map_cons, List.nodup_cons] at single
    by_cases here : names = own
    · subst here
      have apart : (names, entry) ∉ rest := fun member =>
        single.1 (List.mem_map.mpr ⟨_, member, rfl⟩)
      simp [apart, eq_comm]
    · have other : (names == own) = false := by simpa using here
      simp [List.lookup_cons, other, ih single.2, here]

theorem entry_file {tree : FileTree} (sound : tree.Sound) {names : List String}
    {bytes : List UInt8} :
    tree.entry? names = some (.file bytes) ↔ (names, .file bytes) ∈ tree.entries := by
  rw [← lookup_iff sound.single]
  unfold entry?
  split
  · rename_i empty
    subst empty
    constructor
    · exact nofun
    · intro found
      have member := (lookup_iff sound.single [] (.file bytes)).mp found
      exact absurd rfl (sound.named _ member).1
  · rfl

theorem entry_above {tree : FileTree} (sound : tree.Sound) {above rest : List String}
    {name : String} {entry : Entry} (below : (above ++ name :: rest, entry) ∈ tree.entries) :
    tree.entry? above = some .folder := by
  by_cases empty : above = []
  · exact if_pos empty
  · have begins : above ∈ beginnings (above ++ name :: rest) :=
      mem_beginnings.mpr ⟨empty, List.prefix_append _ _⟩
    have strict : above ≠ above ++ name :: rest := by simp
    unfold entry?
    rw [if_neg empty]
    exact (lookup_iff sound.single _ _).mpr (sound.founded _ below above begins strict)

theorem follow_file {tree : FileTree} (sound : tree.Sound) {folder names : List String}
    (here : tree.entry? folder.reverse = some .folder) (direct : ".." ∉ names)
    (bytes : List UInt8) :
    tree.follow folder names = .ok (.file bytes) ↔
      (folder.reverse ++ names, .file bytes) ∈ tree.entries := by
  induction names generalizing folder with
  | nil =>
    rw [follow, List.append_nil, ← entry_file sound, here]
    simp
  | cons name rest ih =>
    rw [List.mem_cons, not_or] at direct
    have next : (name :: folder).reverse = folder.reverse ++ [name] := List.reverse_cons
    have joined : folder.reverse ++ name :: rest = (name :: folder).reverse ++ rest := by simp
    have proper : name ≠ ".." := Ne.symm direct.1
    rw [follow, here]
    simp only [proper, if_false]
    cases held : tree.entry? (name :: folder).reverse with
    | none =>
      simp only [Option.isSome_none, Bool.false_eq_true, if_false, reduceCtorEq, false_iff]
      intro member
      cases rest with
      | nil =>
        rw [next, (entry_file sound).mpr member] at held
        cases held
      | cons second more =>
        rw [joined] at member
        rw [entry_above sound member] at held
        cases held
    | some entry =>
      rw [Option.isSome_some, if_pos rfl, joined]
      cases entry with
      | folder => exact ih held direct.2
      | file other =>
        cases rest with
        | nil =>
          rw [follow, held, List.append_nil, ← entry_file sound, held]
          simp
        | cons second more =>
          -- Nothing lies below a file, so neither side leads on from it.
          rw [follow, held]
          simp only [reduceCtorEq, false_iff]
          intro member
          rw [entry_above sound member] at held
          cases held

theorem hasFile_iff {tree : FileTree} (sound : tree.Sound) {path : Path}
    (rooted : path.anchor = .single) (direct : ".." ∉ path.names) :
    tree.hasFile path = true ↔ tree.Stands path := by
  have straight : ∀ bytes, tree.follow [] path.names = .ok (.file bytes) ↔
      (path.names, .file bytes) ∈ tree.entries := fun bytes =>
    follow_file sound rfl direct bytes
  rw [Stands, hasFile, find, rooted]
  simp only [reduceCtorEq, if_false, true_and, ← straight]
  split
  · rename_i bytes found
    simp [found]
  · rename_i other
    constructor
    · exact nofun
    · rintro ⟨bytes, found⟩
      exact absurd found (other bytes)

theorem isFile_iff (entry : Entry) : isFile entry = true ↔ ∃ bytes, entry = .file bytes := by
  cases entry <;> simp [isFile]

theorem mem_filesBelow {tree : FileTree} {folder path : Path} :
    path ∈ tree.filesBelow folder ↔
      tree.Stands path ∧ folder.names <+: path.names ∧ path.names ≠ folder.names := by
  simp only [filesBelow, List.mem_map, List.mem_mergeSort, List.mem_filter, Bool.and_eq_true,
    List.isPrefixOf_iff_prefix, bne_iff_ne, isFile_iff]
  constructor
  · rintro ⟨names, ⟨⟨own, entry⟩, ⟨member, ⟨⟨bytes, rfl⟩, within⟩, strict⟩, rfl⟩, rfl⟩
    exact ⟨⟨rfl, bytes, member⟩, within, strict⟩
  · rintro ⟨⟨rooted, bytes, member⟩, within, strict⟩
    refine ⟨path.names, ⟨_, ⟨member, ⟨⟨bytes, rfl⟩, within⟩, strict⟩, rfl⟩, ?_⟩
    rw [← rooted]

theorem filesBelow_nodup {tree : FileTree} (sound : tree.Sound) (folder : Path) :
    (tree.filesBelow folder).Nodup := by
  have inside : ((tree.entries.filter fun entry => isFile entry.2 &&
      folder.names.isPrefixOf entry.1 && entry.1 != folder.names).map (·.1)).Nodup :=
    (List.filter_sublist.map _).nodup sound.single
  have sorted := (List.mergeSort_perm _ Path.namesBefore).nodup_iff.mpr inside
  refine List.Nodup.map ?_ sorted
  intro first second same
  exact congrArg Path.names same

end FileTree

namespace Workspace

theorem innermost_unique {workspace : Workspace} (sound : workspace.Sound) {path : Path}
    {first second : Member} (here : workspace.Innermost first path)
    (there : workspace.Innermost second path) : first = second := by
  obtain ⟨listed, within, deepest⟩ := here
  obtain ⟨otherListed, otherWithin, otherDeepest⟩ := there
  have depth := Nat.le_antisymm (otherDeepest first listed within)
    (deepest second otherListed otherWithin)
  exact same_folder sound listed otherListed (Path.isWithin_same_depth within otherWithin depth)

theorem owner_iff {workspace : Workspace} (sound : workspace.Sound) {path : Path}
    {member : Member} : workspace.owner? path = some member ↔ workspace.Innermost member path := by
  constructor
  · exact owner_innermost
  · intro innermost
    have someone := (owner_isSome_iff workspace path).mpr ⟨member, innermost.1, innermost.2.1⟩
    obtain ⟨owner, owned⟩ := Option.isSome_iff_exists.mp someone
    rw [owned, innermost_unique sound (owner_innermost owned) innermost]

/-- A plain file of a project: the innermost one around the path, and not at the path itself. -/
structure Holds (workspace : Workspace) (member : Member) (path : Path) : Prop where
  stands : workspace.tree.Stands path
  innermost : workspace.Innermost member path
  proper : member.folder ≠ path

theorem mem_filesIn {workspace : Workspace} (sound : workspace.Sound) {member : Member}
    {file : File} :
    file ∈ workspace.filesIn member ↔ file.owner = member ∧ workspace.Holds member file.path := by
  simp only [filesIn, List.mem_map, List.mem_filter, decide_eq_true_eq, FileTree.mem_filesBelow,
    owner_iff sound]
  constructor
  · rintro ⟨path, ⟨⟨stands, -, strict⟩, innermost⟩, rfl⟩
    refine ⟨rfl, stands, innermost, ?_⟩
    intro same
    exact strict (congrArg Path.names same.symm)
  · rintro ⟨owned, stands, innermost, proper⟩
    have within := (Path.isWithin_iff _ _).mp innermost.2.1
    refine ⟨file.path, ⟨⟨stands, within.2, ?_⟩, innermost⟩, ?_⟩
    · intro same
      exact proper (Path.same_path within.1.symm same.symm)
    · rw [← owned]

theorem filesIn_nodup {workspace : Workspace} (sound : workspace.tree.Sound) (member : Member) :
    ((workspace.filesIn member).map (·.path)).Nodup := by
  rw [filesIn, List.map_map]
  change (List.map id _).Nodup
  rw [List.map_id]
  exact (FileTree.filesBelow_nodup sound member.folder).filter _

theorem file_iff {workspace : Workspace} (sound : workspace.Sound) (tree : workspace.tree.Sound)
    {path : Path} (direct : ".." ∉ path.names) (file : File) :
    workspace.file? path = some file ↔ file.path = path ∧ workspace.Holds file.owner path := by
  constructor
  · intro adapted
    obtain ⟨same, owned, proper, isFile⟩ := file_cases adapted
    have innermost := owner_innermost owned
    have rooted := ((Path.isWithin_iff _ _).mp innermost.2.1).1.trans
      (sound.settled _ innermost.1).rooted
    exact ⟨same, (FileTree.hasFile_iff tree rooted direct).mp isFile, innermost, proper⟩
  · rintro ⟨same, stands, innermost, proper⟩
    have isFile := (FileTree.hasFile_iff tree stands.1 direct).mpr stands
    rw [file?, (owner_iff sound).mpr innermost]
    simp only [ne_eq, proper, not_false_eq_true, isFile, and_self, if_true]
    rw [← same]

theorem listed_iff {workspace : Workspace} (sound : workspace.Sound) {path : Path} :
    (∃ member, ∃ file ∈ workspace.filesIn member, file.path = path) ↔
      workspace.tree.Stands path ∧
        (∃ member ∈ workspace.members, path.isWithin member.folder = true) ∧
          ∀ member ∈ workspace.members, member.folder ≠ path := by
  constructor
  · rintro ⟨member, file, listed, rfl⟩
    obtain ⟨-, stands, innermost, proper⟩ := (mem_filesIn sound).mp listed
    refine ⟨stands, ⟨member, innermost.1, innermost.2.1⟩, ?_⟩
    intro other found same
    exact proper ((owner_at_folder ((owner_iff sound).mpr innermost)).mpr ⟨other, found, same⟩)
  · rintro ⟨stands, around, noFolder⟩
    have someone := (owner_isSome_iff workspace path).mpr around
    obtain ⟨owner, owned⟩ := Option.isSome_iff_exists.mp someone
    have innermost := owner_innermost owned
    refine ⟨owner, ⟨path, owner⟩, (mem_filesIn sound).mpr ⟨rfl, stands, innermost, ?_⟩, rfl⟩
    exact noFolder owner innermost.1

theorem mem_register_iff {members : List Member} (distinct : (members.map (·.folder)).Nodup)
    (added member : Member) :
    member ∈ register members added ↔
      member = added ∨ member ∈ members ∧ member.folder ≠ added.folder := by
  induction members with
  | nil => simp [register]
  | cons first rest ih =>
    rw [List.map_cons, List.nodup_cons] at distinct
    rw [register]
    by_cases here : first.folder = added.folder
    · rw [if_pos here, List.mem_cons, List.mem_cons]
      have apart : member ∈ rest → member.folder ≠ added.folder := by
        intro later same
        apply distinct.1
        rw [here, ← same]
        exact List.mem_map_of_mem later
      constructor
      · rintro (same | later)
        · exact Or.inl same
        · exact Or.inr ⟨Or.inr later, apart later⟩
      · rintro (same | ⟨rfl | later, other⟩)
        · exact Or.inl same
        · exact absurd here other
        · exact Or.inr later
    · rw [if_neg here, List.mem_cons, List.mem_cons, ih distinct.2]
      constructor
      · rintro (rfl | same | ⟨later, other⟩)
        · exact Or.inr ⟨Or.inl rfl, here⟩
        · exact Or.inl same
        · exact Or.inr ⟨Or.inr later, other⟩
      · rintro (same | ⟨rfl | later, other⟩)
        · exact Or.inr (Or.inl same)
        · exact Or.inl rfl
        · exact Or.inr (Or.inr ⟨later, other⟩)

theorem add_serial {workspace after : Workspace} {path : Path} {name : Option String}
    {member : Member} (added : workspace.add path name = .ok (member, after)) :
    member.serial = workspace.nextSerial ∧ after.nextSerial = workspace.nextSerial + 1 := by
  unfold add at added
  simp only at added
  split at added
  · cases added
    exact ⟨rfl, rfl⟩
  · cases added

/-- What a workspace comes to from another one, with the folders at which projects were added or
taken away on the way. -/
inductive Leads (first : Workspace) : List Path → Workspace → Prop where
  | stays : Leads first [] first
  | added {workspace after : Workspace} {folders : List Path} {member : Member} (path : String)
      (name : Option String) (led : Leads first folders workspace)
      (added : workspace.add (.parse path) name = .ok (member, after)) :
      Leads first (member.folder :: folders) after
  | removed {workspace : Workspace} {folders : List Path} (member : Member)
      (led : Leads first folders workspace) :
      Leads first (member.folder :: folders) (workspace.remove member)
  | opened {workspace : Workspace} {folders : List Path} (path text : String)
      (led : Leads first folders workspace) :
      Leads first folders (workspace.setDocument (.parse path) text)
  | closed {workspace : Workspace} {folders : List Path} (path : String)
      (led : Leads first folders workspace) :
      Leads first folders (workspace.dropDocument (.parse path))
  | settled {workspace : Workspace} {folders : List Path} (tree : FileTree)
      (led : Leads first folders workspace) : Leads first folders { workspace with tree := tree }

theorem leads_built {first workspace : Workspace} {folders : List Path} (built : Built first)
    (led : Leads first folders workspace) : Built workspace := by
  induction led with
  | stays => exact built
  | added path name _ added ih => exact .added path name ih added
  | removed member _ ih => exact .removed member ih
  | opened path text _ ih => exact .opened path text ih
  | closed path _ ih => exact .closed path ih
  | settled tree _ ih => exact .settled tree ih

/-- A project stays registered until one is added or taken away at its folder, and does not come
back. -/
theorem registered_until {before first workspace : Workspace} {path : String}
    {name : Option String} {member : Member} {folders : List Path} (built : Built before)
    (added : before.add (.parse path) name = .ok (member, first))
    (led : Leads first folders workspace) :
    (member ∈ workspace.members ↔ member.folder ∉ folders) ∧
      member.serial < workspace.nextSerial := by
  have started := Built.added path name built added
  induction led with
  | stays =>
    obtain ⟨-, -, -, members⟩ := add_cases added
    obtain ⟨own, next⟩ := add_serial added
    constructor
    · rw [members, mem_register_iff (built_sound built).distinct]
      simp
    · omega
  | @added workspace after folders other _ _ led again ih =>
    obtain ⟨listed, earlier⟩ := ih
    obtain ⟨-, -, -, members⟩ := add_cases again
    obtain ⟨own, next⟩ := add_serial again
    have distinct := (built_sound (leads_built started led)).distinct
    -- The later project has a higher number, even if all else is the same.
    have apart : member ≠ other := by
      rintro rfl
      omega
    constructor
    · rw [members, mem_register_iff distinct, listed, List.mem_cons, not_or]
      simp [apart, and_comm]
    · omega
  | removed other led ih =>
    obtain ⟨listed, earlier⟩ := ih
    refine ⟨?_, earlier⟩
    rw [remove, List.mem_filter, listed, List.mem_cons, not_or]
    simp [and_comm]
  | opened _ _ _ ih | closed _ _ ih | settled _ _ ih => exact ih

/-- The listings of a workspace that came about in any way, over a tree of plain files and folders.
Each plain file is listed once, by the innermost project around it, unless it lies in no project or
at a project's folder; listings of different projects have no path in common. A single path without
`..` is adapted to a file exactly if some listing has that file: path and owner are the same, and
with them the URI and the path below the owner. A project lists nothing once another one was added
at its folder, or the one there was taken away. -/
theorem listings_agree_with_adaptation {workspace : Workspace} (built : Built workspace)
    (tree : workspace.tree.Sound) :
    (∀ member, ((workspace.filesIn member).map (·.path)).Nodup) ∧
    (∀ member file, file ∈ workspace.filesIn member ↔ file.owner = member ∧
      workspace.tree.Stands file.path ∧ workspace.Innermost member file.path ∧
        member.folder ≠ file.path) ∧
    (∀ first second file other, file ∈ workspace.filesIn first → other ∈ workspace.filesIn second →
      file.path = other.path → first = second) ∧
    (∀ path, (∃ member, ∃ file ∈ workspace.filesIn member, file.path = path) ↔
      workspace.tree.Stands path ∧
        (∃ member ∈ workspace.members, path.isWithin member.folder = true) ∧
          ∀ member ∈ workspace.members, member.folder ≠ path) ∧
    (∀ path file, ".." ∉ path.names → (workspace.file? path = some file ↔
      file.path = path ∧ file ∈ workspace.filesIn file.owner)) ∧
    (∀ member, member ∉ workspace.members → workspace.filesIn member = []) ∧
    ∀ before first path name member folders, Built before →
      before.add (.parse path) name = .ok (member, first) → Leads first folders workspace →
      (member ∈ workspace.members ↔ member.folder ∉ folders) ∧
        (member.folder ∈ folders → workspace.filesIn member = []) := by
  have sound := built_sound built
  have unregistered : ∀ member, member ∉ workspace.members → workspace.filesIn member = [] := by
    intro member gone
    rw [List.eq_nil_iff_forall_not_mem]
    intro file listed
    exact gone ((mem_filesIn sound).mp listed).2.innermost.1
  refine ⟨filesIn_nodup tree, ?_, ?_, fun path => listed_iff sound, ?_, unregistered, ?_⟩
  · intro member file
    rw [mem_filesIn sound]
    constructor
    · rintro ⟨owned, stands, innermost, proper⟩
      exact ⟨owned, stands, innermost, proper⟩
    · rintro ⟨owned, stands, innermost, proper⟩
      exact ⟨owned, stands, innermost, proper⟩
  · intro first second file other here there same
    obtain ⟨-, holds⟩ := (mem_filesIn sound).mp here
    obtain ⟨-, holdsOther⟩ := (mem_filesIn sound).mp there
    rw [same] at holds
    exact innermost_unique sound holds.innermost holdsOther.innermost
  · intro path file direct
    rw [file_iff sound tree direct, mem_filesIn sound]
    constructor
    · rintro ⟨rfl, holds⟩
      exact ⟨rfl, rfl, holds⟩
    · rintro ⟨rfl, -, holds⟩
      exact ⟨rfl, holds⟩
  · intro before first path name member folders earlier added led
    obtain ⟨listed, -⟩ := registered_until earlier added led
    refine ⟨listed, ?_⟩
    intro touched
    exact unregistered member fun found => listed.mp found touched

theorem nestedSample_tree : nestedSample.tree.Sound := by
  constructor <;> decide

/-- A file of the outer project, and a project that was never added in that form. -/
theorem nested_listing_agrees :
    (⟨.parse "/w/app/main.c", ⟨0, "app", .parse "/w/app"⟩⟩ : File) ∈
        nestedSample.filesIn ⟨0, "app", .parse "/w/app"⟩ ∧
      nestedSample.filesIn ⟨2, "app", .parse "/w/app"⟩ = [] := by
  obtain ⟨-, -, -, -, adapted, gone, -⟩ :=
    listings_agree_with_adaptation nestedSample_built nestedSample_tree
  constructor
  · have found : nestedSample.file? (.parse "/w/app/main.c") =
        some ⟨.parse "/w/app/main.c", ⟨0, "app", .parse "/w/app"⟩⟩ := by decide
    exact ((adapted _ _ (by decide)).mp found).2
  · exact gone _ (by decide)

/-- A path that leads through `..` is adapted to a file of the project that it names first, although
no project lists it. -/
theorem parent_path_adapted_unlisted :
    nestedSample.Built ∧ nestedSample.tree.Sound ∧
      nestedSample.file? (.parse "/w/app/lib/../main.c") =
        some ⟨.parse "/w/app/lib/../main.c", ⟨1, "lib", .parse "/w/app/lib"⟩⟩ ∧
      ∀ member, ∀ file ∈ nestedSample.filesIn member,
        file.path ≠ .parse "/w/app/lib/../main.c" := by
  refine ⟨nestedSample_built, nestedSample_tree, by decide, ?_⟩
  intro member file listed same
  obtain ⟨-, ⟨⟨-, bytes, found⟩, -, -⟩⟩ := (mem_filesIn (built_sound nestedSample_built)).mp listed
  obtain ⟨-, direct⟩ := nestedSample_tree.named _ found
  rw [same] at direct
  exact direct (show ".." ∈ (Path.parse "/w/app/lib/../main.c").names by decide)

end Workspace
end ChangeRelay
