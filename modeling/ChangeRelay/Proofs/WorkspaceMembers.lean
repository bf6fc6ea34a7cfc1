import ChangeRelay.Proofs.PathLaws
import ChangeRelay.Proofs.PathText
import ChangeRelay.Workspace

/-!
Workspaces as they come about. The root and the folders of projects are absolute, without `..`, and
no two projects share a folder. The project that owns a path is the innermost one around it.
-/
namespace ChangeRelay.Workspace

/-- What a workspace goes through: projects come and go, documents are opened and closed, and the
files are whatever they are. -/
inductive Built : Workspace → Prop where
  | created (root charset : String) (tree : FileTree) : Built (create (.parse root) charset tree)
  | added {workspace after : Workspace} {member : Member} (path : String) (name : Option String)
      (built : Built workspace) (added : workspace.add (.parse path) name = .ok (member, after)) :
      Built after
  | removed {workspace : Workspace} (member : Member) (built : Built workspace) :
      Built (workspace.remove member)
  | opened {workspace : Workspace} (path text : String) (built : Built workspace) :
      Built (workspace.setDocument (.parse path) text)
  | closed {workspace : Workspace} (path : String) (built : Built workspace) :
      Built (workspace.dropDocument (.parse path))
  | settled {workspace : Workspace} (tree : FileTree) (built : Built workspace) :
      Built { workspace with tree := tree }

structure Settled (path : Path) : Prop where
  rooted : path.anchor = .single
  clean : path.Clean
  direct : ".." ∉ path.names

theorem settled_resolved {path : Path} (clean : path.Clean) : Settled path.resolved :=
  ⟨rfl, Path.clean_resolved clean, Path.resolved_without_parents path⟩

structure Sound (workspace : Workspace) : Prop where
  root : Settled workspace.root
  settled : ∀ member ∈ workspace.members, Settled member.folder
  inside : ∀ member ∈ workspace.members, member.folder.isWithin workspace.root = true
  distinct : (workspace.members.map (·.folder)).Nodup

theorem folders_register (members : List Member) (member : Member) :
    (register members member).map (·.folder) =
      if member.folder ∈ members.map (·.folder) then members.map (·.folder)
      else members.map (·.folder) ++ [member.folder] := by
  induction members with
  | nil => rfl
  | cons other rest ih =>
    by_cases same : other.folder = member.folder
    · simp [register, same]
    · simp only [register, same, if_false, List.map_cons, ih, List.mem_cons, Ne.symm same, false_or]
      split <;> rfl

theorem mem_register {members : List Member} {member other : Member}
    (found : other ∈ register members member) : other = member ∨ other ∈ members := by
  induction members with
  | nil => exact Or.inl (List.mem_singleton.mp found)
  | cons first rest ih =>
    rw [register] at found
    split at found
    · rcases List.mem_cons.mp found with here | later
      · exact Or.inl here
      · exact Or.inr (List.mem_cons_of_mem _ later)
    · rcases List.mem_cons.mp found with here | later
      · exact Or.inr (List.mem_cons.mpr (Or.inl here))
      · rcases ih later with same | old
        · exact Or.inl same
        · exact Or.inr (List.mem_cons_of_mem _ old)

theorem add_cases {workspace after : Workspace} {path : Path} {name : Option String}
    {member : Member} (added : workspace.add path name = .ok (member, after)) :
    path.resolved.isWithin workspace.root = true ∧ member.folder = path.resolved ∧
      after.root = workspace.root ∧ after.members = register workspace.members member := by
  unfold add at added
  simp only at added
  split at added
  · rename_i within
    cases added
    exact ⟨within, rfl, rfl, rfl⟩
  · cases added

theorem add_sound {workspace after : Workspace} {path : Path} {name : Option String}
    {member : Member} (sound : workspace.Sound) (clean : path.Clean)
    (added : workspace.add path name = .ok (member, after)) : after.Sound := by
  obtain ⟨within, folder, root, members⟩ := add_cases added
  refine ⟨?_, ?_, ?_, ?_⟩
  · rw [root]
    exact sound.root
  · intro other found
    rw [members] at found
    rcases mem_register found with rfl | old
    · rw [folder]
      exact settled_resolved clean
    · exact sound.settled other old
  · intro other found
    rw [members] at found
    rw [root]
    rcases mem_register found with rfl | old
    · rw [folder]
      exact within
    · exact sound.inside other old
  · rw [members, folders_register]
    split
    · exact sound.distinct
    · rename_i absent
      rw [List.nodup_append]
      refine ⟨sound.distinct, List.pairwise_singleton _ _, ?_⟩
      rintro other old added here rfl
      rw [List.mem_singleton.mp here] at old
      exact absent old

theorem remove_sound {workspace : Workspace} (sound : workspace.Sound) (member : Member) :
    (workspace.remove member).Sound := by
  have old : ∀ other ∈ (workspace.remove member).members, other ∈ workspace.members :=
    fun other found => (List.mem_filter.mp found).1
  exact ⟨sound.root, fun other found => sound.settled other (old other found),
    fun other found => sound.inside other (old other found),
    (List.filter_sublist.map _).nodup sound.distinct⟩

theorem built_sound {workspace : Workspace} (built : Built workspace) : workspace.Sound := by
  induction built with
  | created root charset tree =>
    exact ⟨settled_resolved (Path.parse_clean root), nofun, nofun, List.nodup_nil⟩
  | added path name _ added ih => exact add_sound ih (Path.parse_clean path) added
  | removed member _ ih => exact remove_sound ih member
  | opened _ _ _ ih | closed _ _ ih | settled _ _ ih =>
    exact ⟨ih.root, ih.settled, ih.inside, ih.distinct⟩

/-- The project around a path that lies deepest. -/
def Innermost (workspace : Workspace) (member : Member) (path : Path) : Prop :=
  member ∈ workspace.members ∧ path.isWithin member.folder = true ∧
    ∀ other ∈ workspace.members, path.isWithin other.folder = true →
      other.folder.names.length ≤ member.folder.names.length

theorem deeper_spec (best : Option Member) (member : Member) :
    ∃ deepest, deeper best member = some deepest ∧ (best = some deepest ∨ deepest = member) ∧
      (∀ other, best = some other → other.folder.names.length ≤ deepest.folder.names.length) ∧
        member.folder.names.length ≤ deepest.folder.names.length := by
  cases best with
  | none => exact ⟨member, rfl, Or.inr rfl, nofun, Nat.le_refl _⟩
  | some old =>
    by_cases shallower : old.folder.names.length < member.folder.names.length
    · refine ⟨member, if_pos shallower, Or.inr rfl, ?_, Nat.le_refl _⟩
      intro other same
      cases same
      omega
    · refine ⟨old, if_neg shallower, Or.inl rfl, ?_, by omega⟩
      intro other same
      cases same
      exact Nat.le_refl _

theorem foldl_deeper (members : List Member) (best : Option Member) :
    match members.foldl deeper best with
    | none => best = none ∧ members = []
    | some deepest => (best = some deepest ∨ deepest ∈ members) ∧
        (∀ other, best = some other → other.folder.names.length ≤ deepest.folder.names.length) ∧
        ∀ other ∈ members, other.folder.names.length ≤ deepest.folder.names.length := by
  induction members generalizing best with
  | nil =>
    cases best with
    | none => exact ⟨rfl, rfl⟩
    | some member =>
      refine ⟨Or.inl rfl, ?_, nofun⟩
      intro other same
      cases same
      exact Nat.le_refl _
  | cons member rest ih =>
    obtain ⟨first, step, from_, before, here⟩ := deeper_spec best member
    have spec := ih (some first)
    rw [List.foldl_cons, step]
    cases result : rest.foldl deeper (some first) with
    | none =>
      rw [result] at spec
      cases spec.1
    | some deepest =>
      rw [result] at spec
      obtain ⟨later, atLeast, after⟩ := spec
      have bound := atLeast first rfl
      refine ⟨?_, ?_, ?_⟩
      · rcases later with same | found
        · cases same
          rcases from_ with old | rfl
          · exact Or.inl old
          · exact Or.inr List.mem_cons_self
        · exact Or.inr (List.mem_cons_of_mem _ found)
      · intro other same
        exact Nat.le_trans (before other same) bound
      · intro other found
        rcases List.mem_cons.mp found with rfl | old
        · exact Nat.le_trans here bound
        · exact after other old

theorem owner_innermost {workspace : Workspace} {path : Path} {member : Member}
    (owned : workspace.owner? path = some member) : workspace.Innermost member path := by
  have spec := foldl_deeper (workspace.members.filter (path.isWithin ·.folder)) none
  rw [owner?] at owned
  rw [owned] at spec
  obtain ⟨absurd_ | found, -, deepest⟩ := spec
  · cases absurd_
  · obtain ⟨listed, within⟩ := List.mem_filter.mp found
    refine ⟨listed, within, ?_⟩
    intro other otherListed otherWithin
    exact deepest other (List.mem_filter.mpr ⟨otherListed, otherWithin⟩)

theorem owner_isSome_iff (workspace : Workspace) (path : Path) :
    (workspace.owner? path).isSome = true ↔
      ∃ member ∈ workspace.members, path.isWithin member.folder = true := by
  have spec := foldl_deeper (workspace.members.filter (path.isWithin ·.folder)) none
  rw [owner?]
  cases found : (workspace.members.filter (path.isWithin ·.folder)).foldl deeper none with
  | none =>
    rw [found] at spec
    have nobody := List.filter_eq_nil_iff.mp spec.2
    simpa using nobody
  | some member =>
    have innermost := owner_innermost found
    simp only [Option.isSome_some, true_iff]
    exact ⟨member, innermost.1, innermost.2.1⟩

theorem owner_at_folder {workspace : Workspace} {path : Path} {owner : Member}
    (owned : workspace.owner? path = some owner) :
    owner.folder = path ↔ ∃ member ∈ workspace.members, member.folder = path := by
  obtain ⟨listed, within, deepest⟩ := owner_innermost owned
  constructor
  · intro same
    exact ⟨owner, listed, same⟩
  · rintro ⟨member, found, rfl⟩
    have inOwner := Path.isWithin_depth within
    have inMember := deepest member found (Path.isWithin_refl _)
    exact Path.isWithin_same_depth within (Path.isWithin_refl _) (by omega)

theorem file_cases {workspace : Workspace} {path : Path} {file : File}
    (found : workspace.file? path = some file) :
    file.path = path ∧ workspace.owner? path = some file.owner ∧ file.owner.folder ≠ path ∧
      workspace.tree.hasFile path = true := by
  unfold file? at found
  split at found
  · cases found
  · rename_i member owned
    split at found
    · rename_i proper
      cases found
      exact ⟨rfl, owned, proper.1, proper.2⟩
    · cases found

theorem file_isSome_iff (workspace : Workspace) (path : Path) :
    (workspace.file? path).isSome = true ↔
      workspace.tree.hasFile path = true ∧
        (∃ member ∈ workspace.members, path.isWithin member.folder = true) ∧
          ∀ member ∈ workspace.members, member.folder ≠ path := by
  rw [← owner_isSome_iff]
  unfold file?
  cases owned : workspace.owner? path with
  | none => simp
  | some owner =>
    have atFolder := owner_at_folder owned
    simp only [Option.isSome_some, true_and]
    constructor
    · intro given
      split at given
      · rename_i proper
        refine ⟨proper.2, ?_⟩
        intro member found same
        exact proper.1 (atFolder.mpr ⟨member, found, same⟩)
      · cases given
    · rintro ⟨isFile, noFolder⟩
      have proper : owner.folder ≠ path := by
        intro same
        obtain ⟨member, found, folder⟩ := atFolder.mp same
        exact noFolder member found folder
      rw [if_pos ⟨proper, isFile⟩]
      rfl

end ChangeRelay.Workspace
