import ChangeRelay.Proofs.SendingAll
import ChangeRelay.Proofs.UriRoundTrip
import ChangeRelay.Proofs.WorkspaceMembers
import ChangeRelay.Workspace.Nested
import Mathlib.Data.List.Nodup

/-!
Copies for the projects within a project. A workspace finds the project of a scope again, its
sub-projects are the projects strictly within it, and there is a way from each of them to every
file of the workspace, unless the way seems to lead to another drive.
-/
namespace ChangeRelay

namespace Path

theorem climb_ok {target : Path} {anchor : Anchor} {names : List String}
    (rooted : target.anchor = anchor) (direct : ".." ∉ names) :
    ∃ way, climb target anchor names = .ok way := by
  induction names with
  | nil =>
    have within : target.isWithin ⟨anchor, []⟩ = true := by
      rw [isWithin_iff]
      exact ⟨rooted, List.nil_prefix⟩
    exact ⟨(0, 0), by rw [climb, if_pos within]⟩
  | cons name outer ih =>
    obtain ⟨way, found⟩ := ih fun member => direct (List.mem_cons_of_mem _ member)
    have proper : name ≠ ".." := by
      rintro rfl
      exact direct List.mem_cons_self
    by_cases within : target.isWithin ⟨anchor, (name :: outer).reverse⟩ = true
    · exact ⟨(0, outer.length + 1), by rw [climb, if_pos within]⟩
    · rw [climb, if_neg within, if_neg proper, found]
      exact ⟨_, rfl⟩

theorem relativeTo_ok {target base : Path} (rooted : target.anchor = base.anchor)
    (direct : ".." ∉ base.names) : ∃ way, target.relativeTo base = .ok way := by
  have upwards : ".." ∉ base.names.reverse := by simpa using direct
  obtain ⟨way, found⟩ := climb_ok rooted upwards
  rw [relativeTo, found]
  exact ⟨_, rfl⟩

theorem drive_within {path folder : Path} (within : path.isWithin folder = true)
    (filled : folder.names ≠ []) : path.opensWithDrive = folder.opensWithDrive := by
  obtain ⟨rest, same⟩ := ((isWithin_iff path folder).mp within).2
  have head : path.names.head? = folder.names.head? := by
    rw [← same]
    exact List.head?_append_of_ne_nil folder.names filled
  rw [opensWithDrive, opensWithDrive, head]

end Path

namespace Uri

theorem fromTo_ok {base target : Path} (baseClean : base.Clean) (targetClean : target.Clean)
    (baseRooted : base.anchor = .single) (targetRooted : target.anchor = .single)
    (direct : ".." ∉ base.names) (basePlain : base.opensWithDrive = false)
    (targetPlain : target.opensWithDrive = false) :
    ∃ way, fromTo (ofPath base) (ofPath target) = .ok way := by
  obtain ⟨way, found⟩ := Path.relativeTo_ok (targetRooted.trans baseRooted.symm) direct
  refine ⟨way, ?_⟩
  rw [fromTo, pathOf_ofPath targetClean targetRooted targetPlain,
    pathOf_ofPath baseClean baseRooted basePlain]
  simp only [Except.mapError, bind, Except.bind, found]

end Uri

namespace ChangeList

theorem mem_firstPerScope {projects : List Project} {project : Project}
    (member : project ∈ firstPerScope projects) : project ∈ projects := by
  have all : ∀ (more seen : List Project), project ∈ more.foldl
      (fun seen project =>
        if seen.any (·.scope == project.scope) then seen else seen ++ [project]) seen →
        project ∈ seen ∨ project ∈ more := by
    intro more
    induction more with
    | nil => exact fun seen found => Or.inl found
    | cons first rest ih =>
      intro seen found
      rw [List.foldl_cons] at found
      rcases ih _ found with old | later
      · split at old
        · exact Or.inl old
        · rcases List.mem_append.mp old with before | here
          · exact Or.inl before
          · exact Or.inr (List.mem_cons.mpr (Or.inl (List.mem_singleton.mp here)))
      · exact Or.inr (List.mem_cons_of_mem _ later)
  rcases all projects [] member with nothing | found
  · cases nothing
  · exact found

end ChangeList

namespace Workspace

theorem same_folder {workspace : Workspace} (sound : workspace.Sound) {first second : Member}
    (inFirst : first ∈ workspace.members) (inSecond : second ∈ workspace.members)
    (same : first.folder = second.folder) : first = second :=
  List.inj_on_of_nodup_map sound.distinct inFirst inSecond same

theorem same_scope {workspace : Workspace} (sound : workspace.Sound) {first second : Member}
    (inFirst : first ∈ workspace.members) (inSecond : second ∈ workspace.members)
    (same : first.project.scope = second.project.scope) : first = second :=
  same_folder sound inFirst inSecond <| Uri.ofPath_injective (sound.settled first inFirst).clean
    (sound.settled second inSecond).clean (Value.text.inj same)

theorem memberFor_uri {workspace : Workspace} (sound : workspace.Sound) {member : Member}
    (listed : member ∈ workspace.members) :
    workspace.memberFor? (.text member.uri) = some member := by
  cases found : workspace.memberFor? (.text member.uri) with
  | none =>
    have nobody := List.find?_eq_none.mp found member listed
    simp at nobody
  | some other =>
    have otherListed := List.mem_of_find?_eq_some found
    have told := List.find?_some found
    rw [decide_eq_true_eq] at told
    rw [same_scope sound listed otherListed told]

theorem resolve_hierarchy (workspace : Workspace) (project : Project) :
    SubProject.resolve project [workspace.hierarchy] =
      .ok (ChangeList.firstPerScope
        ((workspace.subProjects project.scope).map Member.project)) := by
  have asked : SubProject.ask project [workspace.hierarchy] =
      .ok ((workspace.subProjects project.scope).map Member.project) := by
    cases found : workspace.subProjects project.scope with
    | nil => simp [SubProject.ask, hierarchy, found, bind, Except.bind]
    | cons first rest =>
      simp [SubProject.ask, hierarchy, found, bind, Except.bind, pure, Except.pure]
  rw [SubProject.resolve, asked]
  rfl

theorem mem_subProjects {workspace : Workspace} (sound : workspace.Sound) {owner member : Member}
    (listed : owner ∈ workspace.members)
    (found : member ∈ workspace.subProjects (.text owner.uri)) :
    member ∈ workspace.members ∧ member ≠ owner ∧ member.folder.isWithin owner.folder = true := by
  have inside : member ∈ workspace.within owner := by
    simpa only [subProjects, memberFor_uri sound listed] using found
  rw [within, List.mem_filter, Bool.and_eq_true, bne_iff_ne] at inside
  exact inside

/-- Where a path cannot be taken for one on a drive. -/
def Plain (path : Path) : Prop := path.opensWithDrive = false

theorem duplicate_ok {workspace : Workspace} (sound : workspace.Sound) {member : Member}
    (listed : member ∈ workspace.members) (memberPlain : Plain member.folder) {path : Path}
    (settled : path.Clean) (rooted : path.anchor = .single) (pathPlain : Plain path)
    {snapshot : Snapshot} (uri : snapshot.uri = Uri.ofPath path) :
    ∃ relativePath, SubProject.duplicate member.project snapshot =
      .ok { snapshot with relativePath := relativePath, scope := member.uri } := by
  have folder := sound.settled member listed
  obtain ⟨way, found⟩ := Uri.fromTo_ok folder.clean settled folder.rooted rooted folder.direct
    memberPlain pathPlain
  have asked : Uri.fromTo member.project.location snapshot.uri = .ok way := by
    rw [uri]
    exact found
  refine ⟨way.text, ?_⟩
  rw [SubProject.duplicate, asked]
  rfl

end Workspace
end ChangeRelay
