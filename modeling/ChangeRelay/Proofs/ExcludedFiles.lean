import ChangeRelay.Proofs.AfreshWalk
import ChangeRelay.Proofs.ForwardedPaths

/-!
The walk of a workspace's own notification where projects have exclusions. A file that an exclusion
of its own project covers is left out, and nothing else is: the walk does not go on below it, but
below a plain file no path leads to another one.
-/
namespace ChangeRelay

namespace FileTree

theorem follow_below_file {tree : FileTree} {folder names more : List String} {bytes : List UInt8}
    (found : tree.follow folder names = .ok (.file bytes)) (further : more ≠ []) :
    tree.follow folder (names ++ more) = .error .folder := by
  induction names generalizing folder with
  | nil =>
    obtain ⟨name, rest, rfl⟩ := List.exists_cons_of_ne_nil further
    rw [follow] at found
    rw [List.nil_append, follow]
    cases held : tree.entry? folder.reverse with
    | none => simp [held] at found
    | some entry =>
      simp only [held, Option.getD_some, Except.ok.injEq] at found
      rw [found]
  | cons name rest ih =>
    rw [List.cons_append, follow]
    rw [follow] at found
    split at found
    · split at found
      · rename_i up
        rw [if_pos up]
        exact ih found
      · rename_i down
        rw [if_neg down]
        split at found
        · rename_i there
          rw [if_pos there]
          exact ih found
        · cases found
    · cases found
    · cases found

theorem hasFile_below {tree : FileTree} {path : Path} (isFile : tree.hasFile path = true)
    {names : List String} (further : names ≠ []) :
    tree.hasFile ⟨path.anchor, path.names ++ names⟩ = false := by
  obtain ⟨anchor, own⟩ := path
  simp only [hasFile, find] at isFile ⊢
  by_cases relative : anchor = .relative
  · simp [relative]
  · simp only [relative, if_false] at isFile ⊢
    split at isFile
    · rename_i bytes found
      rw [follow_below_file found further]
    · cases isFile

end FileTree

namespace Delta

variable {φ : Type}

theorem present_record (changes : ChangeList φ) (event : Option (FileEvent φ)) :
    (record changes event).present = changes.present ++ event.toList.filterMap FileEvent.file? := by
  rw [record_eq, ChangeList.present_foldl]

end Delta

namespace Workspace

open ChangeTree (marks marksAll)

def covered (workspace : Workspace) (exclusions : Member → List Path) (file : File) : Bool :=
  Exclusion.covers (exclusions file.owner) ⟨.single, workspace.namesBelow file.path⟩

/-- The files of events that no exclusion of their own projects covers. -/
def uncovered (workspace : Workspace) (exclusions : Member → List Path)
    (events : List (FileEvent File)) : List File :=
  (events.filterMap FileEvent.file?).filter fun file => !workspace.covered exclusions file

theorem uncovered_append (workspace : Workspace) (exclusions : Member → List Path)
    (first second : List (FileEvent File)) :
    workspace.uncovered exclusions (first ++ second) =
      workspace.uncovered exclusions first ++ workspace.uncovered exclusions second := by
  rw [uncovered, List.filterMap_append, List.filter_append]
  rfl

theorem file_of_event {workspace : Workspace} {ignored : List String} {path : Path} {mark : Mark}
    {file : File}
    (told : file ∈ (workspace.eventAt ignored path mark).toList.filterMap FileEvent.file?) :
    workspace.file? path = some file := by
  obtain ⟨event, listed, same⟩ := List.mem_filterMap.mp told
  have known := file_eventAt workspace ignored (path, mark)
  dsimp only at known
  rw [Option.mem_toList.mp listed, Option.bind_some, same] at known
  split at known
  · exact known.symm
  · cases known

section
variable {workspace : Workspace} {ignored : List String} {providers : List Exclusion.Provider}
  {exclusions : Member → List Path} {path : Path}

theorem events_below_file (isFile : workspace.tree.hasFile path = true)
    (children : List (String × ChangeTree)) :
    (workspace.eventsFrom ignored path (marksAll children)).filterMap FileEvent.file? = [] := by
  rw [List.filterMap_eq_nil_iff]
  intro event listed
  obtain ⟨node, member, same⟩ := List.mem_filterMap.mp listed
  cases told : event.file? with
  | none => rfl
  | some file =>
    obtain ⟨name, rest, names, -⟩ := ChangeTree.marksAll_names member
    have filled : node.1 ≠ [] := by
      rw [names]
      exact List.cons_ne_nil name rest
    have there : workspace.file? ⟨path.anchor, path.names ++ node.1⟩ = some file :=
      file_of_event (List.mem_filterMap.mpr ⟨event, Option.mem_toList.mpr same, told⟩)
    have below := (file_cases there).2.2.2
    rw [FileTree.hasFile_below isFile filled] at below
    cases below

theorem judge_path (within : path.isWithin workspace.root = true) (mark : Mark) :
    Delta.judgeAfresh ⟨ignored, providers, workspace.view⟩ (workspace.subject path mark) =
      if workspace.ignores ignored path = true then .ok (.skip, none)
      else if mark.kind = .removed then .ok (.goOn, (workspace.location? path).map .removed)
      else
        match workspace.file? path with
        | none => .ok (.goOn, none)
        | some file => Delta.judgeFileAfresh ⟨ignored, providers, workspace.view⟩
            (workspace.subject path mark) ⟨.single, workspace.namesBelow path⟩ mark.kind file := by
  have at_ : (workspace.subject path mark).IsAt _ _ := subject_isAt within
  have kind : (workspace.subject path mark).kind = .ok mark.kind := rfl
  have location : (workspace.resource path).location = .ok (workspace.location? path) := rfl
  have file : (workspace.resource path).file = .ok (workspace.file? path) := rfl
  have passes : Exclusion.passesThrough ignored ⟨.single, workspace.namesBelow path⟩ =
      workspace.ignores ignored path := rfl
  simp only [Delta.judgeAfresh, at_.1, at_.2, kind, location, file, passes, bind, Except.bind]
  by_cases passed : workspace.ignores ignored path = true
  · rw [if_pos passed, if_pos passed]
    rfl
  · rw [if_neg passed, if_neg passed]
    by_cases gone : mark.kind = .removed
    · rw [if_pos gone, if_pos gone]
      rfl
    · rw [if_neg gone, if_neg gone]
      cases workspace.file? path <;> rfl

theorem judge_uncovered_file (mark : Mark) {file : File} (found : workspace.file? path = some file)
    (regarded : workspace.ignores ignored path = false) (present : mark.kind ≠ .removed) :
    Delta.judgePresentAfresh (workspace.subject path mark) mark.kind file =
      .ok (.goOn, workspace.eventAt ignored path mark) := by
  obtain ⟨kind, flags⟩ := mark
  cases kind with
  | removed => exact absurd rfl present
  | added => simp [Delta.judgePresentAfresh, eventAt, regarded, found, pure, Except.pure]
  | changed =>
    simp only [Delta.judgePresentAfresh, eventAt, regarded, found, subject, reduceCtorEq, if_false,
      bind, Except.bind, pure, Except.pure, Bool.false_eq_true, Option.map_some]

variable (offered : ∀ member : Member,
    Exclusion.unionOf providers member.project = .ok (exclusions member))
  (within : path.isWithin workspace.root = true)
include offered within

/-- A node is judged without failing, tells of its file unless that is covered, and is skipped only
if there is no file below it that could be told of. -/
theorem judge_uncovered (mark : Mark) :
    ∃ verdict event,
      Delta.judgeAfresh ⟨ignored, providers, workspace.view⟩ (workspace.subject path mark) =
        .ok (verdict, event) ∧
      event.toList.filterMap FileEvent.file? =
        workspace.uncovered exclusions (workspace.eventAt ignored path mark).toList ∧
      (verdict = .skip → ∀ children,
        (workspace.eventsFrom ignored path (marksAll children)).filterMap FileEvent.file? =
          []) := by
  rw [judge_path within]
  by_cases passed : workspace.ignores ignored path = true
  · refine ⟨.skip, none, if_pos passed, ?_, ?_⟩
    · rw [eventAt, if_pos passed]
      rfl
    · intro _ children
      rw [eventsFrom_ignored within passed]
      rfl
  · rw [if_neg passed]
    have regarded : workspace.ignores ignored path = false := by simpa using passed
    by_cases gone : mark.kind = .removed
    · refine ⟨.goOn, _, if_pos gone, ?_, by simp⟩
      simp only [eventAt, regarded, gone, Bool.false_eq_true, if_false]
      cases workspace.location? path <;> rfl
    · rw [if_neg gone]
      cases found : workspace.file? path with
      | none =>
        refine ⟨.goOn, none, rfl, ?_, by simp⟩
        refine (List.filter_eq_nil_iff.mpr ?_).symm
        intro file told
        rw [file_of_event told] at found
        cases found
      | some file =>
        obtain ⟨same, owned, -, isFile⟩ := file_cases found
        subst same
        have asked : Exclusion.unionOf providers (workspace.view file).project =
            .ok (exclusions file.owner) := offered file.owner
        simp only [Delta.judgeFileAfresh, asked, bind, Except.bind]
        by_cases excluded : workspace.covered exclusions file = true
        · refine ⟨.skip, none, if_pos excluded, ?_, ?_⟩
          · refine (List.filter_eq_nil_iff.mpr ?_).symm
            intro other told
            rw [file_of_event told] at found
            cases found
            simp [excluded]
          · exact fun _ children => events_below_file isFile children
        · refine ⟨.goOn, _, (if_neg excluded).trans
            (judge_uncovered_file mark found regarded gone), ?_, by simp⟩
          refine (List.filter_eq_self.mpr ?_).symm
          intro other told
          rw [file_of_event told] at found
          cases found
          simp [excluded]

/-- What is told of by a node and its children is told of by the walk of the node. -/
theorem visit_uncovered {mark : Mark} {children : List (String × ChangeTree)}
    (below : ∀ changes, ∃ final,
      Delta.visitAllAfresh ⟨ignored, providers, workspace.view⟩ (workspace.deltas path children)
        changes = .ok final ∧
      final.present = changes.present ++
        workspace.uncovered exclusions (workspace.eventsFrom ignored path (marksAll children)))
    (changes : ChangeList File) :
    ∃ final,
      Delta.visitAfresh ⟨ignored, providers, workspace.view⟩
        (workspace.delta path (.node mark children)) changes = .ok final ∧
      final.present = changes.present ++ workspace.uncovered exclusions
        (workspace.eventsFrom ignored path (marks (.node mark children))) := by
  obtain ⟨verdict, event, judged, told, pruned⟩ := judge_uncovered offered within mark
  have here := Delta.present_record changes event
  rw [told] at here
  rw [delta, Delta.visitAfresh, judged, eventsFrom_node, uncovered_append, ← List.append_assoc,
    ← here]
  cases verdict with
  | skip =>
    refine ⟨Delta.record changes event, rfl, ?_⟩
    rw [uncovered, pruned rfl children, List.filter_nil, List.append_nil]
  | goOn => exact below _

end

theorem visitAll_uncovered {workspace : Workspace} {ignored : List String}
    {providers : List Exclusion.Provider} {exclusions : Member → List Path}
    (offered : ∀ member : Member,
      Exclusion.unionOf providers member.project = .ok (exclusions member)) (path : Path)
    (within : path.isWithin workspace.root = true) (children : List (String × ChangeTree))
    (changes : ChangeList File) :
    ∃ final,
      Delta.visitAllAfresh ⟨ignored, providers, workspace.view⟩ (workspace.deltas path children)
        changes = .ok final ∧
      final.present = changes.present ++
        workspace.uncovered exclusions (workspace.eventsFrom ignored path (marksAll children)) := by
  match children with
  | [] => exact ⟨changes, rfl, (List.append_nil _).symm⟩
  | (name, .node mark inner) :: rest =>
    have childWithin := Path.isWithin_trans (Path.isWithin_child path name) within
    obtain ⟨between, visited, told⟩ := visit_uncovered offered childWithin
      (visitAll_uncovered offered (path.child name) childWithin inner) changes
    obtain ⟨final, others, all⟩ := visitAll_uncovered offered path within rest between
    refine ⟨final, ?_, ?_⟩
    · rw [deltas, Delta.visitAllAfresh, visited]
      exact others
    · rw [all, told, eventsFrom_cons, uncovered_append, List.append_assoc]

/-- The files told of are those that are there in any case, less the ones that are covered. -/
theorem gather_uncovered {workspace : Workspace} {ignored : List String}
    {providers : List Exclusion.Provider} {exclusions : Member → List Path}
    (offered : ∀ member : Member,
      Exclusion.unionOf providers member.project = .ok (exclusions member))
    (changes : List (Change × Path)) :
    ∃ final, Delta.gatherAfresh ⟨ignored, providers, workspace.view⟩ (workspace.deltaOf changes) =
        .ok final ∧
      final.present = (workspace.shownFiles ignored changes).filter fun file =>
        !workspace.covered exclusions file := by
  have inside := Path.isWithin_refl workspace.root
  rw [Delta.gatherAfresh, deltaOf, shownFiles, events_eq]
  obtain ⟨mark, children⟩ := workspace.changeTree changes
  obtain ⟨final, visited, told⟩ := visit_uncovered offered inside
    (visitAll_uncovered offered workspace.root inside children) .empty
  exact ⟨final, by rw [visited]; rfl, told⟩

end Workspace
end ChangeRelay
