import ChangeRelay.Proofs.CycleBatch
import ChangeRelay.Proofs.ExcludedFiles
import ChangeRelay.Proofs.FileListings
import ChangeRelay.Proofs.KeptExclusions

/-!
Exclusions that are set up front, by scope. Of a workspace's changed files exactly those are left
out that lie at or below a path excluded for the very project that owns them. What is excluded for
another project, around it or within it or of the same name, makes no difference.
-/
namespace ChangeRelay

namespace Exclusion.Static

def registered (calls : List (String × List String)) : Static :=
  calls.foldl (fun static call => static.exclude (.text call.1) (call.2.map Path.parse)) ⟨[]⟩

theorem paths_exclude (static : Static) (scope other : Value) (paths : List Path) :
    (static.exclude scope paths).paths other =
      if scope = other then static.paths other ++ paths else static.paths other := by
  rw [Static.paths, exclude, ScopeStore.getAt_setAt]
  split
  · rename_i same
    rw [same]
    rfl
  · rfl

theorem mem_registered {calls : List (String × List String)} {scope : String} {path : Path} :
    path ∈ (registered calls).paths (.text scope) ↔
      ∃ call ∈ calls, call.1 = scope ∧ ∃ raw ∈ call.2, Path.parse raw = path := by
  have all : ∀ static : Static,
      path ∈ (calls.foldl (fun static call =>
        static.exclude (.text call.1) (call.2.map Path.parse)) static).paths (.text scope) ↔
      path ∈ static.paths (.text scope) ∨
        ∃ call ∈ calls, call.1 = scope ∧ ∃ raw ∈ call.2, Path.parse raw = path := by
    induction calls with
    | nil => simp
    | cons call rest ih =>
      intro static
      rw [List.foldl_cons, ih, paths_exclude]
      by_cases own : call.1 = scope
      · simp [own, or_assoc]
      · simp [own]
  rw [registered, all]
  simp [Static.paths, ScopeStore.getAt]

def providersOf (lists : List (List (String × List String))) : List Provider :=
  lists.map fun calls => (registered calls).provider

theorem askAll_scope (lists : List (List (String × List String))) (project : Project)
    (start : List Path) (count : Nat) :
    askAll project (providersOf lists) start count =
      askAll ⟨"", project.scope, ""⟩ (providersOf lists) start count := by
  induction lists generalizing start count with
  | nil => rfl
  | cons calls rest ih =>
    have answer : (registered calls).provider project =
        (registered calls).provider ⟨"", project.scope, ""⟩ := rfl
    simp only [providersOf, List.map_cons, askAll, answer]
    split
    · exact ih _ _
    · rfl

theorem askAll_registered (lists : List (List (String × List String))) {project : Project}
    {scope : String} (told : project.scope = .text scope) (start : List Path) (count : Nat) :
    ∃ paths, (askAll project (providersOf lists) start count).1 = .ok paths ∧
      ∀ path, path ∈ paths ↔ path ∈ start ∨
        ∃ call ∈ lists.flatten, call.1 = scope ∧ ∃ raw ∈ call.2, Path.parse raw = path := by
  induction lists generalizing start count with
  | nil => exact ⟨start, rfl, fun path => by simp⟩
  | cons calls rest ih =>
    have answer : (registered calls).provider project =
        .ok ((registered calls).paths (.text scope)) := by
      simp only [provider, Project.checkScope, told]
      rfl
    obtain ⟨paths, others, member⟩ :=
      ih (unite start ((registered calls).paths (.text scope))) (count + 1)
    refine ⟨paths, ?_, ?_⟩
    · rw [providersOf, List.map_cons, askAll, answer]
      exact others
    · intro path
      rw [member, mem_unite, mem_registered, or_assoc]
      simp only [List.flatten_cons, List.mem_append, or_and_right, exists_or]

def answersOf (lists : List (List (String × List String))) : Answers := fun scope =>
  (askAll ⟨"", scope, ""⟩ (providersOf lists) [] 0).1

theorem providersOf_offers (lists : List (List (String × List String))) :
    Offers (providersOf lists) (answersOf lists) := by
  intro project
  rw [answersOf, askAll_scope lists project]
  exact SameAnswer.refl _

end Exclusion.Static

namespace Sending

theorem Contents.origin {φ : Type} {means : Means φ} {files : List φ} {own copies : List Snapshot}
    {subProjects : Project → List Project} (contents : Contents means files own copies subProjects)
    {copy : Snapshot} (member : copy ∈ copies) : ∃ snapshot ∈ own, copy.uri = snapshot.uri := by
  obtain ⟨pair, isDue, copied⟩ := mem_forall₂ contents.copied member
  obtain ⟨file, made, -⟩ := due_config isDue
  refine ⟨pair.2, (List.of_mem_zip made).2, ?_⟩
  rw [copied.same]

end Sending

namespace Workspace

/-- An exclusion registered for a project's scope that a path of the workspace lies at or below. -/
def ExcludedFor (workspace : Workspace) (calls : List (String × List String)) (owner : Member)
    (path : Path) : Prop :=
  ∃ full, workspace.workspacePath path = .ok full ∧
    ∃ call ∈ calls, call.1 = owner.uri ∧ ∃ raw ∈ call.2, full.isWithin (.parse raw) = true

theorem covered_iff {workspace : Workspace} {calls : List (String × List String)}
    {exclusions : Member → List Path}
    (told : ∀ member path, path ∈ exclusions member ↔
      ∃ call ∈ calls, call.1 = member.uri ∧ ∃ raw ∈ call.2, Path.parse raw = path)
    {file : File} (within : file.path.isWithin workspace.root = true) :
    workspace.covered exclusions file = true ↔
      workspace.ExcludedFor calls file.owner file.path := by
  have at_ : (workspace.subject file.path .passing).IsAt _ _ := subject_isAt within
  have full : workspace.workspacePath file.path = .ok ⟨.single, workspace.namesBelow file.path⟩ :=
    at_.2
  simp only [covered, Exclusion.covers, List.any_eq_true, told, ExcludedFor, full, Except.ok.injEq]
  constructor
  · rintro ⟨path, ⟨call, listed, own, raw, written, rfl⟩, lies⟩
    exact ⟨_, rfl, call, listed, own, raw, written, lies⟩
  · rintro ⟨_, rfl, call, listed, own, raw, written, lies⟩
    exact ⟨_, ⟨call, listed, own, raw, written, rfl⟩, lies⟩

/-- Of whatever snapshots are made of files, a path's own one is among them exactly if the path is
that of one of the files. -/
theorem own_sent_iff {workspace : Workspace} (sound : workspace.Sound)
    {means : Sending.Means File} (look : means.look = workspace.view) {files : List File}
    (owned : ∀ file ∈ files, workspace.Innermost file.owner file.path)
    (clean : ∀ file ∈ files, file.path.Clean) {sent : List Snapshot}
    (made : (Sending.snapshotsOf means files).1 = .ok sent) {path : Path} (pathClean : path.Clean)
    {owner : Member} (innermost : workspace.Innermost owner path) :
    (∃ snapshot ∈ sent, snapshot.uri = Uri.ofPath path ∧ snapshot.scope = owner.uri) ↔
      path ∈ files.map (·.path) := by
  obtain ⟨own, copies, subProjects, contents, rfl⟩ :=
    (Sending.snapshotsOf_ok_iff means files sent).mp made
  have makes : List.Forall₂ (fun file snapshot =>
      (Snapshot.make means.maker (workspace.view file)).value = .ok snapshot) files own := by
    rw [← look]
    exact contents.made
  have each := made_own makes owned
  have fromOwn : ∀ snapshot ∈ own, snapshot.uri = Uri.ofPath path → path ∈ files.map (·.path) := by
    intro snapshot listed uri
    obtain ⟨other, member, same, -⟩ := Sending.mem_forall₂ each listed
    obtain ⟨file, present, rfl⟩ := List.mem_map.mp member
    rw [uri] at same
    rw [Uri.ofPath_injective pathClean (clean file present) same]
    exact member
  constructor
  · rintro ⟨snapshot, listed, uri, -⟩
    rcases List.mem_append.mp listed with here | copy
    · exact fromOwn snapshot here uri
    · obtain ⟨original, here, same⟩ := contents.origin copy
      exact fromOwn original here (same.symm.trans uri)
  · intro member
    obtain ⟨snapshot, listed, uri, other, there, scope⟩ := Sending.mem_forall₂ each.flip member
    rw [innermost_unique sound there innermost] at scope
    exact ⟨snapshot, List.mem_append_left _ listed, uri, scope⟩

theorem snapshots_alone {workspace : Workspace} {means : Sending.Means File}
    (typed : means.maker.advisors.Typed) (alone : means.hierarchies = [])
    (look : means.look = workspace.view) (files : List File) :
    ∃ sent, (Sending.snapshotsOf means files).1 = .ok sent := by
  refine Sending.snapshotsOf_alone alone fun file _ => ?_
  rw [look]
  exact own_snapshot typed file

/-- The hierarchies of a relay that has none or just that of the workspace, whose copies can be made
as long as no path can be taken for one on a drive. -/
def Hierarchical (workspace : Workspace) (changes : List (Change × Path))
    (hierarchies : List Hierarchy) : Prop :=
  hierarchies = [] ∨ hierarchies = [workspace.hierarchy] ∧ workspace.AwayFromDrives changes

theorem snapshots_hierarchical {workspace : Workspace} (sound : workspace.Sound)
    {changes : List (Change × String)} {means : Sending.Means File}
    (hierarchical : workspace.Hierarchical (parsed changes) means.hierarchies)
    (typed : means.maker.advisors.Typed) (look : means.look = workspace.view)
    {ignored : List String} {files : List File}
    (shown : ∀ file ∈ files, file ∈ workspace.shownFiles ignored (parsed changes)) :
    ∃ sent, (Sending.snapshotsOf means files).1 = .ok sent := by
  rcases hierarchical with alone | ⟨nested, away⟩
  · exact snapshots_alone typed alone look files
  · have sendable : ∀ file ∈ files, workspace.Sendable file := fun file member =>
      shown_sendable sound ignored away (shown file member)
    obtain ⟨own, copies, made, -⟩ :=
      snapshots_sent sound (away_members sound away) typed nested look sendable
    exact ⟨own ++ copies, made⟩

/-- What one call with changes leads to: nothing is sent, or one batch with these snapshots. -/
def Dispatched (outcomes : List Sending.Outcome) (service : Receiver) (sent : List Snapshot) :
    Prop :=
  outcomes = [] ∧ sent = [] ∨ ∃ outcome removed, outcomes = [outcome] ∧
    outcome.result = .ok (some ⟨removed, sent⟩) ∧
      outcome.delivery = some (service.style ⟨removed, sent⟩)

theorem gather_registered (workspace : Workspace) (ignored : List String)
    (lists : List (List (String × List String))) (changes : List (Change × Path)) :
    ∃ final, (Delta.gather ⟨ignored, Exclusion.Static.providersOf lists, workspace.view⟩
        (workspace.deltaOf changes) Exclusion.emptyCache).result = .ok final ∧
      ∀ file, file ∈ final.present ↔ file ∈ workspace.shownFiles ignored changes ∧
        ¬workspace.ExcludedFor lists.flatten file.owner file.path := by
  have each (member : Member) : ∃ paths,
      Exclusion.unionOf (Exclusion.Static.providersOf lists) member.project = .ok paths ∧
      ∀ path, path ∈ paths ↔
        ∃ call ∈ lists.flatten, call.1 = member.uri ∧ ∃ raw ∈ call.2, Path.parse raw = path := by
    have scope : member.project.scope = .text member.uri := rfl
    obtain ⟨paths, answer, told⟩ := Exclusion.Static.askAll_registered lists scope [] 0
    refine ⟨paths, (Exclusion.unionOf_usable rfl).trans answer, ?_⟩
    simpa using told
  choose exclusions offered told using each
  obtain ⟨final, walked, present⟩ :
      ∃ final, Delta.gatherAfresh _ (workspace.deltaOf changes) = .ok final ∧ _ :=
    gather_uncovered offered changes
  refine ⟨final, ?_, ?_⟩
  · rw [← walked]
    exact Delta.gather_afresh (Exclusion.Static.providersOf_offers lists) _
      (Exclusion.truthful_of_size rfl)
  · intro file
    rw [present, List.mem_filter]
    refine and_congr_right fun shown => ?_
    have changed := ((mem_shownFiles workspace ignored changes file).mp shown).1
    have within := ((mem_changedPaths_iff workspace changes _).mp changed).2.1
    rw [← covered_iff told within]
    simp

theorem shown_owned {workspace : Workspace} {ignored : List String}
    {changes : List (Change × Path)} {file : File}
    (shown : file ∈ workspace.shownFiles ignored changes) :
    workspace.Innermost file.owner file.path :=
  owner_innermost (file_cases ((mem_shownFiles workspace ignored changes file).mp shown).2.2).2.1

theorem shown_clean {workspace : Workspace} (sound : workspace.Sound) {ignored : List String}
    {changes : List (Change × String)} {file : File}
    (shown : file ∈ workspace.shownFiles ignored (parsed changes)) : file.path.Clean :=
  (changed_clean sound ((mem_shownFiles workspace ignored _ file).mp shown).1).1

/-- Whether a path is among those told of, by what is registered for the project that owns it. -/
theorem told_iff {workspace : Workspace} (sound : workspace.Sound) {ignored : List String}
    {calls : List (String × List String)} {changes : List (Change × Path)} {files : List File}
    (told : ∀ file, file ∈ files ↔ file ∈ workspace.shownFiles ignored changes ∧
      ¬workspace.ExcludedFor calls file.owner file.path)
    {path : Path} (shown : workspace.IsShown ignored changes path) {owner : Member}
    (innermost : workspace.Innermost owner path) :
    path ∈ files.map (·.path) ↔ ¬workspace.ExcludedFor calls owner path := by
  obtain ⟨file, listed, rfl⟩ :=
    List.mem_map.mp ((mem_shownPaths sound ignored changes path).mpr shown)
  rw [← innermost_unique sound (shown_owned listed) innermost]
  constructor
  · intro present
    obtain ⟨other, kept, same⟩ := List.mem_map.mp present
    obtain ⟨otherListed, apart⟩ := (told other).mp kept
    have found := ((mem_shownFiles workspace ignored changes file).mp listed).2.2
    have otherFound := ((mem_shownFiles workspace ignored changes other).mp otherListed).2.2
    rw [same, found] at otherFound
    cases otherFound
    exact apart
  · intro apart
    exact List.mem_map_of_mem ((told file).mpr ⟨listed, apart⟩)

/-- However a workspace came about, whoever else advises a new relay, and however the exclusions
that were registered for scopes are written: of the changed paths that are handed in, exactly the
files that would be shown in any case have their own snapshots in the batch that is sent, less those
that lie at or below a path registered for the scope of the project that owns them. Nothing that is
registered for any other scope matters. A batch is sent unless there is nothing to send, as long as
the advisors' answers are of their types and copies can be made. -/
theorem own_exclusions_decide {workspace : Workspace} (built : workspace.Built)
    (settings : Settings) {lists : List (List (String × List String))}
    {around : Relay.Surroundings File}
    (offered : around.advisors.exclusions = Exclusion.Static.providersOf lists)
    (look : around.look = workspace.view) (changes : List (Change × String)) :
    let relay := (Relay.start settings none none).1
    let outcomes := ((workspace.handIn relay around (parsed changes)).1.workAll around).2
    (∀ sent, Dispatched outcomes around.service sent →
      ∀ path owner, workspace.IsShown settings.ignoredFolders (parsed changes) path →
        workspace.Innermost owner path →
          ((∃ snapshot ∈ sent, snapshot.uri = Uri.ofPath path ∧ snapshot.scope = owner.uri) ↔
            ¬workspace.ExcludedFor lists.flatten owner path)) ∧
    (around.advisors.Typed → around.service.outage = none →
      workspace.Hierarchical (parsed changes) around.advisors.hierarchies →
        ∃ sent, Dispatched outcomes around.service sent) := by
  intro relay outcomes
  have sound := built_sound built
  obtain ⟨final, result, present⟩ :=
    gather_registered workspace settings.ignoredFolders lists (parsed changes)
  have gathered : (Delta.gather (relay.guide around) (workspace.deltaOf (parsed changes))
      relay.exclusions).result = .ok final := by
    rw [Relay.guide, offered, look]
    exact result
  have listed : ∀ file ∈ final.present,
      file ∈ workspace.shownFiles settings.ignoredFolders (parsed changes) := fun file member =>
    ((present file).mp member).1
  cases filled : final.isEmpty with
  | true =>
    have idle : outcomes = [] := (Relay.notify_idle gathered filled).2
    have nothing : final.present = [] := by
      unfold ChangeList.isEmpty at filled
      simpa using (Bool.and_eq_true_iff.mp filled).1
    refine ⟨?_, fun _ _ _ => ⟨[], Or.inl ⟨idle, rfl⟩⟩⟩
    rintro sent (⟨-, rfl⟩ | ⟨outcome, removed, some_, -⟩) path owner shown innermost
    · rw [← told_iff sound present shown innermost, nothing]
      simp
    · rw [idle] at some_
      cases some_
  | false =>
    have one : outcomes = [Sending.runNoted (relay.means around) final] :=
      (Relay.notify_submits gathered rfl filled).2
    constructor
    · rintro sent (⟨none_, -⟩ | ⟨outcome, removed, some_, result, -⟩) path owner shown innermost
      · rw [one] at none_
        cases none_
      · rw [one] at some_
        cases some_
        rw [Relay.runNoted_result] at result
        rw [← told_iff sound present shown innermost]
        refine own_sent_iff sound look ?_ ?_ (Sending.run_batch result) ?_ innermost
        · exact fun file member => shown_owned (listed file member)
        · exact fun file member => shown_clean sound (listed file member)
        · obtain ⟨file, member, rfl⟩ := List.mem_map.mp ((mem_shownPaths sound _ _ path).mpr shown)
          exact shown_clean sound member
    · intro typed working hierarchical
      obtain ⟨sent, made⟩ : ∃ sent, (Sending.snapshotsOf (relay.means around) final.present).1 =
        .ok sent := snapshots_hierarchical sound hierarchical typed look listed
      obtain ⟨result, delivery⟩ := Sending.run_sent filled made working
      refine ⟨sent, Or.inr ⟨_, final.removed, one, ?_, ?_⟩⟩
      · rw [Relay.runNoted_result]
        exact result
      · rw [Relay.runNoted_delivery]
        exact delivery

def outerCalls : List (List (String × List String)) :=
  [[("file:///w/app", ["/app/lib", "app"])], [("file:///w/app", ["/app//./main.c"])]]

def excludingSample : Relay.Surroundings File :=
  { sampleSurroundings with
    advisors := { sampleSurroundings.advisors with
      exclusions := Exclusion.Static.providersOf outerCalls } }

def excludedChanges : List (Change × String) :=
  [(.modified, "/w/app/main.c"), (.modified, "app/lib/part.c")]

theorem own_exclusions_nested :
    let handed := nestedSample.handIn sampleRelay excludingSample (parsed excludedChanges)
    ∃ sent, Dispatched (handed.1.workAll excludingSample).2 .recording sent ∧
      (∃ snapshot ∈ sent, snapshot.uri = Uri.ofPath (.parse "/w/app/lib/part.c") ∧
        snapshot.scope = "file:///w/app/lib") ∧
      ¬∃ snapshot ∈ sent, snapshot.uri = Uri.ofPath (.parse "/w/app/main.c") ∧
        snapshot.scope = "file:///w/app" := by
  have typed : excludingSample.advisors.Typed :=
    ⟨fun _ _ told => ⟨_, (Except.ok.inj told).symm⟩, List.forall_mem_nil _⟩
  have away : nestedSample.AwayFromDrives (parsed excludedChanges) := Or.inl ⟨by decide, rfl⟩
  have offered : excludingSample.advisors.exclusions =
      Exclusion.Static.providersOf outerCalls := rfl
  obtain ⟨decides, dispatches⟩ :=
    own_exclusions_decide nestedSample_built .standard offered rfl excludedChanges
  obtain ⟨sent, dispatched⟩ := dispatches typed rfl (Or.inr ⟨rfl, away⟩)
  have decided := decides sent dispatched
  have part : nestedSample.IsShown Settings.standard.ignoredFolders (parsed excludedChanges)
      (.parse "/w/app/lib/part.c") := by
    refine ⟨⟨_, List.mem_cons_of_mem _ List.mem_cons_self, rfl⟩, by decide, ?_, by decide, _, rfl,
      by decide⟩
    exact ⟨_, List.mem_cons_self, by decide⟩
  have main : nestedSample.IsShown Settings.standard.ignoredFolders (parsed excludedChanges)
      (.parse "/w/app/main.c") := by
    refine ⟨⟨_, List.mem_cons_self, rfl⟩, by decide, ?_, by decide, _, rfl, by decide⟩
    exact ⟨_, List.mem_cons_self, by decide⟩
  have lib : nestedSample.Innermost ⟨1, "lib", .parse "/w/app/lib"⟩ (.parse "/w/app/lib/part.c") :=
    owner_innermost rfl
  have app : nestedSample.Innermost ⟨0, "app", .parse "/w/app"⟩ (.parse "/w/app/main.c") :=
    owner_innermost rfl
  refine ⟨sent, dispatched, (decided _ _ part lib).mpr ?_, ?_⟩
  · have others : ∀ call ∈ outerCalls.flatten, call.1 ≠ "file:///w/app/lib" := by decide
    rintro ⟨full, -, call, listed, own, -⟩
    exact others call listed own
  · intro told
    exact (decided _ _ main app).mp told ⟨_, rfl, ("file:///w/app", ["/app//./main.c"]), by decide,
      by decide, "/app//./main.c", List.mem_singleton_self _, by decide⟩

end Workspace
end ChangeRelay
