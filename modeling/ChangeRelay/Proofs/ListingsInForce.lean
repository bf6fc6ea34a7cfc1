import ChangeRelay.Proofs.GivenCaches
import ChangeRelay.Proofs.NestedCopies
import Mathlib.Data.List.Induction

/-!
Which listing of a project's files a relay answers with. A kept listing stays in force until a
notification brings an added or changed file of its scope, or until its scope is forgotten; as long
as it does, no project of the scope is asked again. So every answer is drawn from a listing that was
made after the last such event, in whatever order the events of a run come.
-/
namespace ChangeRelay.Relay

variable {φ : Type}

def listingOf (relay : Relay φ) (scope : Value) : Option (List φ) := relay.listings.get? scope

/-- An event that puts an end to what is kept for a scope: a notification with an added or changed
file of a project of that scope, unless its walk fails, or the end of a project. -/
def Refreshes (relay : Relay φ) (scope : Value) : Event φ → Prop
  | .notified around delta => ∃ changes,
      (Delta.gather (relay.guide around) delta relay.exclusions).result = .ok changes ∧
        ∃ file ∈ changes.present, (around.look file).project.scope = scope
  | .forgot project => project.scope = scope
  | _ => False

def asks (relay : Relay φ) (scope : Value) : Event φ → Option (Except Failure (List φ))
  | .listed around project =>
    if project.scope = scope ∧ (relay.list around project).2.asked = true then
      some (around.listing project)
    else none
  | _ => none

/-- What is kept for a scope behind the answer of a project of it, if one was asked. -/
def keptAfter (kept : Option (List φ)) : Option (Except Failure (List φ)) → Option (List φ)
  | some (.ok listing) => some listing
  | _ => kept

theorem mem_drops_iff (relay : Relay φ) (around : Surroundings φ) (delta : Delta φ)
    (scope : Value) :
    scope ∈ relay.drops around delta ↔ relay.Refreshes scope (.notified around delta) := by
  constructor
  · intro dropped
    unfold drops at dropped
    split at dropped
    · cases dropped
    · rename_i changes walked
      obtain ⟨project, first, same⟩ := List.mem_map.mp dropped
      have member := ChangeList.mem_firstPerScope first
      obtain ⟨file, present, shown⟩ := List.mem_map.mp member
      exact ⟨changes, walked, file, present, by rw [shown, same]⟩
  · rintro ⟨changes, walked, file, present, same⟩
    rw [← same]
    exact scope_mem_drops walked present

theorem invalidateAll_get? {ν : Type} (cache : ScopeStore Value ν) (scopes : List Value)
    (scope : Value) :
    (invalidateAll cache scopes).1.get? scope =
      if scope ∈ scopes then none else cache.get? scope := by
  rw [ScopeStore.get?, invalidateAll_entries, ScopeStore.get?]
  split <;> rfl

theorem notify_listingOf (relay : Relay φ) (around : Surroundings φ) (delta : Delta φ)
    (scope : Value) :
    (relay.Refreshes scope (.notified around delta) ∧
        (relay.notify around delta).1.listingOf scope = none) ∨
      (¬relay.Refreshes scope (.notified around delta) ∧
        (relay.notify around delta).1.listingOf scope = relay.listingOf scope) := by
  rw [listingOf, notify_listings, invalidateAll_get?, ← mem_drops_iff]
  by_cases dropped : scope ∈ relay.drops around delta
  · exact Or.inl ⟨dropped, if_pos dropped⟩
  · exact Or.inr ⟨dropped, if_neg dropped⟩

/-- The ways in which a listing can come about: the scope cannot be a key, the listing is kept, or
the project is asked, which may fail. Only a listing that the project gives is kept. -/
inductive ListedAs (relay : Relay φ) (around : Surroundings φ) (project : Project) :
    Listed φ → (Value → Option (List φ)) → Prop where
  | unusable {failure : Failure} (usable : project.checkScope = .error failure) :
      ListedAs relay around project ⟨.error failure, false⟩ relay.listingOf
  | kept {listing : List φ} (usable : project.checkScope = .ok ())
      (held : relay.listingOf project.scope = some listing) :
      ListedAs relay around project ⟨.ok listing, false⟩ relay.listingOf
  | failed {failure : Failure} (usable : project.checkScope = .ok ())
      (nothing : relay.listingOf project.scope = none)
      (fails : around.listing project = .error failure) :
      ListedAs relay around project ⟨.error failure, true⟩ relay.listingOf
  | given {listing : List φ} (usable : project.checkScope = .ok ())
      (nothing : relay.listingOf project.scope = none)
      (gives : around.listing project = .ok listing) :
      ListedAs relay around project ⟨.ok listing, true⟩
        fun scope => if project.scope = scope then some listing else relay.listingOf scope

theorem list_spec (relay : Relay φ) (around : Surroundings φ) (project : Project) :
    ListedAs relay around project (relay.list around project).2
      (relay.list around project).1.listingOf := by
  cases usable : project.checkScope with
  | error failure =>
    have listed : relay.list around project = (relay, ⟨.error failure, false⟩) := by
      simp only [list, usable]
    rw [listed]
    exact .unusable usable
  | ok _ =>
    let ready := relay.listings.register project.scope
    have same : ready.get? = relay.listingOf :=
      funext (ScopeStore.get?_register relay.listings project.scope)
    let compute (cache : Listings φ) := ((around.listing project).map some, (), cache)
    cases held : relay.listings.get? project.scope with
    | some listing =>
      have listed : relay.list around project =
          ({ relay with listings := ready }, ⟨.ok listing, false⟩) := by
        simp only [list, usable, ScopeStore.lookUp_found held]
        rfl
      have after : (relay.list around project).1.listingOf = relay.listingOf := by
        rw [listed]
        exact same
      rw [after, listed]
      exact .kept usable held
    | none =>
      cases answer : around.listing project with
      | error failure =>
        have ran : compute ready = (.error failure, (), ready) := by
          simp only [compute, answer, Except.map]
        have listed : relay.list around project =
            ({ relay with listings := ready }, ⟨.error failure, true⟩) := by
          simp only [list, usable]
          rw [ScopeStore.lookUp_failed held ran]
          rfl
        have after : (relay.list around project).1.listingOf = relay.listingOf := by
          rw [listed]
          exact same
        rw [after, listed]
        exact .failed usable held answer
      | ok listing =>
        have ran : compute ready = (.ok (some listing), (), ready) := by
          simp only [compute, answer, Except.map]
        have listed : relay.list around project =
            ({ relay with listings := ready.put project.scope (some listing) },
              ⟨.ok listing, true⟩) := by
          simp only [list, usable]
          rw [ScopeStore.lookUp_computed held ran]
          rfl
        have after : (relay.list around project).1.listingOf = fun scope =>
            if project.scope = scope then some listing else relay.listingOf scope := by
          funext scope
          rw [listed, ← same]
          exact ScopeStore.get?_put ready project.scope scope (some listing)
        rw [after, listed]
        exact .given usable held answer

section
variable {relay : Relay φ} {around : Surroundings φ} {project : Project} {listed : Listed φ}
  {after : Value → Option (List φ)}

theorem ListedAs.keeps (made : ListedAs relay around project listed after) (scope : Value) :
    after scope = keptAfter (relay.listingOf scope)
      (if project.scope = scope ∧ listed.asked = true then some (around.listing project)
        else none) := by
  cases made with
  | unusable | kept => simp [keptAfter]
  | failed _ _ fails =>
    by_cases here : project.scope = scope
    · simp [here, fails, keptAfter]
    · simp [here, keptAfter]
  | given _ _ gives =>
    by_cases here : project.scope = scope
    · simp [here, gives, keptAfter]
    · simp [here, keptAfter]

theorem ListedAs.asks_nobody (made : ListedAs relay around project listed after) {listing : List φ}
    (held : relay.listingOf project.scope = some listing) : listed.asked = false := by
  cases made with
  | unusable | kept => rfl
  | failed _ nothing _ | given _ nothing _ =>
    rw [held] at nothing
    cases nothing

theorem ListedAs.holds (made : ListedAs relay around project listed after) {listing : List φ}
    (answered : listed.files = .ok listing) : after project.scope = some listing := by
  cases made with
  | unusable | failed => cases answered
  | kept _ held =>
    cases answered
    exact held
  | given =>
    cases answered
    exact if_pos rfl

theorem ListedAs.fails (made : ListedAs relay around project listed after) {failure : Failure}
    (failed : listed.files = .error failure) :
    project.checkScope = .error failure ∨
      listed.asked = true ∧ around.listing project = .error failure := by
  cases made with
  | unusable usable =>
    cases failed
    exact Or.inl usable
  | failed _ _ fails =>
    cases failed
    exact Or.inr ⟨rfl, fails⟩
  | kept | given => cases failed

theorem ListedAs.unique {other : Relay φ} {answer : Listed φ} {afterwards : Value → Option (List φ)}
    (ours : ListedAs relay around project listed after)
    (theirs : ListedAs other around project answer afterwards)
    (same : other.listingOf project.scope = relay.listingOf project.scope) : answer = listed := by
  cases ours <;> cases theirs <;> simp_all

end

theorem listed_listingOf (relay : Relay φ) (around : Surroundings φ) (project : Project)
    (scope : Value) :
    (relay.list around project).1.listingOf scope =
      keptAfter (relay.listingOf scope) (relay.asks scope (.listed around project)) :=
  (list_spec relay around project).keeps scope

theorem kept_asks {relay : Relay φ} {scope : Value} {listing : List φ}
    (held : relay.listingOf scope = some listing) (event : Event φ) :
    relay.asks scope event = none := by
  cases event with
  | listed around project =>
    apply if_neg
    rintro ⟨here, asked⟩
    rw [← here] at held
    rw [(list_spec relay around project).asks_nobody held] at asked
    cases asked
  | notified | worked | forgot | closed => rfl

theorem listConfig_files (relay : Relay φ) (around : Surroundings φ) (project : Project) :
    (relay.listConfig around project).2.files = (relay.list around project).2.files.map
      (·.filter fun file => ConfigFile.isConfigFile relay.settings (around.look file).name
        (around.look file).relativePath) := by
  have kept : (relay.list around project).1.settings = relay.settings :=
    World.step_settings (.start relay) (.listed around project)
  simp only [listConfig, kept]

theorem listConfig_same {relay other : Relay φ} (settings : other.settings = relay.settings)
    {project : Project} (same : other.listingOf project.scope = relay.listingOf project.scope)
    (around : Surroundings φ) :
    (other.listConfig around project).2 = (relay.listConfig around project).2 := by
  have listed : (other.list around project).2 = (relay.list around project).2 :=
    (list_spec relay around project).unique (list_spec other around project) same
  have files : (other.listConfig around project).2.files =
      (relay.listConfig around project).2.files := by
    rw [listConfig_files, listConfig_files, listed, settings]
  exact congrArg₂ Listed.mk files (congrArg (·.asked) listed)

namespace World

/-- A run without an event that puts an end to what is kept for a scope. -/
def Quiet (scope : Value) : World φ → List (Event φ) → Prop
  | _, [] => True
  | world, event :: rest =>
    ¬world.relay.Refreshes scope event ∧ Quiet scope (world.step event) rest

def answers (scope : Value) : World φ → List (Event φ) → List (Except Failure (List φ))
  | _, [] => []
  | world, event :: rest =>
    (world.relay.asks scope event).toList ++ answers scope (world.step event) rest

/-- A listing that a project of a scope gave when a run asked it, nothing having put an end to it
since then. -/
def InForce (start : World φ) (events : List (Event φ)) (scope : Value) (listing : List φ) :
    Prop :=
  ∃ earlier call later, events = earlier ++ call :: later ∧
    (start.after earlier).relay.asks scope call = some (.ok listing) ∧
    Quiet scope (start.after (earlier ++ [call])) later

theorem after_append (world : World φ) (before later : List (Event φ)) :
    world.after (before ++ later) = (world.after before).after later :=
  List.foldl_append

theorem quiet_append {scope : Value} {world : World φ} {before later : List (Event φ)}
    (quiet : Quiet scope world before) (further : Quiet scope (world.after before) later) :
    Quiet scope world (before ++ later) := by
  induction before generalizing world with
  | nil => exact further
  | cons event rest ih => exact ⟨quiet.1, ih quiet.2 further⟩

/-- A single event either puts an end to the kept listing, or replaces it by what a project is asked
for, or leaves it. -/
theorem step_listingOf (world : World φ) (event : Event φ) (scope : Value) :
    (world.relay.Refreshes scope event ∧ (world.step event).relay.listingOf scope = none) ∨
      (¬world.relay.Refreshes scope event ∧ (world.step event).relay.listingOf scope =
        keptAfter (world.relay.listingOf scope) (world.relay.asks scope event)) := by
  cases event with
  | notified around delta => exact notify_listingOf world.relay around delta scope
  | listed around project =>
    exact Or.inr ⟨not_false, listed_listingOf world.relay around project scope⟩
  | worked around =>
    refine Or.inr ⟨not_false, ?_⟩
    simp only [step, work]
    cases world.relay.queue.take? with
    | none => rfl
    | some taken => rfl
  | closed => exact Or.inr ⟨not_false, rfl⟩
  | forgot project =>
    have dropped : (world.step (.forgot project)).relay.listingOf scope =
        if scope ∈ [project.scope] then none else world.relay.listingOf scope :=
      invalidateAll_get? world.relay.listings [project.scope] scope
    by_cases here : project.scope = scope
    · exact Or.inl ⟨here, by simp [dropped, here]⟩
    · exact Or.inr ⟨here, by simp [dropped, Ne.symm here, asks, keptAfter]⟩

theorem kept_inForce {start : World φ} {scope : Value}
    (nothing : start.relay.listingOf scope = none) (events : List (Event φ)) {listing : List φ}
    (held : (start.after events).relay.listingOf scope = some listing) :
    InForce start events scope listing := by
  -- From the end of the run: its last event either brought the listing or left it as it was.
  induction events using List.reverseRecOn with
  | nil =>
    rw [after, List.foldl_nil, nothing] at held
    cases held
  | append_singleton events event ih =>
    rw [after_append] at held
    rcases step_listingOf (start.after events) event scope with ⟨-, dropped⟩ | ⟨quiet, same⟩
    · rw [after, List.foldl_cons, List.foldl_nil, dropped] at held
      cases held
    · rw [after, List.foldl_cons, List.foldl_nil, same] at held
      unfold keptAfter at held
      split at held
      · rename_i given asked
        cases held
        exact ⟨events, event, [], rfl, asked, trivial⟩
      · obtain ⟨earlier, call, later, split, asked, before⟩ := ih held
        subst split
        refine ⟨earlier, call, later ++ [event], by simp, asked, quiet_append before ⟨?_, trivial⟩⟩
        rw [← after_append]
        simpa using quiet

theorem quiet_kept {scope : Value} {world : World φ} {events : List (Event φ)}
    (quiet : Quiet scope world events) {listing : List φ}
    (held : world.relay.listingOf scope = some listing) : answers scope world events = [] := by
  induction events generalizing world with
  | nil => rfl
  | cons event rest ih =>
    have idle := kept_asks held event
    rcases step_listingOf world event scope with ⟨refreshes, -⟩ | ⟨-, same⟩
    · exact absurd refreshes quiet.1
    · rw [idle] at same
      have later := ih quiet.2 (same.trans held)
      simp only [answers, idle, later, Option.toList_none, List.append_nil]

/-- As long as nothing puts an end to it, the first listing that is given is the last one that is
asked for. -/
theorem quiet_answers {scope : Value} {world : World φ} {events : List (Event φ)}
    (quiet : Quiet scope world events) :
    ∃ failures : List Failure, ∃ last : Option (List φ),
      answers scope world events = failures.map .error ++ last.toList.map .ok := by
  induction events generalizing world with
  | nil => exact ⟨[], none, rfl⟩
  | cons event rest ih =>
    rcases step_listingOf world event scope with ⟨refreshes, -⟩ | ⟨-, same⟩
    · exact absurd refreshes quiet.1
    · -- Once a listing is given it is kept, and `quiet_kept` has the rest ask nobody.
      cases asked : world.relay.asks scope event with
      | none =>
        obtain ⟨failures, last, later⟩ := ih quiet.2
        exact ⟨failures, last, by simp [answers, asked, later]⟩
      | some answer =>
        rw [asked] at same
        cases answer with
        | error failure =>
          obtain ⟨failures, last, later⟩ := ih quiet.2
          exact ⟨failure :: failures, last, by simp [answers, asked, later]⟩
        | ok listing =>
          have later := quiet_kept quiet.2 same
          exact ⟨[], some listing, by simp [answers, asked, later]⟩

theorem listed_inForce {start : World φ} (events : List (Event φ)) (around : Surroundings φ)
    {project : Project} (nothing : start.relay.listingOf project.scope = none) {listing : List φ}
    (listed : ((start.after events).relay.list around project).2.files = .ok listing) :
    InForce start (events ++ [.listed around project]) project.scope listing := by
  apply kept_inForce nothing
  rw [after_append]
  exact (list_spec (start.after events).relay around project).holds listed

theorem listed_fails {world : World φ} {around : Surroundings φ} {project : Project}
    {failure : Failure} (failed : (world.relay.list around project).2.files = .error failure) :
    project.checkScope = .error failure ∨
      world.relay.asks project.scope (.listed around project) = some (.error failure) := by
  rcases (list_spec world.relay around project).fails failed with unusable | ⟨asked, fails⟩
  · exact Or.inl unusable
  · right
    simp only [asks, asked, and_self, if_true, fails]

/-- Whatever happened to a relay with caches of its own, the configuration files that it lists for a
project are, in order, those in a listing that a project of the same scope gave when it was asked,
at this call or at an earlier one, and since then no notification has brought an added or changed
file of the scope and no project of the scope was forgotten. Only an unusable scope or a project
that fails when it is asked at this very call keeps it from answering. While no such event comes,
the projects of a scope are asked until one of them gives a listing, and then not again. A
notification whose walk fails, or whose added and changed files all lie in other scopes, if there
are any, changes nothing about the next answer, nor about whether the project is asked for it. -/
theorem config_listings_in_force (settings : Settings) (before : List (Event φ))
    (around : Surroundings φ) (project : Project) :
    let begun := start (Relay.start settings none none).1
    let world := begun.after before
    let listed := world.relay.listConfig around project
    listed.1 = (world.step (.listed around project)).relay ∧
    (match listed.2.files with
      | .ok files => ∃ listing, InForce begun (before ++ [.listed around project]) project.scope
            listing ∧
          files = listing.filter fun file =>
            ConfigFile.isConfigFile settings (around.look file).name (around.look file).relativePath
      | .error failure => project.checkScope = .error failure ∨
          world.relay.asks project.scope (.listed around project) = some (.error failure)) ∧
    (∀ scope during, Quiet scope world during →
      ∃ failures : List Failure, ∃ last : Option (List φ),
        answers scope world during = failures.map .error ++ last.toList.map .ok) ∧
    (∀ told delta,
      (∀ changes, (Delta.gather (world.relay.guide told) delta world.relay.exclusions).result =
        .ok changes → ∀ file ∈ changes.present, (told.look file).project.scope ≠ project.scope) →
      ((world.step (.notified told delta)).relay.listConfig around project).2 = listed.2) := by
  intro begun world listed
  have folders : world.relay.settings = settings := after_settings begun before
  refine ⟨rfl, ?_, fun scope during quiet => quiet_answers quiet, ?_⟩
  · have files := listConfig_files world.relay around project
    rw [folders] at files
    cases answer : (world.relay.list around project).2.files with
    | ok listing =>
      have drawn : listed.2.files = .ok (listing.filter fun file => ConfigFile.isConfigFile settings
          (around.look file).name (around.look file).relativePath) := by
        rw [files, answer]
        rfl
      rw [drawn]
      exact ⟨listing, listed_inForce before around rfl answer, rfl⟩
    | error failure =>
      have failed : listed.2.files = .error failure := by
        rw [files, answer]
        rfl
      rw [failed]
      exact listed_fails answer
  · intro told delta elsewhere
    have quiet : ¬world.relay.Refreshes project.scope (.notified told delta) := by
      rintro ⟨changes, walked, file, present, same⟩
      exact elsewhere changes walked file present same
    apply listConfig_same (notify_settings world.relay told delta)
    rcases notify_listingOf world.relay told delta project.scope with ⟨refreshes, -⟩ | ⟨-, same⟩
    · exact absurd refreshes quiet
    · exact same

def listedProject : Project := ⟨"app", .text "scope:app", "file:///w/app"⟩

def giving (listing : Except Failure (List Nat)) : Surroundings Nat where
  advisors := .standard
  resolver := fun _ => .ok none
  service := .recording
  look := fun file =>
    ⟨.text "file:///w/app/b", "b", listedProject, if file = 8 then ".sonarlint/b.json" else "b.c",
      .ok .null, .ok .null⟩
  listing := fun _ => listing

/-- A project that is forgotten after it was asked is asked again, and once more after it failed. A
removal in between changes nothing. -/
theorem config_listings_sample :
    let begun := start (Relay.start .standard none none).1
    let before : List (Event Nat) :=
      [.listed (giving (.ok [7])) listedProject, .forgot listedProject]
    let during : List (Event Nat) :=
      [.listed (giving (.error .noSuchFile)) listedProject,
        .listed (giving (.ok [7, 8])) listedProject, .listed (giving (.ok [])) listedProject]
    let removal : Delta Nat := .node ⟨.ok ⟨.ok ⟨.single, ["app", "b.json"]⟩,
      .ok (some "file:///w/app/b.json"), .ok none⟩, .ok .removed, .ok 0, none⟩ []
    let world := begun.after before
    let listed := world.relay.listConfig (giving (.ok [7, 8])) listedProject
    (∃ listing, InForce begun (before ++ [.listed (giving (.ok [7, 8])) listedProject])
        listedProject.scope listing ∧ listed.2.files = .ok [8] ∧ 8 ∈ listing) ∧
      answers listedProject.scope world during = [.error .noSuchFile, .ok [7, 8]] ∧
      (∃ failures : List Failure, ∃ last : Option (List Nat),
        answers listedProject.scope world during =
          failures.map .error ++ last.toList.map .ok) ∧
      ((world.step (.notified (giving (.ok [])) removal)).relay.listConfig
        (giving (.ok [7, 8])) listedProject).2 = listed.2 := by
  intro begun before during removal world listed
  obtain ⟨-, drawn, once, idle⟩ :=
    config_listings_in_force .standard before (giving (.ok [7, 8])) listedProject
  have asked : (world.relay.list (giving (.ok [7, 8])) listedProject).2.files = .ok [7, 8] := rfl
  have files : listed.2.files = .ok [8] := by
    have leaves : ConfigFile.isConfigFile .standard "b" "b.c" = false := rfl
    have keeps : ConfigFile.isConfigFile .standard "b" ".sonarlint/b.json" = true := rfl
    have settings : world.relay.settings = .standard := after_settings begun before
    rw [listConfig_files, asked, settings]
    simp [giving, Except.map, leaves, keeps]
  have quiet : Quiet listedProject.scope world during :=
    ⟨not_false, not_false, not_false, trivial⟩
  have walked : (Delta.gather (world.relay.guide (giving (.ok []))) removal
      world.relay.exclusions).result = .ok ⟨[], ["file:///w/app/b.json"]⟩ := by
    rw [Delta.gather_reported, Delta.walk_eq_visitAll]
    rfl
  refine ⟨?_, by decide +kernel, once _ during quiet, idle (giving (.ok [])) removal ?_⟩
  · rw [show (world.relay.listConfig (giving (.ok [7, 8])) listedProject).2.files = .ok [8] from
      files] at drawn
    obtain ⟨listing, inForce, same⟩ := drawn
    have member : 8 ∈ [8] := List.mem_cons_self
    rw [same] at member
    exact ⟨listing, inForce, files, (List.mem_filter.mp member).1⟩
  · intro changes result file present
    rw [walked] at result
    cases result
    cases present

end World
end ChangeRelay.Relay
