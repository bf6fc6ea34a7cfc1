import ChangeRelay.Exclusion
import ChangeRelay.Proofs.StoreLaws

/-!
How the exclusions of a project are looked up. There are four ways: the scope cannot be a key, there
is an entry for it, a provider fails, or all of them answer. Only what all of them name together is
ever kept.
-/
namespace ChangeRelay.Exclusion

/-- The paths that the providers name for a project all together, none of them failing. -/
structure Whole (providers : List Provider) (project : Project) (paths : List Path) : Prop where
  answered : ∀ provider ∈ providers, ∃ own, provider project = .ok own
  union : ∀ path, path ∈ paths ↔
    ∃ provider ∈ providers, ∃ own, provider project = .ok own ∧ path ∈ own

theorem mem_unite (paths more : List Path) (path : Path) :
    path ∈ unite paths more ↔ path ∈ paths ∨ path ∈ more :=
  ScopeStore.mem_unseen more paths path

theorem askAll_whole {project : Project} {providers : List Provider} {start paths : List Path}
    {count : Nat} (united : (askAll project providers start count).1 = .ok paths) :
    (∀ provider ∈ providers, ∃ own, provider project = .ok own) ∧
      ∀ path, path ∈ paths ↔ path ∈ start ∨
        ∃ provider ∈ providers, ∃ own, provider project = .ok own ∧ path ∈ own := by
  induction providers generalizing start count with
  | nil =>
    cases united
    exact ⟨nofun, fun path => by simp⟩
  | cons provider more ih =>
    rw [askAll] at united
    cases answer : provider project with
    | error failure =>
      rw [answer] at united
      cases united
    | ok own =>
      rw [answer] at united
      obtain ⟨answered, union⟩ := ih united
      constructor
      · intro other member
        rcases List.mem_cons.mp member with here | later
        · exact ⟨own, here ▸ answer⟩
        · exact answered other later
      · intro path
        rw [union, mem_unite]
        simp [answer, or_assoc]

theorem whole_of_askAll {project : Project} {providers : List Provider} {paths : List Path}
    (united : (askAll project providers [] 0).1 = .ok paths) : Whole providers project paths := by
  obtain ⟨answered, union⟩ := askAll_whole united
  exact ⟨answered, fun path => by simpa using union path⟩

theorem askAll_ok {project : Project} {providers : List Provider}
    (answered : ∀ provider ∈ providers, ∃ own, provider project = .ok own) (united : List Path)
    (count : Nat) : ∃ paths, (askAll project providers united count).1 = .ok paths := by
  induction providers generalizing united count with
  | nil => exact ⟨united, rfl⟩
  | cons provider more ih =>
    obtain ⟨own, answer⟩ := answered provider List.mem_cons_self
    rw [askAll, answer]
    exact ih (fun other member => answered other (List.mem_cons_of_mem _ member)) _ _

inductive FoundAs (providers : List Provider) (cache : Cache) (project : Project) :
    Except Failure (List Path) → Cache → Prop where
  | unusable {failure : Failure} (usable : project.checkScope = .error failure) :
      FoundAs providers cache project (.error failure) cache
  | kept {paths : List Path} (usable : project.checkScope = .ok ())
      (held : cache.get? project.scope = some paths) :
      FoundAs providers cache project (.ok paths) (cache.register project.scope)
  | failed {failure : Failure} (usable : project.checkScope = .ok ())
      (nothing : cache.get? project.scope = none)
      (fails : (askAll project providers [] 0).1 = .error failure) :
      FoundAs providers cache project (.error failure) (cache.register project.scope)
  | united {paths : List Path} (usable : project.checkScope = .ok ())
      (nothing : cache.get? project.scope = none)
      (answered : (askAll project providers [] 0).1 = .ok paths) :
      FoundAs providers cache project (.ok paths)
        ((cache.register project.scope).put project.scope (some paths))

theorem find_spec (providers : List Provider) (cache : Cache) (project : Project) :
    FoundAs providers cache project (find providers cache project).paths
      (find providers cache project).cache := by
  cases usable : project.checkScope with
  | error failure =>
    simp only [find, usable]
    exact .unusable usable
  | ok _ =>
    cases held : cache.get? project.scope with
    | some paths =>
      simp only [find, usable, ScopeStore.lookUp_found held]
      exact .kept usable held
    | none =>
      let ready := cache.register project.scope
      let compute (cache : Cache) :=
        ((askAll project providers [] 0).1.map some, (askAll project providers [] 0).2, cache)
      cases answer : (askAll project providers [] 0).1 with
      | error failure =>
        have ran : compute ready = (.error failure, (askAll project providers [] 0).2, ready) := by
          simp only [compute, answer, Except.map]
        simp only [find, usable]
        rw [ScopeStore.lookUp_failed held ran]
        exact .failed usable held answer
      | ok paths =>
        have ran : compute ready =
            (.ok (some paths), (askAll project providers [] 0).2, ready) := by
          simp only [compute, answer, Except.map]
        simp only [find, usable]
        rw [ScopeStore.lookUp_computed held ran]
        exact .united usable held answer

end ChangeRelay.Exclusion
