import ChangeRelay.SubProject
import Mathlib.Data.List.Forall2

/-!
Which sub-projects a project has by its providers, and what is copied for them. All providers that
count the project in are asked in turn; of the sub-projects with one scope the first is taken. The
copies exist exactly if each of them can be made.
-/
namespace ChangeRelay

def Project.sharesScope (project other : Project) : Bool := project.scope == other.scope

namespace ChangeList

theorem firstPerScope_after (projects seen : List Project) :
    projects.foldl
        (fun seen project =>
          if seen.any (·.scope == project.scope) then seen else seen ++ [project]) seen =
      seen ++ (projects.filter fun project => !seen.any (·.scope == project.scope)).eraseDupsBy
        Project.sharesScope := by
  induction projects generalizing seen with
  | nil => simp [List.eraseDupsBy, List.eraseDupsBy.loop]
  | cons project rest ih =>
    rw [List.foldl_cons, ih]
    by_cases known : seen.any (·.scope == project.scope) = true
    · simp only [known, if_true, List.filter_cons, Bool.not_true, Bool.false_eq_true, if_false]
    · have fresh : seen.any (·.scope == project.scope) = false := by simpa using known
      simp only [fresh, Bool.false_eq_true, if_false, List.filter_cons, Bool.not_false, if_true]
      rw [List.eraseDupsBy_cons, List.filter_filter, List.append_assoc, List.singleton_append]
      congr 3
      apply List.filter_congr
      intro other _
      rw [List.any_append, List.any_cons, List.any_nil, Bool.or_false, Bool.not_or,
        Project.sharesScope, Bool.and_comm]
      by_cases same : project.scope = other.scope
      · simp [same]
      · have apart : other.scope ≠ project.scope := fun equal => same equal.symm
        simp [same, apart]

theorem firstPerScope_eq (projects : List Project) :
    firstPerScope projects = projects.eraseDupsBy Project.sharesScope := by
  have all := firstPerScope_after projects []
  simpa [firstPerScope] using all

end ChangeList

namespace SubProject

/-- The sub-projects that the providers report, one provider after the other. A provider that does
not count the project in is not asked for any. -/
inductive Reports (project : Project) : List Hierarchy → List Project → Prop where
  | nobody : Reports project [] []
  | apart {provider : Hierarchy} {others : List Hierarchy} {found : List Project}
      (apart : provider.isPart project = .ok false) (reports : Reports project others found) :
      Reports project (provider :: others) found
  | part {provider : Hierarchy} {others : List Hierarchy} {own found : List Project}
      (part : provider.isPart project = .ok true) (told : provider.subProjects project = .ok own)
      (reports : Reports project others found) :
      Reports project (provider :: others) (own ++ found)

theorem ask_ok_iff (project : Project) (providers : List Hierarchy) (found : List Project) :
    ask project providers = .ok found ↔ Reports project providers found := by
  constructor
  · intro asked
    induction providers generalizing found with
    | nil =>
      cases asked
      exact .nobody
    | cons provider others ih =>
      simp only [ask, bind, Except.bind] at asked
      cases counts : provider.isPart project with
      | error failure => simp [counts] at asked
      | ok part =>
        cases part with
        | false =>
          simp only [counts, Bool.false_eq_true, if_false] at asked
          exact .apart counts (ih found asked)
        | true =>
          simp only [counts, if_true] at asked
          cases told : provider.subProjects project with
          | error failure => simp [told] at asked
          | ok own =>
            simp only [told] at asked
            cases later : ask project others with
            | error failure => simp [later] at asked
            | ok more =>
              simp only [later, pure, Except.pure, Except.ok.injEq] at asked
              subst asked
              exact .part counts told (ih more later)
  · intro reports
    induction reports with
    | nobody => rfl
    | apart apart _ ih => simp [ask, bind, Except.bind, apart, ih]
    | part part told _ ih => simp [ask, bind, Except.bind, part, told, ih, pure, Except.pure]

theorem resolve_ok_iff (project : Project) (providers : List Hierarchy) (resolved : List Project) :
    resolve project providers = .ok resolved ↔
      ∃ found, Reports project providers found ∧
        resolved = found.eraseDupsBy Project.sharesScope := by
  constructor
  · intro answer
    cases asked : ask project providers with
    | error failure =>
      rw [resolve, asked] at answer
      cases answer
    | ok found =>
      rw [resolve, asked] at answer
      cases answer
      exact ⟨found, (ask_ok_iff project providers found).mp asked,
        ChangeList.firstPerScope_eq found⟩
  · rintro ⟨found, reports, rfl⟩
    rw [resolve, (ask_ok_iff project providers found).mpr reports, ← ChangeList.firstPerScope_eq]
    rfl

/-- A snapshot as a sub-project sees it: in its scope, by the way from its folder, and in all else
the original. -/
structure Copies (subProject : Project) (original copy : Snapshot) : Prop where
  way : ∃ way, Uri.fromTo subProject.location original.uri = .ok way ∧ copy.relativePath = way.text
  scope : subProject.scope = .text copy.scope
  same : copy = { original with relativePath := copy.relativePath, scope := copy.scope }

theorem duplicate_ok_iff (subProject : Project) (original copy : Snapshot) :
    duplicate subProject original = .ok copy ↔ Copies subProject original copy := by
  constructor
  · intro made
    unfold duplicate at made
    split at made
    · cases made
    · rename_i way scope found told
      cases made
      exact ⟨⟨way, found, rfl⟩, told, rfl⟩
    · cases made
  · rintro ⟨⟨way, found, path⟩, scope, same⟩
    rw [duplicate, found, scope]
    dsimp only
    rw [← path, ← same]

theorem mapM_duplicate_iff (subProject : Project) (originals copies : List Snapshot) :
    originals.mapM (duplicate subProject) = .ok copies ↔
      List.Forall₂ (Copies subProject) originals copies := by
  induction originals generalizing copies with
  | nil => cases copies <;> simp [pure, Except.pure]
  | cons original rest ih =>
    rw [List.mapM_cons]
    cases made : duplicate subProject original with
    | error failure =>
      have never : ∀ copy, ¬Copies subProject original copy := by
        intro copy copied
        rw [(duplicate_ok_iff subProject original copy).mpr copied] at made
        cases made
      cases copies <;> simp [bind, Except.bind, never]
    | ok copy =>
      have this_ : ∀ other, Copies subProject original other ↔ copy = other := by
        intro other
        rw [← duplicate_ok_iff, made, Except.ok.injEq]
      cases others : rest.mapM (duplicate subProject) with
      | error failure => cases copies <;> simp [bind, Except.bind, ← ih, others]
      | ok more =>
        cases copies <;> simp [bind, Except.bind, pure, Except.pure, ← ih, others, this_]

def pairs (originals : List Snapshot) (subProjects : List Project) : List (Project × Snapshot) :=
  subProjects.flatMap fun subProject => originals.map fun original => (subProject, original)

theorem forall_own_pair (subProject : Project) (originals copies : List Snapshot) :
    List.Forall₂ (fun pair copy => Copies pair.1 pair.2 copy)
        (originals.map fun original => (subProject, original)) copies ↔
      List.Forall₂ (Copies subProject) originals copies :=
  List.forall₂_map_left_iff

theorem forall_append_iff {α β : Type} {relation : α → β → Prop} (first second : List α)
    (results : List β) :
    List.Forall₂ relation (first ++ second) results ↔
      ∃ left right, results = left ++ right ∧ List.Forall₂ relation first left ∧
        List.Forall₂ relation second right := by
  constructor
  · intro all
    induction first generalizing results with
    | nil => exact ⟨[], results, rfl, .nil, all⟩
    | cons item rest ih =>
      cases all with
      | cons here later =>
        obtain ⟨left, right, rfl, ofRest, ofSecond⟩ := ih _ later
        exact ⟨_ :: left, right, rfl, .cons here ofRest, ofSecond⟩
  · rintro ⟨left, right, rfl, here, later⟩
    exact List.rel_append here later

theorem duplicates_ok_iff (originals : List Snapshot) (subProjects : List Project)
    (copies : List Snapshot) :
    duplicates originals subProjects = .ok copies ↔
      List.Forall₂ (fun pair copy => Copies pair.1 pair.2 copy) (pairs originals subProjects)
        copies := by
  induction subProjects generalizing copies with
  | nil => cases copies <;> simp [duplicates, pairs]
  | cons subProject rest ih =>
    simp only [pairs, List.flatMap_cons] at ih ⊢
    rw [forall_append_iff]
    simp only [forall_own_pair, ← mapM_duplicate_iff, ← ih]
    rw [duplicates]
    cases made : originals.mapM (duplicate subProject) with
    | error failure => simp [bind, Except.bind]
    | ok own =>
      cases others : duplicates originals rest with
      | error failure => simp [bind, Except.bind]
      | ok more =>
        simp only [bind, Except.bind, pure, Except.pure, Except.ok.injEq]
        constructor
        · rintro rfl
          exact ⟨own, more, rfl, rfl, rfl⟩
        · rintro ⟨left, right, rfl, rfl, rfl⟩
          rfl

end SubProject
end ChangeRelay
