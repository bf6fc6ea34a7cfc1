import ChangeRelay.Proofs.EmptyExclusions

/-!
A walk that keeps nothing: the providers are asked anew for every single file. A walk with a cache
comes to the same as long as every kept entry holds the paths that asking anew would come to.
-/
namespace ChangeRelay

namespace Exclusion

def unionOf (providers : List Provider) (project : Project) : Except Failure (List Path) := do
  project.checkScope
  (askAll project providers [] 0).1

theorem unionOf_usable {providers : List Provider} {project : Project}
    (usable : project.checkScope = .ok ()) :
    unionOf providers project = (askAll project providers [] 0).1 := by
  simp [unionOf, usable, bind, Except.bind]

def SameAnswer : Except Failure (List Path) → Except Failure (List Path) → Prop
  | .ok paths, .ok others => ∀ path, path ∈ paths ↔ path ∈ others
  | .error failure, .error other => failure = other
  | _, _ => False

theorem SameAnswer.refl (answer : Except Failure (List Path)) : SameAnswer answer answer := by
  cases answer with
  | ok paths => exact fun _ => Iff.rfl
  | error failure => exact Eq.refl failure

theorem SameAnswer.symm {answer other : Except Failure (List Path)}
    (same : SameAnswer answer other) : SameAnswer other answer := by
  cases answer with
  | ok paths =>
    cases other with
    | ok others => exact fun path => (same path).symm
    | error failure => exact same
  | error failure =>
    cases other with
    | ok others => exact same
    | error cause => exact Eq.symm same

theorem SameAnswer.trans {first second third : Except Failure (List Path)}
    (one : SameAnswer first second) (two : SameAnswer second third) : SameAnswer first third := by
  cases second with
  | ok middle =>
    cases first with
    | error failure => exact one.elim
    | ok paths =>
      cases third with
      | error failure => exact two
      | ok others => exact fun path => (one path).trans (two path)
  | error cause =>
    cases first with
    | ok paths => exact one.elim
    | error failure =>
      cases third with
      | ok others => exact two
      | error last => exact Eq.trans one two

theorem covers_same {paths others : List Path} (same : ∀ path, path ∈ paths ↔ path ∈ others)
    (path : Path) : covers paths path = covers others path := by
  rw [Bool.eq_iff_iff]
  simp only [covers, List.any_eq_true, same]

/-- What each scope answers to when its exclusions are asked for. -/
abbrev Answers := Value → Except Failure (List Path)

def Offers (providers : List Provider) (answers : Answers) : Prop :=
  ∀ project, SameAnswer (askAll project providers [] 0).1 (answers project.scope)

/-- A cache whose entries are what their scopes answer to. -/
def Truthful (answers : Answers) (cache : Cache) : Prop :=
  ∀ scope exclusions, cache.get? scope = some exclusions →
    SameAnswer (.ok exclusions) (answers scope)

section
variable {answers : Answers} {cache : Cache}

theorem register_truthful (truthful : Truthful answers cache) (scope : Value) :
    Truthful answers (cache.register scope) := by
  intro other exclusions found
  rw [ScopeStore.get?_register] at found
  exact truthful other exclusions found

theorem put_truthful (truthful : Truthful answers cache) {scope : Value} {exclusions : List Path}
    (right : SameAnswer (.ok exclusions) (answers scope)) :
    Truthful answers (cache.put scope (some exclusions)) := by
  intro other entry found
  rw [ScopeStore.get?_put] at found
  split at found
  · rename_i here
    subst here
    cases found
    exact right
  · exact truthful other entry found

theorem FoundAs.truthful {providers : List Provider} {project : Project}
    {answer : Except Failure (List Path)} {after : Cache}
    (found : FoundAs providers cache project answer after) (offers : Offers providers answers)
    (truthful : Truthful answers cache) :
    SameAnswer answer (unionOf providers project) ∧ Truthful answers after := by
  have ready := register_truthful truthful project.scope
  have offered := offers project
  cases found with
  | unusable unusable =>
    rw [unionOf, unusable]
    exact ⟨SameAnswer.refl _, truthful⟩
  | kept usable held =>
    rw [unionOf_usable usable]
    exact ⟨(truthful project.scope _ held).trans offered.symm, ready⟩
  | failed usable _ fails =>
    rw [unionOf_usable usable, fails]
    exact ⟨SameAnswer.refl _, ready⟩
  | united usable _ answered =>
    rw [answered] at offered
    rw [unionOf_usable usable, answered]
    exact ⟨SameAnswer.refl _, put_truthful ready offered⟩

/-- Looking up a project's exclusions comes to what asking anew comes to, and an entry that the
look-up keeps is right as well. -/
theorem find_truthful {providers : List Provider} (offers : Offers providers answers)
    (truthful : Truthful answers cache) (project : Project) :
    SameAnswer (find providers cache project).paths (unionOf providers project) ∧
      Truthful answers (find providers cache project).cache :=
  (find_spec providers cache project).truthful offers truthful

end

end Exclusion

namespace Delta

variable {φ : Type}

def judgePresentAfresh (subject : Subject φ) (kind : Kind) (file : φ) :
    Except Failure (Verdict × Option (FileEvent φ)) := do
  if kind = .added then return (.goOn, some (.added file))
  let reasons := Reasons.ofFlags (← subject.flags)
  return (.goOn, if reasons.isEmpty then none else some (.changed file reasons))

def judgeFileAfresh (guide : Guide φ) (subject : Subject φ) (path : Path) (kind : Kind) (file : φ) :
    Except Failure (Verdict × Option (FileEvent φ)) := do
  let exclusions ← Exclusion.unionOf guide.providers (guide.look file).project
  if Exclusion.covers exclusions path then return (.skip, none)
  judgePresentAfresh subject kind file

def judgeAfresh (guide : Guide φ) (subject : Subject φ) :
    Except Failure (Verdict × Option (FileEvent φ)) := do
  let resource ← subject.resource
  let path ← resource.workspacePath
  if Exclusion.passesThrough guide.ignoredFolders path then return (.skip, none)
  let kind ← subject.kind
  if kind = .removed then return (.goOn, (← resource.location).map .removed)
  match resource.file with
  | .error _ | .ok none => return (.goOn, none)
  | .ok (some file) => judgeFileAfresh guide subject path kind file

mutual

def visitAfresh (guide : Guide φ) : Delta φ → ChangeList φ → Except Failure (ChangeList φ)
  | .node subject children, changes => do
    let (verdict, event) ← judgeAfresh guide subject
    match verdict, subject.barrier with
    | .skip, _ => return record changes event
    | .goOn, some failure => throw failure
    | .goOn, none => visitAllAfresh guide children (record changes event)

def visitAllAfresh (guide : Guide φ) :
    List (Delta φ) → ChangeList φ → Except Failure (ChangeList φ)
  | [], changes => return changes
  | delta :: rest, changes => do visitAllAfresh guide rest (← visitAfresh guide delta changes)

end

/-- The changes of a whole notification, classified with nothing kept. -/
def gatherAfresh (guide : Guide φ) (delta : Delta φ) : Except Failure (ChangeList φ) :=
  (visitAfresh guide delta .empty).mapError walkFailure

theorem judgePresent_afresh (guide : Guide φ) (subject : Subject φ) (kind : Kind) (file : φ)
    (trail : Trail) :
    (judgePresent guide subject kind file trail).1 = judgePresentAfresh subject kind file ∧
      (judgePresent guide subject kind file trail).2.cache = trail.cache := by
  unfold judgePresent judgePresentAfresh
  by_cases added : kind = .added
  · simp only [added, if_true]
    exact ⟨rfl, rfl⟩
  · cases subject.flags with
    | error failure => simp [added, bind, Except.bind]
    | ok flags =>
      cases dull : (Reasons.ofFlags flags).isEmpty with
      | true => simp [added, dull, bind, Except.bind, pure, Except.pure]
      | false => simp [added, dull, bind, Except.bind, pure, Except.pure, Trail.noteAll]

section
variable {guide : Guide φ} {answers : Exclusion.Answers}
  (offers : Exclusion.Offers guide.providers answers)
include offers

theorem judgeFile_afresh {trail : Trail} (truthful : Exclusion.Truthful answers trail.cache)
    (subject : Subject φ) (path : Path) (kind : Kind) (file : φ) :
    (judgeFile guide subject path kind file trail).1 =
        judgeFileAfresh guide subject path kind file ∧
      Exclusion.Truthful answers (judgeFile guide subject path kind file trail).2.cache := by
  obtain ⟨same, kept⟩ := Exclusion.find_truthful offers truthful (guide.look file).project
  rw [judgeFile, exclusions_eq, judgeFileAfresh, Guide.find]
  generalize Exclusion.find guide.providers trail.cache (guide.look file).project = found
    at same kept
  obtain ⟨answer, notices, asked, cache⟩ := found
  cases answer with
  | error failure =>
    cases afresh : Exclusion.unionOf guide.providers (guide.look file).project with
    | ok paths =>
      rw [afresh] at same
      exact same.elim
    | error cause =>
      rw [afresh] at same
      cases same
      exact ⟨rfl, kept⟩
  | ok exclusions =>
    cases afresh : Exclusion.unionOf guide.providers (guide.look file).project with
    | error cause =>
      rw [afresh] at same
      exact same.elim
    | ok paths =>
      rw [afresh] at same
      have covered := Exclusion.covers_same same path
      simp only [bind, Except.bind, ← covered]
      split
      · exact ⟨rfl, kept⟩
      · obtain ⟨present, unchanged⟩ := judgePresent_afresh guide subject kind file
          ⟨cache, trail.notices ++ notices, trail.asked ++ asked.toList⟩
        exact ⟨present, unchanged ▸ kept⟩

theorem judge_afresh {trail : Trail} (truthful : Exclusion.Truthful answers trail.cache)
    (subject : Subject φ) :
    (judge guide subject trail).1 = judgeAfresh guide subject ∧
      Exclusion.Truthful answers (judge guide subject trail).2.cache := by
  unfold judge judgeAfresh
  cases subject.resource with
  | error failure => exact ⟨rfl, truthful⟩
  | ok resource =>
    dsimp only [bind, Except.bind]
    cases resource.workspacePath with
    | error failure => exact ⟨rfl, truthful⟩
    | ok path =>
      dsimp only
      cases Exclusion.passesThrough guide.ignoredFolders path with
      | true => exact ⟨rfl, truthful⟩
      | false =>
        simp only [Bool.false_eq_true, if_false]
        cases subject.kind with
        | error failure => exact ⟨rfl, truthful⟩
        | ok kind =>
          by_cases removed : kind = .removed
          · simp only [removed, if_true, judgeRemoved]
            cases resource.location with
            | error failure => exact ⟨rfl, truthful⟩
            | ok location =>
              cases location with
              | none => exact ⟨rfl, truthful⟩
              | some uri => exact ⟨rfl, truthful⟩
          · simp only [removed, if_false]
            cases resource.file with
            | error failure => exact ⟨rfl, truthful⟩
            | ok adapted =>
              cases adapted with
              | none => exact ⟨rfl, truthful⟩
              | some file => exact judgeFile_afresh offers truthful subject path kind file

end

theorem visitAllAfresh_append (guide : Guide φ) (first second : List (Delta φ))
    (changes : ChangeList φ) :
    visitAllAfresh guide (first ++ second) changes =
      (visitAllAfresh guide first changes).bind (visitAllAfresh guide second) := by
  induction first generalizing changes with
  | nil => rfl
  | cons delta rest ih =>
    simp only [List.cons_append, visitAllAfresh, bind]
    cases visitAfresh guide delta changes with
    | error failure => rfl
    | ok changes => exact ih changes

theorem visitAllAfresh_node (guide : Guide φ) (subject : Subject φ) (children rest : List (Delta φ))
    (changes : ChangeList φ) :
    visitAllAfresh guide (.node subject children :: rest) changes =
      match judgeAfresh guide subject with
      | .error failure => .error failure
      | .ok (verdict, event) =>
        match verdict, subject.barrier with
        | .skip, _ => visitAllAfresh guide rest (record changes event)
        | .goOn, some failure => .error failure
        | .goOn, none => visitAllAfresh guide (children ++ rest) (record changes event) := by
  simp only [visitAllAfresh, visitAfresh]
  cases judgeAfresh guide subject with
  | error failure => rfl
  | ok answer =>
    obtain ⟨verdict, event⟩ := answer
    cases verdict with
    | skip => rfl
    | goOn =>
      cases subject.barrier with
      | some failure => rfl
      | none => exact (visitAllAfresh_append guide children rest _).symm

theorem walk_afresh {guide : Guide φ} {answers : Exclusion.Answers}
    (offers : Exclusion.Offers guide.providers answers) (stack : List (Delta φ))
    (changes : ChangeList φ) (trail : Trail) (truthful : Exclusion.Truthful answers trail.cache) :
    (walk guide stack changes trail).result = visitAllAfresh guide stack changes := by
  fun_induction walk guide stack changes trail with
  | case1 => rw [visitAllAfresh]; rfl
  | case2 changes trail subject children rest failure after judged =>
    obtain ⟨same, -⟩ := judge_afresh offers truthful subject
    rw [judged] at same
    rw [visitAllAfresh_node, ← same]
  | case3 changes trail subject children rest event after judged ih =>
    obtain ⟨same, kept⟩ := judge_afresh offers truthful subject
    rw [judged] at same kept
    rw [visitAllAfresh_node, ← same]
    exact ih kept
  | case4 changes trail subject children rest event after failure barrier judged =>
    obtain ⟨same, -⟩ := judge_afresh offers truthful subject
    rw [judged] at same
    rw [visitAllAfresh_node, ← same]
    simp only [barrier]
  | case5 changes trail subject children rest event after barrier judged ih =>
    obtain ⟨same, kept⟩ := judge_afresh offers truthful subject
    rw [judged] at same kept
    rw [visitAllAfresh_node, ← same]
    simp only [barrier]
    rw [ih kept, pushChildren_eq]

theorem visitAllAfresh_singleton (guide : Guide φ) (delta : Delta φ) (changes : ChangeList φ) :
    visitAllAfresh guide [delta] changes = visitAfresh guide delta changes := by
  simp only [visitAllAfresh]
  cases visitAfresh guide delta changes <;> rfl

/-- A truthful cache changes nothing about what a notification is classified as. -/
theorem gather_afresh {guide : Guide φ} {answers : Exclusion.Answers}
    (offers : Exclusion.Offers guide.providers answers) (delta : Delta φ) {cache : Exclusion.Cache}
    (truthful : Exclusion.Truthful answers cache) :
    (gather guide delta cache).result = gatherAfresh guide delta := by
  rw [gather_reported, gatherAfresh, ← visitAllAfresh_singleton]
  have walked := walk_afresh offers [delta] .empty (.start cache) truthful
  exact congrArg (·.mapError walkFailure) walked

end Delta
end ChangeRelay
