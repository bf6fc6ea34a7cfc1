import ChangeRelay.Proofs.AfreshWalk

/-!
Keeping exclusions makes no difference. Providers may change their answers for a scope right before
a project with that scope is forgotten; in between, every kept entry is what its scope answers to,
so each notification is classified as if the providers were asked for every single file.
-/
namespace ChangeRelay

namespace Exclusion

variable {answers next : Answers} {cache : Cache}

theorem truthful_of_size {cache : Cache} (nothing : cache.size = 0) : Truthful answers cache := by
  intro scope exclusions found
  have empty : cache.entries = [] := List.length_eq_zero_iff.mp nothing
  rw [ScopeStore.get?, empty] at found
  cases found

theorem invalidate_truthful (truthful : Truthful answers cache) {scope : Value}
    (others : ∀ other, other ≠ scope → next other = answers other) :
    Truthful next (cache.invalidate scope) := by
  intro other exclusions found
  rw [ScopeStore.get?_invalidate] at found
  split at found
  · cases found
  · rename_i apart
    rw [others other (Ne.symm apart)]
    exact truthful other exclusions found

end Exclusion

namespace Relay

variable {φ : Type}

/-- A run in which what the providers offer depends on the scope alone and changes, if at all, for
a scope that is forgotten next. -/
inductive Steady : Exclusion.Answers → List (Event φ) → Prop where
  | done (answers : Exclusion.Answers) : Steady answers []
  | notified {answers : Exclusion.Answers} {around : Surroundings φ}
      {delta : Delta φ} {rest : List (Event φ)}
      (offers : Exclusion.Offers around.advisors.exclusions answers)
      (steady : Steady answers rest) : Steady answers (.notified around delta :: rest)
  | forgot {answers next : Exclusion.Answers} {project : Project}
      {rest : List (Event φ)}
      (others : ∀ scope, scope ≠ project.scope → next scope = answers scope)
      (steady : Steady next rest) : Steady answers (.forgot project :: rest)
  | worked {answers : Exclusion.Answers} {around : Surroundings φ}
      {rest : List (Event φ)} (steady : Steady answers rest) :
      Steady answers (.worked around :: rest)
  | listed {answers : Exclusion.Answers} {around : Surroundings φ}
      {project : Project} {rest : List (Event φ)} (steady : Steady answers rest) :
      Steady answers (.listed around project :: rest)
  | closed {answers : Exclusion.Answers} {rest : List (Event φ)}
      (steady : Steady answers rest) : Steady answers (.closed :: rest)

theorem notify_truthful {relay : Relay φ} {around : Surroundings φ}
    {answers : Exclusion.Answers}
    (offers : Exclusion.Offers around.advisors.exclusions answers) (delta : Delta φ)
    (truthful : Exclusion.Truthful answers relay.exclusions) :
    Exclusion.Truthful answers (relay.notify around delta).1.exclusions := by
  have stays : ∀ cache file, Exclusion.Truthful answers cache →
      Exclusion.Truthful answers ((relay.guide around).find cache file).cache := by
    intro cache file kept
    exact (Exclusion.find_truthful offers kept _).2
  rw [notify_exclusions]
  exact Delta.gather_kept stays delta truthful

namespace World

theorem worked_exclusions (world : World φ) (around : Surroundings φ) :
    (world.step (.worked around)).relay.exclusions = world.relay.exclusions := by
  simp only [step, work]
  cases world.relay.queue.take? with
  | none => rfl
  | some taken => rfl

theorem listed_exclusions (world : World φ) (around : Surroundings φ) (project : Project) :
    (world.step (.listed around project)).relay.exclusions = world.relay.exclusions := by
  simp only [step, list]
  split <;> rfl

/-- Whatever a steady run has come to, the cache is right for what is offered from there on. -/
theorem after_truthful {before later : List (Event φ)} {world : World φ}
    {answers : Exclusion.Answers} (steady : Steady answers (before ++ later))
    (truthful : Exclusion.Truthful answers world.relay.exclusions) :
    ∃ now, Steady now later ∧ Exclusion.Truthful now (world.after before).relay.exclusions := by
  induction before generalizing world answers with
  | nil => exact ⟨answers, steady, truthful⟩
  | cons event rest ih =>
    cases steady with
    | notified offers others => exact ih others (notify_truthful offers _ truthful)
    | forgot same others =>
      exact ih others (Exclusion.invalidate_truthful truthful same)
    | worked others =>
      apply ih others
      rw [worked_exclusions]
      exact truthful
    | listed others =>
      apply ih others
      rw [listed_exclusions]
      exact truthful
    | closed others => exact ih others truthful

/-- In any steady run of a relay that starts with no exclusions kept, every notification is
classified as by a walk that asks all providers anew for every single file. -/
theorem keeping_exclusions_transparent {relay : Relay φ} (nothing : relay.exclusions.size = 0)
    {answers : Exclusion.Answers} {before later : List (Event φ)}
    {around : Surroundings φ} {delta : Delta φ}
    (steady : Steady answers (before ++ .notified around delta :: later)) :
    let now := ((start relay).after before).relay
    (Delta.gather (now.guide around) delta now.exclusions).result =
      Delta.gatherAfresh (now.guide around) delta := by
  intro now
  have empty : Exclusion.Truthful answers (start relay).relay.exclusions :=
    Exclusion.truthful_of_size nothing
  obtain ⟨offered, onwards, truthful⟩ := after_truthful steady empty
  cases onwards with
  | notified offers _ => exact Delta.gather_afresh offers delta truthful

def sampleAnswers (lifted : Bool) (scope : Value) : Except Failure (List Path) :=
  .ok (if lifted ∧ scope = .text "scope:app" then [] else [⟨.single, ["app", "gen"]⟩])

def sampleAround (lifted : Bool) : Surroundings Nat where
  advisors :=
    { Advisors.standard with exclusions := [fun project => sampleAnswers lifted project.scope] }
  resolver := fun _ => .ok none
  service := .recording
  look := fun _ =>
    ⟨.text "file:///w/app/gen/a.c", "a.c", ⟨"app", .text "scope:app", "file:///w/app"⟩, "gen/a.c",
      .ok .null, .ok .null⟩
  listing := fun _ => .ok []

def sampleDelta : Delta Nat :=
  let resource : Delta.Resource Nat :=
    ⟨.ok ⟨.single, ["app", "gen", "a.c"]⟩, .ok none, .ok (some 7)⟩
  .node ⟨.ok resource, .ok .added, .ok 0, none⟩ []

theorem sample_offers (lifted : Bool) :
    Exclusion.Offers (sampleAround lifted).advisors.exclusions (sampleAnswers lifted) := by
  intro project
  show Exclusion.SameAnswer (Exclusion.askAll project
    [fun project => sampleAnswers lifted project.scope] [] 0).1 _
  by_cases free : lifted ∧ project.scope = .text "scope:app"
  · simp only [Exclusion.askAll, sampleAnswers, free]
    exact Exclusion.SameAnswer.refl _
  · simp only [Exclusion.askAll, sampleAnswers, free]
    exact Exclusion.SameAnswer.refl _

/-- The folder is excluded at first, and no longer once the project is forgotten. -/
theorem keeping_exclusions_sample :
    let before : List (Event Nat) :=
      [.notified (sampleAround false) sampleDelta,
        .forgot ⟨"app", .text "scope:app", "file:///w/app"⟩]
    let now := ((start (Relay.start .standard none none).1).after before).relay
    (Delta.gather (now.guide (sampleAround true)) sampleDelta now.exclusions).result =
        Delta.gatherAfresh (now.guide (sampleAround true)) sampleDelta ∧
      Delta.gatherAfresh (now.guide (sampleAround true)) sampleDelta = .ok ⟨[7], []⟩ := by
  intro before now
  have steady : Steady (sampleAnswers false)
      (before ++ .notified (sampleAround true) sampleDelta :: []) := by
    apply Steady.notified (sample_offers false)
    refine Steady.forgot ?_ (.notified (sample_offers true) (.done _))
    intro scope other
    simp [sampleAnswers, other]
  have folders : now.settings = .standard := after_settings _ before
  constructor
  · exact keeping_exclusions_transparent rfl steady
  · rw [guide, folders]
    rfl

end World
end Relay
end ChangeRelay
