import ChangeRelay.Proofs.CachesInEffect
import ChangeRelay.Proofs.KeptExclusions

/-!
A notification whose walk fails. Only the cache of exclusions may show that it came, by entries that
a later look-up would have made anyway. While the providers stand by their answers, nothing that is
asked of the relay afterwards tells whether the notification came.
-/
namespace ChangeRelay.Relay

variable {φ : Type}

/-- What an event is answered with, notes and the number of providers asked left out. -/
inductive Response (φ : Type) where
  | notified (changes : Except Failure (ChangeList φ)) (ticket : Except Failure (Option Nat))
  | worked (outcome : Option Sending.Outcome)
  | listed (listed : Listed φ)
  | done

def respond (relay : Relay φ) : Event φ → Response φ
  | .notified around delta =>
    .notified (Delta.gather (relay.guide around) delta relay.exclusions).result
      (relay.notify around delta).2.ticket
  | .worked around => .worked ((relay.work around).map (·.2))
  | .listed around project => .listed (relay.listConfig around project).2
  | .forgot _ | .closed => .done

/-- The providers say of the project of any file what its scope answers to. -/
def Surroundings.Upholds (around : Surroundings φ) (answers : Exclusion.Answers) : Prop :=
  ∀ file, Exclusion.SameAnswer
    (Exclusion.unionOf around.advisors.exclusions (around.look file).project)
    (answers (around.look file).project.scope)

/-- The same, but the providers may also fail. -/
def Surroundings.Lasts (around : Surroundings φ) (answers : Exclusion.Answers) : Prop :=
  ∀ file paths,
    Exclusion.unionOf around.advisors.exclusions (around.look file).project = .ok paths →
      Exclusion.SameAnswer (.ok paths) (answers (around.look file).project.scope)

theorem Surroundings.Upholds.lasts {around : Surroundings φ} {answers : Exclusion.Answers}
    (upholds : around.Upholds answers) : around.Lasts answers := by
  intro file paths united
  rw [← united]
  exact upholds file

/-- A run in which the providers stand by their answers. They may have others for a scope once it is
forgotten. -/
def Stable : Exclusion.Answers → List (Event φ) → Prop
  | _, [] => True
  | answers, .notified around _ :: rest => around.Upholds answers ∧ Stable answers rest
  | answers, .forgot project :: rest =>
    ∃ next : Exclusion.Answers,
      (∀ scope, scope ≠ project.scope → next scope = answers scope) ∧ Stable next rest
  | answers, .worked _ :: rest => Stable answers rest
  | answers, .listed _ _ :: rest => Stable answers rest
  | answers, .closed :: rest => Stable answers rest

def withExclusions (relay : Relay φ) (cache : Exclusion.Cache) : Relay φ :=
  { relay with exclusions := cache }

theorem gather_inEffect (relay : Relay φ) {around : Surroundings φ} {answers : Exclusion.Answers}
    (upholds : around.Upholds answers) (delta : Delta φ) {ours theirs : Exclusion.Cache}
    (same : Exclusion.SameInEffect answers ours theirs) :
    (Delta.gather (relay.guide around) delta theirs).result =
        (Delta.gather (relay.guide around) delta ours).result ∧
      Exclusion.SameInEffect answers (Delta.gather (relay.guide around) delta ours).trail.cache
        (Delta.gather (relay.guide around) delta theirs).trail.cache := by
  have finds : ∀ {ours theirs : Exclusion.Cache} (file : φ),
      Exclusion.SameInEffect answers ours theirs →
      Exclusion.SameAnswer ((relay.guide around).find ours file).paths
          ((relay.guide around).find theirs file).paths ∧
        Exclusion.SameInEffect answers ((relay.guide around).find ours file).cache
          ((relay.guide around).find theirs file).cache := by
    intro ours theirs file both
    exact Exclusion.find_same (upholds file) both
  exact Delta.alike_gather finds delta same

theorem failed_notify {relay : Relay φ} {around : Surroundings φ} {delta : Delta φ}
    {failure : Failure}
    (failed : (Delta.gather (relay.guide around) delta relay.exclusions).result = .error failure) :
    (relay.notify around delta).1 = relay.withExclusions
        (Delta.gather (relay.guide around) delta relay.exclusions).trail.cache ∧
      (relay.notify around delta).2.ticket = .ok none := by
  constructor
  · simp only [notify, failed]
    rfl
  · simp only [notify, failed]

theorem notify_withExclusions {relay : Relay φ} {cache : Exclusion.Cache}
    {around : Surroundings φ} {delta : Delta φ}
    (same : (Delta.gather (relay.guide around) delta cache).result =
      (Delta.gather (relay.guide around) delta relay.exclusions).result) :
    ((relay.withExclusions cache).notify around delta).1 =
        (relay.notify around delta).1.withExclusions
          (Delta.gather (relay.guide around) delta cache).trail.cache ∧
      ((relay.withExclusions cache).notify around delta).2.ticket =
        (relay.notify around delta).2.ticket := by
  have ours : (relay.withExclusions cache).exclusions = cache := rfl
  have guide : (relay.withExclusions cache).guide around = relay.guide around := rfl
  simp only [notify, ours, guide, same]
  cases (Delta.gather (relay.guide around) delta relay.exclusions).result with
  | error failure => exact ⟨rfl, rfl⟩
  | ok changes =>
    dsimp only
    split
    · exact ⟨rfl, rfl⟩
    · simp only [withExclusions]
      split <;> exact ⟨rfl, rfl⟩

theorem work_withExclusions (relay : Relay φ) (cache : Exclusion.Cache) (around : Surroundings φ) :
    (relay.withExclusions cache).work around =
      (relay.work around).map fun pair => (pair.1.withExclusions cache, pair.2) := by
  have queue : (relay.withExclusions cache).queue = relay.queue := rfl
  unfold work
  rw [queue]
  cases relay.queue.take? with
  | none => rfl
  | some taken => rfl

theorem list_withExclusions (relay : Relay φ) (cache : Exclusion.Cache) (around : Surroundings φ)
    (project : Project) :
    (relay.withExclusions cache).list around project =
      ((relay.list around project).1.withExclusions cache, (relay.list around project).2) := by
  unfold list
  cases project.checkScope with
  | error failure => rfl
  | ok _ => rfl

namespace World

def withExclusions (world : World φ) (cache : Exclusion.Cache) : World φ :=
  { world with relay := world.relay.withExclusions cache }

def responses : World φ → List (Event φ) → List (Response φ)
  | _, [] => []
  | world, event :: rest => world.relay.respond event :: responses (world.step event) rest

theorem notified_withExclusions {world : World φ} {cache : Exclusion.Cache}
    {around : Surroundings φ} {delta : Delta φ}
    (same : (Delta.gather (world.relay.guide around) delta cache).result =
      (Delta.gather (world.relay.guide around) delta world.relay.exclusions).result) :
    (world.withExclusions cache).step (.notified around delta) =
        (world.step (.notified around delta)).withExclusions
          (Delta.gather (world.relay.guide around) delta cache).trail.cache ∧
      (world.withExclusions cache).relay.respond (.notified around delta) =
        world.relay.respond (.notified around delta) := by
  obtain ⟨after, ticket⟩ := notify_withExclusions same
  have handed : (world.relay.withExclusions cache).handsIn around delta =
      world.relay.handsIn around delta := by
    have ours : (world.relay.withExclusions cache).exclusions = cache := rfl
    have guide : (world.relay.withExclusions cache).guide around = world.relay.guide around := rfl
    have queue : (world.relay.withExclusions cache).queue = world.relay.queue := rfl
    simp only [handsIn, ours, guide, queue, same]
  constructor
  · simp only [step, withExclusions, after, handed]
  · exact congrArg₂ Response.notified same ticket

theorem worked_withExclusions (world : World φ) (cache : Exclusion.Cache)
    (around : Surroundings φ) :
    (world.withExclusions cache).step (.worked around) =
        (world.step (.worked around)).withExclusions cache ∧
      (world.withExclusions cache).relay.respond (.worked around) =
        world.relay.respond (.worked around) := by
  have worked := work_withExclusions world.relay cache around
  constructor
  · simp only [step, withExclusions, worked]
    cases world.relay.work around with
    | none => rfl
    | some pair => rfl
  · simp only [respond, withExclusions, worked, Option.map_map]
    rfl

/-- An event leaves two relays alike that differ in the exclusions kept but not in those in effect,
and both answer it alike. -/
theorem step_withExclusions {answers : Exclusion.Answers} {event : Event φ}
    {rest : List (Event φ)} (stable : Stable answers (event :: rest)) {world : World φ}
    {cache : Exclusion.Cache}
    (same : Exclusion.SameInEffect answers world.relay.exclusions cache) :
    ∃ next after, Stable next rest ∧
      Exclusion.SameInEffect next (world.step event).relay.exclusions after ∧
      (world.withExclusions cache).step event = (world.step event).withExclusions after ∧
      (world.withExclusions cache).relay.respond event = world.relay.respond event := by
  cases event with
  | notified around delta =>
    obtain ⟨upholds, further⟩ := stable
    obtain ⟨result, inEffect⟩ := gather_inEffect world.relay upholds delta same
    obtain ⟨after, response⟩ := notified_withExclusions result
    refine ⟨answers, _, further, ?_, after, response⟩
    show Exclusion.SameInEffect answers (world.relay.notify around delta).1.exclusions _
    rw [notify_exclusions]
    exact inEffect
  | worked around =>
    obtain ⟨after, response⟩ := worked_withExclusions world cache around
    refine ⟨answers, cache, stable, ?_, after, response⟩
    rw [worked_exclusions]
    exact same
  | listed around project =>
    have listed := list_withExclusions world.relay cache around project
    refine ⟨answers, cache, stable, ?_, ?_, ?_⟩
    · rw [listed_exclusions]
      exact same
    · simp only [step, withExclusions, listed]
    · simp only [respond, withExclusions, listConfig, listed]
      rfl
  | forgot project =>
    obtain ⟨next, others, further⟩ := stable
    exact ⟨next, cache.invalidate project.scope, further,
      Exclusion.invalidate_inEffect others same, rfl, rfl⟩
  | closed => exact ⟨answers, cache, stable, same, rfl, rfl⟩

theorem after_withExclusions {answers : Exclusion.Answers} {events : List (Event φ)}
    (stable : Stable answers events) {world : World φ} {cache : Exclusion.Cache}
    (same : Exclusion.SameInEffect answers world.relay.exclusions cache) :
    responses (world.withExclusions cache) events = responses world events ∧
      ∃ after, (world.withExclusions cache).after events =
        (world.after events).withExclusions after := by
  induction events generalizing answers world cache with
  | nil => exact ⟨rfl, cache, rfl⟩
  | cons event rest ih =>
    obtain ⟨next, between, further, inEffect, stepped, response⟩ := step_withExclusions stable same
    obtain ⟨responses, after, ended⟩ := ih further inEffect
    rw [← stepped] at responses ended
    exact ⟨congrArg₂ List.cons response responses, after, ended⟩

/-- A notification whose walk fails, whatever fails and wherever, is answered with no ticket and
changes nothing, neither what is kept of listings, handed in, pending, finished nor delivered, but
for the exclusions. Of these none is lost or replaced, and each new entry is all that the providers
name for a project of its scope. From then on, every notification is classified and answered, every
listing is answered and every piece of work ends as if the notification had not come, and so is all
that the relay holds apart from exclusions, as long as the providers stand by the answers that they
gave; those that failed may answer anything the next time. -/
theorem failed_notification_forgotten {world : World φ} {around : Surroundings φ}
    {delta : Delta φ} {failure : Failure}
    (failed : (Delta.gather (world.relay.guide around) delta world.relay.exclusions).result =
      .error failure) :
    let next := world.step (.notified around delta)
    (world.relay.notify around delta).2.ticket = .ok none ∧
    next = world.withExclusions next.relay.exclusions ∧
    Delta.Grown (world.relay.guide around) world.relay.exclusions next.relay.exclusions ∧
    ∀ answers later, around.Lasts answers → Stable answers later →
      responses next later = responses world later ∧
        ∃ exclusions, next.after later = (world.after later).withExclusions exclusions := by
  intro next
  obtain ⟨relay, ticket⟩ := failed_notify failed
  have nothing : world.relay.handsIn around delta = none := by
    simp only [handsIn, failed]
  have same : next = world.withExclusions
      (Delta.gather (world.relay.guide around) delta world.relay.exclusions).trail.cache := by
    simp only [next, step, relay, nothing, Option.toList_none, List.append_nil, withExclusions]
  have kept : next.relay.exclusions =
      (Delta.gather (world.relay.guide around) delta world.relay.exclusions).trail.cache := by
    rw [same]
    rfl
  refine ⟨ticket, ?_, ?_, ?_⟩
  · rw [kept]
    exact same
  · rw [kept]
    exact Delta.gather_grown _ _ _
  · intro answers later lasts stable
    -- Every look-up of the failed walk leaves what is in effect, so the whole walk does.
    have stays : ∀ between file,
        Exclusion.SameInEffect answers world.relay.exclusions between →
        Exclusion.SameInEffect answers world.relay.exclusions
          ((world.relay.guide around).find between file).cache := by
      intro between file still
      exact still.trans ((Exclusion.find_spec _ between _).leaves (lasts file))
    have inEffect := Delta.gather_kept stays delta (Exclusion.SameInEffect.refl answers _)
    rw [same]
    exact after_withExclusions stable inEffect

def brokenDelta : Delta Nat :=
  let resource (names : List String) (file : Option Nat) : Delta.Resource Nat :=
    ⟨.ok ⟨.single, names⟩, .ok none, .ok file⟩
  .node ⟨.ok (resource ["app"] none), .ok .changed, .ok 0, none⟩
    [.node ⟨.ok (resource ["app", "a.c"] (some 7)), .ok .added, .ok 0, none⟩ [],
      .node ⟨.ok (resource ["app", "b.c"] (some 8)), .error .noSuchFile, .ok 0, none⟩ []]

theorem sample_upholds (lifted : Bool) : (sampleAround lifted).Upholds (sampleAnswers lifted) := by
  intro file
  rw [Exclusion.unionOf_usable rfl]
  exact sample_offers lifted _

/-- The exclusions found before the walk failed stay, and nothing else tells of it. -/
theorem failed_notification_sample :
    let world := start (Relay.start .standard none none).1
    let next := world.step (.notified (sampleAround false) brokenDelta)
    let later : List (Event Nat) :=
      [.notified (sampleAround false) sampleDelta, .worked (sampleAround false),
        .forgot ⟨"app", .text "scope:app", "file:///w/app"⟩,
        .notified (sampleAround true) sampleDelta]
    next.relay.exclusions.get? (.text "scope:app") = some [⟨.single, ["app", "gen"]⟩] ∧
      world.relay.exclusions.get? (.text "scope:app") = none ∧
      (world.relay.notify (sampleAround false) brokenDelta).2.ticket = .ok none ∧
      responses next later = responses world later := by
  intro world next later
  have walked : (Delta.gather (world.relay.guide (sampleAround false)) brokenDelta
      world.relay.exclusions).result = .error (.walk .noSuchFile) := by
    rw [Delta.gather_reported, Delta.walk_eq_visitAll]
    rfl
  have found : next.relay.exclusions.get? (.text "scope:app") =
      some [⟨.single, ["app", "gen"]⟩] := by
    show (world.relay.notify (sampleAround false) brokenDelta).1.exclusions.get? _ = _
    rw [notify_exclusions, Delta.gather_reported, Delta.walk_eq_visitAll]
    rfl
  have lasts := (sample_upholds false).lasts
  have stable : Stable (sampleAnswers false) later := by
    refine ⟨sample_upholds false, sampleAnswers true, ?_, sample_upholds true, trivial⟩
    intro scope other
    simp [sampleAnswers, other]
  obtain ⟨ticket, -, -, forgotten⟩ := failed_notification_forgotten walked
  exact ⟨found, rfl, ticket, (forgotten _ later lasts stable).1⟩

end World
end ChangeRelay.Relay
