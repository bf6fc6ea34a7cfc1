import ChangeRelay.Proofs.ChangeSets
import ChangeRelay.Proofs.CycleBatch

/-!
Which of the files that are sent count as tests, without a test classifier of the host. The standard
patterns decide. The settings have patterns of their own, but no step of a relay looks at them: with
others in their place every run does the same.
-/
namespace ChangeRelay

namespace Snapshot

theorem make_isTest {maker : Maker} {view : FileView} {snapshot : Snapshot}
    (made : (make maker view).value = .ok snapshot) {truth : Bool}
    (told : maker.advisors.isTest view = .ok (.bool truth)) : snapshot.isTest = truth := by
  rw [make_value] at made
  have passed := mapError_ok made
  simp only [ofDraft, namedFields_ok_iff, Validation.both_ok_iff,
    Validation.inStep_ok_iff] at passed
  have checked : Validation.boolean (draftOf maker view).isTest = .ok snapshot.isTest :=
    passed.2.2.2.1
  rw [draftOf, told] at checked
  exact (Except.ok.inj checked).symm

end Snapshot

namespace Sending

variable {φ : Type}

/-- A snapshot that is a file's own and counts as a test by the file's path. -/
structure ToldBy (counts : String → Bool) (look : φ → FileView) (file : φ) (snapshot : Snapshot) :
    Prop where
  uri : (look file).uri = .text snapshot.uri
  relativePath : snapshot.relativePath = (look file).relativePath
  isTest : snapshot.isTest = counts (look file).relativePath

def AllToldBy (counts : String → Bool) (look : φ → FileView) (files : List φ)
    (sent : List Snapshot) : Prop :=
  ∃ own copies, sent = own ++ copies ∧ List.Forall₂ (ToldBy counts look) files own ∧
    ∀ copy ∈ copies, ∃ original ∈ own,
      copy = { original with relativePath := copy.relativePath, scope := copy.scope }

theorem AllToldBy.first {counts : String → Bool} {look : φ → FileView} {file : φ} {files : List φ}
    {sent : List Snapshot} (told : AllToldBy counts look (file :: files) sent) :
    ∃ snapshot, sent.head? = some snapshot ∧ ToldBy counts look file snapshot := by
  obtain ⟨own, copies, rfl, each, -⟩ := told
  cases each with
  | cons here _ => exact ⟨_, rfl, here⟩

theorem made_told {means : Means φ} {patterns : List String}
    (classifier : means.maker.advisors.isTest = TestFile.byPatterns patterns) {file : φ}
    {snapshot : Snapshot} (made : Made means file snapshot) :
    ToldBy (TestFile.isTest patterns) means.look file snapshot := by
  have told : means.maker.advisors.isTest (means.look file) =
      .ok (.bool (TestFile.isTest patterns (means.look file).relativePath)) := by
    rw [classifier]
    rfl
  exact ⟨(Snapshot.make_source made).1, Snapshot.make_relativePath made,
    Snapshot.make_isTest made told⟩

theorem run_told {means : Means φ} {patterns : List String}
    (classifier : means.maker.advisors.isTest = TestFile.byPatterns patterns)
    {changes : ChangeList φ} {batch : Batch}
    (sent : (run means changes).result = .ok (some batch)) :
    AllToldBy (TestFile.isTest patterns) means.look changes.present batch.addedOrChanged := by
  obtain ⟨own, copies, subProjects, contents, same⟩ :=
    (snapshotsOf_ok_iff means changes.present batch.addedOrChanged).mp (run_batch sent)
  refine ⟨own, copies, same, contents.made.imp fun _ _ made => made_told classifier made, ?_⟩
  intro copy member
  obtain ⟨pair, isDue, copied⟩ := mem_forall₂ contents.copied member
  obtain ⟨file, listed, -⟩ := due_config isDue
  exact ⟨pair.2, (List.of_mem_zip listed).2, copied.same⟩

end Sending

def Settings.withPatterns (settings : Settings) (patterns : List String) : Settings :=
  { settings with testFilePatterns := patterns }

namespace Sending

variable {φ : Type}

def Means.withPatterns (means : Means φ) (patterns : List String) : Means φ :=
  { means with
    maker := { means.maker with settings := means.maker.settings.withPatterns patterns } }

theorem makeAll_withPatterns (means : Means φ) (patterns : List String) (files : List φ)
    (snapshots : List Snapshot) (groups : List Group) (notices : List Notice) :
    makeAll (means.withPatterns patterns) files snapshots groups notices =
      makeAll means files snapshots groups notices := by
  have made : ∀ view, Snapshot.make (means.withPatterns patterns).maker view =
      Snapshot.make means.maker view := fun _ => rfl
  have config : ∀ path, ConfigFile.isFolderJson (means.withPatterns patterns).maker.settings path =
      ConfigFile.isFolderJson means.maker.settings path := fun _ => rfl
  have look : (means.withPatterns patterns).look = means.look := rfl
  induction files generalizing snapshots groups notices with
  | nil => rfl
  | cons file rest ih =>
    simp only [makeAll, made, config, look, ih]

theorem runNoted_withPatterns (means : Means φ) (patterns : List String) (changes : ChangeList φ) :
    runNoted (means.withPatterns patterns) changes = runNoted means changes := by
  have hierarchies : (means.withPatterns patterns).hierarchies = means.hierarchies := rfl
  have service : (means.withPatterns patterns).service = means.service := rfl
  simp only [runNoted, run, snapshotsOf, makeAll_withPatterns, hierarchies, service]

end Sending

namespace Relay

variable {φ : Type}

def withPatterns (relay : Relay φ) (patterns : List String) : Relay φ :=
  { relay with settings := relay.settings.withPatterns patterns }

theorem notify_withPatterns (relay : Relay φ) (patterns : List String) (around : Surroundings φ)
    (delta : Delta φ) :
    (relay.withPatterns patterns).notify around delta =
      ((relay.notify around delta).1.withPatterns patterns, (relay.notify around delta).2) := by
  have guide : (relay.withPatterns patterns).guide around = relay.guide around := rfl
  have exclusions : (relay.withPatterns patterns).exclusions = relay.exclusions := rfl
  simp only [notify, guide, exclusions]
  cases (Delta.gather (relay.guide around) delta relay.exclusions).result with
  | error failure => rfl
  | ok changes =>
    dsimp only
    split
    · rfl
    · simp only [withPatterns]
      split <;> rfl

theorem work_withPatterns (relay : Relay φ) (patterns : List String) (around : Surroundings φ) :
    (relay.withPatterns patterns).work around =
      (relay.work around).map fun pair => (pair.1.withPatterns patterns, pair.2) := by
  have queue : (relay.withPatterns patterns).queue = relay.queue := rfl
  have means : (relay.withPatterns patterns).means around =
      (relay.means around).withPatterns patterns := rfl
  unfold work
  rw [queue]
  cases relay.queue.take? with
  | none => rfl
  | some taken =>
    simp only [means, Sending.runNoted_withPatterns]
    rfl

theorem list_withPatterns (relay : Relay φ) (patterns : List String) (around : Surroundings φ)
    (project : Project) :
    (relay.withPatterns patterns).list around project =
      ((relay.list around project).1.withPatterns patterns, (relay.list around project).2) := by
  unfold list
  cases project.checkScope with
  | error failure => rfl
  | ok _ => rfl

namespace World

def withPatterns (world : World φ) (patterns : List String) : World φ :=
  { world with relay := world.relay.withPatterns patterns }

theorem step_withPatterns (world : World φ) (patterns : List String) (event : Event φ) :
    (world.withPatterns patterns).step event = (world.step event).withPatterns patterns := by
  cases event with
  | notified around delta =>
    have handed : (world.relay.withPatterns patterns).handsIn around delta =
        world.relay.handsIn around delta := rfl
    simp only [step, withPatterns, notify_withPatterns, handed]
  | worked around =>
    simp only [step, withPatterns, work_withPatterns]
    cases world.relay.work around with
    | none => rfl
    | some pair => rfl
  | listed around project => simp only [step, withPatterns, list_withPatterns]
  | forgot project => rfl
  | closed => rfl

theorem after_withPatterns (world : World φ) (patterns : List String) (events : List (Event φ)) :
    (world.withPatterns patterns).after events = (world.after events).withPatterns patterns := by
  induction events generalizing world with
  | nil => rfl
  | cons event rest ih =>
    have next := ih (world.step event)
    rw [← step_withPatterns] at next
    exact next

theorem step_helped {world : World φ} {event : Event φ} {around : Surroundings φ}
    (member : around ∈ (world.step event).helped) :
    around ∈ world.helped ∨ event = .worked around := by
  cases event with
  | worked other =>
    simp only [step] at member
    split at member
    · exact Or.inl member
    · rcases List.mem_append.mp member with earlier | now
      · exact Or.inl earlier
      · exact Or.inr (congrArg Event.worked (List.mem_singleton.mp now).symm)
  | notified | listed | forgot | closed => exact Or.inl member

theorem after_helped {world : World φ} {events : List (Event φ)} {around : Surroundings φ}
    (member : around ∈ (world.after events).helped) :
    around ∈ world.helped ∨ .worked around ∈ events := by
  induction events generalizing world with
  | nil => exact Or.inl member
  | cons event rest ih =>
    rcases ih member with here | later
    · rcases step_helped here with earlier | rfl
      · exact Or.inl earlier
      · exact Or.inr List.mem_cons_self
    · exact Or.inr (List.mem_cons_of_mem _ later)

/-- In every run of a relay with these settings that has no test classifier but the standard one
whenever the worker acts, each batch that is sent has the snapshots of the changed files in their
order, and copies of some of them; and a snapshot counts as a test exactly if one of the patterns
matches the path of its file. -/
def SentBy (settings : Settings) (patterns : List String) : Prop :=
  ∀ (φ : Type) (exclusions : Option Exclusion.Cache) (listings : Option (Listings φ))
    (events : List (Event φ)),
    (∀ around, .worked around ∈ events → around.advisors.isTest = Advisors.standard.isTest) →
      ∀ run ∈ ((start (Relay.start settings exclusions listings).1).after events).runs,
        ∀ batch, resultOf settings run = .ok (some batch) →
          Sending.AllToldBy (TestFile.isTest patterns) run.2.look run.1.present
            batch.addedOrChanged

theorem sentBy_standard (settings : Settings) : SentBy settings Settings.standardTestPatterns := by
  intro φ exclusions listings events standard run member batch sent
  rcases after_helped (List.of_mem_zip member).2 with nothing | worked
  · cases nothing
  · exact Sending.run_told (standard run.2 worked) sent

def addedDelta : Delta Unit :=
  .node ⟨.ok ⟨.ok ⟨.relative, []⟩, .ok none, .ok (some ())⟩, .ok .added, .ok 0, none⟩ []

def addedAround (path : String) : Surroundings Unit where
  advisors := .standard
  resolver := fun _ => .ok none
  service := .recording
  look := fun _ =>
    ⟨.text "file:///w/app/added", "added", ⟨"app", .text "scope:app", "file:///w/app"⟩, path,
      .ok (.text "utf-8"), .ok (.text "")⟩
  listing := fun _ => .ok []

def addedEvents (path : String) : List (Event Unit) :=
  [.notified (addedAround path) addedDelta, .worked (addedAround path)]

def addedWorld (settings : Settings) (path : String) : World Unit :=
  (start (Relay.start settings none none).1).after (addedEvents path)

theorem added_standard {path : String} {around : Surroundings Unit}
    (member : .worked around ∈ addedEvents path) :
    around.advisors.isTest = Advisors.standard.isTest := by
  rcases List.mem_cons.mp member with other | last
  · cases other
  · rw [Event.worked.inj (List.mem_singleton.mp last)]
    rfl

theorem added_runs (settings : Settings) (path : String) :
    (addedWorld settings path).runs = [(⟨[()], []⟩, addedAround path)] := by
  let relay : Relay Unit := (Relay.start settings none none).1
  have walked : (Delta.gather (relay.guide (addedAround path)) addedDelta
      relay.exclusions).result = .ok ⟨[()], []⟩ := by
    rw [Delta.gather_reported, Delta.walk_eq_visitAll]
    rfl
  have handed : relay.handsIn (addedAround path) addedDelta = some ⟨[()], []⟩ := by
    rw [handsIn, walked]
    rfl
  have queue : (relay.notify (addedAround path) addedDelta).1.queue.take?.isSome = true := by
    rcases notify_queue relay (addedAround path) addedDelta with
      ⟨nothing, -⟩ | ⟨changes, ticket, queue, -, -, submitted, same⟩
    · rw [handed] at nothing
      cases nothing
    · rw [same]
      cases submitted
      rfl
  obtain ⟨taken, found⟩ := Option.isSome_iff_exists.mp queue
  have begun : addedWorld settings path =
      ((start relay).step (.notified (addedAround path) addedDelta)).step
        (.worked (addedAround path)) := rfl
  have notified : (start relay).step (.notified (addedAround path) addedDelta) =
      ⟨(relay.notify (addedAround path) addedDelta).1, [⟨[()], []⟩], [], []⟩ := by
    simp only [step, start, handed]
    rfl
  rw [begun, notified]
  simp only [step, work, found]
  rfl

theorem added_sent (settings : Settings) (path : String) : ∃ snapshots,
    resultOf settings (⟨[()], []⟩, addedAround path) = .ok (some ⟨[], snapshots⟩) := by
  let means : Sending.Means Unit :=
    ⟨⟨settings, .standard, (addedAround path).resolver⟩, [], .recording, (addedAround path).look⟩
  have advisors : means.maker.advisors.Typed :=
    ⟨fun _ _ told => ⟨_, (Except.ok.inj told).symm⟩, List.forall_mem_nil _⟩
  have shown : ((addedAround path).look ()).Typed "file:///w/app/added" "scope:app" :=
    ⟨rfl, rfl, fun _ told => ⟨_, (Except.ok.inj told).symm⟩,
      fun _ told => ⟨_, (Except.ok.inj told).symm⟩⟩
  have all : ∀ file ∈ [()], ∃ snapshot,
      (Snapshot.make means.maker (means.look file)).value = .ok snapshot := by
    intro file _
    obtain ⟨snapshot, made, -⟩ := Snapshot.make_tells advisors shown
    exact ⟨snapshot, made⟩
  have alone : means.hierarchies = [] := rfl
  obtain ⟨snapshots, made⟩ := Sending.snapshotsOf_alone alone all
  exact ⟨snapshots,
    (Sending.run_sent (show (ChangeList.mk [()] []).isEmpty = false from rfl) made rfl).1⟩

/-- The patterns that decide are the standard ones, or such as come to the same for all paths. -/
theorem sentBy_iff (settings : Settings) (patterns : List String) :
    SentBy settings patterns ↔
      ∀ path, TestFile.isTest patterns path =
        TestFile.isTest Settings.standardTestPatterns path := by
  constructor
  · intro told path
    have run : (⟨[()], []⟩, addedAround path) ∈ (addedWorld settings path).runs := by
      rw [added_runs]
      exact List.mem_cons_self
    have standard : ∀ around, .worked around ∈ addedEvents path →
        around.advisors.isTest = Advisors.standard.isTest := fun _ => added_standard
    obtain ⟨snapshots, sent⟩ := added_sent settings path
    obtain ⟨own, first, here⟩ := (told _ none none _ standard _ run _ sent).first
    obtain ⟨other, same, there⟩ :=
      (sentBy_standard settings _ none none _ standard _ run _ sent).first
    rw [first] at same
    cases same
    exact here.isTest.symm.trans there.isTest
  · intro agree
    rw [SentBy, funext agree]
    exact sentBy_standard settings

/-- Whatever the settings are, the standard patterns decide which of the files that are sent count
as tests, where there is no other classifier. So the patterns of the settings tell right exactly if
they come to the same for all paths. They decide nothing: with any others in their place, the file
service does the same in every run, whoever classifies. -/
theorem sent_by_standard_patterns (settings : Settings) :
    SentBy settings Settings.standardTestPatterns ∧
    (SentBy settings settings.testFilePatterns ↔
      ∀ path, TestFile.isTest settings.testFilePatterns path =
        TestFile.isTest Settings.standardTestPatterns path) ∧
    ∀ {φ : Type} (exclusions : Option Exclusion.Cache) (listings : Option (Listings φ))
      (events : List (Event φ)),
      let world := (start (Relay.start settings exclusions listings).1).after events
      world.deliveries = world.runs.filterMap (deliveryOf settings) ∧
        ∀ patterns,
          ((start (Relay.start (settings.withPatterns patterns) exclusions listings).1).after
            events).deliveries = world.deliveries := by
  refine ⟨sentBy_standard settings, sentBy_iff settings settings.testFilePatterns, ?_⟩
  intro φ exclusions listings events world
  have same : world.relay.settings = settings := after_settings _ events
  constructor
  · rw [← same]
    exact (after_inOrder (start_inOrder rfl) events).deliveries
  · intro patterns
    have begun : start (Relay.start (settings.withPatterns patterns) exclusions listings).1 =
        (start (Relay.start settings exclusions listings).1).withPatterns patterns := rfl
    rw [begun, after_withPatterns]
    rfl

def integrationSettings : Settings :=
  Settings.standard.withPatterns ["**/it/**"]

theorem integration_patterns_unread :
    ¬SentBy integrationSettings integrationSettings.testFilePatterns := by
  rw [sentBy_iff]
  intro agree
  have differ : TestFile.isTest integrationSettings.testFilePatterns "src/it/FooIT.java" ≠
      TestFile.isTest Settings.standardTestPatterns "src/it/FooIT.java" := by
    decide +kernel
  exact differ (agree _)

/-- The settings' only pattern matches the file that is sent, which still counts as no test. -/
theorem sent_by_standard_patterns_sample :
    let world := addedWorld integrationSettings "src/it/FooIT.java"
    ∃ batch, world.deliveries = [.kept batch] ∧ ∃ snapshot ∈ batch.addedOrChanged,
      snapshot.relativePath = "src/it/FooIT.java" ∧ snapshot.isTest = false ∧
      TestFile.isTest integrationSettings.testFilePatterns snapshot.relativePath = true := by
  intro world
  obtain ⟨told, -, runs⟩ := sent_by_standard_patterns integrationSettings
  have deliveries : world.deliveries = world.runs.filterMap (deliveryOf integrationSettings) :=
    (runs none none _).1
  have run : (⟨[()], []⟩, addedAround "src/it/FooIT.java") ∈ world.runs := by
    rw [added_runs]
    exact List.mem_cons_self
  obtain ⟨snapshots, sent⟩ := added_sent integrationSettings "src/it/FooIT.java"
  obtain ⟨snapshot, first, here⟩ :=
    (told _ none none _ (fun _ => added_standard) _ run _ sent).first
  refine ⟨⟨[], snapshots⟩, ?_, snapshot, List.mem_of_head? first, here.relativePath, ?_, ?_⟩
  · rw [deliveries, added_runs, List.filterMap_cons, deliveryOf, sent]
    rfl
  · rw [here.isTest]
    decide +kernel
  · rw [here.relativePath]
    decide +kernel

end World
end Relay
end ChangeRelay
