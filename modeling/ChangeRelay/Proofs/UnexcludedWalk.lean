import ChangeRelay.Proofs.AfreshWalk
import ChangeRelay.Proofs.Pruning

/-!
Walks in which nothing is excluded, and what other walks make of the same nodes. `losses` are the
removals that a tree tells of where nothing is excluded: exactly those of its removed resources that
are not inside an ignored folder. Whatever providers name, a node comes to the same as there, or it
shows a plain file that is present, and the walk does not enter it.
-/
namespace ChangeRelay

namespace Exclusion

def Answering (providers : List Provider) : Prop :=
  ∀ provider ∈ providers, ∀ project, ∃ paths, provider project = .ok paths

theorem find_answering {providers : List Provider} (answering : Answering providers) (cache : Cache)
    (project : Project) :
    project.checkScope = .ok () ∧ (∃ paths, (find providers cache project).paths = .ok paths) ∨
      ∃ failure, project.checkScope = .error failure ∧
        (find providers cache project).paths = .error failure := by
  have found := find_spec providers cache project
  generalize (find providers cache project).paths = answer,
    (find providers cache project).cache = after at found
  cases found with
  | unusable usable => exact Or.inr ⟨_, usable, rfl⟩
  | kept usable _ => exact Or.inl ⟨usable, _, rfl⟩
  | failed _ _ fails =>
    have each := fun provider member => answering provider member project
    obtain ⟨paths, answered⟩ := askAll_ok each [] 0
    rw [answered] at fails
    cases fails
  | united usable _ _ => exact Or.inl ⟨usable, _, rfl⟩

def always (paths : List Path) : Provider := fun _ => .ok paths

theorem always_answering (paths : List Path) : Answering [always paths] := by
  intro provider member project
  rw [List.mem_singleton] at member
  subst member
  exact ⟨paths, rfl⟩

theorem always_offers (paths : List Path) :
    Offers [always paths] (fun _ => .ok (unite [] paths)) := fun _ => SameAnswer.refl _

theorem empty_truthful (answers : Answers) : Truthful answers emptyCache := by
  intro scope exclusions found
  cases found

theorem find_nothing {project : Project} (usable : project.checkScope = .ok ()) :
    (find [always []] emptyCache project).paths = .ok [] := by
  simp only [find, usable]
  rfl

end Exclusion

namespace Delta

variable {φ : Type}

open Exclusion (Answering always)

def Guide.asking (guide : Guide φ) (providers : List Exclusion.Provider) : Guide φ :=
  { guide with providers := providers }

def judgeFreely (guide : Guide φ) (subject : Subject φ) :
    Except Failure (Verdict × Option (FileEvent φ)) :=
  judgeAfresh (guide.asking [always []]) subject

def onTop (earlier : List String) (found : Except Failure (List String)) :
    Except Failure (List String) :=
  found.map (earlier ++ ·)

def lostAt (event : Option (FileEvent φ)) : List String :=
  event.toList.filterMap FileEvent.location?

mutual

/-- The removals at and below a node where nothing is excluded. -/
def losses (guide : Guide φ) : Delta φ → Except Failure (List String)
  | .node subject children => do
    let (verdict, event) ← judgeFreely guide subject
    match verdict, subject.barrier with
    | .skip, _ => return lostAt event
    | .goOn, some failure => throw failure
    | .goOn, none => onTop (lostAt event) (lossesAll guide children)

def lossesAll (guide : Guide φ) : List (Delta φ) → Except Failure (List String)
  | [] => return []
  | delta :: rest => do
    let first ← losses guide delta
    onTop first (lossesAll guide rest)

end

section
variable {guide : Guide φ} {subject : Subject φ} {event : Option (FileEvent φ)} {failure : Failure}

theorem losses_refused (judged : judgeFreely guide subject = .error failure)
    (children : List (Delta φ)) : losses guide (.node subject children) = .error failure := by
  rw [losses, judged]
  rfl

theorem losses_skipped (judged : judgeFreely guide subject = .ok (.skip, event))
    (children : List (Delta φ)) : losses guide (.node subject children) = .ok (lostAt event) := by
  rw [losses, judged]
  rfl

theorem losses_barred (judged : judgeFreely guide subject = .ok (.goOn, event))
    (barred : subject.barrier = some failure) (children : List (Delta φ)) :
    losses guide (.node subject children) = .error failure := by
  simp only [losses, judged, barred, bind, Except.bind]
  rfl

theorem losses_entered (judged : judgeFreely guide subject = .ok (.goOn, event))
    (free : subject.barrier = none) (children : List (Delta φ)) :
    losses guide (.node subject children) = onTop (lostAt event) (lossesAll guide children) := by
  simp only [losses, judged, free, bind, Except.bind]

end

theorem onTop_onTop (first second : List String) (answer : Except Failure (List String)) :
    onTop first (onTop second answer) = onTop (first ++ second) answer := by
  cases answer <;> simp [onTop, Except.map]

theorem onTop_ok {earlier found : List String} {answer : Except Failure (List String)} :
    onTop earlier answer = .ok found ↔ ∃ more, answer = .ok more ∧ earlier ++ more = found := by
  cases answer with
  | error failure => simp [onTop, Except.map]
  | ok more => simp [onTop, Except.map]

theorem lossesAll_ok {guide : Guide φ} {delta : Delta φ} {rest : List (Delta φ)}
    {found : List String} :
    lossesAll guide (delta :: rest) = .ok found ↔
      ∃ first more, losses guide delta = .ok first ∧ lossesAll guide rest = .ok more ∧
        first ++ more = found := by
  rw [lossesAll]
  cases losses guide delta with
  | error failure => simp [bind, Except.bind]
  | ok first => simp [bind, Except.bind, onTop_ok]

inductive Lies : List (Delta φ) → List (Subject φ) → Subject φ → Prop where
  | here {subject : Subject φ} {children rest : List (Delta φ)} :
      Lies (.node subject children :: rest) [] subject
  | inside {subject below : Subject φ} {children rest : List (Delta φ)} {above : List (Subject φ)}
      (inner : Lies children above below) :
      Lies (.node subject children :: rest) (subject :: above) below
  | later {delta : Delta φ} {rest : List (Delta φ)} {above : List (Subject φ)} {below : Subject φ}
      (others : Lies rest above below) : Lies (delta :: rest) above below

def Subject.Ignored (subject : Subject φ) (guide : Guide φ) : Prop :=
  ∃ resource path, subject.IsAt resource path ∧
    Exclusion.passesThrough guide.ignoredFolders path = true

/-- A removed resource outside of all ignored folders whose location can still be told. -/
def Subject.Lost (subject : Subject φ) (guide : Guide φ) (uri : String) : Prop :=
  ∃ resource path, subject.Counts guide resource path ∧ subject.kind = .ok .removed ∧
    resource.location = .ok (some uri)

theorem removed_record (changes : ChangeList φ) (event : Option (FileEvent φ)) :
    (record changes event).removed = changes.removed ++ lostAt event := by
  rw [record_eq, ChangeList.removed_foldl, lostAt]

def unread : Trail := .start Exclusion.emptyCache

theorem judge_unread (guide : Guide φ) (paths : List Path) (subject : Subject φ) :
    (judge (guide.asking [always paths]) subject unread).1 =
      judgeAfresh (guide.asking [always paths]) subject := by
  have offers : Exclusion.Offers (guide.asking [always paths]).providers _ :=
    Exclusion.always_offers paths
  exact (judge_afresh offers (Exclusion.empty_truthful _) subject).1

theorem stays_freely {guide : Guide φ} {providers : List Exclusion.Provider}
    (answering : Answering providers) {subject : Subject φ} {cache : Exclusion.Cache} {kind : Kind}
    {file : φ} (stays : subject.Stays (guide.asking providers) cache kind file) :
    subject.Stays (guide.asking [always []]) unread.cache kind file := by
  obtain ⟨path, exclusions, shows_, found, -⟩ := stays
  refine ⟨path, [], shows_, ?_, rfl⟩
  rcases Exclusion.find_answering answering cache (guide.look file).project with
    ⟨usable, -⟩ | ⟨failure, -, fails⟩
  · exact Exclusion.find_nothing usable
  · cases found.symm.trans fails

theorem seen_freely {guide : Guide φ} {providers : List Exclusion.Provider}
    (answering : Answering providers) {subject : Subject φ} {before after : Exclusion.Cache}
    {verdict : Verdict} {event : Option (FileEvent φ)}
    (seen : Seen (guide.asking providers) subject before verdict event after) :
    judgeFreely guide subject = .ok (verdict, event) ∨
      (verdict = .skip ∧ event = none) ∧ ∃ path kind file, subject.Shows guide path kind file ∧
        (guide.look file).project.checkScope = .ok () := by
  have freely {cache : Exclusion.Cache}
      (same : Seen (guide.asking [always []]) subject unread.cache verdict event cache) :
      judgeFreely guide subject = .ok (verdict, event) := by
    obtain ⟨last, judged, -⟩ := seen_judge same
    rw [judgeFreely, ← judge_unread, judged]
  cases seen with
  | ignored at_ ignored => exact Or.inl (freely (.ignored at_ ignored))
  | lost counts told location => exact Or.inl (freely (.lost counts told location))
  | removed counts told location => exact Or.inl (freely (.removed counts told location))
  | noFile counts told present noFile => exact Or.inl (freely (.noFile counts told present noFile))
  | @excluded path kind file exclusions shows_ found covered =>
    refine Or.inr ⟨⟨rfl, rfl⟩, path, kind, file, shows_, ?_⟩
    rcases Exclusion.find_answering answering before (guide.look file).project with
      ⟨usable, -⟩ | ⟨failure, -, fails⟩
    · exact usable
    · cases found.symm.trans fails
  | added stays => exact Or.inl (freely (.added (stays_freely answering stays)))
  | changed stays told interesting =>
    exact Or.inl (freely (.changed (stays_freely answering stays) told interesting))
  | unchanged stays told dull =>
    exact Or.inl (freely (.unchanged (stays_freely answering stays) told dull))

theorem refused_freely {guide : Guide φ} {providers : List Exclusion.Provider}
    (answering : Answering providers) {subject : Subject φ} {before after : Exclusion.Cache}
    {read : Read} {failure : Failure}
    (refused : Refused (guide.asking providers) subject before read failure after) :
    judgeFreely guide subject = .error failure := by
  have freely {cache : Exclusion.Cache}
      (same : Refused (guide.asking [always []]) subject unread.cache read failure cache) :
      judgeFreely guide subject = .error failure := by
    obtain ⟨last, judged, -⟩ := refused_judge same
    rw [judgeFreely, ← judge_unread, judged]
  cases refused with
  | resource fails => exact freely (.resource fails)
  | path shown fails => exact freely (.path shown fails)
  | kind counts fails => exact freely (.kind counts fails)
  | location counts told fails => exact freely (.location counts told fails)
  | @exclusions path kind file _ shows_ fails =>
    refine freely (.exclusions shows_ ?_)
    rcases Exclusion.find_answering answering before (guide.look file).project with
      ⟨-, paths, found⟩ | ⟨cause, unusable, found⟩
    · cases found.symm.trans fails
    · cases found.symm.trans fails
      simp only [Guide.find, Guide.asking, Exclusion.find, unusable]
  | flags stays fails => exact freely (.flags (stays_freely answering stays) fails)

/-- A node is judged as if nothing were excluded, or it shows a plain file and is skipped. -/
theorem judge_freely (guide : Guide φ) {providers : List Exclusion.Provider}
    (answering : Answering providers) (subject : Subject φ) (trail : Trail) :
    (judge (guide.asking providers) subject trail).1 = judgeFreely guide subject ∨
      (judge (guide.asking providers) subject trail).1 = .ok (.skip, none) ∧
        ∃ path kind file, subject.Shows guide path kind file ∧
          (guide.look file).project.checkScope = .ok () := by
  have spec := judge_spec (guide.asking providers) subject trail
  generalize judge (guide.asking providers) subject trail = judged at spec
  obtain ⟨answer, next⟩ := judged
  cases answer with
  | error failure =>
    obtain ⟨read, refused⟩ := spec
    exact Or.inl (refused_freely answering refused).symm
  | ok answer =>
    obtain ⟨verdict, event⟩ := answer
    rcases seen_freely answering spec with freely | ⟨⟨rfl, rfl⟩, shows_⟩
    · exact Or.inl freely.symm
    · exact Or.inr ⟨rfl, shows_⟩

def Outcome.removals (outcome : Outcome φ) : Except Failure (List String) :=
  outcome.result.map ChangeList.removed

/-- What visiting a node comes to, whatever is excluded. -/
inductive Comes (guide asked : Guide φ) (subject : Subject φ) (children : List (Delta φ))
    (changes : ChangeList φ) : Outcome φ → Prop where
  | hidden {path : Path} {kind : Kind} {file : φ} {next : Trail}
      (shows_ : subject.Shows guide path kind file)
      (usable : (guide.look file).project.checkScope = .ok ()) :
      Comes guide asked subject children changes ⟨.ok changes, next⟩
  | refused {failure : Failure} {next : Trail}
      (judged : judgeFreely guide subject = .error failure) :
      Comes guide asked subject children changes ⟨.error failure, next⟩
  | skipped {event : Option (FileEvent φ)} {next : Trail}
      (judged : judgeFreely guide subject = .ok (.skip, event)) :
      Comes guide asked subject children changes ⟨.ok (record changes event), next⟩
  | barred {event : Option (FileEvent φ)} {failure : Failure} {next : Trail}
      (judged : judgeFreely guide subject = .ok (.goOn, event))
      (barred : subject.barrier = some failure) :
      Comes guide asked subject children changes ⟨.error failure, next⟩
  | entered {event : Option (FileEvent φ)} {next : Trail}
      (judged : judgeFreely guide subject = .ok (.goOn, event)) (free : subject.barrier = none) :
      Comes guide asked subject children changes
        (visitAll asked children (record changes event) next)

theorem visit_comes (guide : Guide φ) {providers : List Exclusion.Provider}
    (answering : Answering providers) (subject : Subject φ) (children : List (Delta φ))
    (changes : ChangeList φ) (trail : Trail) :
    Comes guide (guide.asking providers) subject children changes
      (visit (guide.asking providers) (.node subject children) changes trail) := by
  have freely := judge_freely guide answering subject trail
  rw [visit]
  generalize judge (guide.asking providers) subject trail = judged at freely
  obtain ⟨answer, next⟩ := judged
  rcases freely with freely | ⟨skipped, path, kind, file, shows_, usable⟩
  · have judged : judgeFreely guide subject = answer := freely.symm
    cases answer with
    | error failure => exact .refused judged
    | ok answer =>
      obtain ⟨verdict, event⟩ := answer
      cases verdict with
      | skip => exact .skipped judged
      | goOn =>
        cases barrier : subject.barrier with
        | some failure => exact .barred judged barrier
        | none => exact .entered judged barrier
  · cases skipped
    exact .hidden shows_ usable

mutual

theorem visitAfresh_losses (guide : Guide φ) (delta : Delta φ) (changes : ChangeList φ) :
    (visitAfresh (guide.asking [always []]) delta changes).map ChangeList.removed =
      onTop changes.removed (losses guide delta) := by
  match delta with
  | .node subject children =>
    rw [visitAfresh]
    change Except.map _ (judgeFreely guide subject >>= _) = _
    cases judged : judgeFreely guide subject with
    | error failure =>
      rw [losses_refused judged]
      rfl
    | ok answer =>
      obtain ⟨verdict, event⟩ := answer
      cases verdict with
      | skip =>
        rw [losses_skipped judged]
        exact congrArg Except.ok (removed_record changes event)
      | goOn =>
        cases barrier : subject.barrier with
        | some failure =>
          rw [losses_barred judged barrier]
          rfl
        | none =>
          have below := visitAllAfresh_losses guide children (record changes event)
          rw [losses_entered judged barrier, onTop_onTop, ← removed_record, ← below]
          simp only [bind, Except.bind]

theorem visitAllAfresh_losses (guide : Guide φ) (deltas : List (Delta φ)) (changes : ChangeList φ) :
    (visitAllAfresh (guide.asking [always []]) deltas changes).map ChangeList.removed =
      onTop changes.removed (lossesAll guide deltas) := by
  match deltas with
  | [] => simp [visitAllAfresh, lossesAll, onTop, Except.map, pure, Except.pure]
  | delta :: rest =>
    have here := visitAfresh_losses guide delta changes
    rw [visitAllAfresh, lossesAll]
    cases visited : visitAfresh (guide.asking [always []]) delta changes with
    | error cause =>
      rw [visited] at here
      cases found : losses guide delta with
      | error failure =>
        rw [found] at here
        exact here
      | ok own =>
        rw [found] at here
        cases here
    | ok final =>
      rw [visited] at here
      cases found : losses guide delta with
      | error failure =>
        rw [found] at here
        cases here
      | ok own =>
        rw [found] at here
        have came : final.removed = changes.removed ++ own := Except.ok.inj here
        have further := visitAllAfresh_losses guide rest final
        rw [came, ← onTop_onTop] at further
        exact further

end

def Told (guide : Guide φ) (deltas : List (Delta φ)) (uri : String) : Prop :=
  ∃ above below, Lies deltas above below ∧ (∀ upper ∈ above, ¬upper.Ignored guide) ∧
    below.Lost guide uri

theorem lies_node {subject below : Subject φ} {children : List (Delta φ)}
    {above : List (Subject φ)} :
    Lies [.node subject children] above below ↔
      above = [] ∧ below = subject ∨
        ∃ inner, above = subject :: inner ∧ Lies children inner below := by
  constructor
  · intro lies
    cases lies with
    | here => exact Or.inl ⟨rfl, rfl⟩
    | inside inner => exact Or.inr ⟨_, rfl, inner⟩
    | later others => cases others
  · rintro (⟨rfl, rfl⟩ | ⟨inner, rfl, lies⟩)
    · exact .here
    · exact .inside lies

theorem lies_cons {delta : Delta φ} {rest : List (Delta φ)} {above : List (Subject φ)}
    {below : Subject φ} :
    Lies (delta :: rest) above below ↔ Lies [delta] above below ∨ Lies rest above below := by
  constructor
  · intro lies
    cases lies with
    | here => exact Or.inl .here
    | inside inner => exact Or.inl (.inside inner)
    | later others => exact Or.inr others
  · rintro (lies | others)
    · cases lies with
      | here => exact .here
      | inside inner => exact .inside inner
      | later others => cases others
    · exact .later others

theorem told_node {guide : Guide φ} {subject : Subject φ} {children : List (Delta φ)}
    {uri : String} :
    Told guide [.node subject children] uri ↔
      subject.Lost guide uri ∨ ¬subject.Ignored guide ∧ Told guide children uri := by
  simp only [Told, lies_node]
  constructor
  · rintro ⟨above, below, ⟨rfl, rfl⟩ | ⟨inner, rfl, lies⟩, open_, lost⟩
    · exact Or.inl lost
    · rw [List.forall_mem_cons] at open_
      exact Or.inr ⟨open_.1, inner, below, lies, open_.2, lost⟩
  · rintro (lost | ⟨here, inner, below, lies, open_, lost⟩)
    · exact ⟨[], subject, Or.inl ⟨rfl, rfl⟩, List.forall_mem_nil _, lost⟩
    · refine ⟨subject :: inner, below, Or.inr ⟨inner, rfl, lies⟩, ?_, lost⟩
      exact List.forall_mem_cons.mpr ⟨here, open_⟩

theorem told_cons {guide : Guide φ} {delta : Delta φ} {rest : List (Delta φ)} {uri : String} :
    Told guide (delta :: rest) uri ↔ Told guide [delta] uri ∨ Told guide rest uri := by
  simp only [Told]
  constructor
  · rintro ⟨above, below, lies, open_, lost⟩
    rcases lies_cons.mp lies with here | others
    · exact Or.inl ⟨above, below, here, open_, lost⟩
    · exact Or.inr ⟨above, below, others, open_, lost⟩
  · rintro (⟨above, below, lies, open_, lost⟩ | ⟨above, below, lies, open_, lost⟩)
    · exact ⟨above, below, lies_cons.mpr (Or.inl lies), open_, lost⟩
    · exact ⟨above, below, lies_cons.mpr (Or.inr lies), open_, lost⟩

/-- A removed resource is told of wherever it is judged, excluded or not. -/
theorem lost_seen {guide : Guide φ} {subject : Subject φ} {cache after : Exclusion.Cache}
    {verdict : Verdict} {event : Option (FileEvent φ)}
    (seen : Seen guide subject cache verdict event after) {uri : String}
    (lost : subject.Lost guide uri) : verdict = .goOn ∧ event = some (.removed uri) := by
  obtain ⟨resource, path, counts, told, located⟩ := lost
  have asked : Seen guide subject (Trail.start cache).cache verdict event after := seen
  obtain ⟨next, judged, -⟩ := seen_judge asked
  rw [removed_judge counts told, judgeRemoved, located] at judged
  cases judged
  exact ⟨rfl, rfl⟩

theorem seen_lost {guide : Guide φ} {subject : Subject φ} {cache after : Exclusion.Cache}
    {verdict : Verdict} {event : Option (FileEvent φ)}
    (seen : Seen guide subject cache verdict event after) {uri : String} :
    uri ∈ lostAt event ↔ subject.Lost guide uri := by
  constructor
  · intro member
    cases seen with
    | @removed resource path location counts told located =>
      have same : location = uri := by simpa [lostAt, FileEvent.location?, eq_comm] using member
      subst same
      exact ⟨resource, path, counts, told, located⟩
    | ignored | lost | noFile | excluded | added | changed | unchanged =>
      simp [lostAt, FileEvent.location?] at member
  · intro lost
    obtain ⟨-, rfl⟩ := lost_seen seen lost
    simp [lostAt, FileEvent.location?]

theorem freely_seen {guide : Guide φ} {subject : Subject φ} {verdict : Verdict}
    {event : Option (FileEvent φ)} (judged : judgeFreely guide subject = .ok (verdict, event)) :
    ∃ after, Seen (guide.asking [always []]) subject unread.cache verdict event after := by
  rw [judgeFreely, ← judge_unread] at judged
  have spec := judge_spec (guide.asking [always []]) subject unread
  generalize judge (guide.asking [always []]) subject unread = answer at spec judged
  obtain ⟨answer, next⟩ := answer
  cases judged
  exact ⟨next.cache, spec⟩

theorem skipped_freely {guide : Guide φ} {subject : Subject φ} {event : Option (FileEvent φ)}
    (judged : judgeFreely guide subject = .ok (.skip, event)) : subject.Ignored guide := by
  obtain ⟨after, seen⟩ := freely_seen judged
  cases seen with
  | ignored at_ ignored => exact ⟨_, _, at_, ignored⟩
  | @excluded path kind file exclusions shows_ found covered =>
    rcases Exclusion.find_answering (Exclusion.always_answering []) unread.cache
      (guide.look file).project with ⟨usable, -⟩ | ⟨failure, -, fails⟩
    · cases found.symm.trans (Exclusion.find_nothing usable)
      cases covered
    · cases found.symm.trans fails

theorem counts_open {guide : Guide φ} {subject : Subject φ} {resource : Resource φ} {path : Path}
    (counts : subject.Counts guide resource path) : ¬subject.Ignored guide := by
  rintro ⟨other, another, ⟨shown, found⟩, ignored⟩
  obtain ⟨⟨here, at_⟩, counted⟩ := counts
  cases shown.symm.trans here
  cases found.symm.trans at_
  rw [counted] at ignored
  cases ignored

theorem entered_freely {guide : Guide φ} {subject : Subject φ} {event : Option (FileEvent φ)}
    (judged : judgeFreely guide subject = .ok (.goOn, event)) : ¬subject.Ignored guide := by
  obtain ⟨after, seen⟩ := freely_seen judged
  cases seen with
  | lost counts | removed counts | noFile counts => exact counts_open counts
  | added stays | changed stays | unchanged stays =>
    obtain ⟨path, exclusions, ⟨resource, counts, -⟩, -⟩ := stays
    exact counts_open counts

mutual

theorem losses_mem {guide : Guide φ} (delta : Delta φ) {found : List String}
    (free : losses guide delta = .ok found) (uri : String) :
    uri ∈ found ↔ Told guide [delta] uri := by
  match delta with
  | .node subject children =>
    rw [told_node]
    cases judged : judgeFreely guide subject with
    | error failure => cases (losses_refused judged children).symm.trans free
    | ok answer =>
      obtain ⟨verdict, event⟩ := answer
      obtain ⟨after, seen⟩ := freely_seen judged
      have own : uri ∈ lostAt event ↔ subject.Lost guide uri := seen_lost seen
      cases verdict with
      | skip =>
        cases (losses_skipped judged children).symm.trans free
        have ignored := skipped_freely judged
        simp [own, ignored]
      | goOn =>
        have open_ := entered_freely judged
        cases barrier : subject.barrier with
        | some failure => cases (losses_barred judged barrier children).symm.trans free
        | none =>
          rw [losses_entered judged barrier, onTop_ok] at free
          obtain ⟨inner, below, rfl⟩ := free
          rw [List.mem_append, own, lossesAll_mem children below]
          simp [open_]

theorem lossesAll_mem {guide : Guide φ} (deltas : List (Delta φ)) {found : List String}
    (free : lossesAll guide deltas = .ok found) (uri : String) :
    uri ∈ found ↔ Told guide deltas uri := by
  match deltas with
  | [] =>
    cases free
    constructor
    · exact nofun
    · rintro ⟨above, below, lies, -⟩
      cases lies
  | delta :: rest =>
    obtain ⟨first, more, own, others, rfl⟩ := lossesAll_ok.mp free
    rw [told_cons, List.mem_append, losses_mem delta own, lossesAll_mem rest others]

end

end Delta
end ChangeRelay
