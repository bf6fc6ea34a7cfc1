import ChangeRelay.Proofs.WalkResult

/-!
Only what a walk reads matters to it: trees that agree there come to the same changes and leave the
same cache. Together with how a walk ends, this is all that gathering changes from a tree does.
-/
namespace ChangeRelay.Delta

variable {φ : Type}

section
variable {guide : Guide φ} {subject other : Subject φ} {cache : Exclusion.Cache}

theorem same_isAt (same : SameReads guide subject other cache) {resource : Resource φ} {path : Path}
    (at_ : subject.IsAt resource path) :
    ∃ otherResource, other.IsAt otherResource path := by
  obtain ⟨shown, found⟩ := at_
  cases theirs : other.resource with
  | error failure =>
    have ours := (same .resource trivial failure).mpr theirs
    rw [shown] at ours
    cases ours
  | ok otherResource =>
    refine ⟨otherResource, theirs, ?_⟩
    have paths := same .path ⟨resource, shown⟩ resource otherResource shown theirs
    rw [paths, found]

theorem same_counts (same : SameReads guide subject other cache) {resource : Resource φ}
    {path : Path} (counts : subject.Counts guide resource path) :
    ∃ otherResource, other.Counts guide otherResource path := by
  obtain ⟨otherResource, at_⟩ := same_isAt same counts.1
  exact ⟨otherResource, at_, counts.2⟩

theorem same_kind (same : SameReads guide subject other cache) {resource : Resource φ} {path : Path}
    (counts : subject.Counts guide resource path) : other.kind = subject.kind :=
  same .kind ⟨resource, path, counts⟩

theorem same_shows (same : SameReads guide subject other cache) {path : Path} {kind : Kind}
    {file : φ} (shows_ : subject.Shows guide path kind file) :
    other.Shows guide path kind file := by
  obtain ⟨resource, counts, told, present, adapted⟩ := shows_
  obtain ⟨otherResource, theirs⟩ := same_counts same counts
  have files := same .file ⟨resource, path, kind, counts, told, present⟩ resource otherResource
    counts.1.1 theirs.1.1 file
  exact ⟨otherResource, theirs, (same_kind same counts).trans told, present, files.mp adapted⟩

theorem same_stays (same : SameReads guide subject other cache) {kind : Kind} {file : φ}
    (stays : subject.Stays guide cache kind file) : other.Stays guide cache kind file := by
  obtain ⟨path, exclusions, shows_, found, uncovered⟩ := stays
  exact ⟨path, exclusions, same_shows same shows_, found, uncovered⟩

theorem same_seen (same : SameReads guide subject other cache) {verdict : Verdict}
    {event : Option (FileEvent φ)} {after : Exclusion.Cache}
    (seen : Seen guide subject cache verdict event after) :
    Seen guide other cache verdict event after := by
  cases seen with
  | ignored at_ ignored =>
    obtain ⟨otherResource, theirs⟩ := same_isAt same at_
    exact .ignored theirs ignored
  | lost counts told location =>
    obtain ⟨otherResource, theirs⟩ := same_counts same counts
    have locations := same .location ⟨_, _, counts, told⟩ _ otherResource counts.1.1 theirs.1.1
    exact .lost theirs ((same_kind same counts).trans told) (locations.trans location)
  | removed counts told location =>
    obtain ⟨otherResource, theirs⟩ := same_counts same counts
    have locations := same .location ⟨_, _, counts, told⟩ _ otherResource counts.1.1 theirs.1.1
    exact .removed theirs ((same_kind same counts).trans told) (locations.trans location)
  | noFile counts told present noFile =>
    obtain ⟨otherResource, theirs⟩ := same_counts same counts
    have files := same .file ⟨_, _, _, counts, told, present⟩ _ otherResource counts.1.1 theirs.1.1
    refine .noFile theirs ((same_kind same counts).trans told) present ?_
    intro file adapted
    exact noFile file ((files file).mpr adapted)
  | excluded shows_ found covered => exact .excluded (same_shows same shows_) found covered
  | added stays => exact .added (same_stays same stays)
  | changed stays told interesting =>
    have flags := same .flags ⟨_, stays⟩
    exact .changed (same_stays same stays) (flags.trans told) interesting
  | unchanged stays told dull =>
    have flags := same .flags ⟨_, stays⟩
    exact .unchanged (same_stays same stays) (flags.trans told) dull

theorem same_refused (same : SameReads guide subject other cache) {read : Read} {failure : Failure}
    {after : Exclusion.Cache} (refused : Refused guide subject cache read failure after) :
    Refused guide other cache read failure after := by
  cases refused with
  | resource fails => exact .resource ((same .resource trivial failure).mp fails)
  | @path resource _ shown fails =>
    cases theirs : other.resource with
    | error cause =>
      have ours := (same .resource trivial cause).mpr theirs
      rw [shown] at ours
      cases ours
    | ok otherResource =>
      have paths := same .path ⟨resource, shown⟩ resource otherResource shown theirs
      exact .path theirs (paths.trans fails)
  | kind counts fails =>
    obtain ⟨otherResource, theirs⟩ := same_counts same counts
    exact .kind theirs ((same_kind same counts).trans fails)
  | location counts told fails =>
    obtain ⟨otherResource, theirs⟩ := same_counts same counts
    have locations := same .location ⟨_, _, counts, told⟩ _ otherResource counts.1.1 theirs.1.1
    exact .location theirs ((same_kind same counts).trans told) (locations.trans fails)
  | exclusions shows_ fails => exact .exclusions (same_shows same shows_) fails
  | flags stays fails =>
    have flags := same .flags ⟨_, stays⟩
    exact .flags (same_stays same stays) (flags.trans fails)

theorem same_barrier (same : SameReads guide subject other cache) {event : Option (FileEvent φ)}
    {after : Exclusion.Cache} (seen : Seen guide subject cache .goOn event after) :
    other.barrier = subject.barrier :=
  same .children ⟨event, after, seen⟩

end

theorem agree_visitAll {guide : Guide φ} {deltas others : List (Delta φ)} {cache : Exclusion.Cache}
    (agree : Agree guide deltas others cache) (changes : ChangeList φ) (trail otherTrail : Trail)
    (ours : trail.cache = cache) (theirs : otherTrail.cache = cache) :
    (visitAll guide others changes otherTrail).result =
        (visitAll guide deltas changes trail).result ∧
      (visitAll guide others changes otherTrail).trail.cache =
        (visitAll guide deltas changes trail).trail.cache := by
  induction agree generalizing changes trail otherTrail with
  | done => exact ⟨rfl, theirs.trans ours.symm⟩
  | refused same refused =>
    subst ours
    have otherRefused := same_refused same refused
    rw [← theirs] at otherRefused
    obtain ⟨after, judged, kept⟩ := refused_judge refused
    obtain ⟨otherAfter, otherJudged, otherKept⟩ := refused_judge otherRefused
    rw [visitAll_node, visitAll_node, judged, otherJudged]
    exact ⟨rfl, otherKept.trans kept.symm⟩
  | barred same seen barred =>
    subst ours
    have otherSeen := same_seen same seen
    rw [← theirs] at otherSeen
    obtain ⟨after, judged, kept⟩ := seen_judge seen
    obtain ⟨otherAfter, otherJudged, otherKept⟩ := seen_judge otherSeen
    rw [visitAll_node, visitAll_node, judged, otherJudged]
    simp only [same_barrier same seen, barred]
    exact ⟨trivial, otherKept.trans kept.symm⟩
  | skipped same seen others ih =>
    subst ours
    have otherSeen := same_seen same seen
    rw [← theirs] at otherSeen
    obtain ⟨after, judged, kept⟩ := seen_judge seen
    obtain ⟨otherAfter, otherJudged, otherKept⟩ := seen_judge otherSeen
    rw [visitAll_node, visitAll_node, judged, otherJudged]
    exact ih _ after otherAfter kept otherKept
  | entered same seen free others ih =>
    subst ours
    have otherSeen := same_seen same seen
    rw [← theirs] at otherSeen
    obtain ⟨after, judged, kept⟩ := seen_judge seen
    obtain ⟨otherAfter, otherJudged, otherKept⟩ := seen_judge otherSeen
    rw [visitAll_node, visitAll_node, judged, otherJudged]
    simp only [same_barrier same seen, free]
    exact ih _ after otherAfter kept otherKept

def walkFailure (cause : Failure) : Failure := if cause.isWalkFailure then cause else .walk cause

def Outcome.reported (outcome : Outcome φ) : Outcome φ :=
  { outcome with result := outcome.result.mapError walkFailure }

theorem walkFailure_isWalkFailure (cause : Failure) : (walkFailure cause).isWalkFailure = true := by
  unfold walkFailure
  split
  · assumption
  · rfl

theorem gather_reported (guide : Guide φ) (delta : Delta φ) (cache : Exclusion.Cache) :
    gather guide delta cache = (walk guide [delta] .empty (.start cache)).reported := by
  unfold gather Outcome.reported walkFailure
  obtain ⟨answer, ending⟩ := walk guide [delta] .empty (.start cache)
  cases answer with
  | ok changes => rfl
  | error cause =>
    simp only [Except.mapError]
    split <;> rfl

theorem visitAll_singleton (guide : Guide φ) (delta : Delta φ) (changes : ChangeList φ)
    (trail : Trail) : visitAll guide [delta] changes trail = visit guide delta changes trail := by
  simp only [visitAll]
  obtain ⟨answer, ending⟩ := visit guide delta changes trail
  cases answer <;> rfl

theorem reported_ok (outcome : Outcome φ) (changes : ChangeList φ) :
    outcome.reported.result = .ok changes ↔ outcome.result = .ok changes := by
  unfold Outcome.reported
  cases outcome.result <;> simp [Except.mapError]

theorem reported_error (outcome : Outcome φ) (failure : Failure) :
    outcome.reported.result = .error failure ↔
      ∃ cause, outcome.result = .error cause ∧ failure = walkFailure cause := by
  unfold Outcome.reported
  cases outcome.result <;> simp [Except.mapError, eq_comm]

theorem gather_ok_iff (guide : Guide φ) (delta : Delta φ) (cache after : Exclusion.Cache)
    (changes : ChangeList φ) :
    (gather guide delta cache).result = .ok changes ∧
        (gather guide delta cache).trail.cache = after ↔
      ∃ events, Walked guide [delta] cache events after ∧
        changes = events.foldl ChangeList.add .empty := by
  rw [gather_reported, reported_ok]
  exact walk_ok_iff guide [delta] .empty changes (.start cache) after

theorem gather_error_iff (guide : Guide φ) (delta : Delta φ) (cache after : Exclusion.Cache)
    (failure : Failure) :
    (gather guide delta cache).result = .error failure ∧
        (gather guide delta cache).trail.cache = after ↔
      ∃ place read cause, Broken guide [delta] cache place read cause after ∧
        failure = walkFailure cause := by
  have spec cause := walk_error_iff guide [delta] .empty cause (.start cache) after
  rw [gather_reported, reported_error]
  constructor
  · rintro ⟨⟨cause, result, same⟩, kept⟩
    obtain ⟨place, read, broken⟩ := (spec cause).mp ⟨result, kept⟩
    exact ⟨place, read, cause, broken, same⟩
  · rintro ⟨place, read, cause, broken, same⟩
    obtain ⟨result, kept⟩ := (spec cause).mpr ⟨place, read, broken⟩
    exact ⟨⟨cause, result, same⟩, kept⟩

theorem agree_gather {guide : Guide φ} {delta other : Delta φ} {cache : Exclusion.Cache}
    (agree : Agree guide [delta] [other] cache) :
    (gather guide other cache).result = (gather guide delta cache).result ∧
      (gather guide other cache).trail.cache = (gather guide delta cache).trail.cache := by
  obtain ⟨result, kept⟩ := agree_visitAll agree .empty (.start cache) (.start cache) rfl rfl
  rw [gather_reported, gather_reported, walk_eq_visitAll, walk_eq_visitAll]
  exact ⟨congrArg (·.mapError walkFailure) result, kept⟩

theorem changed_iff {guide : Guide φ} {subject : Subject φ} {trail : Trail} {file : φ} {flags : Int}
    (stays : subject.Stays guide trail.cache .changed file) (told : subject.flags = .ok flags) :
    (∃ event, (judge guide subject trail).1 = .ok (.goOn, some event)) ↔ Interesting flags := by
  constructor
  · rintro ⟨event, recorded⟩
    by_cases interesting : Interesting flags
    · exact interesting
    · obtain ⟨after, judged, -⟩ := seen_judge (.unchanged stays told interesting)
      rw [judged] at recorded
      cases recorded
  · intro interesting
    obtain ⟨after, judged, -⟩ := seen_judge (.changed stays told interesting)
    exact ⟨.changed file (.ofFlags flags), by rw [judged]⟩

/-- Gathering with a stack is the recursion over the tree. It comes to the events of the nodes that
are walked, and fails as soon as one of the reads on the way fails; no other read matters. -/
theorem gather_follows_recursion (guide : Guide φ) (delta : Delta φ) (cache : Exclusion.Cache) :
    gather guide delta cache = (visit guide delta .empty (.start cache)).reported ∧
      (∀ changes after,
        (gather guide delta cache).result = .ok changes ∧
            (gather guide delta cache).trail.cache = after ↔
          ∃ events, Walked guide [delta] cache events after ∧
            changes = events.foldl ChangeList.add .empty) ∧
      (∀ failure after,
        (gather guide delta cache).result = .error failure ∧
            (gather guide delta cache).trail.cache = after ↔
          ∃ place read cause, Broken guide [delta] cache place read cause after ∧
            failure = walkFailure cause) ∧
      (∀ failure, (gather guide delta cache).result = .error failure →
        failure.isWalkFailure = true) ∧
      (∀ other, Agree guide [delta] [other] cache →
        (gather guide other cache).result = (gather guide delta cache).result ∧
          (gather guide other cache).trail.cache = (gather guide delta cache).trail.cache) ∧
      ∀ subject trail file flags, Subject.Stays subject guide trail.cache .changed file →
        subject.flags = .ok flags →
          ((∃ event, (judge guide subject trail).1 = .ok (.goOn, some event)) ↔
            Interesting flags) := by
  refine ⟨?_, ?_, ?_, ?_, ?_, ?_⟩
  · rw [gather_reported, walk_eq_visitAll, visitAll_singleton]
  · intro changes after
    exact gather_ok_iff guide delta cache after changes
  · intro failure after
    exact gather_error_iff guide delta cache after failure
  · intro failure failed
    rw [gather_reported, reported_error] at failed
    obtain ⟨cause, -, same⟩ := failed
    rw [same]
    exact walkFailure_isWalkFailure cause
  · intro other agree
    exact agree_gather agree
  · intro subject trail file flags stays told
    exact changed_iff stays told

end ChangeRelay.Delta
