import ChangeRelay.Proofs.AfreshWalk

/-!
Caches of exclusions that come to the same. What a cache has in effect for a scope is its entry or,
if there is none, what the providers answer when they are asked. A look-up fills in entries but
leaves what is in effect; so a walk comes to the same with any two caches that have the same in
effect, however many entries one of them lacks.
-/
namespace ChangeRelay

namespace Exclusion

/-- What a cache has in effect for a scope, given what the providers answer. -/
def inEffect (answers : Answers) (cache : Cache) (scope : Value) : Except Failure (List Path) :=
  match cache.get? scope with
  | some paths => .ok paths
  | none => answers scope

def SameInEffect (answers : Answers) (ours theirs : Cache) : Prop :=
  ∀ scope, SameAnswer (inEffect answers ours scope) (inEffect answers theirs scope)

section
variable {answers : Answers} {ours theirs : Cache}

theorem SameInEffect.refl (answers : Answers) (cache : Cache) : SameInEffect answers cache cache :=
  fun _ => SameAnswer.refl _

theorem SameInEffect.symm (same : SameInEffect answers ours theirs) :
    SameInEffect answers theirs ours :=
  fun scope => (same scope).symm

theorem SameInEffect.trans {third : Cache} (one : SameInEffect answers ours theirs)
    (two : SameInEffect answers theirs third) : SameInEffect answers ours third :=
  fun scope => (one scope).trans (two scope)

theorem inEffect_register (cache : Cache) (scope other : Value) :
    inEffect answers (cache.register scope) other = inEffect answers cache other := by
  rw [inEffect, ScopeStore.get?_register, inEffect]

section
variable {providers : List Provider} {cache after : Cache} {project : Project}
  {answer : Except Failure (List Path)}

theorem FoundAs.leaves (found : FoundAs providers cache project answer after)
    (lasts : ∀ paths, unionOf providers project = .ok paths →
      SameAnswer (.ok paths) (answers project.scope)) :
    SameInEffect answers cache after := by
  intro scope
  cases found with
  | unusable => exact SameAnswer.refl _
  | kept | failed =>
    rw [inEffect_register]
    exact SameAnswer.refl _
  | united usable nothing answered =>
    rw [← unionOf_usable usable] at answered
    unfold inEffect
    rw [ScopeStore.get?_put, ScopeStore.get?_register]
    by_cases here : project.scope = scope
    · rw [if_pos here, ← here, nothing]
      exact (lasts _ answered).symm
    · rw [if_neg here]
      exact SameAnswer.refl _

/-- A look-up comes to what is in effect for the project's scope. -/
theorem FoundAs.comesTo (found : FoundAs providers cache project answer after)
    (upholds : SameAnswer (unionOf providers project) (answers project.scope))
    (usable : project.checkScope = .ok ()) :
    SameAnswer answer (inEffect answers cache project.scope) := by
  rw [unionOf_usable usable] at upholds
  cases found with
  | unusable unusable =>
    rw [usable] at unusable
    cases unusable
  | kept _ held =>
    rw [inEffect, held]
    exact SameAnswer.refl _
  | failed _ nothing fails =>
    rw [inEffect, nothing, ← fails]
    exact upholds
  | united _ nothing answered =>
    rw [inEffect, nothing, ← answered]
    exact upholds

end

theorem find_same {providers : List Provider} {project : Project}
    (upholds : SameAnswer (unionOf providers project) (answers project.scope))
    (same : SameInEffect answers ours theirs) :
    SameAnswer (find providers ours project).paths (find providers theirs project).paths ∧
      SameInEffect answers (find providers ours project).cache
        (find providers theirs project).cache := by
  have lasts : ∀ paths, unionOf providers project = .ok paths →
      SameAnswer (.ok paths) (answers project.scope) := by
    intro paths united
    rw [← united]
    exact upholds
  constructor
  · cases usable : project.checkScope with
    | error failure =>
      simp only [find, usable]
      exact SameAnswer.refl _
    | ok _ =>
      have mine := (find_spec providers ours project).comesTo upholds usable
      have yours := (find_spec providers theirs project).comesTo upholds usable
      exact (mine.trans (same project.scope)).trans yours.symm
  · have mine := (find_spec providers ours project).leaves lasts
    have yours := (find_spec providers theirs project).leaves lasts
    exact (mine.symm.trans same).trans yours

theorem invalidate_inEffect {next : Answers} {scope : Value}
    (others : ∀ other, other ≠ scope → next other = answers other)
    (same : SameInEffect answers ours theirs) :
    SameInEffect next (ours.invalidate scope) (theirs.invalidate scope) := by
  intro other
  unfold inEffect
  rw [ScopeStore.get?_invalidate, ScopeStore.get?_invalidate]
  by_cases here : scope = other
  · simp only [if_pos here]
    exact SameAnswer.refl _
  · simp only [if_neg here, others other (Ne.symm here)]
    exact same other

end

end Exclusion

namespace Delta

variable {φ : Type}

/- Two caches for which every look-up comes to the same, and leaves two such caches. -/
section
variable {guide : Guide φ} {alike : Exclusion.Cache → Exclusion.Cache → Prop}
  (finds : ∀ {ours theirs : Exclusion.Cache} (file : φ), alike ours theirs →
    Exclusion.SameAnswer (guide.find ours file).paths (guide.find theirs file).paths ∧
      alike (guide.find ours file).cache (guide.find theirs file).cache)
include finds

theorem alike_found {ours theirs : Exclusion.Cache} (both : alike ours theirs) {file : φ}
    {exclusions : List Path} (found : (guide.find ours file).paths = .ok exclusions) (path : Path) :
    ∃ others, (guide.find theirs file).paths = .ok others ∧
      Exclusion.covers others path = Exclusion.covers exclusions path := by
  have same := (finds file both).1
  rw [found] at same
  cases answer : (guide.find theirs file).paths with
  | error failure =>
    rw [answer] at same
    exact same.elim
  | ok others =>
    rw [answer] at same
    exact ⟨others, rfl, (Exclusion.covers_same same path).symm⟩

theorem alike_stays {ours theirs : Exclusion.Cache} (both : alike ours theirs)
    {subject : Subject φ} {kind : Kind} {file : φ} (stays : subject.Stays guide ours kind file) :
    subject.Stays guide theirs kind file := by
  obtain ⟨path, exclusions, shows_, found, uncovered⟩ := stays
  obtain ⟨others, answer, covered⟩ := alike_found finds both found path
  exact ⟨path, others, shows_, answer, covered.trans uncovered⟩

theorem alike_seen {ours theirs after : Exclusion.Cache} (both : alike ours theirs)
    {subject : Subject φ} {verdict : Verdict} {event : Option (FileEvent φ)}
    (seen : Seen guide subject ours verdict event after) :
    ∃ afterwards, Seen guide subject theirs verdict event afterwards ∧ alike after afterwards := by
  cases seen with
  | ignored at_ ignored => exact ⟨theirs, .ignored at_ ignored, both⟩
  | lost counts told location => exact ⟨theirs, .lost counts told location, both⟩
  | removed counts told location => exact ⟨theirs, .removed counts told location, both⟩
  | noFile counts told present noFile => exact ⟨theirs, .noFile counts told present noFile, both⟩
  | excluded shows_ found covered =>
    obtain ⟨others, answer, same⟩ := alike_found finds both found _
    exact ⟨_, .excluded shows_ answer (same.trans covered), (finds _ both).2⟩
  | added stays => exact ⟨_, .added (alike_stays finds both stays), (finds _ both).2⟩
  | changed stays told interesting =>
    exact ⟨_, .changed (alike_stays finds both stays) told interesting, (finds _ both).2⟩
  | unchanged stays told dull =>
    exact ⟨_, .unchanged (alike_stays finds both stays) told dull, (finds _ both).2⟩

theorem alike_refused {ours theirs after : Exclusion.Cache} (both : alike ours theirs)
    {subject : Subject φ} {read : Read} {failure : Failure}
    (refused : Refused guide subject ours read failure after) :
    ∃ afterwards,
      Refused guide subject theirs read failure afterwards ∧ alike after afterwards := by
  cases refused with
  | resource fails => exact ⟨theirs, .resource fails, both⟩
  | path shown fails => exact ⟨theirs, .path shown fails, both⟩
  | kind counts fails => exact ⟨theirs, .kind counts fails, both⟩
  | location counts told fails => exact ⟨theirs, .location counts told fails, both⟩
  | @exclusions _ _ file _ shows_ fails =>
    obtain ⟨same, further⟩ := finds file both
    rw [fails] at same
    cases answer : (guide.find theirs file).paths with
    | ok others =>
      rw [answer] at same
      exact same.elim
    | error cause =>
      rw [answer] at same
      cases same
      exact ⟨_, .exclusions shows_ answer, further⟩
  | flags stays fails => exact ⟨_, .flags (alike_stays finds both stays) fails, (finds _ both).2⟩

theorem alike_walked {deltas : List (Delta φ)} {ours theirs after : Exclusion.Cache}
    {events : List (FileEvent φ)} (walked : Walked guide deltas ours events after)
    (both : alike ours theirs) :
    ∃ afterwards, Walked guide deltas theirs events afterwards ∧ alike after afterwards := by
  induction walked generalizing theirs with
  | done => exact ⟨theirs, .done theirs, both⟩
  | skipped seen _ ih =>
    obtain ⟨between, theirSeen, still⟩ := alike_seen finds both seen
    obtain ⟨afterwards, others, last⟩ := ih still
    exact ⟨afterwards, .skipped theirSeen others, last⟩
  | entered seen free _ _ ihBelow ihOthers =>
    obtain ⟨between, theirSeen, still⟩ := alike_seen finds both seen
    obtain ⟨within, below, inside⟩ := ihBelow still
    obtain ⟨afterwards, others, last⟩ := ihOthers inside
    exact ⟨afterwards, .entered theirSeen free below others, last⟩

theorem alike_broken {deltas : List (Delta φ)} {ours theirs after : Exclusion.Cache}
    {place : List Nat} {read : Read} {failure : Failure}
    (broken : Broken guide deltas ours place read failure after) (both : alike ours theirs) :
    ∃ afterwards, Broken guide deltas theirs place read failure afterwards ∧
      alike after afterwards := by
  induction broken generalizing theirs with
  | here refused =>
    obtain ⟨afterwards, theirRefused, last⟩ := alike_refused finds both refused
    exact ⟨afterwards, .here theirRefused, last⟩
  | barred seen barred =>
    obtain ⟨afterwards, theirSeen, last⟩ := alike_seen finds both seen
    exact ⟨afterwards, .barred theirSeen barred, last⟩
  | inside seen free _ ih =>
    obtain ⟨between, theirSeen, still⟩ := alike_seen finds both seen
    obtain ⟨afterwards, inner, last⟩ := ih still
    exact ⟨afterwards, .inside theirSeen free inner, last⟩
  | later walked _ ih =>
    obtain ⟨between, passed, still⟩ := alike_walked finds walked both
    obtain ⟨afterwards, others, last⟩ := ih still
    exact ⟨afterwards, .later passed others, last⟩

/-- A notification is classified alike, or fails alike, with either cache. -/
theorem alike_gather (delta : Delta φ) {ours theirs : Exclusion.Cache} (both : alike ours theirs) :
    (gather guide delta theirs).result = (gather guide delta ours).result ∧
      alike (gather guide delta ours).trail.cache (gather guide delta theirs).trail.cache := by
  cases answered : (gather guide delta ours).result with
  | ok changes =>
    obtain ⟨events, walked, same⟩ :=
      (gather_ok_iff guide delta ours _ changes).mp ⟨answered, rfl⟩
    obtain ⟨afterwards, theirWalked, last⟩ := alike_walked finds walked both
    obtain ⟨result, kept⟩ :=
      (gather_ok_iff guide delta theirs afterwards changes).mpr ⟨events, theirWalked, same⟩
    exact ⟨result, kept ▸ last⟩
  | error failure =>
    obtain ⟨place, read, cause, broken, same⟩ :=
      (gather_error_iff guide delta ours _ failure).mp ⟨answered, rfl⟩
    obtain ⟨afterwards, theirBroken, last⟩ := alike_broken finds broken both
    obtain ⟨result, kept⟩ := (gather_error_iff guide delta theirs afterwards failure).mpr
      ⟨place, read, cause, theirBroken, same⟩
    exact ⟨result, kept ▸ last⟩

end

/-- What a walk may make of a cache: nothing is lost or replaced, and where there was no entry,
there may be one with all that the providers name for the project of some file. -/
structure Grown (guide : Guide φ) (before after : Exclusion.Cache) : Prop where
  generations : after.generations = before.generations
  entries : ∀ scope, ScopeStore.getAt after.entries scope = ScopeStore.getAt before.entries scope ∨
    before.get? scope = none ∧ ∃ file paths, (guide.look file).project.scope = scope ∧
      Exclusion.Whole guide.providers (guide.look file).project paths ∧
      ScopeStore.getAt after.entries scope = some (some paths)

theorem Grown.refl (guide : Guide φ) (cache : Exclusion.Cache) : Grown guide cache cache :=
  ⟨rfl, fun _ => Or.inl rfl⟩

theorem Grown.trans {guide : Guide φ} {before between after : Exclusion.Cache}
    (one : Grown guide before between) (two : Grown guide between after) :
    Grown guide before after := by
  refine ⟨two.generations.trans one.generations, ?_⟩
  intro scope
  rcases one.entries scope with kept | ⟨nothing, file, paths, owner, whole, entry⟩
  · rcases two.entries scope with same | ⟨nothing, gained⟩
    · exact Or.inl (same.trans kept)
    · rw [ScopeStore.get?, kept] at nothing
      exact Or.inr ⟨nothing, gained⟩
  · rcases two.entries scope with same | ⟨lacking, -⟩
    · exact Or.inr ⟨nothing, file, paths, owner, whole, same.trans entry⟩
    · rw [ScopeStore.get?, entry] at lacking
      cases lacking

theorem found_grown {guide : Guide φ} {cache after : Exclusion.Cache} {file : φ}
    {answer : Except Failure (List Path)}
    (found : Exclusion.FoundAs guide.providers cache (guide.look file).project answer after) :
    Grown guide cache after := by
  have registered := ScopeStore.generations_register cache (guide.look file).project.scope
  cases found with
  | unusable => exact Grown.refl guide cache
  | kept | failed =>
    refine ⟨registered, ?_⟩
    intro scope
    exact Or.inl (by rw [ScopeStore.entries_register])
  | @united paths _ nothing answered =>
    refine ⟨registered, ?_⟩
    intro scope
    rw [ScopeStore.entries_put, ScopeStore.entries_register]
    by_cases here : (guide.look file).project.scope = scope
    · subst here
      exact Or.inr ⟨nothing, file, paths, rfl, Exclusion.whole_of_askAll answered, if_pos rfl⟩
    · exact Or.inl (if_neg here)

theorem gather_grown (guide : Guide φ) (delta : Delta φ) (cache : Exclusion.Cache) :
    Grown guide cache (gather guide delta cache).trail.cache := by
  have stays : ∀ between file, Grown guide cache between →
      Grown guide cache (guide.find between file).cache := by
    intro between file grown
    exact grown.trans (found_grown (Exclusion.find_spec _ between _))
  exact gather_kept stays delta (Grown.refl guide cache)

end Delta
end ChangeRelay
