import ChangeRelay.Proofs.DeliveryOrder
import ChangeRelay.Proofs.ExclusionLookUps
import ChangeRelay.Proofs.WalkAgreement

/-!
Without providers of exclusions nothing is ever excluded. Entries are computed and kept all the
same, but each of them is empty, whatever a relay is notified of and whether or not a walk fails.
-/
namespace ChangeRelay

namespace Exclusion

def HoldsNone (cache : Cache) : Prop :=
  ∀ scope exclusions, cache.get? scope = some exclusions → exclusions = []

theorem put_holdsNone {cache : Cache} (holds : HoldsNone cache) (scope : Value) :
    HoldsNone (cache.put scope (some [])) := by
  intro other exclusions found
  rw [ScopeStore.get?_put] at found
  split at found
  · exact (Option.some.inj found).symm
  · exact holds other exclusions found

theorem register_holdsNone {cache : Cache} (holds : HoldsNone cache) (scope : Value) :
    HoldsNone (cache.register scope) := by
  intro other exclusions found
  rw [ScopeStore.get?_register] at found
  exact holds other exclusions found

theorem FoundAs.holdsNone {cache after : Cache} {project : Project}
    {answer : Except Failure (List Path)} (found : FoundAs [] cache project answer after)
    (holds : HoldsNone cache) :
    HoldsNone after ∧ (project.checkScope = .ok () → answer = .ok []) := by
  have ready := register_holdsNone holds project.scope
  cases found with
  | unusable unusable =>
    refine ⟨holds, ?_⟩
    intro usable
    rw [usable] at unusable
    cases unusable
  | kept _ held =>
    have nothing := holds project.scope _ held
    exact ⟨ready, fun _ => congrArg Except.ok nothing⟩
  | failed _ _ fails => cases fails
  | united _ _ answered =>
    cases answered
    exact ⟨put_holdsNone ready project.scope, fun _ => rfl⟩

theorem find_without_providers {cache : Cache} (holds : HoldsNone cache) (project : Project) :
    HoldsNone (find [] cache project).cache ∧
      (project.checkScope = .ok () → (find [] cache project).paths = .ok []) :=
  (find_spec [] cache project).holdsNone holds

end Exclusion

namespace Delta

variable {φ : Type}

section
variable {guide : Guide φ} {kept : Exclusion.Cache → Prop}
  (stays : ∀ cache file, kept cache → kept (guide.find cache file).cache)
include stays

theorem seen_kept {subject : Subject φ} {before after : Exclusion.Cache} {verdict : Verdict}
    {event : Option (FileEvent φ)} (seen : Seen guide subject before verdict event after)
    (good : kept before) : kept after := by
  cases seen with
  | ignored | lost | removed | noFile => exact good
  | excluded | added | changed | unchanged => exact stays _ _ good

theorem refused_kept {subject : Subject φ} {before after : Exclusion.Cache} {read : Read}
    {failure : Failure} (refused : Refused guide subject before read failure after)
    (good : kept before) : kept after := by
  cases refused with
  | resource | path | kind | location => exact good
  | exclusions | flags => exact stays _ _ good

theorem walked_kept {deltas : List (Delta φ)} {before after : Exclusion.Cache}
    {events : List (FileEvent φ)} (walked : Walked guide deltas before events after)
    (good : kept before) : kept after := by
  induction walked with
  | done => exact good
  | skipped seen _ ih => exact ih (seen_kept stays seen good)
  | entered seen _ _ _ ihBelow ihOthers => exact ihOthers (ihBelow (seen_kept stays seen good))

theorem broken_kept {deltas : List (Delta φ)} {before after : Exclusion.Cache} {place : List Nat}
    {read : Read} {failure : Failure} (broken : Broken guide deltas before place read failure after)
    (good : kept before) : kept after := by
  induction broken with
  | here refused => exact refused_kept stays refused good
  | barred seen _ => exact seen_kept stays seen good
  | inside seen _ _ ih => exact ih (seen_kept stays seen good)
  | later walked _ ih => exact ih (walked_kept stays walked good)

theorem gather_kept (delta : Delta φ) {cache : Exclusion.Cache} (good : kept cache) :
    kept (gather guide delta cache).trail.cache := by
  cases answered : (gather guide delta cache).result with
  | ok changes =>
    obtain ⟨events, walked, -⟩ := (gather_ok_iff guide delta cache _ changes).mp ⟨answered, rfl⟩
    exact walked_kept stays walked good
  | error failure =>
    obtain ⟨place, read, cause, broken, -⟩ :=
      (gather_error_iff guide delta cache _ failure).mp ⟨answered, rfl⟩
    exact broken_kept stays broken good

end

end Delta

namespace Relay

variable {φ : Type}

open Exclusion (HoldsNone)

theorem notify_exclusions (relay : Relay φ) (around : Surroundings φ) (delta : Delta φ) :
    (relay.notify around delta).1.exclusions =
      (Delta.gather (relay.guide around) delta relay.exclusions).trail.cache := by
  simp only [notify]
  split
  · rfl
  · split
    · rfl
    · split <;> rfl

namespace World

end World
end Relay
end ChangeRelay
