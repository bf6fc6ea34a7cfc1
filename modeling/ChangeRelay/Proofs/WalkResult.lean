import ChangeRelay.Proofs.WalkOrder

/-!
How a walk ends, told from the trees alone. It ends well exactly if its trees are `Walked`, and with
a failure exactly if they are `Broken`. Trees that agree wherever the walk reads end the same way.
-/
namespace ChangeRelay.Delta

variable {φ : Type}

theorem walk_spec (guide : Guide φ) (stack : List (Delta φ)) (changes : ChangeList φ)
    (trail : Trail) :
    match walk guide stack changes trail with
    | ⟨.ok final, ending⟩ => ∃ events, Walked guide stack trail.cache events ending.cache ∧
        final = events.foldl ChangeList.add changes
    | ⟨.error failure, ending⟩ =>
      ∃ place read, Broken guide stack trail.cache place read failure ending.cache := by
  fun_induction walk guide stack changes trail with
  | case1 changes trail => exact ⟨[], .done trail.cache, rfl⟩
  | case2 changes trail subject children rest failure after judged =>
    have spec := judge_spec guide subject trail
    rw [judged] at spec
    obtain ⟨read, refused⟩ := spec
    exact ⟨[0], read, .here refused⟩
  | case3 changes trail subject children rest event after judged ih =>
    have seen := judge_spec guide subject trail
    rw [judged] at seen
    split at ih
    · obtain ⟨events, walked, same⟩ := ih
      refine ⟨event.toList ++ events, .skipped seen walked, ?_⟩
      rw [same, record_eq, List.foldl_append]
    · obtain ⟨place, read, broken⟩ := ih
      obtain ⟨position, within, same⟩ := broken_place broken
      subst same
      have walked : Walked guide [.node subject children] trail.cache (event.toList ++ [])
          after.cache := .skipped seen (.done _)
      exact ⟨(position + 1) :: within, read, .later walked broken⟩
  | case4 changes trail subject children rest event after failure barrier judged =>
    have seen := judge_spec guide subject trail
    rw [judged] at seen
    exact ⟨[0], .children, .barred seen barrier⟩
  | case5 changes trail subject children rest event after barrier judged ih =>
    have seen := judge_spec guide subject trail
    rw [judged] at seen
    rw [pushChildren_eq] at ih ⊢
    split at ih
    · obtain ⟨events, walked, same⟩ := ih
      obtain ⟨inner, outer, between, below, others, joined⟩ := walked_split walked
      refine ⟨event.toList ++ inner ++ outer, .entered seen barrier below others, ?_⟩
      rw [same, joined, record_eq]
      simp only [List.foldl_append]
    · obtain ⟨place, read, broken⟩ := ih
      rcases broken_split broken with inner | ⟨events, between, position, within, below, others⟩
      · exact ⟨0 :: place, read, .inside seen barrier inner⟩
      · have walked : Walked guide [.node subject children] trail.cache
            (event.toList ++ events ++ []) between := .entered seen barrier below (.done _)
        exact ⟨(position + 1) :: within, read, .later walked others⟩

theorem walked_visitAll {guide : Guide φ} {deltas : List (Delta φ)} {events : List (FileEvent φ)}
    {before after : Exclusion.Cache} (walked : Walked guide deltas before events after)
    (changes : ChangeList φ) (trail : Trail) (same : trail.cache = before) :
    ∃ ending, visitAll guide deltas changes trail =
      ⟨.ok (events.foldl ChangeList.add changes), ending⟩ ∧ ending.cache = after := by
  induction walked generalizing changes trail with
  | done cache => exact ⟨trail, rfl, same⟩
  | skipped seen others ih =>
    subst same
    obtain ⟨between, judged, kept⟩ := seen_judge seen
    obtain ⟨ending, visited, last⟩ := ih (record changes _) between kept
    refine ⟨ending, ?_, last⟩
    rw [visitAll_node, judged]
    simp only
    rw [visited, record_eq, List.foldl_append]
  | entered seen free below others ihBelow ihOthers =>
    subst same
    obtain ⟨between, judged, kept⟩ := seen_judge seen
    obtain ⟨middle, entered, inside⟩ := ihBelow (record changes _) between kept
    obtain ⟨ending, visited, last⟩ := ihOthers _ middle inside
    refine ⟨ending, ?_, last⟩
    rw [visitAll_node, judged]
    simp only [free]
    rw [visitAll_append, entered]
    simp only
    rw [visited, record_eq, List.foldl_append, List.foldl_append]

theorem broken_visitAll {guide : Guide φ} {deltas : List (Delta φ)} {place : List Nat} {read : Read}
    {failure : Failure} {before after : Exclusion.Cache}
    (broken : Broken guide deltas before place read failure after)
    (changes : ChangeList φ) (trail : Trail) (same : trail.cache = before) :
    ∃ ending, visitAll guide deltas changes trail = ⟨.error failure, ending⟩ ∧
      ending.cache = after := by
  induction broken generalizing changes trail with
  | here refused =>
    subst same
    obtain ⟨ending, judged, last⟩ := refused_judge refused
    refine ⟨ending, ?_, last⟩
    rw [visitAll_node, judged]
  | barred seen barred =>
    subst same
    obtain ⟨ending, judged, last⟩ := seen_judge seen
    refine ⟨ending, ?_, last⟩
    rw [visitAll_node, judged]
    simp only [barred]
  | inside seen free inner ih =>
    subst same
    obtain ⟨between, judged, kept⟩ := seen_judge seen
    obtain ⟨ending, visited, last⟩ := ih (record changes _) between kept
    refine ⟨ending, ?_, last⟩
    rw [visitAll_node, judged]
    simp only [free]
    rw [visitAll_append, visited]
  | @later delta rest events position place read failure before between after walked others ih =>
    obtain ⟨middle, passed, kept⟩ := walked_visitAll walked changes trail same
    obtain ⟨ending, visited, last⟩ := ih _ middle kept
    refine ⟨ending, ?_, last⟩
    rw [← List.singleton_append, visitAll_append, passed]
    exact visited

theorem walk_ok_iff (guide : Guide φ) (deltas : List (Delta φ)) (changes final : ChangeList φ)
    (trail : Trail) (after : Exclusion.Cache) :
    (walk guide deltas changes trail).result = .ok final ∧
        (walk guide deltas changes trail).trail.cache = after ↔
      ∃ events, Walked guide deltas trail.cache events after ∧
        final = events.foldl ChangeList.add changes := by
  constructor
  · rintro ⟨result, kept⟩
    have spec := walk_spec guide deltas changes trail
    revert spec result kept
    obtain ⟨answer, ending⟩ := walk guide deltas changes trail
    rintro result kept spec
    subst kept
    cases result
    exact spec
  · rintro ⟨events, walked, same⟩
    obtain ⟨ending, visited, last⟩ := walked_visitAll walked changes trail rfl
    rw [walk_eq_visitAll, visited, same]
    exact ⟨rfl, last⟩

theorem walk_error_iff (guide : Guide φ) (deltas : List (Delta φ)) (changes : ChangeList φ)
    (failure : Failure) (trail : Trail) (after : Exclusion.Cache) :
    (walk guide deltas changes trail).result = .error failure ∧
        (walk guide deltas changes trail).trail.cache = after ↔
      ∃ place read, Broken guide deltas trail.cache place read failure after := by
  constructor
  · rintro ⟨result, kept⟩
    have spec := walk_spec guide deltas changes trail
    revert spec result kept
    obtain ⟨answer, ending⟩ := walk guide deltas changes trail
    rintro result kept spec
    subst kept
    cases result
    exact spec
  · rintro ⟨place, read, broken⟩
    obtain ⟨ending, visited, last⟩ := broken_visitAll broken changes trail rfl
    rw [walk_eq_visitAll, visited]
    exact ⟨rfl, last⟩

end ChangeRelay.Delta
