import ChangeRelay.Proofs.WalkReads

/-!
The walk with a stack is the walk by recursion, and it ends as `Walked` and `Broken` say. A stack
holds exactly what the recursion has still to visit, so both follow from one induction on it.
-/
namespace ChangeRelay.Delta

variable {φ : Type}

theorem bit_iff (flags : Int) (bit : Nat) :
    flags.testBit bit = true ↔ flags / 2 ^ bit % 2 = 1 := by
  cases flags with
  | ofNat n =>
    simp only [Int.testBit, Nat.testBit_eq_decide_div_mod_eq, decide_eq_true_eq,
      Int.ofNat_eq_natCast]
    norm_cast
  | negSucc n =>
    have floor : Int.negSucc n / 2 ^ bit = -((n / 2 ^ bit : Nat) + 1 : Int) := by
      rw [Int.negSucc_ediv n (Int.pow_pos (by decide))]
      push_cast
      rfl
    rw [floor, Int.testBit, Nat.testBit_eq_decide_div_mod_eq]
    generalize n / 2 ^ bit = quotient
    simp only [Bool.not_eq_true', decide_eq_false_iff_not]
    omega

theorem interesting_iff (flags : Int) :
    (Reasons.ofFlags flags).isEmpty = false ↔ Interesting flags := by
  simp only [Interesting, bit_iff, Reasons.isEmpty, Reasons.ofFlags]
  simp
  omega

theorem exclusions_eq (guide : Guide φ) (trail : Trail) (file : φ) :
    trail.exclusions guide.providers (guide.look file).project =
      ((guide.find trail.cache file).paths,
        ⟨(guide.find trail.cache file).cache,
          trail.notices ++ (guide.find trail.cache file).notices,
          trail.asked ++ (guide.find trail.cache file).asked.toList⟩) := rfl

theorem judgePresent_spec (guide : Guide φ) {subject : Subject φ} {kind : Kind} {file : φ}
    {cache : Exclusion.Cache} (stays : subject.Stays guide cache kind file) (trail : Trail)
    (same : trail.cache = (guide.find cache file).cache) :
    match judgePresent guide subject kind file trail with
    | (.ok (verdict, event), after) => Seen guide subject cache verdict event after.cache
    | (.error failure, after) => ∃ read, Refused guide subject cache read failure after.cache := by
  cases kind with
  | added =>
    simp only [judgePresent, if_true, Trail.note, same]
    exact .added stays
  | removed =>
    obtain ⟨path, exclusions, ⟨resource, counts, told, present, adapted⟩, -, -⟩ := stays
    exact absurd rfl present
  | changed =>
    cases told : subject.flags with
    | error failure =>
      simp only [judgePresent, reduceCtorEq, if_false, told, same]
      exact ⟨.flags, .flags stays told⟩
    | ok flags =>
      cases dull : (Reasons.ofFlags flags).isEmpty with
      | true =>
        have not : ¬Interesting flags := by
          intro interesting
          rw [(interesting_iff flags).mpr interesting] at dull
          cases dull
        simp only [judgePresent, reduceCtorEq, if_false, told, dull, if_true, same]
        exact .unchanged stays told not
      | false =>
        simp only [judgePresent, reduceCtorEq, if_false, told, dull, Bool.false_eq_true,
          Trail.noteAll, same]
        exact .changed stays told ((interesting_iff flags).mp dull)

theorem judgeFile_spec (guide : Guide φ) {subject : Subject φ} {path : Path} {kind : Kind}
    {file : φ} (trail : Trail) (shows_ : subject.Shows guide path kind file) :
    match judgeFile guide subject path kind file trail with
    | (.ok (verdict, event), after) => Seen guide subject trail.cache verdict event after.cache
    | (.error failure, after) =>
      ∃ read, Refused guide subject trail.cache read failure after.cache := by
  rw [judgeFile, exclusions_eq]
  cases found : (guide.find trail.cache file).paths with
  | error failure => exact ⟨.exclusions, .exclusions shows_ found⟩
  | ok exclusions =>
    cases covered : Exclusion.covers exclusions path with
    | true =>
      simp only [covered, if_true]
      exact .excluded shows_ found covered
    | false =>
      simp only [covered, Bool.false_eq_true, if_false]
      exact judgePresent_spec guide ⟨path, exclusions, shows_, found, covered⟩ _ rfl

theorem judge_spec (guide : Guide φ) (subject : Subject φ) (trail : Trail) :
    match judge guide subject trail with
    | (.ok (verdict, event), after) => Seen guide subject trail.cache verdict event after.cache
    | (.error failure, after) =>
      ∃ read, Refused guide subject trail.cache read failure after.cache := by
  cases shown : subject.resource with
  | error failure =>
    simp only [judge, shown]
    exact ⟨.resource, .resource shown⟩
  | ok resource =>
    cases found : resource.workspacePath with
    | error failure =>
      simp only [judge, shown, found]
      exact ⟨.path, .path shown found⟩
    | ok path =>
      cases ignored : Exclusion.passesThrough guide.ignoredFolders path with
      | true =>
        simp only [judge, shown, found, ignored, if_true]
        exact .ignored ⟨shown, found⟩ ignored
      | false =>
        have counts : subject.Counts guide resource path := ⟨⟨shown, found⟩, ignored⟩
        cases told : subject.kind with
        | error failure =>
          simp only [judge, shown, found, ignored, told]
          exact ⟨.kind, .kind counts told⟩
        | ok kind =>
          by_cases gone : kind = .removed
          · subst gone
            have judged : judge guide subject trail = judgeRemoved resource trail := by
              simp [judge, shown, found, ignored, told]
            rw [judged, judgeRemoved]
            cases located : resource.location with
            | error failure => exact ⟨.location, .location counts told located⟩
            | ok location =>
              cases location with
              | none => exact .lost counts told located
              | some uri => exact .removed counts told located
          · cases adapted : resource.file with
            | error failure =>
              simp only [judge, shown, found, ignored, told, adapted, gone]
              exact .noFile counts told gone (by simp [adapted])
            | ok answer =>
              cases answer with
              | none =>
                simp only [judge, shown, found, ignored, told, adapted, gone]
                exact .noFile counts told gone (by simp [adapted])
              | some file =>
                have judged : judge guide subject trail =
                    judgeFile guide subject path kind file trail := by
                  simp [judge, shown, found, ignored, told, adapted, gone]
                rw [judged]
                exact judgeFile_spec guide trail ⟨resource, counts, told, gone, adapted⟩

theorem counts_judge {guide : Guide φ} {subject : Subject φ} {resource : Resource φ} {path : Path}
    (counts : subject.Counts guide resource path) {kind : Kind} (told : subject.kind = .ok kind)
    (present : kind ≠ .removed) (trail : Trail) :
    judge guide subject trail =
      match resource.file with
      | .error failure => (.ok (.goOn, none), trail.note (.notAdapted path failure))
      | .ok none => (.ok (.goOn, none), trail)
      | .ok (some file) => judgeFile guide subject path kind file trail := by
  obtain ⟨⟨shown, found⟩, counted⟩ := counts
  cases adapted : resource.file with
  | error failure => simp [judge, shown, found, counted, told, present, adapted]
  | ok answer =>
    cases answer with
    | none => simp [judge, shown, found, counted, told, present, adapted]
    | some file => simp [judge, shown, found, counted, told, present, adapted]

theorem removed_judge {guide : Guide φ} {subject : Subject φ} {resource : Resource φ} {path : Path}
    (counts : subject.Counts guide resource path) (told : subject.kind = .ok .removed)
    (trail : Trail) : judge guide subject trail = judgeRemoved resource trail := by
  obtain ⟨⟨shown, found⟩, counted⟩ := counts
  simp [judge, shown, found, counted, told]

theorem shows_judge {guide : Guide φ} {subject : Subject φ} {path : Path} {kind : Kind} {file : φ}
    (shows_ : subject.Shows guide path kind file) (trail : Trail) :
    judge guide subject trail = judgeFile guide subject path kind file trail := by
  obtain ⟨resource, counts, told, present, adapted⟩ := shows_
  rw [counts_judge counts told present, adapted]

theorem stays_judge {guide : Guide φ} {subject : Subject φ} {kind : Kind} {file : φ} {trail : Trail}
    (stays : subject.Stays guide trail.cache kind file) :
    ∃ between : Trail, between.cache = (guide.find trail.cache file).cache ∧
      judge guide subject trail = judgePresent guide subject kind file between := by
  obtain ⟨path, exclusions, shows_, found, uncovered⟩ := stays
  refine ⟨(trail.exclusions guide.providers (guide.look file).project).2, rfl, ?_⟩
  rw [shows_judge shows_, judgeFile, exclusions_eq, found]
  simp only [uncovered, Bool.false_eq_true, if_false]

theorem seen_judge {guide : Guide φ} {subject : Subject φ} {trail : Trail} {verdict : Verdict}
    {event : Option (FileEvent φ)} {cache : Exclusion.Cache}
    (seen : Seen guide subject trail.cache verdict event cache) :
    ∃ after, judge guide subject trail = (.ok (verdict, event), after) ∧ after.cache = cache := by
  cases seen with
  | ignored at_ ignored => exact ⟨trail, by simp [judge, at_.1, at_.2, ignored], rfl⟩
  | lost counts told location =>
    exact ⟨trail, by simp [removed_judge counts told, judgeRemoved, location], rfl⟩
  | removed counts told location =>
    rw [removed_judge counts told, judgeRemoved, location]
    exact ⟨_, rfl, rfl⟩
  | noFile counts told present noFile =>
    rw [counts_judge counts told present]
    split
    · exact ⟨_, rfl, rfl⟩
    · exact ⟨_, rfl, rfl⟩
    · rename_i file adapted
      exact absurd adapted (noFile file)
  | excluded shows_ found covered =>
    rw [shows_judge shows_, judgeFile, exclusions_eq, found]
    simp only [covered, if_true]
    exact ⟨_, rfl, rfl⟩
  | added stays =>
    obtain ⟨between, same, judged⟩ := stays_judge stays
    rw [judged]
    exact ⟨_, rfl, same⟩
  | changed stays told interesting =>
    obtain ⟨between, same, judged⟩ := stays_judge stays
    rw [judged]
    simp only [judgePresent, reduceCtorEq, if_false, told, (interesting_iff _).mpr interesting,
      Bool.false_eq_true]
    exact ⟨_, rfl, same⟩
  | @unchanged file flags stays told dull =>
    obtain ⟨between, same, judged⟩ := stays_judge stays
    have empty : (Reasons.ofFlags flags).isEmpty = true := by
      cases filled : (Reasons.ofFlags flags).isEmpty with
      | true => rfl
      | false => exact absurd ((interesting_iff flags).mp filled) dull
    rw [judged]
    simp only [judgePresent, reduceCtorEq, if_false, told, empty, if_true]
    exact ⟨_, rfl, same⟩

theorem refused_judge {guide : Guide φ} {subject : Subject φ} {trail : Trail} {read : Read}
    {failure : Failure} {cache : Exclusion.Cache}
    (refused : Refused guide subject trail.cache read failure cache) :
    ∃ after, judge guide subject trail = (.error failure, after) ∧ after.cache = cache := by
  cases refused with
  | resource fails => exact ⟨trail, by simp [judge, fails], rfl⟩
  | path shown fails => exact ⟨trail, by simp [judge, shown, fails], rfl⟩
  | kind counts fails =>
    obtain ⟨⟨shown, found⟩, counted⟩ := counts
    exact ⟨trail, by simp [judge, shown, found, counted, fails], rfl⟩
  | location counts told fails =>
    exact ⟨trail, by simp [removed_judge counts told, judgeRemoved, fails], rfl⟩
  | exclusions shows_ fails =>
    rw [shows_judge shows_, judgeFile, exclusions_eq, fails]
    exact ⟨_, rfl, rfl⟩
  | flags stays fails =>
    obtain ⟨between, same, judged⟩ := stays_judge stays
    rw [judged]
    simp only [judgePresent, reduceCtorEq, if_false, fails]
    exact ⟨_, rfl, same⟩

theorem visitAll_append (guide : Guide φ) (first second : List (Delta φ)) (changes : ChangeList φ)
    (trail : Trail) :
    visitAll guide (first ++ second) changes trail =
      match visitAll guide first changes trail with
      | ⟨.error failure, trail⟩ => ⟨.error failure, trail⟩
      | ⟨.ok changes, trail⟩ => visitAll guide second changes trail := by
  induction first generalizing changes trail with
  | nil => rfl
  | cons delta rest ih =>
    simp only [List.cons_append, visitAll]
    split
    · rfl
    · exact ih _ _

theorem visitAll_node (guide : Guide φ) (subject : Subject φ) (children rest : List (Delta φ))
    (changes : ChangeList φ) (trail : Trail) :
    visitAll guide (.node subject children :: rest) changes trail =
      match judge guide subject trail with
      | (.error failure, trail) => ⟨.error failure, trail⟩
      | (.ok (verdict, event), trail) =>
        match verdict, subject.barrier with
        | .skip, _ => visitAll guide rest (record changes event) trail
        | .goOn, some failure => ⟨.error failure, trail⟩
        | .goOn, none => visitAll guide (children ++ rest) (record changes event) trail := by
  simp only [visitAll, visit]
  obtain ⟨answer, after⟩ := judge guide subject trail
  cases answer with
  | error failure => rfl
  | ok answer =>
    obtain ⟨verdict, event⟩ := answer
    cases verdict with
    | skip => rfl
    | goOn =>
      cases subject.barrier with
      | some failure => rfl
      | none => exact (visitAll_append guide children rest _ after).symm

theorem pushChildren_eq (children stack : List (Delta φ)) :
    pushChildren children stack = children ++ stack := by
  rw [pushChildren, push_eq, List.reverse_reverse]

theorem walk_eq_visitAll (guide : Guide φ) (stack : List (Delta φ)) (changes : ChangeList φ)
    (trail : Trail) : walk guide stack changes trail = visitAll guide stack changes trail := by
  fun_induction walk guide stack changes trail with
  | case1 => rfl
  | case2 changes trail subject children rest failure after judged =>
    rw [visitAll_node, judged]
  | case3 changes trail subject children rest event after judged ih =>
    rw [visitAll_node, judged]
    exact ih
  | case4 changes trail subject children rest event after failure barrier judged =>
    rw [visitAll_node, judged]
    simp only [barrier]
  | case5 changes trail subject children rest event after barrier judged ih =>
    rw [visitAll_node, judged]
    simp only [barrier]
    rw [ih, pushChildren_eq]

theorem record_eq (changes : ChangeList φ) (event : Option (FileEvent φ)) :
    record changes event = event.toList.foldl ChangeList.add changes := by
  cases event <;> rfl

theorem walked_join {guide : Guide φ} {first second : List (Delta φ)}
    {events more : List (FileEvent φ)} {before between after : Exclusion.Cache}
    (walked : Walked guide first before events between)
    (others : Walked guide second between more after) :
    Walked guide (first ++ second) before (events ++ more) after := by
  induction walked with
  | done => exact others
  | skipped seen _ ih =>
    rw [List.append_assoc]
    exact .skipped seen (ih others)
  | entered seen free below _ _ ih =>
    rw [List.append_assoc]
    exact .entered seen free below (ih others)

theorem walked_split {guide : Guide φ} {first second : List (Delta φ)}
    {events : List (FileEvent φ)} {before after : Exclusion.Cache}
    (walked : Walked guide (first ++ second) before events after) :
    ∃ inner outer between, Walked guide first before inner between ∧
      Walked guide second between outer after ∧ events = inner ++ outer := by
  induction first generalizing events before with
  | nil => exact ⟨[], events, before, .done before, walked, rfl⟩
  | cons delta rest ih =>
    cases walked with
    | skipped seen others =>
      obtain ⟨inner, outer, between, ours, theirs, same⟩ := ih others
      exact ⟨_, outer, between, .skipped seen ours, theirs, by rw [same, List.append_assoc]⟩
    | entered seen free below others =>
      obtain ⟨inner, outer, between, ours, theirs, same⟩ := ih others
      exact ⟨_, outer, between, .entered seen free below ours, theirs, by
        rw [same, List.append_assoc, List.append_assoc, List.append_assoc]⟩

theorem broken_place {guide : Guide φ} {deltas : List (Delta φ)} {place : List Nat} {read : Read}
    {failure : Failure} {before after : Exclusion.Cache}
    (broken : Broken guide deltas before place read failure after) :
    ∃ position within, place = position :: within := by
  cases broken with
  | here => exact ⟨0, [], rfl⟩
  | barred => exact ⟨0, [], rfl⟩
  | inside => exact ⟨0, _, rfl⟩
  | later => exact ⟨_, _, rfl⟩

theorem broken_split {guide : Guide φ} {first second : List (Delta φ)} {place : List Nat}
    {read : Read} {failure : Failure} {before after : Exclusion.Cache}
    (broken : Broken guide (first ++ second) before place read failure after) :
    Broken guide first before place read failure after ∨
      ∃ events between position within, Walked guide first before events between ∧
        Broken guide second between (position :: within) read failure after := by
  induction first generalizing before place with
  | nil =>
    obtain ⟨position, within, same⟩ := broken_place broken
    subst same
    exact Or.inr ⟨[], before, position, within, .done before, broken⟩
  | cons delta rest ih =>
    cases broken with
    | here refused => exact Or.inl (.here refused)
    | barred seen barred => exact Or.inl (.barred seen barred)
    | inside seen free inner => exact Or.inl (.inside seen free inner)
    | later walked others =>
      rcases ih others with ours | ⟨events, between, position, within, passed, theirs⟩
      · exact Or.inl (.later walked ours)
      · exact Or.inr ⟨_, between, position, within, walked_join walked passed, theirs⟩

end ChangeRelay.Delta
