import ChangeRelay.Proofs.UnexcludedWalk

/-!
Removals and exclusions. Whether a removed resource is told of does not depend on what is excluded,
except through a single gap: a plain file that is present and excluded hides what is below it, and
something can be below it when a folder was replaced by a file. Trees without such a file come to
the same removals whatever is excluded; in trees with one, an exclusion makes a difference.
-/
namespace ChangeRelay.Delta

variable {φ : Type}

open Exclusion (Answering always)

/-- Trees in which a walk meets, before anything fails, a plain file of this path that is present
and has removals, or something that fails, below it. -/
inductive Conceals (guide : Guide φ) (path : Path) : List (Delta φ) → Prop where
  | here {subject : Subject φ} {children rest : List (Delta φ)} {kind : Kind} {file : φ}
      (shows_ : subject.Shows guide path kind file)
      (usable : (guide.look file).project.checkScope = .ok ())
      (something : losses guide (.node subject children) ≠ .ok []) :
      Conceals guide path (.node subject children :: rest)
  | inside {subject : Subject φ} {children rest : List (Delta φ)} {event : Option (FileEvent φ)}
      (goesOn : judgeFreely guide subject = .ok (.goOn, event)) (free : subject.barrier = none)
      (inner : Conceals guide path children) : Conceals guide path (.node subject children :: rest)
  | later {delta : Delta φ} {rest : List (Delta φ)} {found : List String}
      (passed : losses guide delta = .ok found) (others : Conceals guide path rest) :
      Conceals guide path (delta :: rest)

theorem conceals_first {guide : Guide φ} {path : Path} {delta : Delta φ} {rest : List (Delta φ)}
    (concealed : Conceals guide path [delta]) : Conceals guide path (delta :: rest) := by
  cases concealed with
  | here shows_ usable something => exact .here shows_ usable something
  | inside goesOn free inner => exact .inside goesOn free inner
  | later _ others => cases others

mutual

theorem visit_losses {guide : Guide φ} {providers : List Exclusion.Provider}
    (answering : Answering providers) (delta : Delta φ)
    (unconcealed : ∀ path, ¬Conceals guide path [delta]) (changes : ChangeList φ) (trail : Trail) :
    (visit (guide.asking providers) delta changes trail).removals =
      onTop changes.removed (losses guide delta) := by
  match delta with
  | .node subject children =>
    have comes := visit_comes guide answering subject children changes trail
    generalize visit (guide.asking providers) (.node subject children) changes trail = outcome
      at comes
    cases comes with
    | @hidden path _ _ _ shows_ usable =>
      have nothing : losses guide (.node subject children) = .ok [] := by
        by_contra something
        exact unconcealed path (.here shows_ usable something)
      rw [nothing]
      simp [Outcome.removals, onTop, Except.map]
    | refused judged =>
      rw [losses_refused judged]
      rfl
    | skipped judged =>
      rw [losses_skipped judged]
      exact congrArg Except.ok (removed_record changes _)
    | barred judged barred =>
      rw [losses_barred judged barred]
      rfl
    | @entered event next judged free =>
      have inner : ∀ path, ¬Conceals guide path children := fun path concealed =>
        unconcealed path (.inside judged free concealed)
      have below := visitAll_losses answering children inner (record changes event) next
      rw [below, losses_entered judged free, onTop_onTop, removed_record]

theorem visitAll_losses {guide : Guide φ} {providers : List Exclusion.Provider}
    (answering : Answering providers) (deltas : List (Delta φ))
    (unconcealed : ∀ path, ¬Conceals guide path deltas) (changes : ChangeList φ) (trail : Trail) :
    (visitAll (guide.asking providers) deltas changes trail).removals =
      onTop changes.removed (lossesAll guide deltas) := by
  match deltas with
  | [] => simp [visitAll, lossesAll, Outcome.removals, onTop, Except.map, pure, Except.pure]
  | delta :: rest =>
    have first : ∀ path, ¬Conceals guide path [delta] := fun path concealed =>
      unconcealed path (conceals_first concealed)
    have here := visit_losses answering delta first changes trail
    rw [visitAll, lossesAll]
    generalize visit (guide.asking providers) delta changes trail = visited at here
    obtain ⟨result, next⟩ := visited
    cases found : losses guide delta with
    | error failure =>
      rw [found] at here
      cases result with
      | ok final => cases here
      | error cause => exact here
    | ok own =>
      rw [found] at here
      cases result with
      | error cause => cases here
      | ok final =>
        have others : ∀ path, ¬Conceals guide path rest := fun path concealed =>
          unconcealed path (.later found concealed)
        have further := visitAll_losses answering rest others final next
        have came : final.removed = changes.removed ++ own := Except.ok.inj here
        refine further.trans ?_
        rw [came, ← onTop_onTop]
        rfl

end

/-- An answer that adds to earlier removals some of the ones given, in their order. -/
def AddsSome (earlier found : List String) (answer : Except Failure (List String)) : Prop :=
  ∃ kept, answer = .ok (earlier ++ kept) ∧ kept.Sublist found

mutual

/-- Exclusions only take removals away, and never order them anew. -/
theorem visit_some {guide : Guide φ} {providers : List Exclusion.Provider}
    (answering : Answering providers) (delta : Delta φ) {found : List String}
    (free : losses guide delta = .ok found) (changes : ChangeList φ) (trail : Trail) :
    AddsSome changes.removed found
      (visit (guide.asking providers) delta changes trail).removals := by
  match delta with
  | .node subject children =>
    have comes := visit_comes guide answering subject children changes trail
    generalize visit (guide.asking providers) (.node subject children) changes trail = outcome
      at comes
    cases comes with
    | hidden _ _ => exact ⟨[], by simp [Outcome.removals, Except.map], List.nil_sublist _⟩
    | refused judged => cases (losses_refused judged children).symm.trans free
    | @skipped event _ judged =>
      cases (losses_skipped judged children).symm.trans free
      exact ⟨_, congrArg Except.ok (removed_record changes event), List.Sublist.refl _⟩
    | barred judged barred => cases (losses_barred judged barred children).symm.trans free
    | @entered event next judged open_ =>
      rw [losses_entered judged open_, onTop_ok] at free
      obtain ⟨inner, below, rfl⟩ := free
      obtain ⟨kept, came, some_⟩ :=
        visitAll_some answering children below (record changes event) next
      refine ⟨lostAt event ++ kept, ?_, List.Sublist.append_left some_ _⟩
      rw [came, removed_record, List.append_assoc]

theorem visitAll_some {guide : Guide φ} {providers : List Exclusion.Provider}
    (answering : Answering providers) (deltas : List (Delta φ)) {found : List String}
    (free : lossesAll guide deltas = .ok found) (changes : ChangeList φ) (trail : Trail) :
    AddsSome changes.removed found
      (visitAll (guide.asking providers) deltas changes trail).removals := by
  match deltas with
  | [] =>
    cases free
    exact ⟨[], by simp [visitAll, Outcome.removals, Except.map], List.Sublist.refl _⟩
  | delta :: rest =>
    obtain ⟨first, more, own, others, rfl⟩ := lossesAll_ok.mp free
    obtain ⟨kept, came, some_⟩ := visit_some answering delta own changes trail
    rw [visitAll]
    generalize visit (guide.asking providers) delta changes trail = visited at came
    obtain ⟨result, next⟩ := visited
    cases result with
    | error failure => cases came
    | ok final =>
      have now : final.removed = changes.removed ++ kept := Except.ok.inj came
      obtain ⟨further, last, others_⟩ := visitAll_some answering rest others final next
      refine ⟨kept ++ further, ?_, List.Sublist.append some_ others_⟩
      rw [← List.append_assoc, ← now]
      exact last

end

/-- An answer that adds fewer removals to earlier ones than are given. -/
def AddsFewer (earlier found : List String) (answer : Except Failure (List String)) : Prop :=
  ∃ kept, answer = .ok (earlier ++ kept) ∧ kept.length < found.length

def removalsWithout (guide : Guide φ) (paths : List Path) (deltas : List (Delta φ))
    (changes : ChangeList φ) : Except Failure (List String) :=
  (visitAllAfresh (guide.asking [always paths]) deltas changes).map ChangeList.removed

theorem removalsWithout_some {guide : Guide φ} (paths : List Path) {deltas : List (Delta φ)}
    {found : List String} (free : lossesAll guide deltas = .ok found) (changes : ChangeList φ) :
    AddsSome changes.removed found (removalsWithout guide paths deltas changes) := by
  have offers : Exclusion.Offers (guide.asking [always paths]).providers _ :=
    Exclusion.always_offers paths
  unfold removalsWithout
  rw [← walk_afresh offers deltas changes unread (Exclusion.empty_truthful _), walk_eq_visitAll]
  exact visitAll_some (Exclusion.always_answering paths) deltas free changes unread

theorem removalsWithout_append {guide : Guide φ} {paths : List Path} {first : List (Delta φ)}
    {changes : ChangeList φ} {names : List String}
    (came : removalsWithout guide paths first changes = .ok names) (second : List (Delta φ)) :
    ∃ final : ChangeList φ, final.removed = names ∧
      removalsWithout guide paths (first ++ second) changes =
        removalsWithout guide paths second final := by
  unfold removalsWithout at came ⊢
  rw [visitAllAfresh_append]
  cases visited : visitAllAfresh (guide.asking [always paths]) first changes with
  | error failure =>
    rw [visited] at came
    cases came
  | ok final =>
    rw [visited] at came
    exact ⟨final, Except.ok.inj came, rfl⟩

theorem judge_covered {guide : Guide φ} {path : Path} {subject : Subject φ} {kind : Kind} {file : φ}
    (shows_ : subject.Shows guide path kind file)
    (usable : (guide.look file).project.checkScope = .ok ()) :
    judgeAfresh (guide.asking [always [path]]) subject = .ok (.skip, none) := by
  have found : ((guide.asking [always [path]]).find unread.cache file).paths = .ok [path] := by
    simp only [Guide.find, Guide.asking, Exclusion.find, usable]
    rfl
  have covered : Exclusion.covers [path] path = true := by
    simp [Exclusion.covers, Path.isWithin]
  have asked : subject.Shows (guide.asking [always [path]]) path kind file := shows_
  obtain ⟨next, judged, -⟩ := seen_judge (.excluded asked found covered)
  rw [← judge_unread, judged]

theorem skipped_fewer {guide : Guide φ} {paths : List Path} {subject : Subject φ}
    (skipped : judgeAfresh (guide.asking [always paths]) subject = .ok (.skip, none))
    (children : List (Delta φ)) {found : List String} (something : found ≠ [])
    (changes : ChangeList φ) :
    AddsFewer changes.removed found
      (removalsWithout guide paths [.node subject children] changes) := by
  refine ⟨[], ?_, List.length_pos_iff.mpr something⟩
  unfold removalsWithout
  rw [visitAllAfresh_node, skipped]
  simp [visitAllAfresh, record, Except.map, pure, Except.pure]

theorem conceals_something {guide : Guide φ} {path : Path} {deltas : List (Delta φ)}
    (concealed : Conceals guide path deltas) : lossesAll guide deltas ≠ .ok [] := by
  intro nothing
  induction concealed with
  | here _ _ something =>
    obtain ⟨first, more, own, -, joined⟩ := lossesAll_ok.mp nothing
    obtain ⟨rfl, -⟩ := List.append_eq_nil_iff.mp joined
    exact something own
  | inside goesOn free _ ih =>
    obtain ⟨first, more, own, -, joined⟩ := lossesAll_ok.mp nothing
    obtain ⟨rfl, -⟩ := List.append_eq_nil_iff.mp joined
    rw [losses_entered goesOn free, onTop_ok] at own
    obtain ⟨inner, below, empty⟩ := own
    obtain ⟨-, rfl⟩ := List.append_eq_nil_iff.mp empty
    exact ih below
  | later _ _ ih =>
    obtain ⟨first, more, -, others, joined⟩ := lossesAll_ok.mp nothing
    obtain ⟨-, rfl⟩ := List.append_eq_nil_iff.mp joined
    exact ih others

theorem inside_fewer {guide : Guide φ} {paths : List Path} {subject : Subject φ}
    {event : Option (FileEvent φ)} {children : List (Delta φ)} {found : List String}
    (goesOn : judgeFreely guide subject = .ok (.goOn, event)) (free : subject.barrier = none)
    (something : found ≠ []) (changes : ChangeList φ)
    (fewer : AddsFewer (record changes event).removed found
      (removalsWithout guide paths children (record changes event))) :
    AddsFewer changes.removed (lostAt event ++ found)
      (removalsWithout guide paths [.node subject children] changes) := by
  rcases judge_freely guide (Exclusion.always_answering paths) subject unread with
    freely | ⟨skipped, -⟩
  · rw [judge_unread, goesOn] at freely
    obtain ⟨kept, came, less⟩ := fewer
    refine ⟨lostAt event ++ kept, ?_, ?_⟩
    · rw [← List.append_assoc, ← removed_record, ← came]
      unfold removalsWithout
      rw [visitAllAfresh_node, freely, List.append_nil]
      simp only [free]
    · rw [List.length_append, List.length_append]
      omega
  · -- The node is a file at or below the excluded path as well, and is skipped with all below it.
    rw [judge_unread] at skipped
    apply skipped_fewer skipped
    intro empty
    exact something (List.append_eq_nil_iff.mp empty).2

theorem fewer_then_some {guide : Guide φ} {paths : List Path} {first second : List (Delta φ)}
    {found more : List String} {changes : ChangeList φ}
    (fewer : AddsFewer changes.removed found (removalsWithout guide paths first changes))
    (free : lossesAll guide second = .ok more) :
    AddsFewer changes.removed (found ++ more)
      (removalsWithout guide paths (first ++ second) changes) := by
  obtain ⟨kept, came, less⟩ := fewer
  obtain ⟨final, now, onwards⟩ := removalsWithout_append came second
  obtain ⟨further, last, some_⟩ := removalsWithout_some paths free final
  have short := some_.length_le
  refine ⟨kept ++ further, ?_, ?_⟩
  · rw [onwards, last, now, List.append_assoc]
  · rw [List.length_append, List.length_append]
    omega

/-- Excluding the path of a file that conceals something takes removals away. -/
theorem concealed_fewer {guide : Guide φ} {path : Path} {deltas : List (Delta φ)}
    (concealed : Conceals guide path deltas) {found : List String}
    (free : lossesAll guide deltas = .ok found) (changes : ChangeList φ) :
    AddsFewer changes.removed found (removalsWithout guide [path] deltas changes) := by
  induction concealed generalizing found changes with
  | @here subject children rest kind file shows_ usable something =>
    obtain ⟨first, more, own, others, rfl⟩ := lossesAll_ok.mp free
    have filled : first ≠ [] := by
      intro empty
      rw [empty] at own
      exact something own
    exact fewer_then_some
      (skipped_fewer (judge_covered shows_ usable) children filled changes) others
  | @inside subject children rest event goesOn open_ inner ih =>
    obtain ⟨first, more, own, others, rfl⟩ := lossesAll_ok.mp free
    rw [losses_entered goesOn open_, onTop_ok] at own
    obtain ⟨within, below, rfl⟩ := own
    have filled : within ≠ [] := by
      intro empty
      rw [empty] at below
      exact conceals_something inner below
    have fewer := ih below (record changes event)
    exact fewer_then_some (inside_fewer goesOn open_ filled changes fewer) others
  | @later delta rest own passed others ih =>
    obtain ⟨first, more, here, further, rfl⟩ := lossesAll_ok.mp free
    have single : lossesAll guide [delta] = .ok first :=
      lossesAll_ok.mpr ⟨first, [], here, rfl, List.append_nil _⟩
    obtain ⟨kept, came, some_⟩ := removalsWithout_some [path] single changes
    obtain ⟨final, now, onwards⟩ := removalsWithout_append came rest
    obtain ⟨less, last, shorter⟩ := ih further final
    have short := some_.length_le
    refine ⟨kept ++ less, ?_, ?_⟩
    · rw [List.singleton_append] at onwards
      rw [onwards, last, now, List.append_assoc]
    · rw [List.length_append, List.length_append]
      omega

def Subject.LetsThrough (subject : Subject φ) (guide : Guide φ) : Prop :=
  ¬subject.Ignored guide ∧ ∀ path kind file, ¬subject.Shows guide path kind file

/-- A walk comes to every removed resource that no plain file lies above, whatever is excluded. -/
theorem lost_walked {guide : Guide φ} {deltas : List (Delta φ)} {above : List (Subject φ)}
    {below : Subject φ} (lies : Lies deltas above below)
    (open_ : ∀ upper ∈ above, upper.LetsThrough guide) {uri : String} (lost : below.Lost guide uri)
    {events : List (FileEvent φ)} {before after : Exclusion.Cache}
    (walked : Walked guide deltas before events after) : .removed uri ∈ events := by
  induction lies generalizing events before after with
  | here =>
    cases walked with
    | skipped seen others => cases (lost_seen seen lost).1
    | entered seen free inside others =>
      obtain ⟨-, rfl⟩ := lost_seen seen lost
      simp
  | inside inner ih =>
    obtain ⟨⟨unignored, noFile⟩, further⟩ := List.forall_mem_cons.mp open_
    cases walked with
    | skipped seen others =>
      cases seen with
      | ignored at_ ignored => exact absurd ⟨_, _, at_, ignored⟩ unignored
      | excluded shows_ found covered => exact absurd shows_ (noFile _ _ _)
    | entered seen free inside others =>
      have member := ih further lost inside
      simp [member]
  | later others ih =>
    cases walked with
    | skipped seen rest =>
      exact List.mem_append_right _ (ih open_ lost rest)
    | entered seen free inside rest =>
      exact List.mem_append_right _ (ih open_ lost rest)

theorem gather_removals (guide : Guide φ) (delta : Delta φ) (cache : Exclusion.Cache) :
    (gather guide delta cache).removals =
      (visit guide delta .empty (.start cache)).removals.mapError walkFailure := by
  rw [gather_reported, walk_eq_visitAll, visitAll_singleton]
  unfold Outcome.removals Outcome.reported
  cases (visit guide delta .empty (.start cache)).result <;> rfl

theorem gather_always (guide : Guide φ) (paths : List Path) (delta : Delta φ) :
    (gather (guide.asking [always paths]) delta Exclusion.emptyCache).removals =
      (removalsWithout guide paths [delta] .empty).mapError walkFailure := by
  have offers : Exclusion.Offers (guide.asking [always paths]).providers _ :=
    Exclusion.always_offers paths
  unfold removalsWithout
  rw [Outcome.removals, gather_afresh offers delta (Exclusion.empty_truthful _), gatherAfresh,
    visitAllAfresh_singleton]
  cases visitAfresh (guide.asking [always paths]) delta .empty <;> rfl

/-- Removals do not depend on exclusions as long as no plain file that is present has removals below
it, or something that fails: they then are those met where nothing is excluded, and a failure is the
same one. In any other tree that can be walked at all, exclusions take removals away, and do so if
the path of such a file is excluded. Where nothing is excluded, exactly the removed resources
outside of ignored folders are told of. The ones with no plain file above them are told of in any
case. -/
theorem removals_apart_from_exclusions (guide : Guide φ) (delta : Delta φ) :
    ((∀ path, ¬Conceals guide path [delta]) → ∀ providers cache, Answering providers →
      (gather (guide.asking providers) delta cache).removals =
        (losses guide delta).mapError walkFailure) ∧
    (∀ found, losses guide delta = .ok found →
      (∀ providers cache, Answering providers → ∃ kept,
        (gather (guide.asking providers) delta cache).removals = .ok kept ∧ kept.Sublist found) ∧
      (∀ path, Conceals guide path [delta] →
        (gather (guide.asking [always [path]]) delta Exclusion.emptyCache).removals ≠
          (gather (guide.asking [always []]) delta Exclusion.emptyCache).removals) ∧
      ∀ uri, uri ∈ found ↔ Told guide [delta] uri) ∧
    ∀ cache changes above below uri, (gather guide delta cache).result = .ok changes →
      Lies [delta] above below → (∀ upper ∈ above, upper.LetsThrough guide) →
      below.Lost guide uri → uri ∈ changes.removed := by
  refine ⟨?_, ?_, ?_⟩
  · intro unconcealed providers cache answering
    rw [gather_removals, visit_losses answering delta unconcealed]
    cases losses guide delta <;> rfl
  · intro found free
    refine ⟨?_, ?_, fun uri => losses_mem delta free uri⟩
    · intro providers cache answering
      obtain ⟨kept, came, some_⟩ := visit_some answering delta free .empty (.start cache)
      refine ⟨kept, ?_, some_⟩
      rw [gather_removals, came]
      rfl
    · intro path concealed
      have single : lossesAll guide [delta] = .ok found :=
        lossesAll_ok.mpr ⟨found, [], free, rfl, List.append_nil _⟩
      obtain ⟨kept, came, less⟩ := concealed_fewer concealed single .empty
      have all : removalsWithout guide [] [delta] .empty = .ok found := by
        unfold removalsWithout
        rw [visitAllAfresh_losses, single]
        rfl
      rw [gather_always, gather_always, came, all]
      intro same
      have equal : kept = found := Except.ok.inj same
      rw [equal] at less
      omega
  · intro cache changes above below uri gathered lies open_ lost
    obtain ⟨events, walked, rfl⟩ := (gather_ok_iff guide delta cache _ changes).mp ⟨gathered, rfl⟩
    have member := lost_walked lies open_ lost walked
    rw [ChangeList.removed_foldl]
    exact List.mem_append_right _ (List.mem_filterMap.mpr ⟨_, member, rfl⟩)

/-- A folder that was replaced by a plain file, with a file that was removed from the folder. -/
def replacedFolder : Delta Nat :=
  let lost : Resource Nat :=
    ⟨.ok ⟨.single, ["app", "lib", "a.c"]⟩, .ok (some "file:///ws/app/lib/a.c"), .ok none⟩
  let file : Resource Nat :=
    ⟨.ok ⟨.single, ["app", "lib"]⟩, .ok (some "file:///ws/app/lib"), .ok (some 7)⟩
  .node ⟨.ok file, .ok .added, .ok 0, none⟩ [.node ⟨.ok lost, .ok .removed, .ok 0, none⟩ []]

def replacedGuide : Guide Nat where
  ignoredFolders := [".git"]
  providers := []
  look := fun _ =>
    ⟨.text "file:///ws/app/lib", "lib", ⟨"app", .text "scope:app", "file:///ws/app"⟩, "lib",
      .ok .null, .ok .null⟩

theorem excluded_file_hides_removal :
    let path : Path := ⟨.single, ["app", "lib"]⟩
    let nothing := Exclusion.emptyCache
    let excluding := gather (replacedGuide.asking [always [path]]) replacedFolder nothing
    let unexcluding := gather (replacedGuide.asking [always []]) replacedFolder nothing
    excluding.removals ≠ unexcluding.removals ∧ excluding.removals = .ok [] ∧
      unexcluding.removals = .ok ["file:///ws/app/lib/a.c"] := by
  intro path nothing excluding unexcluding
  have told : losses replacedGuide replacedFolder = .ok ["file:///ws/app/lib/a.c"] := rfl
  have concealed : Conceals replacedGuide path [replacedFolder] := by
    have shows_ : replacedFolder.subject.Shows replacedGuide path .added 7 :=
      ⟨_, ⟨⟨rfl, rfl⟩, rfl⟩, rfl, nofun, rfl⟩
    refine .here shows_ rfl ?_
    change losses replacedGuide replacedFolder ≠ .ok []
    rw [told]
    exact nofun
  obtain ⟨-, exact_, -⟩ := removals_apart_from_exclusions replacedGuide replacedFolder
  obtain ⟨-, differ, -⟩ := exact_ _ told
  refine ⟨differ path concealed, ?_, ?_⟩
  · exact (gather_removals _ _ _).trans rfl
  · exact (gather_removals _ _ _).trans rfl

end ChangeRelay.Delta
