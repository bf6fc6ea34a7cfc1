import ChangeRelay.Proofs.DeliveryOrder
import ChangeRelay.Proofs.FreshEntries
import ChangeRelay.Proofs.WalkAgreement

/-!
Caches that others give to a relay and go on using. A relay works on a given cache only if it holds
an entry at that moment; then no entry outlives a notification about its project, nor the project.
An empty one lies apart for good: the relay drops nothing that others put there later.
-/
namespace ChangeRelay

namespace ScopeStore.Shared

variable {κ ν : Type} [DecidableEq κ]

/-- Whether all that is kept for a scope was put, or began to be computed, from a moment on. -/
def NewSince (shared : Shared κ ν) (events : List (Event κ ν)) (moment : Nat) (scope : κ) : Prop :=
  ∀ value, getAt shared.store.entries scope = some value →
    ∃ write, write.scope = scope ∧ write.value = value ∧ MadeBy events write ∧
      moment ≤ write.began

theorem newSince_of_dropped {name : String} {before during : List (Event κ ν)}
    {shared : Shared κ ν} (reached : Reached name (before ++ during) shared) {scope : κ}
    (dropped : .invalidated scope ∈ during) :
    shared.NewSince (before ++ during) before.length scope := by
  intro value held
  have recorded := reached_recorded reached
  obtain ⟨write, latest, same, fresh⟩ := (reached_sound reached).entries scope value held
  obtain ⟨position, there⟩ := List.mem_iff_getElem?.mp dropped
  have moment : (before ++ during)[before.length + position]? = some (.invalidated scope) := by
    rw [List.getElem?_append_right (by omega), Nat.add_sub_cancel_left]
    exact there
  have newer := fresh_after_events recorded fresh _ _ moment rfl
  have written := recorded.writes write (latest_written latest)
  exact ⟨write, latest_scope latest, same, written, by omega⟩

end ScopeStore.Shared

namespace ChangeList

theorem scope_mem_seen {projects seen : List Project} {scope : Value}
    (found : scope ∈ seen.map (·.scope) ∨ scope ∈ projects.map (·.scope)) :
    scope ∈ (projects.foldl (fun seen project =>
      if seen.any (·.scope == project.scope) then seen else seen ++ [project]) seen).map
        (·.scope) := by
  induction projects generalizing seen with
  | nil => simpa using found
  | cons project rest ih =>
    apply ih
    dsimp only
    rcases found with known | later
    · left
      split
      · exact known
      · rw [List.map_append]
        exact List.mem_append_left _ known
    · rcases List.mem_cons.mp later with here | later
      · left
        split
        · rename_i known
          simpa [here] using known
        · simp [here]
      · exact Or.inr later

theorem scope_mem_firstPerScope {projects : List Project} {project : Project}
    (member : project ∈ projects) : project.scope ∈ (firstPerScope projects).map (·.scope) :=
  scope_mem_seen (Or.inr (List.mem_map_of_mem member))

end ChangeList

namespace Relay

variable {φ : Type}

theorem invalidateAll_entries {ν : Type} (cache : ScopeStore Value ν) (scopes : List Value)
    (scope : Value) :
    ScopeStore.getAt (invalidateAll cache scopes).1.entries scope =
      if scope ∈ scopes then none else ScopeStore.getAt cache.entries scope := by
  induction scopes generalizing cache with
  | nil => rfl
  | cons first rest ih =>
    simp only [invalidateAll, ih, ScopeStore.entries_invalidate, List.mem_cons]
    by_cases here : first = scope
    · simp [here]
    · simp [here, Ne.symm here]

theorem invalidateAll_contains {ν : Type} (cache : ScopeStore Value ν) {scopes : List Value}
    {scope : Value} (member : scope ∈ scopes) :
    (invalidateAll cache scopes).1.contains scope = false := by
  rw [ScopeStore.contains, invalidateAll_entries, if_pos member]
  rfl

def drops (relay : Relay φ) (around : Surroundings φ) (delta : Delta φ) : List Value :=
  match (Delta.gather (relay.guide around) delta relay.exclusions).result with
  | .error _ => []
  | .ok changes => (changes.projects around.look).map (·.scope)

theorem notify_listings (relay : Relay φ) (around : Surroundings φ) (delta : Delta φ) :
    (relay.notify around delta).1.listings =
      (invalidateAll relay.listings (relay.drops around delta)).1 := by
  simp only [notify, drops]
  cases (Delta.gather (relay.guide around) delta relay.exclusions).result with
  | error failure => rfl
  | ok changes =>
    cases filled : changes.isEmpty with
    | true =>
      have nothing : changes.present = [] := by
        unfold ChangeList.isEmpty at filled
        simpa using (Bool.and_eq_true_iff.mp filled).1
      simp only [filled, if_true, ChangeList.projects, nothing]
      rfl
    | false =>
      simp only [filled, Bool.false_eq_true, if_false]
      split <;> rfl

theorem scope_mem_drops {relay : Relay φ} {around : Surroundings φ} {delta : Delta φ}
    {changes : ChangeList φ}
    (walked : (Delta.gather (relay.guide around) delta relay.exclusions).result = .ok changes)
    {file : φ} (present : file ∈ changes.present) :
    (around.look file).project.scope ∈ relay.drops around delta := by
  have project : (around.look file).project ∈
      changes.present.map fun file => (around.look file).project := List.mem_map_of_mem present
  rw [drops, walked]
  exact ChangeList.scope_mem_firstPerScope project

/-- A relay with the caches given to it. A cache that it does not work on lies apart. -/
structure Lent (φ : Type) where
  relay : Relay φ
  exclusions : Option Exclusion.Cache
  listings : Option (Listings φ)

def lend (settings : Settings) (exclusions : Exclusion.Cache) (listings : Listings φ) : Lent φ :=
  let (relay, onExclusions, onListings) := start settings (some exclusions) (some listings)
  { relay := relay
    exclusions := if onExclusions then none else some exclusions
    listings := if onListings then none else some listings }

/-- What happens to the relay, or what others do to the given caches in between. -/
inductive Deed (φ : Type) where
  | event (event : Event φ)
  | others (exclusions : Exclusion.Cache → Exclusion.Cache)
      (listings : Listings φ → Listings φ)

def Deed.onExclusions : Deed φ → Exclusion.Cache → Exclusion.Cache
  | .event _ => id
  | .others act _ => act

def Deed.onListings : Deed φ → Listings φ → Listings φ
  | .event _ => id
  | .others _ act => act

namespace Lent

def givenExclusions (lent : Lent φ) : Exclusion.Cache := lent.exclusions.getD lent.relay.exclusions

def givenListings (lent : Lent φ) : Listings φ := lent.listings.getD lent.relay.listings

def step (lent : Lent φ) : Deed φ → Lent φ
  | .event event => { lent with relay := ((World.start lent.relay).step event).relay }
  | .others onExclusions onListings =>
    let relay := match lent.exclusions with
      | none => { lent.relay with exclusions := onExclusions lent.relay.exclusions }
      | some _ => lent.relay
    let relay := match lent.listings with
      | none => { relay with listings := onListings relay.listings }
      | some _ => relay
    ⟨relay, lent.exclusions.map onExclusions, lent.listings.map onListings⟩

def after (lent : Lent φ) (deeds : List (Deed φ)) : Lent φ := deeds.foldl step lent

theorem step_apart (lent : Lent φ) (deed : Deed φ) :
    (lent.step deed).exclusions = lent.exclusions.map deed.onExclusions ∧
      (lent.step deed).listings = lent.listings.map deed.onListings := by
  cases deed with
  | event event => exact ⟨Option.map_id_apply.symm, Option.map_id_apply.symm⟩
  | others onExclusions onListings => exact ⟨rfl, rfl⟩

/-- What lies apart is what others make of it. -/
theorem after_apart (lent : Lent φ) (deeds : List (Deed φ)) :
    (lent.after deeds).exclusions =
        lent.exclusions.map (deeds.foldl fun cache deed => deed.onExclusions cache) ∧
      (lent.after deeds).listings =
        lent.listings.map (deeds.foldl fun cache deed => deed.onListings cache) := by
  induction deeds generalizing lent with
  | nil => exact ⟨Option.map_id_apply.symm, Option.map_id_apply.symm⟩
  | cons deed rest ih =>
    obtain ⟨exclusions, listings⟩ := ih (lent.step deed)
    rw [(step_apart lent deed).1, Option.map_map] at exclusions
    rw [(step_apart lent deed).2, Option.map_map] at listings
    exact ⟨exclusions, listings⟩

theorem lend_apart (settings : Settings) (exclusions : Exclusion.Cache) (listings : Listings φ) :
    (lend settings exclusions listings).exclusions =
        (if exclusions.size = 0 then some exclusions else none) ∧
      (lend settings exclusions listings).listings =
        (if listings.size = 0 then some listings else none) := by
  unfold lend start adopt
  by_cases noExclusions : exclusions.size = 0 <;> by_cases noListings : listings.size = 0 <;>
    simp [noExclusions, noListings]

theorem notified_given {lent : Lent φ} (works : lent.listings = none) {around : Surroundings φ}
    {delta : Delta φ} {scope : Value} (dropped : scope ∈ lent.relay.drops around delta) :
    (lent.step (.event (.notified around delta))).givenListings.contains scope = false := by
  have given : (lent.step (.event (.notified around delta))).givenListings =
      (lent.relay.notify around delta).1.listings := by
    rw [givenListings, (step_apart lent _).2, works]
    rfl
  rw [given, notify_listings]
  exact invalidateAll_contains _ dropped

theorem forgot_listings {lent : Lent φ} (works : lent.listings = none) (project : Project) :
    (lent.step (.event (.forgot project))).givenListings.contains project.scope = false := by
  have given : (lent.step (.event (.forgot project))).givenListings =
      (invalidateAll lent.relay.listings [project.scope]).1 := by
    rw [givenListings, (step_apart lent _).2, works]
    rfl
  rw [given]
  exact invalidateAll_contains _ List.mem_cons_self

theorem forgot_exclusions {lent : Lent φ} (works : lent.exclusions = none) (project : Project) :
    (lent.step (.event (.forgot project))).givenExclusions.contains project.scope = false := by
  have given : (lent.step (.event (.forgot project))).givenExclusions =
      (invalidateAll lent.relay.exclusions [project.scope]).1 := by
    rw [givenExclusions, (step_apart lent _).1, works]
    rfl
  rw [given]
  exact invalidateAll_contains _ List.mem_cons_self

/-- A relay works on a given cache exactly if it held an entry when it was given. From then on, and
whatever others do with it, nothing that was there before a notification is left of the listings of
a changed file's project when the call returns, even if others use the cache during the call; and
nothing at all of a project that is forgotten. What was given empty is only what others make of it,
whatever the relay is notified of. -/
theorem given_caches_followed (settings : Settings) (exclusions : Exclusion.Cache)
    (listings : Listings φ) (deeds : List (Deed φ)) :
    let lent := (lend settings exclusions listings).after deeds
    ((lent.listings = none ↔ listings.size ≠ 0) ∧ (lent.exclusions = none ↔ exclusions.size ≠ 0)) ∧
    (listings.size ≠ 0 → ∀ around delta changes,
      (Delta.gather (lent.relay.guide around) delta lent.relay.exclusions).result = .ok changes →
      ∀ file ∈ changes.present,
        (lent.step (.event (.notified around delta))).givenListings.contains
            (around.look file).project.scope = false ∧
          ∀ name before during (shared : ScopeStore.Shared Value (List φ)),
            ScopeStore.Shared.Reached name (before ++ during) shared →
            ((lent.relay.drops around delta).map .invalidated).Sublist during →
            shared.NewSince (before ++ during) before.length (around.look file).project.scope) ∧
    (listings.size ≠ 0 → ∀ project,
      (lent.step (.event (.forgot project))).givenListings.contains project.scope = false) ∧
    (exclusions.size ≠ 0 → ∀ project,
      (lent.step (.event (.forgot project))).givenExclusions.contains project.scope = false) ∧
    (listings.size = 0 →
      lent.givenListings = deeds.foldl (fun cache deed => deed.onListings cache) listings) ∧
    (exclusions.size = 0 → lent.givenExclusions =
      deeds.foldl (fun cache deed => deed.onExclusions cache) exclusions) := by
  intro lent
  obtain ⟨lentExclusions, lentListings⟩ := lend_apart settings exclusions listings
  obtain ⟨apartExclusions, apartListings⟩ := after_apart (lend settings exclusions listings) deeds
  rw [lentExclusions] at apartExclusions
  rw [lentListings] at apartListings
  have worksListings : lent.listings = none ↔ listings.size ≠ 0 := by
    rw [apartListings]
    simp
  have worksExclusions : lent.exclusions = none ↔ exclusions.size ≠ 0 := by
    rw [apartExclusions]
    simp
  refine ⟨⟨worksListings, worksExclusions⟩, ?_, ?_, ?_, ?_, ?_⟩
  · intro filled around delta changes walked file present
    have dropped := scope_mem_drops walked present
    constructor
    · exact notified_given (worksListings.mpr filled) dropped
    · intro name before during shared reached sublist
      apply ScopeStore.Shared.newSince_of_dropped reached
      exact sublist.subset (List.mem_map_of_mem dropped)
  · intro filled project
    exact forgot_listings (worksListings.mpr filled) project
  · intro filled project
    exact forgot_exclusions (worksExclusions.mpr filled) project
  · intro empty
    rw [givenListings, apartListings, if_pos empty]
    rfl
  · intro empty
    rw [givenExclusions, apartExclusions, if_pos empty]
    rfl

def sampleAround : Surroundings Nat where
  advisors := .standard
  resolver := fun _ => .ok none
  service := .recording
  look := fun _ =>
    ⟨.text "file:///w/app/a.c", "a.c", ⟨"app", .text "scope:app", "file:///w/app"⟩, "a.c",
      .ok .null, .ok .null⟩
  listing := fun _ => .ok []

def sampleDelta : Delta Nat :=
  .node ⟨.ok ⟨.ok ⟨.single, ["app", "a.c"]⟩, .ok none, .ok (some 7)⟩, .ok .added, .ok 0, none⟩ []

def sampleDeeds : List (Deed Nat) :=
  [.others id fun cache => cache.put (.text "scope:app") (some [1, 2])]

/-- A cache of listings that was given with one entry, and one that was given empty. -/
theorem given_caches_sample :
    let told : Deed Nat := .event (.notified sampleAround sampleDelta)
    let filled := (lend .standard Exclusion.emptyCache
      (emptyListings.put (.text "scope:lib") (some [3]))).after sampleDeeds
    let empty := (lend .standard Exclusion.emptyCache emptyListings).after (sampleDeeds ++ [told])
    filled.givenListings.contains (.text "scope:app") = true ∧
      (filled.step told).givenListings.contains (.text "scope:app") = false ∧
      empty.givenListings.contains (.text "scope:app") = true := by
  intro told filled empty
  have walked : (Delta.gather (filled.relay.guide sampleAround) sampleDelta
      filled.relay.exclusions).result = .ok ⟨[7], []⟩ := by
    rw [Delta.gather_reported, Delta.walk_eq_visitAll]
    rfl
  obtain ⟨-, follows, -⟩ := given_caches_followed .standard Exclusion.emptyCache
    (emptyListings.put (.text "scope:lib") (some [3])) sampleDeeds
  obtain ⟨-, -, -, -, left, -⟩ := given_caches_followed .standard Exclusion.emptyCache
    emptyListings (sampleDeeds ++ [told])
  have one : (emptyListings.put (.text "scope:lib") (some [3])).size ≠ 0 := by decide
  refine ⟨rfl, (follows one _ _ _ walked 7 List.mem_cons_self).1, ?_⟩
  rw [left rfl]
  rfl

end Lent
end Relay
end ChangeRelay
