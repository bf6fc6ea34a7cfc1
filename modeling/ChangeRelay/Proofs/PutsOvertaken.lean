import ChangeRelay.Proofs.SingleRuns

/-!
How long a value that was put stays. A computation remembers a generation, and puts leave the
generation alone; so a computation that had found nothing before a put still keeps its result, and
the put is lost. Nothing else overtakes a put that is not empty: as long as there is an entry no
look finds nothing, and so no computation starts.
-/
namespace ChangeRelay.ScopeStore

def puttingIn {κ ν : Type} (scope : κ) : Kind κ ν := fun _ event => event.Puts scope

/-- Doing away with whatever was put before. -/
def replacing {κ ν : Type} (scope : κ) : Kind κ ν := fun _ event =>
  event.Puts scope ∨ event.Drops scope

namespace Shared

variable {κ ν : Type} [DecidableEq κ]

/-- What has become of a put that no later put and no invalidation did away with. -/
inductive PutFate (events : List (Event κ ν)) (shared : Shared κ ν) (scope : κ) (value : Option ν)
    (moment : Nat) : Prop where
  | stays (entry : getAt shared.store.entries scope = some value)
      (latest : shared.latest? scope = some ⟨scope, value, moment⟩)
      (unkept : ∀ kept look, moment < kept → ¬Occurs events kept (keeping scope look))
      (earlier : ∀ full, value = some full →
        ∀ call look, stageOf events call = .computing scope look → look < moment)
  | overtaken (kept look : Nat) (made : Made κ ν) (later : moment < kept)
      (keeps : Occurs events kept (keeping scope look)) (cause : look < moment ∨ value = none)
      (latest : shared.latest? scope = some made)
      (entry : getAt shared.store.entries scope = some made.value)
      (computed : ∃ start, Computed events start made)

theorem put_fate_now {name : String} {events : List (Event κ ν)} {s t : Shared κ ν} {scope : κ}
    {value : Option ν} (reached : Reached name events s) (step : Step s (.put scope value) t) :
    PutFate (events ++ [.put scope value]) t scope value events.length := by
  have clock := (reached_recorded reached).clock
  obtain ⟨entry, latest⟩ : getAt t.store.entries scope = some value ∧
      t.latest? scope = some ⟨scope, value, events.length⟩ := by
    cases step
    simp [entries_put, latest?, clock]
  refine .stays entry latest ?_ ?_
  · intro kept look later occurs
    exact not_since_now events _ _ ⟨kept, later, occurs⟩
  · intro full _ call look computing
    have apart : (Event.put scope value).caller? ≠ some call := by
      intro own
      cases own
    rw [stage_apart apart] at computing
    exact occurs_before (computing_starts computing)

theorem looks_earlier {name : String} {events : List (Event κ ν)} {event : Event κ ν}
    {s t : Shared κ ν} (reached : Reached name events s) (step : Step s event t) {scope : κ}
    {moment : Nat} {full : ν} (entry : getAt s.store.entries scope = some (some full))
    (earlier : ∀ call look, stageOf events call = .computing scope look → look < moment)
    {call look : Nat} (computing : stageOf (events ++ [event]) call = .computing scope look) :
    look < moment := by
  rcases computing_from computing with before | ⟨rfl, asked, -⟩
  · exact earlier call look before
  · cases step with
    | missed call other called generation holding missed =>
      cases asked.symm.trans (agrees_at reached holding)
      have nothing := look_nothing missed
      simp [get?, entry] at nothing

theorem put_fate_next {name : String} {events : List (Event κ ν)} {event : Event κ ν}
    {s t : Shared κ ν} (reached : Reached name events s) (step : Step s event t) {scope : κ}
    {value : Option ν} {moment : Nat} (before : moment < events.length)
    (aside : ¬replacing scope events event) (fate : PutFate events s scope value moment) :
    PutFate (events ++ [event]) t scope value moment := by
  cases step_touches reached step scope with
  | dropped drops gone => exact absurd (Or.inr drops) aside
  | put other puts latest there =>
    rw [puts] at aside
    exact absurd (Or.inl rfl) aside
  | kept look made here keeps computed fresh latest there =>
    have now : Occurs (events ++ [event]) events.length (keeping scope look) :=
      (occurs_next events event _ _).mpr (Or.inr ⟨rfl, keeps⟩)
    have from_ : ∃ start, Computed (events ++ [event]) start made :=
      ⟨look, computed_stays event computed⟩
    cases fate with
    | stays entry _ unkept earlier =>
      refine .overtaken events.length look made before now ?_ latest there from_
      cases value with
      | none => exact Or.inr rfl
      | some full =>
        obtain ⟨call, -, computing⟩ := keeps
        exact Or.inl (earlier full rfl call look computing)
    | overtaken kept first _ later keepsFirst cause _ _ _ =>
      have stillKept := occurs_stays event keepsFirst
      exact .overtaken kept first made later stillKept cause latest there from_
  | passed calm besides unkeptNow latest there =>
    cases fate with
    | stays entry written unkept earlier =>
      refine .stays (there.trans entry) (latest.trans written) ?_ ?_
      · intro kept look later occurs
        rcases (occurs_next events event kept _).mp occurs with old | ⟨-, keeps⟩
        · exact unkept kept look later old
        · exact unkeptNow look keeps
      · intro full same call look computing
        subst same
        exact looks_earlier reached step entry (earlier full rfl) computing
    | overtaken kept look made later keeps cause written entry computed =>
      obtain ⟨start, computed⟩ := computed
      exact .overtaken kept look made later (occurs_stays event keeps) cause (latest.trans written)
        (there.trans entry) ⟨start, computed_stays event computed⟩

theorem put_fate {name : String} {events : List (Event κ ν)} {shared : Shared κ ν}
    (reached : Reached name events shared) {scope : κ} {value : Option ν} {moment : Nat}
    (put : events[moment]? = some (.put scope value))
    (untouched : ¬Since events moment (replacing scope)) :
    PutFate events shared scope value moment := by
  induction reached with
  | start => cases put
  | @next events event s t earlier step ih =>
    by_cases before : moment < events.length
    · rw [List.getElem?_append_left before] at put
      rw [since_next before] at untouched
      exact put_fate_next earlier step before (fun now => untouched (Or.inr now))
        (ih put fun old => untouched (Or.inl old))
    · have bound := (List.getElem?_eq_some_iff.mp put).1
      rw [List.length_append, List.length_singleton] at bound
      have now : moment = events.length := by omega
      subst now
      rw [event_now] at put
      cases put
      exact put_fate_now earlier step

/-- While a call computes, its scope has no value unless one was put since the look. -/
theorem nothing_since_look {name : String} {events : List (Event κ ν)} {shared : Shared κ ν}
    (reached : Reached name events shared) {scope : κ} {call look : Nat}
    (computing : stageOf events call = .computing scope look)
    (noPut : ¬Since events look (puttingIn scope)) : shared.store.get? scope = none := by
  induction reached with
  | start => cases computing
  | @next events event s t earlier step ih =>
    rcases computing_from computing with before | ⟨rfl, asked, -⟩
    · have early := occurs_before (computing_starts before)
      rw [since_next early] at noPut
      have nothing := ih before fun old => noPut (Or.inl old)
      cases step_touches earlier step scope with
      | dropped drops gone => rw [get?, gone]; rfl
      | put value puts latest there =>
        rw [puts] at noPut
        exact absurd (Or.inr rfl) noPut
      | kept other made here keeps computed fresh latest there =>
        -- One call holds the lock, so the result that is kept is this call's own, its last step.
        obtain ⟨keeper, rfl, theirs⟩ := keeps
        have alone := reached_exclusive earlier keeper call scope (computing_locked earlier theirs)
          (computing_locked earlier before)
        subst alone
        rw [stage_own rfl] at computing
        cases computing
      | passed calm besides unkept latest there =>
        rw [get?, there]
        exact nothing
    · cases step with
      | missed call other called generation holding missed =>
        cases asked.symm.trans (agrees_at earlier holding)
        exact look_nothing missed

/-- A result that is outdated was overtaken by an invalidation, never by a put. -/
theorem outdated_dropped {name : String} {events : List (Event κ ν)} {shared after : Shared κ ν}
    (reached : Reached name events shared) {scope : κ} {call look : Nat}
    (step : Step shared (.outdated call) after)
    (computing : stageOf events call = .computing scope look) :
    Since events look (dropping scope) := by
  cases step with
  | outdated call called generation made ran moved =>
    obtain ⟨_, underWay, -⟩ := agrees_at reached ran
    cases computing.symm.trans underWay.computing
    by_contra never
    exact moved (underWay.lasting.mpr never)

/-- However the steps of all callers come. What was put, and neither replaced nor invalidated since,
is still the entry unless a computation kept its result meanwhile; that computation had found
nothing before the put, or what was put is empty. A result is kept only if its scope was not
invalidated since the look, whatever was put since; if nothing was put either, there still is no
value for the scope. A step that is neither a put, an invalidation nor the keeping of a result
leaves the entry alone. -/
theorem puts_stay_unless_overtaken {name : String} {events : List (Event κ ν)}
    {shared : Shared κ ν} (reached : Reached name events shared) :
    (∀ moment scope value, events[moment]? = some (.put scope value) →
      ¬Since events moment (replacing scope) →
      (getAt shared.store.entries scope = some value ∧
        shared.latest? scope = some ⟨scope, value, moment⟩ ∧
        ∀ kept look, moment < kept → ¬Occurs events kept (keeping scope look)) ∨
      ∃ kept look start made, moment < kept ∧ Occurs events kept (keeping scope look) ∧
        (look < moment ∨ value = none) ∧ Computed events start made ∧
        shared.latest? scope = some made ∧
        getAt shared.store.entries scope = some made.value) ∧
    (∀ event after scope look, Step shared event after → keeping scope look events event →
      ¬Since events look (dropping scope) ∧
      (¬Since events look (puttingIn scope) → shared.store.get? scope = none) ∧
      ∃ made, Computed events look made ∧ getAt after.store.entries scope = some made.value) ∧
    (∀ call after scope look, Step shared (.outdated call) after →
      stageOf events call = .computing scope look → Since events look (dropping scope)) ∧
    ∀ event after scope, Step shared event after → ¬replacing scope events event →
      (∀ look, ¬keeping scope look events event) →
      getAt after.store.entries scope = getAt shared.store.entries scope := by
  refine ⟨?_, ?_, ?_, ?_⟩
  · intro moment scope value put untouched
    cases put_fate reached put untouched with
    | stays entry latest unkept _ => exact Or.inl ⟨entry, latest, unkept⟩
    | overtaken kept look made later keeps cause latest entry computed =>
      obtain ⟨start, computed⟩ := computed
      exact Or.inr ⟨kept, look, start, made, later, keeps, cause, computed, latest, entry⟩
  · intro event after scope look step keeps
    obtain ⟨call, rfl, computing⟩ := keeps
    cases step_touches reached step scope with
    | dropped drops _ => exact absurd drops id
    | put value puts _ _ => cases puts
    | kept other made here keeps computed fresh latest entry =>
      obtain ⟨_, ⟨⟩, theirs⟩ := keeps
      cases theirs.symm.trans computing
      exact ⟨fresh, nothing_since_look reached computing, made, computed, entry⟩
    | passed _ _ unkept _ _ => exact absurd ⟨call, rfl, computing⟩ (unkept look)
  · intro call after scope look step computing
    exact outdated_dropped reached step computing
  · intro event after scope step aside unkept
    cases step_touches reached step scope with
    | dropped drops _ => exact absurd (Or.inr drops) aside
    | put value puts _ _ =>
      rw [puts] at aside
      exact absurd (Or.inl rfl) aside
    | kept look made _ keeps _ _ _ _ => exact absurd keeps (unkept look)
    | passed _ _ _ _ entry => exact entry

def overtaking : List (Event String Nat) :=
  [.called 0 "a", .locked 0, .missed 0, .began 0 "a", .put "a" (some 2), .finished 0 3 (some 1),
    .kept 0]

theorem put_overtaken : ∃ shared, Reached "cache" overtaking shared ∧
    overtaking[4]? = some (.put "a" (some 2)) ∧ ¬Since overtaking 4 (replacing "a") ∧
    getAt shared.store.entries "a" = some (some 1) ∧
    ∃ kept look, 4 < kept ∧ Occurs overtaking kept (keeping "a" look) ∧ look < 4 := by
  have s4 := missedOnce_reached.next (.began _ 0 "a" 0 0 rfl)
  have s5 := s4.next (.put _ "a" (some 2))
  have s6 := s5.next (.finished _ 0 "a" 0 0 3 (some 1) rfl)
  have s7 := s6.next (.kept _ 0 0 0 ⟨"a", some 1, 3⟩ rfl rfl)
  have untouched : ¬Since overtaking 4 (replacing "a") := by
    rintro ⟨moment, later, event, there, done⟩
    have bound := (List.getElem?_eq_some_iff.mp there).1
    obtain rfl | rfl : moment = 5 ∨ moment = 6 := by
      change moment < 7 at bound
      omega
    · cases there
      rcases done with puts | drops
      · exact puts
      · exact drops
    · cases there
      rcases done with puts | drops
      · exact puts
      · exact drops
  obtain ⟨fate, -⟩ := puts_stay_unless_overtaken s7
  refine ⟨_, s7, rfl, untouched, rfl, ?_⟩
  rcases fate 4 "a" (some 2) rfl untouched with
    ⟨entry, -⟩ | ⟨kept, look, start, made, later, keeps, cause, -⟩
  · cases entry
  · refine ⟨kept, look, later, keeps, ?_⟩
    rcases cause with before | empty
    · exact before
    · cases empty

end Shared
end ChangeRelay.ScopeStore
