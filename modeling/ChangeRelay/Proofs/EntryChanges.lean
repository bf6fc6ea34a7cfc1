import ChangeRelay.Proofs.CallStages

/-!
What becomes of one scope's entry. A step drops it, puts a value, keeps the result of a computation
whose scope was not invalidated since its look, or leaves it alone. So an entry was put, or its
computation started, after the last invalidation of its scope.
-/
namespace ChangeRelay.ScopeStore

variable {κ ν : Type}

/-- A result, with the look of the computation that led to it. -/
structure Computed (events : List (Event κ ν)) (look : Nat) (made : Made κ ν) : Prop where
  starts : Occurs events look (starting made.scope)
  begins : Occurs events made.began (beginning made.scope look)
  finishes : ∃ call, .finished call made.began made.value ∈ events

def putting (made : Made κ ν) : Kind κ ν := fun _ event => event = .put made.scope made.value

/-- Put, or led to by a computation that started, after every invalidation of its scope. -/
def InForce (events : List (Event κ ν)) (made : Made κ ν) : Prop :=
  Occurs events made.began (putting made) ∧ ¬Since events made.began (dropping made.scope) ∨
    ∃ look, Computed events look made ∧ ¬Since events look (dropping made.scope)

theorem computed_stays {events : List (Event κ ν)} {look : Nat} {made : Made κ ν}
    (next : Event κ ν) (computed : Computed events look made) :
    Computed (events ++ [next]) look made := by
  obtain ⟨starts, begins, call, finished⟩ := computed
  exact ⟨occurs_stays next starts, occurs_stays next begins, call,
    List.mem_append_left _ finished⟩

namespace Shared

variable [DecidableEq κ]

inductive Touches (events : List (Event κ ν)) (s t : Shared κ ν) (scope : κ) (event : Event κ ν) :
    Prop where
  | dropped (drops : event.Drops scope) (gone : getAt t.store.entries scope = none)
  | put (value : Option ν) (puts : event = .put scope value)
      (latest : t.latest? scope = some ⟨scope, value, events.length⟩)
      (entry : getAt t.store.entries scope = some value)
  | kept (look : Nat) (made : Made κ ν) (here : made.scope = scope)
      (keeps : keeping scope look events event) (computed : Computed events look made)
      (fresh : ¬Since events look (dropping scope)) (latest : t.latest? scope = some made)
      (entry : getAt t.store.entries scope = some made.value)
  | passed (calm : ¬event.Drops scope) (aside : ¬event.Puts scope)
      (unkept : ∀ look, ¬keeping scope look events event)
      (latest : t.latest? scope = s.latest? scope)
      (entry : getAt t.store.entries scope = getAt s.store.entries scope)

theorem kept_touches {name : String} {events : List (Event κ ν)} {s t : Shared κ ν}
    (reached : Reached name events s) {call called generation : Nat} {made : Made κ ν}
    (ran : s.calls call = .ran called generation made)
    (same : s.store.generation made.scope = generation)
    (store : t.store = s.store.keep made.scope generation made.value)
    (writes : t.writes = made :: s.writes) (scope : κ) :
    Touches events s t scope (.kept call) := by
  obtain ⟨look, underWay, begun, finished⟩ := agrees_at reached ran
  have entries := entries_put s.store made.scope scope made.value
  rw [← keep_same same, ← store] at entries
  by_cases here : made.scope = scope
  · subst here
    refine .kept look made rfl ⟨call, rfl, underWay.computing⟩
      ⟨computing_starts underWay.computing, begun, call, finished⟩ (underWay.lasting.mp same) ?_ ?_
    · simp [latest?, writes]
    · simpa using entries
  · refine .passed id id ?_ ?_ ?_
    · rintro other ⟨another, now, computing⟩
      cases now
      cases computing.symm.trans underWay.computing
      exact here rfl
    · simp [latest?, writes, here]
    · simpa [here] using entries

omit [DecidableEq κ] in
theorem unkept_besides {events : List (Event κ ν)} {event : Event κ ν} {scope : κ}
    (besides : ∀ call, event ≠ .kept call) (look : Nat) : ¬keeping scope look events event := by
  rintro ⟨call, same, -⟩
  exact besides call same

theorem step_touches {name : String} {events : List (Event κ ν)} {event : Event κ ν}
    {s t : Shared κ ν} (reached : Reached name events s) (step : Step s event t) (scope : κ) :
    Touches events s t scope event := by
  cases step with
  | put other value =>
    by_cases here : other = scope
    · subst here
      refine .put value rfl ?_ ?_
      · simp [latest?, (reached_recorded reached).clock]
      · simp [entries_put]
    · refine .passed id here (unkept_besides (by simp)) ?_ ?_
      · simp [latest?, here]
      · simp [entries_put, here]
  | invalidated other =>
    have entries := entries_invalidate s.store other scope
    by_cases here : other = scope
    · exact .dropped here (by simpa [here] using entries)
    · exact .passed here id (unkept_besides (by simp)) rfl (by simpa [here] using entries)
  | cleared => exact .dropped trivial rfl
  | called call other idle =>
    refine .passed id id (unkept_besides (by simp)) rfl ?_
    simp [entries_register]
  | kept call called generation made ran same => exact kept_touches reached ran same rfl rfl scope
  | outdated call called generation made ran moved =>
    refine .passed id id (unkept_besides (by simp)) rfl ?_
    simp [keep_moved moved]
  | got | gotNothing | locked | found | missed | began | finished | raised =>
    exact .passed id id (unkept_besides (by simp)) rfl rfl

end Shared
end ChangeRelay.ScopeStore
