import ChangeRelay.Proofs.FreshEntries
import Mathlib.Data.List.Induction

/-!
Look-ups told from the events alone. The stage of a call says which scope it asks for and, once it
has found nothing, at which moment that was. A computation is known by that moment, its look: from
there on its call does nothing but compute and hand the result over. States that are reached agree
with the stages of their calls, and the generation that a computation remembers is the scope's own
exactly as long as the scope is not invalidated.
-/
namespace ChangeRelay.ScopeStore

section
variable {κ ν : Type}

inductive Stage (κ : Type) where
  | away
  | asking (scope : κ)
  | computing (scope : κ) (look : Nat)

def Stage.miss (moment : Nat) : Stage κ → Stage κ
  | .asking scope => .computing scope moment
  | stage => stage

/-- The call whose step an event is. -/
def Event.caller? : Event κ ν → Option Nat
  | .got _ | .put .. | .invalidated _ | .cleared => none
  | .called call _ | .locked call | .found call | .missed call | .began call _ | .finished call ..
  | .raised call _ | .kept call | .outdated call => some call

def Event.bring (moment : Nat) (stage : Stage κ) : Event κ ν → Stage κ
  | .called _ scope => .asking scope
  | .missed _ => stage.miss moment
  | .found _ | .raised .. | .kept _ | .outdated _ => .away
  | _ => stage

def stageOf (events : List (Event κ ν)) (call : Nat) : Stage κ :=
  events.zipIdx.foldl
    (fun stage item =>
      if item.1.caller? = some call then item.1.bring item.2 stage else stage) .away

/-- A kind of event, told from the events before it and from the event itself. -/
abbrev Kind (κ ν : Type) := List (Event κ ν) → Event κ ν → Prop

def dropping (scope : κ) : Kind κ ν := fun _ event => event.Drops scope

def Event.Puts (scope : κ) : Event κ ν → Prop
  | .put other _ => other = scope
  | _ => False

/-- The look of a call that finds nothing: a computation for the scope starts. -/
def starting (scope : κ) : Kind κ ν := fun past event =>
  ∃ call, event = .missed call ∧ stageOf past call = .asking scope

/-- The first doing of a computation itself. -/
def beginning (scope : κ) (look : Nat) : Kind κ ν := fun past event =>
  ∃ call, event = .began call scope ∧ stageOf past call = .computing scope look

def keeping (scope : κ) (look : Nat) : Kind κ ν := fun past event =>
  ∃ call, event = .kept call ∧ stageOf past call = .computing scope look

def Occurs (events : List (Event κ ν)) (moment : Nat) (kind : Kind κ ν) : Prop :=
  ∃ event, events[moment]? = some event ∧ kind (events.take moment) event

def Since (events : List (Event κ ν)) (first : Nat) (kind : Kind κ ν) : Prop :=
  ∃ moment, first < moment ∧ Occurs events moment kind

theorem stage_next (events : List (Event κ ν)) (event : Event κ ν) (call : Nat) :
    stageOf (events ++ [event]) call =
      if event.caller? = some call then event.bring events.length (stageOf events call)
      else stageOf events call := by
  simp [stageOf, List.zipIdx_append, List.foldl_append]

theorem stage_apart {events : List (Event κ ν)} {event : Event κ ν} {call : Nat}
    (apart : event.caller? ≠ some call) :
    stageOf (events ++ [event]) call = stageOf events call := by
  rw [stage_next, if_neg apart]

theorem stage_own {events : List (Event κ ν)} {event : Event κ ν} {call : Nat}
    (own : event.caller? = some call) :
    stageOf (events ++ [event]) call = event.bring events.length (stageOf events call) := by
  rw [stage_next, if_pos own]

theorem occurs_before {events : List (Event κ ν)} {moment : Nat} {kind : Kind κ ν}
    (occurs : Occurs events moment kind) : moment < events.length := by
  obtain ⟨event, there, -⟩ := occurs
  exact (List.getElem?_eq_some_iff.mp there).1

theorem occurs_next (events : List (Event κ ν)) (event : Event κ ν) (moment : Nat)
    (kind : Kind κ ν) :
    Occurs (events ++ [event]) moment kind ↔
      Occurs events moment kind ∨ moment = events.length ∧ kind events event := by
  by_cases old : moment < events.length
  · have now : moment ≠ events.length := Nat.ne_of_lt old
    have same : (events ++ [event]).take moment = events.take moment :=
      List.take_append_of_le_length (Nat.le_of_lt old)
    simp [Occurs, List.getElem?_append_left old, same, now]
  · by_cases now : moment = events.length
    · subst now
      simp [Occurs]
    · have nothing : (events ++ [event])[moment]? = none := by
        rw [List.getElem?_eq_none_iff, List.length_append, List.length_singleton]
        omega
      have before : events[moment]? = none := List.getElem?_eq_none (by omega)
      simp [Occurs, nothing, before, now]

theorem occurs_stays {events : List (Event κ ν)} {moment : Nat} {kind : Kind κ ν}
    (next : Event κ ν) (occurs : Occurs events moment kind) :
    Occurs (events ++ [next]) moment kind :=
  (occurs_next events next moment kind).mpr (Or.inl occurs)

theorem since_next {events : List (Event κ ν)} {first : Nat} (earlier : first < events.length)
    (event : Event κ ν) (kind : Kind κ ν) :
    Since (events ++ [event]) first kind ↔ Since events first kind ∨ kind events event := by
  simp only [Since, occurs_next]
  constructor
  · rintro ⟨moment, later, old | ⟨rfl, now⟩⟩
    · exact Or.inl ⟨moment, later, old⟩
    · exact Or.inr now
  · rintro (⟨moment, later, old⟩ | now)
    · exact ⟨moment, later, Or.inl old⟩
    · exact ⟨events.length, earlier, Or.inr ⟨rfl, now⟩⟩

theorem computing_from {events : List (Event κ ν)} {event : Event κ ν} {call look : Nat} {scope : κ}
    (computing : stageOf (events ++ [event]) call = .computing scope look) :
    stageOf events call = .computing scope look ∨
      event = .missed call ∧ stageOf events call = .asking scope ∧ look = events.length := by
  by_cases own : event.caller? = some call
  · rw [stage_own own] at computing
    cases event with
    | missed other =>
      cases own
      cases stage : stageOf events call with
      | away =>
        rw [stage] at computing
        cases computing
      | asking asked =>
        rw [stage] at computing
        cases computing
        exact Or.inr ⟨rfl, rfl, rfl⟩
      | computing earlier moment =>
        rw [stage] at computing
        exact Or.inl computing
    | got | put | invalidated | cleared => cases own
    | called | found | raised | kept | outdated => cases computing
    | locked | began | finished => exact Or.inl computing
  · rw [stage_apart own] at computing
    exact Or.inl computing

theorem computing_looked {events : List (Event κ ν)} {call look : Nat} {scope : κ}
    (computing : stageOf events call = .computing scope look) :
    events[look]? = some (.missed call) ∧ stageOf (events.take look) call = .asking scope := by
  induction events using List.reverseRecOn with
  | nil => cases computing
  | append_singleton events event ih =>
    rcases computing_from computing with before | ⟨rfl, asked, rfl⟩
    · obtain ⟨there, from_⟩ := ih before
      have early := (List.getElem?_eq_some_iff.mp there).1
      refine ⟨Shared.event_stays event there, ?_⟩
      rw [List.take_append_of_le_length (Nat.le_of_lt early)]
      exact from_
    · refine ⟨Shared.event_now events _, ?_⟩
      rw [List.take_left]
      exact asked

theorem computing_starts {events : List (Event κ ν)} {call look : Nat} {scope : κ}
    (computing : stageOf events call = .computing scope look) :
    Occurs events look (starting scope) := by
  obtain ⟨there, asked⟩ := computing_looked computing
  exact ⟨_, there, call, rfl, asked⟩

theorem same_look {events : List (Event κ ν)} {first second look : Nat} {scope other : κ}
    (here : stageOf events first = .computing scope look)
    (there : stageOf events second = .computing other look) : first = second := by
  have same := (computing_looked here).1.symm.trans (computing_looked there).1
  simpa using same

theorem not_since_now (events : List (Event κ ν)) (event : Event κ ν) (kind : Kind κ ν) :
    ¬Since (events ++ [event]) events.length kind := by
  rintro ⟨moment, later, occurs⟩
  have before := occurs_before occurs
  rw [List.length_append, List.length_singleton] at before
  omega

end

namespace Shared

variable {κ ν : Type} [DecidableEq κ]

/-- A call that computes since its look. The generation that it remembers is the scope's own exactly
as long as the scope is not invalidated. -/
structure UnderWay (events : List (Event κ ν)) (shared : Shared κ ν) (call : Nat) (scope : κ)
    (generation look : Nat) : Prop where
  computing : stageOf events call = .computing scope look
  lasting : shared.store.generation scope = generation ↔ ¬Since events look (dropping scope)

/-- What the events so far tell of a call in each of its phases. -/
def Agrees (events : List (Event κ ν)) (shared : Shared κ ν) (call : Nat) : Phase κ ν → Prop
  | .idle => stageOf events call = .away
  | .waiting scope _ | .holding scope _ => stageOf events call = .asking scope
  | .missed scope _ generation => ∃ look, UnderWay events shared call scope generation look ∧
      ∀ moment, ¬Occurs events moment (beginning scope look)
  | .running scope _ generation began => ∃ look,
      UnderWay events shared call scope generation look ∧
        Occurs events began (beginning scope look)
  | .ran _ generation made => ∃ look,
      UnderWay events shared call made.scope generation look ∧
        Occurs events made.began (beginning made.scope look) ∧
          .finished call made.began made.value ∈ events

theorem step_generation {s t : Shared κ ν} {event : Event κ ν} (step : Step s event t) (scope : κ) :
    (¬event.Drops scope → t.store.generation scope = s.store.generation scope) ∧
      (event.Drops scope → scope ∈ s.store.registered →
        s.store.generation scope < t.store.generation scope) := by
  cases step with
  | invalidated other =>
    have moved := generation_invalidate s.store other scope
    constructor
    · intro besides
      simpa [show other ≠ scope from besides] using moved
    · rintro rfl _
      simp [moved]
  | cleared =>
    refine ⟨fun besides => absurd trivial besides, ?_⟩
    intro _ registered
    have known : scope ∈ s.store.known := (known_iff s.store scope).mpr (Or.inr registered)
    have counted := List.count_pos_iff.mpr known
    have moved := generation_clear s.store scope
    change _ < s.store.clear.generation scope
    omega
  | called call other idle =>
    exact ⟨fun _ => generation_register s.store other scope, fun drops => absurd drops id⟩
  | kept call called generation made ran same =>
    refine ⟨fun _ => ?_, fun drops => absurd drops id⟩
    simp only [keep_same same]
    rfl
  | outdated call called generation made ran moved =>
    refine ⟨fun _ => ?_, fun drops => absurd drops id⟩
    simp only [keep_moved moved]
  | got | gotNothing | put | locked | found | missed | began | finished | raised =>
    exact ⟨fun _ => rfl, fun drops => absurd drops id⟩

theorem step_apart {s t : Shared κ ν} {event : Event κ ν} (step : Step s event t) {call : Nat}
    (apart : event.caller? ≠ some call) : t.calls call = s.calls call := by
  cases step with
  | got | gotNothing | put | invalidated | cleared => rfl
  | called other | locked other | found other | missed other | began other | finished other
  | raised other | kept other | outdated other =>
    have besides : call ≠ other := fun same => apart (congrArg some same.symm)
    exact if_neg besides

theorem underWay_next {events : List (Event κ ν)} {event : Event κ ν} {s t : Shared κ ν}
    (step : Step s event t) {call generation look : Nat} {scope : κ}
    (underWay : UnderWay events s call scope generation look)
    (registered : scope ∈ s.store.registered) (reached : generation ≤ s.store.generation scope)
    (stays : stageOf (events ++ [event]) call = .computing scope look) :
    UnderWay (events ++ [event]) t call scope generation look := by
  obtain ⟨computing, lasting⟩ := underWay
  have early := occurs_before (computing_starts computing)
  obtain ⟨calm, moved⟩ := step_generation step scope
  refine ⟨stays, ?_⟩
  rw [since_next early]
  by_cases drops : event.Drops scope
  · have grown := moved drops registered
    constructor
    · intro same
      omega
    · intro never
      exact absurd (Or.inr drops) never
  · rw [calm drops, lasting]
    simp [dropping, drops]

theorem agrees_apart {events : List (Event κ ν)} {event : Event κ ν} {s t : Shared κ ν}
    (step : Step s event t) {call : Nat} (apart : event.caller? ≠ some call) {phase : Phase κ ν}
    (guarded : s.Guarded phase) (agrees : Agrees events s call phase) :
    Agrees (events ++ [event]) t call phase := by
  have stage : stageOf (events ++ [event]) call = stageOf events call := stage_apart apart
  cases phase with
  | idle | waiting | holding => exact stage.trans agrees
  | missed scope called generation =>
    obtain ⟨look, underWay, unbegun⟩ := agrees
    obtain ⟨registered, -, reached⟩ := guarded
    refine ⟨look, underWay_next step underWay registered reached
      (stage.trans underWay.computing), ?_⟩
    intro moment occurs
    rcases (occurs_next events event moment _).mp occurs with old | ⟨-, other, rfl, computing⟩
    · exact unbegun moment old
    · exact apart (congrArg some (same_look computing underWay.computing))
  | running scope called generation began =>
    obtain ⟨look, underWay, begun⟩ := agrees
    obtain ⟨registered, -, -, reached, -⟩ := guarded
    exact ⟨look, underWay_next step underWay registered reached (stage.trans underWay.computing),
      occurs_stays event begun⟩
  | ran called generation made =>
    obtain ⟨look, underWay, begun, finished⟩ := agrees
    obtain ⟨registered, -, -, reached, -⟩ := guarded
    exact ⟨look, underWay_next step underWay registered reached (stage.trans underWay.computing),
      occurs_stays event begun, List.mem_append_left _ finished⟩

omit [DecidableEq κ] in
theorem turn_own (shared : Shared κ ν) (call : Nat) (phase : Phase κ ν) :
    (shared.turn call phase).calls call = phase := if_pos rfl

omit [DecidableEq κ] in
theorem unbegun_yet (events : List (Event κ ν)) (moment : Nat) (scope : κ) :
    ¬Occurs events moment (beginning scope events.length) := by
  rintro ⟨event, there, call, -, computing⟩
  have early := (List.getElem?_eq_some_iff.mp (computing_looked computing).1).1
  rw [List.length_take] at early
  omega

theorem agrees_own {events : List (Event κ ν)} {event : Event κ ν} {s t : Shared κ ν}
    (step : Step s event t) (clock : s.clock = events.length) {call : Nat}
    (own : event.caller? = some call) (guarded : s.Guarded (s.calls call))
    (agrees : Agrees events s call (s.calls call)) :
    Agrees (events ++ [event]) t call (t.calls call) := by
  have stage : stageOf (events ++ [event]) call = event.bring events.length (stageOf events call) :=
    stage_own own
  cases step with
  | got | gotNothing | put | invalidated | cleared => cases own
  | called other scope idle =>
    cases own
    change Agrees _ _ _ ((s.turn call _).calls call)
    rw [turn_own]
    exact stage
  | locked other scope called waiting free =>
    cases own
    rw [waiting] at agrees
    rw [turn_own]
    exact stage.trans agrees
  | found | raised | kept | outdated =>
    cases own
    change Agrees _ _ _ ((s.turn call _).calls call)
    rw [turn_own]
    exact stage
  | missed other scope called generation holding missed =>
    cases own
    rw [holding] at agrees
    have asked : stageOf events call = .asking scope := agrees
    rw [asked] at stage
    rw [turn_own]
    refine ⟨events.length, ⟨stage, ?_⟩, ?_⟩
    · simp [look_missed missed, turn, not_since_now]
    · intro moment occurs
      rcases (occurs_next events _ moment _).mp occurs with old | ⟨-, _, new, -⟩
      · exact unbegun_yet events moment scope old
      · cases new
  | began other scope called generation missed =>
    cases own
    rw [missed] at agrees guarded
    obtain ⟨look, underWay, -⟩ := agrees
    obtain ⟨registered, -, reached⟩ := guarded
    rw [turn_own]
    refine ⟨look, underWay_next (.began s call scope called generation missed) underWay registered
      reached (stage.trans underWay.computing), ?_⟩
    rw [clock]
    exact (occurs_next events _ _ _).mpr (Or.inr ⟨rfl, call, rfl, underWay.computing⟩)
  | finished other scope called generation began value running =>
    cases own
    rw [running] at agrees guarded
    obtain ⟨look, underWay, begun⟩ := agrees
    obtain ⟨registered, -, -, reached, -⟩ := guarded
    rw [turn_own]
    refine ⟨look, underWay_next (.finished s call scope called generation began value running)
      underWay registered reached (stage.trans underWay.computing), occurs_stays _ begun, ?_⟩
    exact List.mem_append_right _ List.mem_cons_self

/-- Whatever a reached state says of its calls, the events say so too. -/
theorem reached_agrees {name : String} {events : List (Event κ ν)} {shared : Shared κ ν}
    (reached : Reached name events shared) (call : Nat) :
    Agrees events shared call (shared.calls call) := by
  induction reached with
  | start => rfl
  | @next events event s t earlier step ih =>
    have guarded := (reached_sound earlier).calls call
    by_cases own : event.caller? = some call
    · exact agrees_own step (reached_recorded earlier).clock own guarded ih
    · rw [step_apart step own]
      exact agrees_apart step own guarded ih

theorem agrees_at {name : String} {events : List (Event κ ν)} {shared : Shared κ ν}
    (reached : Reached name events shared) {call : Nat} {phase : Phase κ ν}
    (there : shared.calls call = phase) : Agrees events shared call phase := by
  rw [← there]
  exact reached_agrees reached call

def Exclusive (shared : Shared κ ν) : Prop :=
  ∀ first second scope, (shared.calls first).locked? = some scope →
    (shared.calls second).locked? = some scope → first = second

omit [DecidableEq κ] in
theorem turn_exclusive {shared after : Shared κ ν} (exclusive : shared.Exclusive) {call : Nat}
    {phase : Phase κ ν} (calls : after.calls = (shared.turn call phase).calls)
    (allowed : ∀ scope, phase.locked? = some scope →
      (shared.calls call).locked? = some scope ∨
        ∀ other, (shared.calls other).locked? ≠ some scope) : after.Exclusive := by
  have held : ∀ other scope, (after.calls other).locked? = some scope →
      other = call ∧ (∀ another, (shared.calls another).locked? ≠ some scope) ∨
        (shared.calls other).locked? = some scope := by
    intro other scope holds
    rw [calls] at holds
    by_cases own : other = call
    · subst own
      rw [turn_own] at holds
      rcases allowed scope holds with already | free
      · exact Or.inr already
      · exact Or.inl ⟨rfl, free⟩
    · refine Or.inr ?_
      simpa [turn, own] using holds
  intro first second scope firstHolds secondHolds
  rcases held first scope firstHolds with ⟨rfl, free⟩ | firstBefore
  · rcases held second scope secondHolds with ⟨rfl, -⟩ | secondBefore
    · rfl
    · exact absurd secondBefore (free second)
  · rcases held second scope secondHolds with ⟨rfl, free⟩ | secondBefore
    · exact absurd firstBefore (free first)
    · exact exclusive first second scope firstBefore secondBefore

theorem step_exclusive {s t : Shared κ ν} {event : Event κ ν} (exclusive : s.Exclusive)
    (step : Step s event t) : t.Exclusive := by
  cases step with
  | got | gotNothing | put | invalidated | cleared => exact exclusive
  | called call scope idle => exact turn_exclusive exclusive rfl nofun
  | locked call scope called waiting free =>
    refine turn_exclusive exclusive rfl ?_
    rintro other ⟨⟩
    exact Or.inr free
  | found | raised | kept | outdated => exact turn_exclusive exclusive rfl nofun
  | missed call scope called generation holding missed =>
    refine turn_exclusive exclusive rfl ?_
    rintro other ⟨⟩
    exact Or.inl (by rw [holding]; rfl)
  | began call scope called generation missed =>
    refine turn_exclusive exclusive rfl ?_
    rintro other ⟨⟩
    exact Or.inl (by rw [missed]; rfl)
  | finished call scope called generation began value running =>
    refine turn_exclusive exclusive rfl ?_
    rintro other ⟨⟩
    exact Or.inl (by rw [running]; rfl)

theorem reached_exclusive {name : String} {events : List (Event κ ν)} {shared : Shared κ ν}
    (reached : Reached name events shared) : shared.Exclusive := by
  induction reached with
  | start =>
    intro first second scope holds
    cases holds
  | next _ step ih => exact step_exclusive ih step

theorem computing_locked {name : String} {events : List (Event κ ν)} {shared : Shared κ ν}
    (reached : Reached name events shared) {call look : Nat} {scope : κ}
    (computing : stageOf events call = .computing scope look) :
    (shared.calls call).locked? = some scope := by
  have agrees := reached_agrees reached call
  cases phase : shared.calls call with
  | idle =>
    rw [phase] at agrees
    cases computing.symm.trans agrees
  | waiting | holding =>
    rw [phase] at agrees
    cases computing.symm.trans agrees
  | missed | running | ran =>
    rw [phase] at agrees
    obtain ⟨_, underWay, -⟩ := agrees
    cases computing.symm.trans underWay.computing
    rfl

end Shared
end ChangeRelay.ScopeStore
