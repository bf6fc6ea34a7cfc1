import ChangeRelay.Proofs.SharedStore

/-!
The past that a shared store carries along agrees with the events that led to it: every event that
invalidates is among the invalidations, and everything written or returned was put or computed by
events at the moments that it names.
-/
namespace ChangeRelay.ScopeStore.Shared

variable {κ ν : Type} [DecidableEq κ]

def PhaseOf (events : List (Event κ ν)) (call : Nat) : Phase κ ν → Prop
  | .idle => True
  | .waiting scope called | .holding scope called | .missed scope called _ =>
    CalledAt events called scope
  | .running scope called _ began =>
    CalledAt events called scope ∧ events[began]? = some (.began call scope)
  | .ran called _ made => CalledAt events called made.scope ∧ MadeBy events made

structure Recorded (events : List (Event κ ν)) (shared : Shared κ ν) : Prop where
  clock : shared.clock = events.length
  drops : ∀ (moment : Nat) event scope, events[moment]? = some event → event.Drops scope →
    ∃ drop ∈ shared.drops, drop.moment = moment ∧ drop.Hits scope
  writes : ∀ write ∈ shared.writes, MadeBy events write
  calls : ∀ call, PhaseOf events call (shared.calls call)
  returned : ∀ returned ∈ shared.returned, CalledAt events returned.called returned.scope ∧
    ∀ source, returned.source = some source → MadeBy events source

omit [DecidableEq κ] in
theorem event_stays {events : List (Event κ ν)} {moment : Nat} {event : Event κ ν}
    (next : Event κ ν) (there : events[moment]? = some event) :
    (events ++ [next])[moment]? = some event := by
  have below := (List.getElem?_eq_some_iff.mp there).1
  rw [List.getElem?_append_left below]
  exact there

omit [DecidableEq κ] in
theorem event_now (events : List (Event κ ν)) (next : Event κ ν) :
    (events ++ [next])[events.length]? = some next := by
  simp

omit [DecidableEq κ] in
theorem madeBy_stays {events : List (Event κ ν)} {made : Made κ ν} (next : Event κ ν)
    (madeBy : MadeBy events made) : MadeBy (events ++ [next]) made := by
  rcases madeBy with put | ⟨call, began, finished⟩
  · exact Or.inl (event_stays next put)
  · exact Or.inr ⟨call, event_stays next began, List.mem_append_left _ finished⟩

omit [DecidableEq κ] in
theorem calledAt_stays {events : List (Event κ ν)} {moment : Nat} {scope : κ}
    (next : Event κ ν) (calledAt : CalledAt events moment scope) :
    CalledAt (events ++ [next]) moment scope := by
  rcases calledAt with got | ⟨call, called⟩
  · exact Or.inl (event_stays next got)
  · exact Or.inr ⟨call, event_stays next called⟩

omit [DecidableEq κ] in
theorem phaseOf_stays {events : List (Event κ ν)} {call : Nat} {phase : Phase κ ν}
    (next : Event κ ν) (phaseOf : PhaseOf events call phase) :
    PhaseOf (events ++ [next]) call phase := by
  cases phase with
  | idle => trivial
  | waiting scope called => exact calledAt_stays next phaseOf
  | holding scope called => exact calledAt_stays next phaseOf
  | missed scope called generation => exact calledAt_stays next phaseOf
  | running scope called generation began =>
    exact ⟨calledAt_stays next phaseOf.1, event_stays next phaseOf.2⟩
  | ran called generation made =>
    exact ⟨calledAt_stays next phaseOf.1, madeBy_stays next phaseOf.2⟩

omit [DecidableEq κ] in
/-- It is enough to look at what the newest event added. -/
theorem recorded_next {events : List (Event κ ν)} {event : Event κ ν} {s t : Shared κ ν}
    (recorded : Recorded events s) (clock : t.clock = s.clock + 1)
    (drops : ∀ drop ∈ s.drops, drop ∈ t.drops)
    (dropped : ∀ scope, event.Drops scope →
      ∃ drop ∈ t.drops, drop.moment = s.clock ∧ drop.Hits scope)
    (writes : ∀ write ∈ t.writes, write ∈ s.writes ∨ MadeBy (events ++ [event]) write)
    (calls : ∀ call, t.calls call = s.calls call ∨
      PhaseOf (events ++ [event]) call (t.calls call))
    (returned : ∀ returned ∈ t.returned, returned ∈ s.returned ∨
      CalledAt (events ++ [event]) returned.called returned.scope ∧
        ∀ source, returned.source = some source →
          source ∈ s.writes ∨ MadeBy (events ++ [event]) source) :
    Recorded (events ++ [event]) t := by
  refine ⟨?_, ?_, ?_, ?_, ?_⟩
  · rw [clock, recorded.clock, List.length_append, List.length_singleton]
  · intro moment other scope there hits
    by_cases old : moment < events.length
    · rw [List.getElem?_append_left old] at there
      obtain ⟨drop, member, same, hit⟩ := recorded.drops moment other scope there hits
      exact ⟨drop, drops drop member, same, hit⟩
    · have below := (List.getElem?_eq_some_iff.mp there).1
      rw [List.length_append, List.length_singleton] at below
      have now : moment = events.length := by omega
      subst now
      rw [event_now, Option.some.injEq] at there
      subst there
      rw [← recorded.clock]
      exact dropped scope hits
  · intro write member
    rcases writes write member with old | new
    · exact madeBy_stays event (recorded.writes write old)
    · exact new
  · intro call
    rcases calls call with same | new
    · rw [same]
      exact phaseOf_stays event (recorded.calls call)
    · exact new
  · intro answer member
    rcases returned answer member with old | ⟨called, sources⟩
    · obtain ⟨called, sources⟩ := recorded.returned answer old
      exact ⟨calledAt_stays event called,
        fun source from_ => madeBy_stays event (sources source from_)⟩
    · refine ⟨called, ?_⟩
      intro source from_
      rcases sources source from_ with old | new
      · exact madeBy_stays event (recorded.writes source old)
      · exact new

omit [DecidableEq κ] in
theorem turn_phases {s after : Shared κ ν} {events : List (Event κ ν)} {call : Nat}
    (phase : Phase κ ν) (calls : after.calls = (s.turn call phase).calls)
    (phaseOf : PhaseOf events call phase) (other : Nat) :
    after.calls other = s.calls other ∨ PhaseOf events other (after.calls other) := by
  by_cases same : other = call
  · subst same
    refine Or.inr ?_
    simpa [calls, turn] using phaseOf
  · refine Or.inl ?_
    simp [calls, turn, same]

omit [DecidableEq κ] in
theorem turn_recorded {events : List (Event κ ν)} {event : Event κ ν} {s : Shared κ ν}
    (recorded : Recorded events s) {call : Nat} {phase : Phase κ ν}
    (harmless : ∀ scope, ¬event.Drops scope)
    (phaseOf : PhaseOf (events ++ [event]) call phase) :
    Recorded (events ++ [event]) (s.turn call phase) :=
  recorded_next recorded rfl (fun _ member => member)
    (fun scope hits => absurd hits (harmless scope)) (fun _ member => Or.inl member)
    (turn_phases phase rfl phaseOf) (fun _ member => Or.inl member)

theorem latest_written {s : Shared κ ν} {scope : κ} {source : Made κ ν}
    (latest : s.latest? scope = some source) : source ∈ s.writes :=
  List.mem_of_find?_eq_some latest

omit [DecidableEq κ] in
theorem recorded_phase {events : List (Event κ ν)} {s : Shared κ ν} (recorded : Recorded events s)
    {call : Nat} {phase : Phase κ ν} (there : s.calls call = phase) :
    PhaseOf events call phase := by
  rw [← there]
  exact recorded.calls call

omit [DecidableEq κ] in
theorem old_or_new {α : Type} {new : α} {old : List α} {holds : α → Prop} (fresh : holds new) :
    ∀ item ∈ new :: old, item ∈ old ∨ holds item := by
  intro item member
  rcases List.mem_cons.mp member with rfl | before
  · exact Or.inr fresh
  · exact Or.inl before

theorem step_recorded {events : List (Event κ ν)} {event : Event κ ν} {s t : Shared κ ν}
    (recorded : Recorded events s) (step : Step s event t) :
    Recorded (events ++ [event]) t := by
  have clock := recorded.clock
  cases step with
  | got scope value entry =>
    refine recorded_next recorded rfl (fun _ member => member) (fun _ hits => absurd hits id)
      (fun _ member => Or.inl member) (fun _ => Or.inl rfl) (old_or_new ⟨Or.inl ?_, ?_⟩)
    · rw [clock]
      exact event_now events _
    · intro source latest
      exact Or.inl (latest_written latest)
  | gotNothing scope entry =>
    exact recorded_next recorded rfl (fun _ member => member) (fun _ hits => absurd hits id)
      (fun _ member => Or.inl member) (fun _ => Or.inl rfl) (fun _ member => Or.inl member)
  | put scope value =>
    refine recorded_next recorded rfl (fun _ member => member) (fun _ hits => absurd hits id)
      (old_or_new (Or.inl ?_)) (fun _ => Or.inl rfl) (fun _ member => Or.inl member)
    simp only [clock]
    exact event_now events _
  | invalidated scope =>
    refine recorded_next recorded rfl (fun _ member => List.mem_cons_of_mem _ member) ?_
      (fun _ member => Or.inl member) (fun _ => Or.inl rfl) (fun _ member => Or.inl member)
    intro other hits
    exact ⟨_, List.mem_cons_self, rfl, Or.inr (congrArg some hits)⟩
  | cleared =>
    refine recorded_next recorded rfl (fun _ member => List.mem_cons_of_mem _ member) ?_
      (fun _ member => Or.inl member) (fun _ => Or.inl rfl) (fun _ member => Or.inl member)
    intro scope _
    exact ⟨_, List.mem_cons_self, rfl, Or.inl rfl⟩
  | called call scope idle =>
    have phaseOf : PhaseOf (events ++ [.called call scope]) call
        (.waiting scope s.clock : Phase κ ν) := by
      refine Or.inr ⟨call, ?_⟩
      rw [clock]
      exact event_now events _
    exact recorded_next recorded rfl (fun _ member => member) (fun _ hits => absurd hits id)
      (fun _ member => Or.inl member) (turn_phases _ rfl phaseOf) (fun _ member => Or.inl member)
  | locked call scope called waiting free =>
    have phaseOf := recorded_phase recorded waiting
    exact turn_recorded recorded (fun _ hits => hits) (calledAt_stays _ phaseOf)
  | found call scope called value holding found =>
    have phaseOf := recorded_phase recorded holding
    refine recorded_next recorded rfl (fun _ member => member) (fun _ hits => absurd hits id)
      (fun _ member => Or.inl member) (turn_phases .idle rfl trivial) (old_or_new ⟨?_, ?_⟩)
    · exact calledAt_stays _ phaseOf
    · intro source latest
      exact Or.inl (latest_written latest)
  | missed call scope called generation holding missed =>
    have phaseOf := recorded_phase recorded holding
    exact turn_recorded recorded (fun _ hits => hits) (calledAt_stays _ phaseOf)
  | began call scope called generation missed =>
    have phaseOf := recorded_phase recorded missed
    refine turn_recorded recorded (fun _ hits => hits) ⟨calledAt_stays _ phaseOf, ?_⟩
    rw [clock]
    exact event_now events _
  | finished call scope called generation began value running =>
    obtain ⟨calledAt, begun⟩ := recorded_phase recorded running
    refine turn_recorded recorded (fun _ hits => hits) ⟨calledAt_stays _ calledAt, Or.inr ?_⟩
    exact ⟨call, event_stays _ begun, List.mem_append_right _ List.mem_cons_self⟩
  | raised call scope called generation began running =>
    exact turn_recorded recorded (fun _ hits => hits) trivial
  | kept call called generation made ran same =>
    obtain ⟨calledAt, madeBy⟩ := recorded_phase recorded ran
    refine recorded_next recorded rfl (fun _ member => member) (fun _ hits => absurd hits id)
      (old_or_new (madeBy_stays _ madeBy)) (turn_phases .idle rfl trivial) (old_or_new ⟨?_, ?_⟩)
    · exact calledAt_stays _ calledAt
    · intro source same
      cases same
      exact Or.inr (madeBy_stays _ madeBy)
  | outdated call called generation made ran moved =>
    obtain ⟨calledAt, madeBy⟩ := recorded_phase recorded ran
    refine recorded_next recorded rfl (fun _ member => member) (fun _ hits => absurd hits id)
      (fun _ member => Or.inl member) (turn_phases .idle rfl trivial) (old_or_new ⟨?_, ?_⟩)
    · exact calledAt_stays _ calledAt
    · intro source same
      cases same
      exact Or.inr (madeBy_stays _ madeBy)

theorem reached_recorded {name : String} {events : List (Event κ ν)} {shared : Shared κ ν}
    (reached : Reached name events shared) : Recorded events shared := by
  induction reached with
  | start =>
    refine ⟨rfl, ?_, ?_, fun _ => trivial, ?_⟩
    · intro moment event scope there
      simp at there
    · intro write member
      cases member
    · intro returned member
      cases member
  | next _ step ih => exact step_recorded ih step

end ChangeRelay.ScopeStore.Shared
