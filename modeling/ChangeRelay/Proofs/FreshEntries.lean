import ChangeRelay.Proofs.StorePast

/-!
An entry is never older than the last invalidation of its scope. What carries the proof is that a
look-up under way has registered its scope and remembers a generation that is at most the scope's
current one: every invalidation, of the scope alone or of all scopes, moves the generation past it.
-/
namespace ChangeRelay.ScopeStore.Shared

variable {κ ν : Type} [DecidableEq κ]

def Fresh (shared : Shared κ ν) (scope : κ) (moment : Nat) : Prop :=
  ∀ drop ∈ shared.drops, drop.Hits scope → drop.moment < moment

/-- What a look-up may rely on in each of its phases. -/
def Guarded (shared : Shared κ ν) : Phase κ ν → Prop
  | .idle => True
  | .waiting scope called | .holding scope called =>
    scope ∈ shared.store.registered ∧ called < shared.clock
  | .missed scope called generation =>
    scope ∈ shared.store.registered ∧ called < shared.clock ∧
      generation ≤ shared.store.generation scope
  | .running scope called generation began =>
    scope ∈ shared.store.registered ∧ called < began ∧ began < shared.clock ∧
      generation ≤ shared.store.generation scope ∧
      (shared.store.generation scope = generation → shared.Fresh scope began)
  | .ran called generation made =>
    made.scope ∈ shared.store.registered ∧ called < made.began ∧ made.began < shared.clock ∧
      generation ≤ shared.store.generation made.scope ∧
      (shared.store.generation made.scope = generation → shared.Fresh made.scope made.began)

/-- An entry is the value written last, and that is newer than every invalidation. -/
def Current (shared : Shared κ ν) (scope : κ) (value : Option ν) : Prop :=
  ∃ write, shared.latest? scope = some write ∧ write.value = value ∧
    shared.Fresh scope write.began

/-- An answer is newer than every invalidation that came before the call. -/
def Timely (shared : Shared κ ν) (returned : Returned κ ν) : Prop :=
  ∃ source, returned.source = some source ∧ source.scope = returned.scope ∧
    source.value = returned.value ∧
    ∀ drop ∈ shared.drops, drop.Hits returned.scope → drop.moment < returned.called →
      drop.moment < source.began

structure Sound (shared : Shared κ ν) : Prop where
  past : ∀ drop ∈ shared.drops, drop.moment < shared.clock
  entries : ∀ scope value, getAt shared.store.entries scope = some value →
    shared.Current scope value
  calls : ∀ call, shared.Guarded (shared.calls call)
  returned : ∀ returned ∈ shared.returned,
    returned.called < shared.clock ∧ shared.Timely returned

theorem guarded_at {shared : Shared κ ν} (sound : shared.Sound) {call : Nat} {phase : Phase κ ν}
    (there : shared.calls call = phase) : shared.Guarded phase := by
  rw [← there]
  exact sound.calls call

structure Follows (before after : Shared κ ν) : Prop where
  clock : after.clock = before.clock + 1
  registered : ∀ scope ∈ before.store.registered, scope ∈ after.store.registered
  generation : ∀ scope, before.store.generation scope ≤ after.store.generation scope
  drops : ∀ drop ∈ after.drops, drop ∈ before.drops ∨ drop.moment = before.clock
  fresh : ∀ scope ∈ before.store.registered,
    after.store.generation scope = before.store.generation scope →
    ∀ moment, before.Fresh scope moment → after.Fresh scope moment

theorem follows_calm {before after : Shared κ ν} (clock : after.clock = before.clock + 1)
    (registered : ∀ scope ∈ before.store.registered, scope ∈ after.store.registered)
    (generation : ∀ scope, after.store.generation scope = before.store.generation scope)
    (drops : after.drops = before.drops) : Follows before after := by
  refine ⟨clock, registered, ?_, ?_, ?_⟩
  · intro scope
    exact Nat.le_of_eq (generation scope).symm
  · intro drop member
    rw [drops] at member
    exact Or.inl member
  · intro scope _ _ moment fresh drop member
    rw [drops] at member
    exact fresh drop member

theorem guarded_follows {before after : Shared κ ν} (follows : Follows before after)
    {phase : Phase κ ν} (guarded : before.Guarded phase) : after.Guarded phase := by
  have clock := follows.clock
  cases phase with
  | idle => trivial
  | waiting scope called =>
    obtain ⟨registered, earlier⟩ := guarded
    exact ⟨follows.registered scope registered, by omega⟩
  | holding scope called =>
    obtain ⟨registered, earlier⟩ := guarded
    exact ⟨follows.registered scope registered, by omega⟩
  | missed scope called generation =>
    obtain ⟨registered, earlier, reached⟩ := guarded
    exact ⟨follows.registered scope registered, by omega,
      Nat.le_trans reached (follows.generation scope)⟩
  | running scope called generation began =>
    obtain ⟨registered, earlier, past, reached, fresh⟩ := guarded
    have grown := follows.generation scope
    refine ⟨follows.registered scope registered, earlier, by omega, by omega, ?_⟩
    intro same
    exact follows.fresh scope registered (by omega) began (fresh (by omega))
  | ran called generation made =>
    obtain ⟨registered, earlier, past, reached, fresh⟩ := guarded
    have grown := follows.generation made.scope
    refine ⟨follows.registered made.scope registered, earlier, by omega, by omega, ?_⟩
    intro same
    exact follows.fresh made.scope registered (by omega) made.began (fresh (by omega))

theorem timely_follows {before after : Shared κ ν} (follows : Follows before after)
    {returned : Returned κ ν} (earlier : returned.called < before.clock)
    (timely : before.Timely returned) : after.Timely returned := by
  obtain ⟨source, from_, scope, value, newer⟩ := timely
  refine ⟨source, from_, scope, value, ?_⟩
  intro drop member hits sooner
  rcases follows.drops drop member with old | now
  · exact newer drop old hits sooner
  · omega

/-- It is enough to look at what a step changed: the entries, one look-up and the newest answer. -/
theorem sound_follows {before after : Shared κ ν} (sound : before.Sound)
    (follows : Follows before after)
    (entries : ∀ scope value, getAt after.store.entries scope = some value →
      after.Current scope value)
    (calls : ∀ call, after.calls call = before.calls call ∨ after.Guarded (after.calls call))
    (returned : ∀ returned ∈ after.returned,
      returned ∈ before.returned ∨ returned.called < after.clock ∧ after.Timely returned) :
    after.Sound := by
  have clock := follows.clock
  refine ⟨?_, entries, ?_, ?_⟩
  · intro drop member
    rcases follows.drops drop member with old | now
    · have := sound.past drop old
      omega
    · omega
  · intro call
    rcases calls call with same | guarded
    · rw [same]
      exact guarded_follows follows (sound.calls call)
    · exact guarded
  · intro answer member
    rcases returned answer member with old | new
    · obtain ⟨earlier, timely⟩ := sound.returned answer old
      exact ⟨by omega, timely_follows follows earlier timely⟩
    · exact new

theorem current_same {before after : Shared κ ν} {scope : κ} {value : Option ν}
    (current : before.Current scope value) (writes : after.writes = before.writes)
    (fresh : ∀ moment, before.Fresh scope moment → after.Fresh scope moment) :
    after.Current scope value := by
  obtain ⟨write, latest, same, newer⟩ := current
  refine ⟨write, ?_, same, fresh write.began newer⟩
  rw [latest?, writes]
  exact latest

theorem current_written {before after : Shared κ ν} (made : Made κ ν)
    (writes : after.writes = made :: before.writes) (drops : after.drops = before.drops)
    (entry : ∀ scope, getAt after.store.entries scope =
      if made.scope = scope then some made.value else getAt before.store.entries scope)
    (entries : ∀ scope value, getAt before.store.entries scope = some value →
      before.Current scope value)
    (fresh : before.Fresh made.scope made.began) (scope : κ) (value : Option ν)
    (held : getAt after.store.entries scope = some value) : after.Current scope value := by
  have same : after.Fresh = before.Fresh := by
    funext scope moment
    simp only [Fresh, drops]
  rw [entry] at held
  by_cases here : made.scope = scope
  · subst here
    rw [if_pos rfl] at held
    cases held
    refine ⟨made, ?_, rfl, ?_⟩
    · simp [latest?, writes]
    · rw [same]
      exact fresh
  · rw [if_neg here] at held
    obtain ⟨write, latest, agrees, newer⟩ := entries scope value held
    refine ⟨write, ?_, agrees, ?_⟩
    · simpa [latest?, writes, here] using latest
    · rw [same]
      exact newer

theorem latest_scope {shared : Shared κ ν} {scope : κ} {write : Made κ ν}
    (latest : shared.latest? scope = some write) : write.scope = scope := by
  simpa using List.find?_some latest

theorem turn_calls (shared : Shared κ ν) {call : Nat} (phase : Phase κ ν) {after : Shared κ ν}
    (calls : after.calls = (shared.turn call phase).calls) (guarded : after.Guarded phase)
    (other : Nat) :
    after.calls other = shared.calls other ∨ after.Guarded (after.calls other) := by
  by_cases same : other = call
  · refine Or.inr ?_
    simpa [calls, turn, same] using guarded
  · refine Or.inl ?_
    simp [calls, turn, same]

theorem turn_sound {shared : Shared κ ν} (sound : shared.Sound) {call : Nat} {phase : Phase κ ν}
    (guarded : (shared.turn call phase).Guarded phase) : (shared.turn call phase).Sound := by
  have follows : Follows shared (shared.turn call phase) :=
    follows_calm rfl (fun _ member => member) (fun _ => rfl) rfl
  refine sound_follows sound follows ?_ (turn_calls shared _ rfl guarded) ?_
  · intro scope value held
    exact current_same (sound.entries scope value held) rfl (fun _ fresh => fresh)
  · intro returned member
    exact Or.inl member

theorem found_timely {shared after : Shared κ ν} (sound : shared.Sound)
    (drops : after.drops = shared.drops) {scope : κ} {value : Option ν} (called : Nat)
    (entry : getAt shared.store.entries scope = some value) :
    after.Timely ⟨scope, called, value, shared.latest? scope⟩ := by
  obtain ⟨write, latest, agrees, newer⟩ := sound.entries scope value entry
  refine ⟨write, latest, latest_scope latest, agrees, ?_⟩
  intro drop member hits _
  rw [drops] at member
  exact newer drop member hits

omit [DecidableEq κ] in
theorem computed_timely {after : Shared κ ν} {made : Made κ ν} {called : Nat}
    (later : called < made.began) :
    after.Timely ⟨made.scope, called, made.value, some made⟩ := by
  refine ⟨made, rfl, rfl, rfl, ?_⟩
  intro drop _ _ sooner
  exact Nat.lt_trans sooner later

theorem get_found {store : ScopeStore κ ν} {scope : κ} {value : ν}
    (found : store.get? scope = some value) : getAt store.entries scope = some (some value) := by
  simpa [get?, Option.join_eq_some_iff] using found

omit [DecidableEq κ] in
/-- Invalidating a scope leaves what is kept of other scopes as fresh as it was. -/
theorem fresh_besides {s after : Shared κ ν} {scope other : κ} {now moment : Nat}
    (drops : after.drops = ⟨now, some scope⟩ :: s.drops) (besides : scope ≠ other)
    (fresh : s.Fresh other moment) : after.Fresh other moment := by
  intro drop member hits
  rw [drops] at member
  rcases List.mem_cons.mp member with new | old
  · subst new
    rcases hits with all | one
    · cases all
    · cases one
      exact absurd rfl besides
  · exact fresh drop old hits

theorem follows_invalidated (s : Shared κ ν) (scope : κ) :
    Follows s { s with
      store := s.store.invalidate scope
      clock := s.clock + 1
      drops := ⟨s.clock, some scope⟩ :: s.drops } := by
  refine ⟨rfl, fun _ member => member, ?_, ?_, ?_⟩
  · intro other
    rw [generation_invalidate]
    omega
  · exact old_or_new rfl
  · intro other _ same moment fresh drop member hits
    rw [generation_invalidate] at same
    by_cases here : scope = other
    · simp [here] at same
    · exact fresh_besides rfl here fresh drop member hits

theorem follows_cleared (s : Shared κ ν) :
    Follows s { s with
      store := s.store.clear
      clock := s.clock + 1
      drops := ⟨s.clock, none⟩ :: s.drops } := by
  refine ⟨rfl, fun _ member => member, ?_, ?_, ?_⟩
  · intro scope
    rw [generation_clear]
    omega
  · exact old_or_new rfl
  · -- A registered scope is known, so its generation has moved and nothing is left to show.
    intro scope registered same
    rw [generation_clear] at same
    have known : scope ∈ s.store.known := (known_iff s.store scope).mpr (Or.inr registered)
    have counted := List.count_pos_iff.mpr known
    omega

theorem invalidated_sound {s : Shared κ ν} (sound : s.Sound) (scope : κ) :
    Sound { s with
      store := s.store.invalidate scope
      clock := s.clock + 1
      drops := ⟨s.clock, some scope⟩ :: s.drops } := by
  refine sound_follows sound (follows_invalidated s scope) ?_ (fun _ => Or.inl rfl)
    (fun _ member => Or.inl member)
  intro other value held
  rw [entries_invalidate] at held
  by_cases here : scope = other
  · simp [here] at held
  · rw [if_neg here] at held
    refine current_same (sound.entries other value held) rfl ?_
    intro moment fresh
    exact fresh_besides rfl here fresh

theorem cleared_sound {s : Shared κ ν} (sound : s.Sound) :
    Sound { s with
      store := s.store.clear
      clock := s.clock + 1
      drops := ⟨s.clock, none⟩ :: s.drops } := by
  refine sound_follows sound (follows_cleared s) ?_ (fun _ => Or.inl rfl)
    (fun _ member => Or.inl member)
  intro scope value held
  rw [entries_clear] at held
  cases held

theorem put_sound {s : Shared κ ν} (sound : s.Sound) (scope : κ) (value : Option ν) :
    Sound { s with
      store := s.store.put scope value
      clock := s.clock + 1
      writes := ⟨scope, value, s.clock⟩ :: s.writes } := by
  refine sound_follows sound
    (follows_calm rfl (fun _ member => member) (fun _ => rfl) rfl) ?_ (fun _ => Or.inl rfl)
    (fun _ member => Or.inl member)
  refine current_written ⟨scope, value, s.clock⟩ rfl rfl
    (fun other => entries_put s.store scope other value) sound.entries ?_
  intro drop member _
  exact sound.past drop member

theorem called_sound {s : Shared κ ν} (sound : s.Sound) (call : Nat) (scope : κ) :
    Sound { s.turn call (.waiting scope s.clock) with store := s.store.register scope } := by
  have follows : Follows s { s.turn call (.waiting scope s.clock) with
      store := s.store.register scope } :=
    follows_calm rfl (fun other member => registered_register scope member)
      (fun other => generation_register s.store scope other) rfl
  have guarded : Guarded { s.turn call (.waiting scope s.clock) with
      store := s.store.register scope } (.waiting scope s.clock) :=
    ⟨register_registers s.store scope, Nat.lt_succ_self _⟩
  refine sound_follows sound follows ?_ (turn_calls s _ rfl guarded) (fun _ member => Or.inl member)
  intro other value held
  rw [entries_register] at held
  exact current_same (sound.entries other value held) rfl (fun _ fresh => fresh)

theorem kept_sound {s : Shared κ ν} (sound : s.Sound) {call called generation : Nat}
    {made : Made κ ν} (ran : s.calls call = .ran called generation made)
    (same : s.store.generation made.scope = generation) :
    Sound { s.turn call .idle with
      store := s.store.keep made.scope generation made.value
      writes := made :: s.writes
      returned := ⟨made.scope, called, made.value, some made⟩ :: s.returned } := by
  obtain ⟨-, later, past, -, fresh⟩ := guarded_at sound ran
  rw [keep_same same]
  have follows : Follows s { s.turn call .idle with
      store := s.store.put made.scope made.value
      writes := made :: s.writes
      returned := ⟨made.scope, called, made.value, some made⟩ :: s.returned } :=
    follows_calm rfl (fun _ member => member) (fun _ => rfl) rfl
  refine sound_follows sound follows ?_ (turn_calls s .idle rfl trivial) ?_
  · exact current_written made rfl rfl
      (fun other => entries_put s.store made.scope other made.value) sound.entries (fresh same)
  · exact old_or_new ⟨by simp only [turn]; omega, computed_timely later⟩

theorem outdated_sound {s : Shared κ ν} (sound : s.Sound) {call called generation : Nat}
    {made : Made κ ν} (ran : s.calls call = .ran called generation made)
    (moved : s.store.generation made.scope ≠ generation) :
    Sound { s.turn call .idle with
      store := s.store.keep made.scope generation made.value
      returned := ⟨made.scope, called, made.value, some made⟩ :: s.returned } := by
  obtain ⟨-, later, past, -, -⟩ := guarded_at sound ran
  rw [keep_moved moved]
  have follows : Follows s { s.turn call .idle with
      returned := ⟨made.scope, called, made.value, some made⟩ :: s.returned } :=
    follows_calm rfl (fun _ member => member) (fun _ => rfl) rfl
  refine sound_follows sound follows ?_ (turn_calls s .idle rfl trivial) ?_
  · intro scope value held
    exact current_same (sound.entries scope value held) rfl (fun _ fresh => fresh)
  · exact old_or_new ⟨by simp only [turn]; omega, computed_timely later⟩

theorem answered_sound {s after : Shared κ ν} (sound : s.Sound) {scope : κ} {value : Option ν}
    {called : Nat} (entry : getAt s.store.entries scope = some value) (earlier : called ≤ s.clock)
    (store : after.store = s.store) (clock : after.clock = s.clock + 1)
    (drops : after.drops = s.drops) (writes : after.writes = s.writes)
    (returned : after.returned = ⟨scope, called, value, s.latest? scope⟩ :: s.returned)
    (calls : ∀ call, after.calls call = s.calls call ∨ after.Guarded (after.calls call)) :
    after.Sound := by
  have follows : Follows s after := by
    refine follows_calm clock ?_ ?_ drops
    · intro other member
      rw [store]
      exact member
    · intro other
      rw [store]
  refine sound_follows sound follows ?_ calls ?_
  · intro other value held
    rw [store] at held
    refine current_same (sound.entries other value held) writes ?_
    intro moment fresh drop member
    rw [drops] at member
    exact fresh drop member
  · intro answer member
    rw [returned] at member
    rcases List.mem_cons.mp member with new | old
    · subst new
      exact Or.inr ⟨by simp only [clock]; omega, found_timely sound drops called entry⟩
    · exact Or.inl old

theorem step_sound {s t : Shared κ ν} {event : Event κ ν} (sound : s.Sound)
    (step : Step s event t) : t.Sound := by
  cases step with
  | got scope value entry =>
    exact answered_sound sound (get_found entry) (Nat.le_refl _) rfl rfl rfl rfl rfl
      (fun _ => Or.inl rfl)
  | gotNothing scope entry =>
    exact sound_follows sound (follows_calm rfl (fun _ member => member) (fun _ => rfl) rfl)
      (fun scope value held => current_same (sound.entries scope value held) rfl
        (fun _ fresh => fresh))
      (fun _ => Or.inl rfl) (fun _ member => Or.inl member)
  | put scope value => exact put_sound sound scope value
  | invalidated scope => exact invalidated_sound sound scope
  | cleared => exact cleared_sound sound
  | called call scope idle => exact called_sound sound call scope
  | locked call scope called waiting free =>
    obtain ⟨registered, earlier⟩ := guarded_at sound waiting
    exact turn_sound sound ⟨registered, Nat.lt_succ_of_lt earlier⟩
  | found call scope called value holding found =>
    obtain ⟨registered, earlier⟩ := guarded_at sound holding
    exact answered_sound sound (look_found found) (Nat.le_of_lt earlier) rfl rfl rfl rfl rfl
      (turn_calls s .idle rfl trivial)
  | missed call scope called generation holding missed =>
    obtain ⟨registered, earlier⟩ := guarded_at sound holding
    refine turn_sound sound ⟨registered, Nat.lt_succ_of_lt earlier, ?_⟩
    exact Nat.le_of_eq (look_missed missed)
  | began call scope called generation missed =>
    obtain ⟨registered, earlier, reached⟩ := guarded_at sound missed
    refine turn_sound sound ⟨registered, earlier, Nat.lt_succ_self _, reached, ?_⟩
    intro _ drop member _
    exact sound.past drop member
  | finished call scope called generation began value running =>
    obtain ⟨registered, earlier, past, reached, fresh⟩ := guarded_at sound running
    exact turn_sound sound ⟨registered, earlier, Nat.lt_succ_of_lt past, reached, fresh⟩
  | raised call scope called generation began running => exact turn_sound sound trivial
  | kept call called generation made ran same => exact kept_sound sound ran same
  | outdated call called generation made ran moved => exact outdated_sound sound ran moved

theorem start_sound (name : String) : (start name : Shared κ ν).Sound := by
  refine ⟨?_, ?_, fun _ => trivial, ?_⟩
  · intro drop member
    cases member
  · intro scope value held
    cases held
  · intro returned member
    cases member

theorem reached_sound {name : String} {events : List (Event κ ν)} {shared : Shared κ ν}
    (reached : Reached name events shared) : shared.Sound := by
  induction reached with
  | start => exact start_sound name
  | next _ step ih => exact step_sound ih step

omit [DecidableEq κ] in
theorem fresh_after_events {events : List (Event κ ν)} {shared : Shared κ ν}
    (recorded : Recorded events shared) {scope : κ} {began : Nat} (fresh : shared.Fresh scope began)
    (moment : Nat) (event : Event κ ν) (there : events[moment]? = some event)
    (drops : event.Drops scope) : moment < began := by
  obtain ⟨drop, member, same, hits⟩ := recorded.drops moment event scope there drops
  have newer := fresh drop member hits
  omega

/-- Whatever callers do and in whatever order their steps come: an entry was put, or its computation
began, after every event that invalidated its scope; and so was every answer with regard to the
events that came before the call. -/
theorem values_newer_than_invalidations {name : String} {events : List (Event κ ν)}
    {shared : Shared κ ν} (reached : Reached name events shared) :
    (∀ scope value, getAt shared.store.entries scope = some value →
      ∃ write, shared.latest? scope = some write ∧ write.scope = scope ∧ write.value = value ∧
        MadeBy events write ∧
        ∀ (moment : Nat) event, events[moment]? = some event → event.Drops scope →
          moment < write.began) ∧
    ∀ answer ∈ shared.returned, CalledAt events answer.called answer.scope ∧
      ∃ source, answer.source = some source ∧ source.scope = answer.scope ∧
        source.value = answer.value ∧ MadeBy events source ∧
        ∀ (moment : Nat) event, events[moment]? = some event → event.Drops answer.scope →
          moment < answer.called → moment < source.began := by
  have sound := reached_sound reached
  have recorded := reached_recorded reached
  constructor
  · intro scope value held
    obtain ⟨write, latest, same, fresh⟩ := sound.entries scope value held
    exact ⟨write, latest, latest_scope latest, same, recorded.writes write (latest_written latest),
      fresh_after_events recorded fresh⟩
  · intro answer member
    obtain ⟨-, source, from_, scope, value, newer⟩ := sound.returned answer member
    obtain ⟨called, sources⟩ := recorded.returned answer member
    refine ⟨called, source, from_, scope, value, sources source from_, ?_⟩
    intro moment event there drops sooner
    obtain ⟨drop, dropped, same, hits⟩ := recorded.drops moment event answer.scope there drops
    have later := newer drop dropped hits (by omega)
    omega

/-- A call that has found nothing in a new store and is about to compute. -/
def missedOnce : Shared String Nat :=
  let asked := (start "cache").turn 0 (.waiting "a" 0)
  let waiting := { asked with store := asked.store.register "a" }
  (waiting.turn 0 (.holding "a" 0)).turn 0 (.missed "a" 0 0)

theorem missedOnce_reached :
    Reached "cache" [.called 0 "a", .locked 0, .missed 0] missedOnce := by
  have s0 : Reached "cache" [] (start "cache" : Shared String Nat) := .start
  have s1 := s0.next (.called _ 0 "a" rfl)
  have s2 := s1.next (.locked _ 0 "a" 0 rfl (by
    intro other
    by_cases same : other = 0 <;> simp [turn, start, same, Phase.locked?]))
  exact s2.next (.missed _ 0 "a" 0 0 rfl rfl)

/-- A clearing in the middle of a computation for a scope that has no entry and no generation yet,
and a second look-up after it. -/
def clearedMidway : List (Event String Nat) :=
  [.called 0 "a", .locked 0, .missed 0, .began 0 "a", .cleared, .finished 0 3 (some 1),
    .outdated 0, .called 1 "a", .locked 1, .missed 1, .began 1 "a", .finished 1 10 (some 2),
    .kept 1]

theorem clearedMidway_reached :
    ∃ shared, Reached "cache" clearedMidway shared ∧
      getAt shared.store.entries "a" = some (some 2) := by
  have s4 := missedOnce_reached.next (.began _ 0 "a" 0 0 rfl)
  have s5 := s4.next (.cleared _)
  have s6 := s5.next (.finished _ 0 "a" 0 0 3 (some 1) rfl)
  have s7 := s6.next (.outdated _ 0 0 0 ⟨"a", some 1, 3⟩ rfl (by decide))
  have s8 := s7.next (.called _ 1 "a" rfl)
  have s9 := s8.next (.locked _ 1 "a" 7 rfl (by
    intro other
    by_cases first : other = 0 <;> by_cases second : other = 1 <;>
      simp [turn, missedOnce, start, first, second, Phase.locked?]))
  have s10 := s9.next (.missed _ 1 "a" 7 1 rfl rfl)
  have s11 := s10.next (.began _ 1 "a" 7 1 rfl)
  have s12 := s11.next (.finished _ 1 "a" 7 1 10 (some 2) rfl)
  have s13 := s12.next (.kept _ 1 7 1 ⟨"a", some 2, 10⟩ rfl rfl)
  exact ⟨_, s13, rfl⟩

theorem newer_than_the_clearing :
    ∃ shared, Reached "cache" clearedMidway shared ∧
      getAt shared.store.entries "a" = some (some 2) ∧
      ∃ write, shared.latest? "a" = some write ∧ write.value = some 2 ∧ 4 < write.began := by
  obtain ⟨shared, reached, entry⟩ := clearedMidway_reached
  obtain ⟨write, latest, -, same, -, newer⟩ :=
    (values_newer_than_invalidations reached).1 "a" (some 2) entry
  exact ⟨shared, reached, entry, write, latest, same, newer 4 .cleared rfl trivial⟩

end ChangeRelay.ScopeStore.Shared
