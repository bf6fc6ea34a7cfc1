import ChangeRelay.Proofs.StoreLaws

/-!
A store shared by any number of callers. Each of the store's operations is one step that nothing
interrupts. A computed look-up takes several: it registers its scope, waits for the scope's lock,
looks, lets its computation run for any number of steps and keeps the result. Between its steps
anything may happen, the same caller's computation included, which may put, invalidate, clear and
start look-ups of other scopes.

The state carries its past along: when scopes were invalidated, what was ever written into an
entry, and what was returned to callers. Moments are counted in steps.
-/
namespace ChangeRelay.ScopeStore

variable {κ ν : Type} [DecidableEq κ]

/-- A value for a scope, with the moment at which it was put or at which the computation that led
to it began. -/
structure Made (κ ν : Type) where
  scope : κ
  value : Option ν
  began : Nat

structure Drop (κ : Type) where
  moment : Nat
  scope : Option κ

def Drop.Hits (drop : Drop κ) (scope : κ) : Prop := drop.scope = none ∨ drop.scope = some scope

/-- What a call that began at a moment was answered, and where the answer came from. -/
structure Returned (κ ν : Type) where
  scope : κ
  called : Nat
  value : Option ν
  source : Option (Made κ ν)

/-- How far a computed look-up has come. It holds the scope's lock from `holding` on. -/
inductive Phase (κ ν : Type) where
  | idle
  | waiting (scope : κ) (called : Nat)
  | holding (scope : κ) (called : Nat)
  | missed (scope : κ) (called generation : Nat)
  | running (scope : κ) (called generation began : Nat)
  | ran (called generation : Nat) (made : Made κ ν)

def Phase.locked? : Phase κ ν → Option κ
  | .idle | .waiting .. => none
  | .holding scope _ | .missed scope .. | .running scope .. => some scope
  | .ran _ _ made => some made.scope

/-- What a step does. An event of a look-up names the call; the end of a computation also names the
moment at which that computation began. -/
inductive Event (κ ν : Type) where
  | got (scope : κ)
  | put (scope : κ) (value : Option ν)
  | invalidated (scope : κ)
  | cleared
  | called (call : Nat) (scope : κ)
  | locked (call : Nat)
  | found (call : Nat)
  | missed (call : Nat)
  | began (call : Nat) (scope : κ)
  | finished (call began : Nat) (value : Option ν)
  | raised (call began : Nat)
  | kept (call : Nat)
  | outdated (call : Nat)

def Event.Drops (scope : κ) : Event κ ν → Prop
  | .invalidated other => other = scope
  | .cleared => True
  | _ => False

/-- A value that was put at its moment, or led to by a computation that began at its moment. -/
def MadeBy (events : List (Event κ ν)) (made : Made κ ν) : Prop :=
  events[made.began]? = some (.put made.scope made.value) ∨
    ∃ call, events[made.began]? = some (.began call made.scope) ∧
      .finished call made.began made.value ∈ events

def CalledAt (events : List (Event κ ν)) (moment : Nat) (scope : κ) : Prop :=
  events[moment]? = some (.got scope) ∨ ∃ call, events[moment]? = some (.called call scope)

/-- A store with its callers and, newest first, its past. -/
structure Shared (κ ν : Type) where
  store : ScopeStore κ ν
  calls : Nat → Phase κ ν
  clock : Nat
  drops : List (Drop κ)
  writes : List (Made κ ν)
  returned : List (Returned κ ν)

namespace Shared

def start (name : String) : Shared κ ν := ⟨.empty name, fun _ => .idle, 0, [], [], []⟩

def latest? (shared : Shared κ ν) (scope : κ) : Option (Made κ ν) :=
  shared.writes.find? fun made => decide (made.scope = scope)

def turn (shared : Shared κ ν) (call : Nat) (phase : Phase κ ν) : Shared κ ν :=
  { shared with
    calls := fun other => if other = call then phase else shared.calls other
    clock := shared.clock + 1 }

inductive Step : Shared κ ν → Event κ ν → Shared κ ν → Prop where
  | got (s : Shared κ ν) (scope : κ) (value : ν) (entry : s.store.get? scope = some value) :
      Step s (.got scope)
        { s with
          clock := s.clock + 1
          returned := ⟨scope, s.clock, some value, s.latest? scope⟩ :: s.returned }
  | gotNothing (s : Shared κ ν) (scope : κ) (entry : s.store.get? scope = none) :
      Step s (.got scope) { s with clock := s.clock + 1 }
  | put (s : Shared κ ν) (scope : κ) (value : Option ν) :
      Step s (.put scope value)
        { s with
          store := s.store.put scope value
          clock := s.clock + 1
          writes := ⟨scope, value, s.clock⟩ :: s.writes }
  | invalidated (s : Shared κ ν) (scope : κ) :
      Step s (.invalidated scope)
        { s with
          store := s.store.invalidate scope
          clock := s.clock + 1
          drops := ⟨s.clock, some scope⟩ :: s.drops }
  | cleared (s : Shared κ ν) :
      Step s .cleared
        { s with
          store := s.store.clear
          clock := s.clock + 1
          drops := ⟨s.clock, none⟩ :: s.drops }
  | called (s : Shared κ ν) (call : Nat) (scope : κ) (idle : s.calls call = .idle) :
      Step s (.called call scope)
        { s.turn call (.waiting scope s.clock) with store := s.store.register scope }
  | locked (s : Shared κ ν) (call : Nat) (scope : κ) (called : Nat)
      (waiting : s.calls call = .waiting scope called)
      (free : ∀ other, (s.calls other).locked? ≠ some scope) :
      Step s (.locked call) (s.turn call (.holding scope called))
  | found (s : Shared κ ν) (call : Nat) (scope : κ) (called : Nat) (value : ν)
      (holding : s.calls call = .holding scope called)
      (found : s.store.look scope = .inl value) :
      Step s (.found call)
        { s.turn call .idle with
          returned := ⟨scope, called, some value, s.latest? scope⟩ :: s.returned }
  | missed (s : Shared κ ν) (call : Nat) (scope : κ) (called generation : Nat)
      (holding : s.calls call = .holding scope called)
      (missed : s.store.look scope = .inr generation) :
      Step s (.missed call) (s.turn call (.missed scope called generation))
  | began (s : Shared κ ν) (call : Nat) (scope : κ) (called generation : Nat)
      (missed : s.calls call = .missed scope called generation) :
      Step s (.began call scope) (s.turn call (.running scope called generation s.clock))
  | finished (s : Shared κ ν) (call : Nat) (scope : κ) (called generation began : Nat)
      (value : Option ν) (running : s.calls call = .running scope called generation began) :
      Step s (.finished call began value)
        (s.turn call (.ran called generation ⟨scope, value, began⟩))
  | raised (s : Shared κ ν) (call : Nat) (scope : κ) (called generation began : Nat)
      (running : s.calls call = .running scope called generation began) :
      Step s (.raised call began) (s.turn call .idle)
  | kept (s : Shared κ ν) (call : Nat) (called generation : Nat) (made : Made κ ν)
      (ran : s.calls call = .ran called generation made)
      (same : s.store.generation made.scope = generation) :
      Step s (.kept call)
        { s.turn call .idle with
          store := s.store.keep made.scope generation made.value
          writes := made :: s.writes
          returned := ⟨made.scope, called, made.value, some made⟩ :: s.returned }
  | outdated (s : Shared κ ν) (call : Nat) (called generation : Nat) (made : Made κ ν)
      (ran : s.calls call = .ran called generation made)
      (moved : s.store.generation made.scope ≠ generation) :
      Step s (.outdated call)
        { s.turn call .idle with
          store := s.store.keep made.scope generation made.value
          returned := ⟨made.scope, called, made.value, some made⟩ :: s.returned }

inductive Reached (name : String) : List (Event κ ν) → Shared κ ν → Prop where
  | start : Reached name [] (start name)
  | next {events : List (Event κ ν)} {event : Event κ ν} {s t : Shared κ ν}
      (earlier : Reached name events s) (step : Step s event t) :
      Reached name (events ++ [event]) t

end Shared
end ChangeRelay.ScopeStore
