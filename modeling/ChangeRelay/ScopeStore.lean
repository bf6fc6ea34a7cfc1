import ChangeRelay.Failure

/-!
A store of one entry per scope. A missing entry is computed outside the store, and the result is
kept only if its scope was not invalidated meanwhile: every invalidation raises the scope's
generation, and a computation remembers the generation it started from.

An entry may be empty; it then counts as missing when it is asked for, and as present otherwise.
Each operation below is one step that no other caller can interrupt; only `lookUp` is made
of several, with the computation between them.
-/
namespace ChangeRelay

structure ScopeStore (κ ν : Type) where
  name : String
  entries : List (κ × Option ν)
  generations : List (κ × Nat)
  /-- Scopes for which a computation has ever been asked. -/
  registered : List κ
  deriving Repr

namespace ScopeStore

variable {κ ν : Type} [DecidableEq κ]

def empty (name : String) : ScopeStore κ ν := ⟨name, [], [], []⟩

def setAt {α : Type} (entries : List (κ × α)) (scope : κ) (value : α) : List (κ × α) :=
  match entries with
  | [] => [(scope, value)]
  | (s, v) :: rest => if s = scope then (s, value) :: rest else (s, v) :: setAt rest scope value

def getAt {α : Type} (entries : List (κ × α)) (scope : κ) : Option α :=
  match entries with
  | [] => none
  | (s, v) :: rest => if s = scope then some v else getAt rest scope

def eraseAt {α : Type} (entries : List (κ × α)) (scope : κ) : List (κ × α) :=
  entries.filter fun entry => decide (entry.1 ≠ scope)

def get? (cache : ScopeStore κ ν) (scope : κ) : Option ν := (getAt cache.entries scope).join

def contains (cache : ScopeStore κ ν) (scope : κ) : Bool := (getAt cache.entries scope).isSome

def size (cache : ScopeStore κ ν) : Nat := cache.entries.length

def generation (cache : ScopeStore κ ν) (scope : κ) : Nat :=
  (getAt cache.generations scope).getD 0

def put (cache : ScopeStore κ ν) (scope : κ) (value : Option ν) : ScopeStore κ ν :=
  { cache with entries := setAt cache.entries scope value }

def nextGeneration (generations : List (κ × Nat)) (scope : κ) : List (κ × Nat) :=
  setAt generations scope ((getAt generations scope).getD 0 + 1)

def invalidate (cache : ScopeStore κ ν) (scope : κ) : ScopeStore κ ν :=
  { cache with
    entries := eraseAt cache.entries scope
    generations := nextGeneration cache.generations scope }

def noteworthy (cache : ScopeStore κ ν) (scope : κ) : Bool := (cache.get? scope).isSome

/-- The scopes that a clearing affects: those with an entry or with a computation, past or not. -/
def known (cache : ScopeStore κ ν) : List κ :=
  (cache.entries.map (·.1) ++ cache.registered).foldl
    (fun seen scope => if scope ∈ seen then seen else seen ++ [scope]) []

def clear (cache : ScopeStore κ ν) : ScopeStore κ ν :=
  { cache with
    entries := []
    generations := cache.known.foldl nextGeneration cache.generations }

/-- First step of a computed look-up: the scope becomes known. -/
def register (cache : ScopeStore κ ν) (scope : κ) : ScopeStore κ ν :=
  if scope ∈ cache.registered then cache
  else { cache with registered := cache.registered ++ [scope] }

/-- Second step: the entry, or the generation from which a computation starts. -/
def look (cache : ScopeStore κ ν) (scope : κ) : ν ⊕ Nat :=
  match cache.get? scope with
  | some value => .inl value
  | none => .inr (cache.generation scope)

/-- Last step: the result is kept unless the scope's generation has moved on. -/
def keep (cache : ScopeStore κ ν) (scope : κ) (started : Nat) (value : Option ν) :
    ScopeStore κ ν :=
  if cache.generation scope = started then cache.put scope value else cache

structure Answer (ν ω : Type) where
  value : Except Failure (Option ν)
  ran : Option ω

/-- A computed look-up by one caller. The computation may itself use the store. -/
def lookUp {ω : Type} (cache : ScopeStore κ ν) (scope : κ)
    (compute : ScopeStore κ ν → Except Failure (Option ν) × ω × ScopeStore κ ν) :
    Answer ν ω × ScopeStore κ ν :=
  let ready := cache.register scope
  match ready.look scope with
  | .inl value => (⟨.ok (some value), none⟩, ready)
  | .inr started =>
    match compute ready with
    | (.error failure, left, after) => (⟨.error failure, some left⟩, after)
    | (.ok value, left, after) => (⟨.ok value, some left⟩, after.keep scope started value)

end ScopeStore
end ChangeRelay
