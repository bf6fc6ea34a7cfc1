import ChangeRelay.Failure

/-!
Work that is done one piece at a time, in the order in which it was handed in. Every piece gets a
ticket; the queue remembers the last ticket only. Closing refuses further work and drops nothing.
-/
namespace ChangeRelay

structure WorkQueue (τ ρ : Type) where
  pending : List (Nat × τ)
  finished : List (Nat × ρ)
  nextTicket : Nat
  last : Option Nat
  closed : Bool
  deriving Repr

namespace WorkQueue

variable {τ ρ : Type}

def empty : WorkQueue τ ρ := ⟨[], [], 0, none, false⟩

def submit (queue : WorkQueue τ ρ) (work : τ) : Except Failure (Nat × WorkQueue τ ρ) :=
  if queue.closed then .error .queueClosed
  else
    .ok (queue.nextTicket,
      { queue with
        pending := queue.pending ++ [(queue.nextTicket, work)]
        nextTicket := queue.nextTicket + 1
        last := some queue.nextTicket })

/-- The oldest pending work, with the queue that has its result once it is known. -/
def take? (queue : WorkQueue τ ρ) : Option (τ × (ρ → WorkQueue τ ρ)) :=
  match queue.pending with
  | [] => none
  | (ticket, work) :: rest =>
    some (work, fun result =>
      { queue with pending := rest, finished := queue.finished ++ [(ticket, result)] })

def isFinished (queue : WorkQueue τ ρ) (ticket : Nat) : Bool :=
  queue.finished.any (·.1 == ticket)

def result? (queue : WorkQueue τ ρ) (ticket : Nat) : Option ρ := queue.finished.lookup ticket

def isFlushed (queue : WorkQueue τ ρ) : Bool :=
  match queue.last with
  | none => true
  | some ticket => queue.isFinished ticket

def close (queue : WorkQueue τ ρ) : WorkQueue τ ρ := { queue with closed := true }

end WorkQueue
end ChangeRelay
