import ChangeRelay.WorkQueue

/-!
First come, first served. What was ever handed in to a queue is a list, and the results known so
far are another; the tickets, the finished work and the pending work follow from these two alone.
-/
namespace ChangeRelay.WorkQueue

variable {τ ρ : Type}

def numbered {α : Type} (items : List α) : List (Nat × α) := (List.range items.length).zip items

theorem length_numbered {α : Type} (items : List α) : (numbered items).length = items.length := by
  simp [numbered]

theorem numbered_tickets {α : Type} (items : List α) :
    (numbered items).map (·.1) = List.range items.length := by
  rw [numbered, List.map_fst_zip]
  simp

theorem numbered_items {α : Type} (items : List α) : (numbered items).map (·.2) = items := by
  rw [numbered, List.map_snd_zip]
  simp

theorem numbered_concat {α : Type} (items : List α) (item : α) :
    numbered (items ++ [item]) = numbered items ++ [(items.length, item)] := by
  simp only [numbered, List.length_append, List.length_singleton, List.range_succ]
  rw [List.zip_append (by simp)]
  rfl

theorem numbered_drop {α : Type} (items : List α) (count : Nat) (below : count < items.length) :
    (numbered items).drop count = (count, items[count]) :: (numbered items).drop (count + 1) := by
  have here : count < (numbered items).length := by rw [length_numbered]; exact below
  rw [List.drop_eq_getElem_cons here]
  simp [numbered]

/-- A queue in which all of `handed` was handed in, in this order, and all of `results` came out. -/
structure Holds (queue : WorkQueue τ ρ) (handed : List τ) (results : List ρ) : Prop where
  enough : results.length ≤ handed.length
  next : queue.nextTicket = handed.length
  last : queue.last = (List.range handed.length).getLast?
  finished : queue.finished = numbered results
  pending : queue.pending = (numbered handed).drop results.length

theorem empty_holds : (empty : WorkQueue τ ρ).Holds [] [] :=
  ⟨Nat.le_refl _, rfl, rfl, rfl, rfl⟩

theorem close_holds {queue : WorkQueue τ ρ} {handed : List τ} {results : List ρ}
    (holds : queue.Holds handed results) : queue.close.Holds handed results :=
  ⟨holds.enough, holds.next, holds.last, holds.finished, holds.pending⟩

theorem submit_closed {queue : WorkQueue τ ρ} (closed : queue.closed = true) (work : τ) :
    queue.submit work = .error .queueClosed := by
  simp [submit, closed]

theorem submit_cases {queue after : WorkQueue τ ρ} {work : τ} {ticket : Nat}
    (submitted : queue.submit work = .ok (ticket, after)) :
    ticket = queue.nextTicket ∧ queue.closed = false ∧
      after = { queue with
        pending := queue.pending ++ [(queue.nextTicket, work)]
        nextTicket := queue.nextTicket + 1
        last := some queue.nextTicket } := by
  unfold submit at submitted
  split at submitted
  · cases submitted
  · rename_i isOpen
    cases submitted
    exact ⟨rfl, by simpa using isOpen, rfl⟩

theorem submit_holds {queue after : WorkQueue τ ρ} {work : τ} {ticket : Nat} {handed : List τ}
    {results : List ρ} (holds : queue.Holds handed results)
    (submitted : queue.submit work = .ok (ticket, after)) :
    after.Holds (handed ++ [work]) results := by
  obtain ⟨-, -, same⟩ := submit_cases submitted
  subst same
  have enough := holds.enough
  refine ⟨?_, ?_, ?_, holds.finished, ?_⟩
  · rw [List.length_append]
    omega
  · simp [holds.next]
  · simp [holds.next, List.range_succ]
  · have short : results.length ≤ (numbered handed).length := by rw [length_numbered]; exact enough
    rw [numbered_concat, List.drop_append_of_le_length short, ← holds.pending, ← holds.next]

theorem take_holds {queue : WorkQueue τ ρ} {work : τ} {finish : ρ → WorkQueue τ ρ}
    {handed : List τ} {results : List ρ} (holds : queue.Holds handed results)
    (taken : queue.take? = some (work, finish)) (result : ρ) :
    handed[results.length]? = some work ∧ (finish result).Holds handed (results ++ [result]) := by
  have below : results.length < handed.length := by
    refine Nat.lt_of_le_of_ne holds.enough ?_
    intro all
    have none : queue.pending = [] := by
      rw [holds.pending, List.drop_eq_nil_iff, length_numbered]
      omega
    simp [take?, none] at taken
  have pending := holds.pending
  rw [numbered_drop handed results.length below] at pending
  simp only [take?, pending, Option.some.injEq, Prod.mk.injEq] at taken
  obtain ⟨first, finishes⟩ := taken
  subst first
  subst finishes
  refine ⟨List.getElem?_eq_getElem below, ?_, holds.next, holds.last, ?_, ?_⟩
  · rw [List.length_append, List.length_singleton]
    omega
  · rw [numbered_concat, holds.finished]
  · simp

theorem take_none_iff {queue : WorkQueue τ ρ} {handed : List τ} {results : List ρ}
    (holds : queue.Holds handed results) :
    queue.take? = none ↔ results.length = handed.length := by
  have enough := holds.enough
  constructor
  · intro none
    have empty : queue.pending = [] := by
      cases pending : queue.pending with
      | nil => rfl
      | cons first rest => simp [take?, pending] at none
    rw [holds.pending, List.drop_eq_nil_iff, length_numbered] at empty
    omega
  · intro all
    have empty : queue.pending = [] := by
      rw [holds.pending, List.drop_eq_nil_iff, length_numbered]
      omega
    simp [take?, empty]

theorem pending_length {queue : WorkQueue τ ρ} {handed : List τ} {results : List ρ}
    (holds : queue.Holds handed results) :
    queue.pending.length = handed.length - results.length := by
  rw [holds.pending, List.length_drop, length_numbered]

theorem finished_iff {queue : WorkQueue τ ρ} {handed : List τ} {results : List ρ}
    (holds : queue.Holds handed results) (ticket : Nat) :
    queue.isFinished ticket = true ↔ ticket < results.length := by
  have tickets := numbered_tickets results
  rw [← holds.finished] at tickets
  have member : ticket ∈ queue.finished.map (·.1) ↔ ticket < results.length := by
    rw [tickets, List.mem_range]
  rw [← member]
  simp [isFinished]

end ChangeRelay.WorkQueue
