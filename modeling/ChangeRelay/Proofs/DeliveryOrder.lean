import ChangeRelay.Proofs.QueueOrder
import ChangeRelay.Relay

/-!
Runs of a relay. Notifications, listings, invalidations, closing and the worker's steps come in any
order, and what the host offers may differ from step to step. Whatever the order, what was run is
the oldest part of what was handed in, and what the file service did is what its successful runs
came to, one after the other.
-/
namespace ChangeRelay.Relay

variable {φ : Type}

open WorkQueue (numbered)

inductive Event (φ : Type) where
  | notified (around : Surroundings φ) (delta : Delta φ)
  | worked (around : Surroundings φ)
  | listed (around : Surroundings φ) (project : Project)
  | forgot (project : Project)
  | closed

/-- A relay together with its past, oldest first: the changes that notifications handed in, what
the host offered to each piece of work that was run, and what the file service did. -/
structure World (φ : Type) where
  relay : Relay φ
  handed : List (ChangeList φ)
  helped : List (Surroundings φ)
  deliveries : List Delivery

/-- What a notification hands in: nothing if its walk fails, if there are no changes or if the
relay is closed. -/
def handsIn (relay : Relay φ) (around : Surroundings φ) (delta : Delta φ) :
    Option (ChangeList φ) :=
  match (Delta.gather (relay.guide around) delta relay.exclusions).result with
  | .error _ => none
  | .ok changes => if changes.isEmpty || relay.queue.closed then none else some changes

/-- The answer of a flush that begins at one relay and ends at a later one: it waits for the work
that was handed in last when it began. -/
def flush (beginning ending : Relay φ) : Bool :=
  match beginning.queue.last with
  | none => true
  | some ticket => ending.queue.isFinished ticket

theorem notify_settings (relay : Relay φ) (around : Surroundings φ) (delta : Delta φ) :
    (relay.notify around delta).1.settings = relay.settings := by
  simp only [notify]
  split
  · rfl
  · split
    · rfl
    · split <;> rfl

/-- A notification that hands nothing in leaves the queue as it is; another one submits its
changes, and does so once. -/
theorem notify_queue (relay : Relay φ) (around : Surroundings φ) (delta : Delta φ) :
    (relay.handsIn around delta = none ∧ (relay.notify around delta).1.queue = relay.queue) ∨
      ∃ changes ticket queue, relay.handsIn around delta = some changes ∧
        changes.isEmpty = false ∧ relay.queue.submit changes = .ok (ticket, queue) ∧
        (relay.notify around delta).1.queue = queue := by
  simp only [notify, handsIn]
  cases walked : (Delta.gather (relay.guide around) delta relay.exclusions).result with
  | error failure => exact Or.inl ⟨rfl, rfl⟩
  | ok changes =>
    dsimp only
    cases filled : changes.isEmpty with
    | true => exact Or.inl ⟨rfl, rfl⟩
    | false =>
      cases closed : relay.queue.closed with
      | true =>
        rw [WorkQueue.submit_closed closed]
        exact Or.inl ⟨rfl, rfl⟩
      | false =>
        refine Or.inr ⟨changes, relay.queue.nextTicket, _, rfl, filled, ?_, rfl⟩
        simp [WorkQueue.submit, closed]

theorem runNoted_result (means : Sending.Means φ) (changes : ChangeList φ) :
    (Sending.runNoted means changes).result = (Sending.run means changes).result := by
  simp only [Sending.runNoted]
  split <;> simp_all

theorem runNoted_delivery (means : Sending.Means φ) (changes : ChangeList φ) :
    (Sending.runNoted means changes).delivery = (Sending.run means changes).delivery := by
  simp only [Sending.runNoted]
  split <;> rfl

theorem run_delivery (means : Sending.Means φ) (changes : ChangeList φ) :
    (Sending.run means changes).delivery =
      match (Sending.run means changes).result with
      | .ok (some batch) => some (means.service.style batch)
      | _ => none := by
  unfold Sending.run
  split
  · rfl
  · split
    · rfl
    · split <;> rfl

theorem run_not_idle {means : Sending.Means φ} {changes : ChangeList φ}
    (filled : changes.isEmpty = false) : (Sending.run means changes).result ≠ .ok none := by
  unfold Sending.run
  rw [filled]
  intro idle
  simp only [Bool.false_eq_true, if_false] at idle
  split at idle
  · cases idle
  · split at idle <;> cases idle

namespace World

def start (relay : Relay φ) : World φ := ⟨relay, [], [], []⟩

def step (world : World φ) : Event φ → World φ
  | .notified around delta =>
    { world with
      relay := (world.relay.notify around delta).1
      handed := world.handed ++ (world.relay.handsIn around delta).toList }
  | .worked around =>
    match world.relay.work around with
    | none => world
    | some (relay, outcome) =>
      { world with
        relay := relay
        helped := world.helped ++ [around]
        deliveries := world.deliveries ++ outcome.delivery.toList }
  | .listed around project => { world with relay := (world.relay.list around project).1 }
  | .forgot project => { world with relay := (world.relay.forget project).1 }
  | .closed => { world with relay := world.relay.close.1 }

def after (world : World φ) (events : List (Event φ)) : World φ := events.foldl step world

def runs (world : World φ) : List (ChangeList φ × Surroundings φ) := world.handed.zip world.helped

def resultOf (settings : Settings) (run : ChangeList φ × Surroundings φ) :
    Except Failure (Option Batch) :=
  (Sending.run ⟨⟨settings, run.2.advisors, run.2.resolver⟩, run.2.advisors.hierarchies,
    run.2.service, run.2.look⟩ run.1).result

def deliveryOf (settings : Settings) (run : ChangeList φ × Surroundings φ) : Option Delivery :=
  match resultOf settings run with
  | .ok (some batch) => some (run.2.service.style batch)
  | _ => none

structure InOrder (world : World φ) : Prop where
  queue : world.relay.queue.Holds world.handed
    (world.runs.map (resultOf world.relay.settings))
  helped : world.helped.length ≤ world.handed.length
  changes : ∀ changes ∈ world.handed, changes.isEmpty = false
  deliveries : world.deliveries = world.runs.filterMap (deliveryOf world.relay.settings)

theorem start_inOrder {relay : Relay φ} (fresh : relay.queue = .empty) :
    (start relay).InOrder := by
  refine ⟨?_, Nat.le_refl _, ?_, rfl⟩
  · show relay.queue.Holds [] []
    rw [fresh]
    exact WorkQueue.empty_holds
  · intro changes member
    cases member

theorem runs_handed {world : World φ} (inOrder : world.InOrder) :
    world.runs.map (·.1) = world.handed.take world.helped.length := by
  have helped := inOrder.helped
  rw [runs, List.zip_eq_zip_take_min, Nat.min_eq_right helped, List.map_fst_zip]
  simp [helped]

theorem runs_length {world : World φ} (inOrder : world.InOrder) :
    world.runs.length = world.helped.length := by
  have := inOrder.helped
  rw [runs, List.length_zip]
  omega

theorem zip_concat_left {α β : Type} (items : List α) (more : List α) (others : List β)
    (enough : others.length ≤ items.length) : (items ++ more).zip others = items.zip others := by
  induction others generalizing items with
  | nil => simp
  | cons other others ih =>
    cases items with
    | nil => simp at enough
    | cons item items =>
      simp only [List.length_cons] at enough
      simp only [List.cons_append, List.zip_cons_cons]
      rw [ih items (by omega)]

theorem notified_inOrder {world : World φ} (inOrder : world.InOrder) (around : Surroundings φ)
    (delta : Delta φ) : (world.step (.notified around delta)).InOrder := by
  have settings := notify_settings world.relay around delta
  rcases notify_queue world.relay around delta with
    ⟨nothing, queue⟩ | ⟨changes, ticket, queue, handsIn, filled, submitted, same⟩
  · have runs : (world.step (.notified around delta)).runs = world.runs := by
      simp [step, World.runs, nothing]
    refine ⟨?_, ?_, ?_, ?_⟩
    · rw [runs]
      simpa [step, nothing, queue, settings] using inOrder.queue
    · simpa [step, nothing] using inOrder.helped
    · simpa [step, nothing] using inOrder.changes
    · rw [runs]
      simpa [step, settings] using inOrder.deliveries
  · have runs : (world.step (.notified around delta)).runs = world.runs :=
      zip_concat_left world.handed _ world.helped inOrder.helped
    refine ⟨?_, ?_, ?_, ?_⟩
    · rw [runs]
      have holds := WorkQueue.submit_holds inOrder.queue submitted
      simpa [step, handsIn, same, settings] using holds
    · have := inOrder.helped
      simp only [step, List.length_append]
      omega
    · intro other member
      simp only [step, handsIn, Option.toList_some, List.mem_append, List.mem_singleton] at member
      rcases member with member | same
      · exact inOrder.changes other member
      · rw [same]
        exact filled
    · rw [runs]
      simpa [step, settings] using inOrder.deliveries

theorem zip_concat_right {α β : Type} {items : List α} {others : List β} {item : α} (other : β)
    (next : items[others.length]? = some item) :
    items.zip (others ++ [other]) = items.zip others ++ [(item, other)] := by
  induction others generalizing items with
  | nil =>
    cases items with
    | nil => simp at next
    | cons first items => simpa using next
  | cons first others ih =>
    cases items with
    | nil => simp at next
    | cons head items =>
      simp only [List.length_cons, List.getElem?_cons_succ] at next
      simp only [List.cons_append, List.zip_cons_cons, ih next]

theorem work_cases {relay after : Relay φ} {around : Surroundings φ} {outcome : Sending.Outcome}
    (worked : relay.work around = some (after, outcome)) :
    ∃ changes finish, relay.queue.take? = some (changes, finish) ∧
      outcome = Sending.runNoted (relay.means around) changes ∧
      after = { relay with queue := finish outcome.result } := by
  unfold work at worked
  split at worked
  · cases worked
  · rename_i changes finish taken
    simp only [Option.some.injEq, Prod.mk.injEq] at worked
    obtain ⟨same, ran⟩ := worked
    subst ran
    exact ⟨changes, finish, taken, rfl, same.symm⟩

theorem worked_inOrder {world : World φ} (inOrder : world.InOrder) (around : Surroundings φ) :
    (world.step (.worked around)).InOrder := by
  cases worked : world.relay.work around with
  | none => simpa [step, worked] using inOrder
  | some pair =>
    obtain ⟨relay, outcome⟩ := pair
    obtain ⟨changes, finish, taken, ran, same⟩ := work_cases worked
    have result : outcome.result = resultOf world.relay.settings (changes, around) := by
      rw [ran, runNoted_result]
      rfl
    have delivery : outcome.delivery = deliveryOf world.relay.settings (changes, around) := by
      rw [ran, runNoted_delivery, run_delivery]
      rfl
    obtain ⟨next, holds⟩ := WorkQueue.take_holds inOrder.queue taken outcome.result
    rw [List.length_map, runs_length inOrder] at next
    have below := (List.getElem?_eq_some_iff.mp next).1
    have runs : (world.step (.worked around)).runs = world.runs ++ [(changes, around)] := by
      simp only [step, worked]
      exact zip_concat_right around next
    refine ⟨?_, ?_, ?_, ?_⟩
    · rw [runs, List.map_append, List.map_singleton]
      simpa [step, worked, same, result] using holds
    · simp only [step, worked, List.length_append, List.length_singleton]
      omega
    · simpa [step, worked] using inOrder.changes
    · rw [runs, List.filterMap_append]
      simp only [step, worked, same, inOrder.deliveries, delivery, List.filterMap_cons,
        List.filterMap_nil]
      cases deliveryOf world.relay.settings (changes, around) <;> rfl

theorem step_inOrder {world : World φ} (inOrder : world.InOrder) (event : Event φ) :
    (world.step event).InOrder := by
  cases event with
  | notified around delta => exact notified_inOrder inOrder around delta
  | worked around => exact worked_inOrder inOrder around
  | listed around project =>
    have same : (world.relay.list around project).1.queue = world.relay.queue ∧
        (world.relay.list around project).1.settings = world.relay.settings := by
      simp only [list]
      split <;> exact ⟨rfl, rfl⟩
    refine ⟨?_, inOrder.helped, inOrder.changes, ?_⟩
    · simpa [step, runs, same.1, same.2] using inOrder.queue
    · simpa [step, runs, same.2] using inOrder.deliveries
  | forgot project => exact ⟨inOrder.queue, inOrder.helped, inOrder.changes, inOrder.deliveries⟩
  | closed =>
    exact ⟨WorkQueue.close_holds inOrder.queue, inOrder.helped, inOrder.changes,
      inOrder.deliveries⟩

theorem after_inOrder {world : World φ} (inOrder : world.InOrder) (events : List (Event φ)) :
    (world.after events).InOrder := by
  induction events generalizing world with
  | nil => exact inOrder
  | cons event events ih => exact ih (step_inOrder inOrder event)

theorem step_extends (world : World φ) (event : Event φ) :
    world.handed <+: (world.step event).handed ∧ world.helped <+: (world.step event).helped ∧
      world.deliveries <+: (world.step event).deliveries := by
  cases event with
  | notified around delta =>
    exact ⟨List.prefix_append _ _, List.prefix_refl _, List.prefix_refl _⟩
  | worked around =>
    simp only [step]
    split
    · exact ⟨List.prefix_refl _, List.prefix_refl _, List.prefix_refl _⟩
    · exact ⟨List.prefix_refl _, List.prefix_append _ _, List.prefix_append _ _⟩
  | listed around project => exact ⟨List.prefix_refl _, List.prefix_refl _, List.prefix_refl _⟩
  | forgot project => exact ⟨List.prefix_refl _, List.prefix_refl _, List.prefix_refl _⟩
  | closed => exact ⟨List.prefix_refl _, List.prefix_refl _, List.prefix_refl _⟩

theorem after_extends (world : World φ) (events : List (Event φ)) :
    world.handed <+: (world.after events).handed ∧
      world.helped <+: (world.after events).helped ∧
      world.deliveries <+: (world.after events).deliveries := by
  induction events generalizing world with
  | nil => exact ⟨List.prefix_refl _, List.prefix_refl _, List.prefix_refl _⟩
  | cons event events ih =>
    obtain ⟨handed, helped, deliveries⟩ := step_extends world event
    obtain ⟨handed', helped', deliveries'⟩ := ih (world.step event)
    exact ⟨handed.trans handed', helped.trans helped', deliveries.trans deliveries'⟩

theorem worked_advances {world : World φ} (inOrder : world.InOrder) (around : Surroundings φ) :
    (world.step (.worked around)).handed = world.handed ∧
      (world.step (.worked around)).helped.length =
        min world.handed.length (world.helped.length + 1) := by
  have helped := inOrder.helped
  have results : (world.runs.map (resultOf world.relay.settings)).length = world.helped.length := by
    rw [List.length_map, runs_length inOrder]
  cases taken : world.relay.queue.take? with
  | none =>
    have all := (WorkQueue.take_none_iff inOrder.queue).mp taken
    have same : world.step (.worked around) = world := by simp [step, work, taken]
    rw [same]
    exact ⟨rfl, by omega⟩
  | some pair =>
    obtain ⟨changes, finish⟩ := pair
    have next := (WorkQueue.take_holds inOrder.queue taken (.ok none)).1
    have below := (List.getElem?_eq_some_iff.mp next).1
    have same : (world.step (.worked around)).handed = world.handed ∧
        (world.step (.worked around)).helped = world.helped ++ [around] := by
      simp [step, work, taken]
    rw [same.1, same.2, List.length_append, List.length_singleton]
    exact ⟨rfl, by omega⟩

/-- So many steps of the worker run so much of what is pending, and all of it if there are
enough. -/
theorem after_working {world : World φ} (inOrder : world.InOrder)
    (arounds : List (Surroundings φ)) :
    (world.after (arounds.map .worked)).handed = world.handed ∧
      (world.after (arounds.map .worked)).helped.length =
        min world.handed.length (world.helped.length + arounds.length) := by
  induction arounds generalizing world with
  | nil =>
    have helped := inOrder.helped
    exact ⟨rfl, by simp only [after, List.map_nil, List.foldl_nil, List.length_nil]; omega⟩
  | cons around arounds ih =>
    obtain ⟨handed, length⟩ := worked_advances inOrder around
    obtain ⟨handed', length'⟩ := ih (step_inOrder inOrder (.worked around))
    rw [handed, length] at length'
    refine ⟨handed'.trans handed, length'.trans ?_⟩
    rw [List.length_cons]
    omega

theorem closed_pending {world : World φ} (inOrder : world.InOrder)
    (arounds : List (Surroundings φ))
    (enough : world.relay.queue.pending.length ≤ arounds.length) :
    ((world.step .closed).after (arounds.map .worked)).runs.map (·.1) = world.handed := by
  have closed := step_inOrder inOrder .closed
  obtain ⟨handed, length⟩ := after_working closed arounds
  have final := after_inOrder closed (arounds.map .worked)
  have pending := WorkQueue.pending_length inOrder.queue
  rw [List.length_map, runs_length inOrder] at pending
  have helped : (world.step .closed).helped.length = world.helped.length := rfl
  have whole : (world.step .closed).handed.length = world.handed.length := rfl
  rw [runs_handed final, handed, List.take_of_length_le (by omega)]
  rfl

theorem flush_finishes {beginning ending : World φ} (first : beginning.InOrder)
    (later : ending.InOrder) (flushed : beginning.relay.flush ending.relay = true)
    (ticket : Nat) (earlier : ticket < beginning.handed.length) :
    ending.relay.queue.isFinished ticket = true := by
  have last := first.queue.last
  rw [List.getLast?_range, if_neg (by omega)] at last
  simp only [flush, last] at flushed
  rw [WorkQueue.finished_iff later.queue] at flushed ⊢
  omega

theorem step_settings (world : World φ) (event : Event φ) :
    (world.step event).relay.settings = world.relay.settings := by
  cases event with
  | notified around delta => exact notify_settings world.relay around delta
  | worked around =>
    simp only [step]
    split
    · rfl
    · rename_i relay outcome worked
      obtain ⟨changes, finish, -, -, same⟩ := work_cases worked
      simp only [same]
  | listed around project =>
    simp only [step, list]
    split <;> rfl
  | forgot project => rfl
  | closed => rfl

theorem after_settings (world : World φ) (events : List (Event φ)) :
    (world.after events).relay.settings = world.relay.settings := by
  induction events generalizing world with
  | nil => rfl
  | cons event events ih => exact (ih (world.step event)).trans (step_settings world event)

theorem idle_notification {relay : Relay φ} {around : Surroundings φ} {delta : Delta φ}
    (idle : ∀ changes, (Delta.gather (relay.guide around) delta relay.exclusions).result =
      .ok changes → changes.isEmpty = true) : relay.handsIn around delta = none := by
  unfold handsIn
  split
  · rfl
  · rename_i changes walked
    rw [idle changes walked]
    rfl

theorem runs_extend {earlier later : World φ} (inOrder : earlier.InOrder)
    (handed : earlier.handed <+: later.handed) (helped : earlier.helped <+: later.helped) :
    earlier.runs <+: later.runs := by
  obtain ⟨moreHanded, handed⟩ := handed
  obtain ⟨moreHelped, helped⟩ := helped
  have enough := inOrder.helped
  refine ⟨(earlier.handed.drop earlier.helped.length ++ moreHanded).zip moreHelped, ?_⟩
  have split : earlier.handed = earlier.handed.take earlier.helped.length ++
      earlier.handed.drop earlier.helped.length := (List.take_append_drop _ _).symm
  have runs : earlier.runs = (earlier.handed.take earlier.helped.length).zip earlier.helped := by
    rw [World.runs, List.zip_eq_zip_take_min, Nat.min_eq_right enough, List.take_length]
  rw [runs, World.runs, ← handed, ← helped]
  conv => rhs; rw [split, List.append_assoc]
  rw [List.zip_append]
  simp [enough]

/-- What the file service has done at any point of any run of a relay is, one after the other, the
deliveries of the work run so far that did not fail. That work is the oldest part of what the
notifications handed in, each piece once; the rest is pending. Later steps take nothing back, a
notification that comes to nothing leaves the queue alone, and closing drops no work: enough steps
of the worker still run all of it. A flush that answers yes has seen everything finished that was
handed in before it. -/
theorem deliveries_in_notification_order (settings : Settings)
    (exclusions : Option Exclusion.Cache) (listings : Option (Listings φ))
    (events later : List (Event φ)) :
    let world := (start (Relay.start settings exclusions listings).1).after events
    let next := world.after later
    world.runs.map (·.1) ++ world.relay.queue.pending.map (·.2) = world.handed ∧
    world.relay.queue.finished = numbered (world.runs.map (resultOf settings)) ∧
    (∀ run ∈ world.runs, resultOf settings run ≠ .ok none) ∧
    world.deliveries = world.runs.filterMap (deliveryOf settings) ∧
    (world.handed <+: next.handed ∧ world.runs <+: next.runs ∧
      world.deliveries <+: next.deliveries) ∧
    (∀ around delta,
      (∀ changes, (Delta.gather (world.relay.guide around) delta world.relay.exclusions).result =
        .ok changes → changes.isEmpty = true) →
      (world.step (.notified around delta)).relay.queue = world.relay.queue ∧
        (world.step (.notified around delta)).handed = world.handed) ∧
    ((world.step .closed).relay.queue.pending = world.relay.queue.pending ∧
      ∀ arounds : List (Surroundings φ), world.relay.queue.pending.length ≤ arounds.length →
        ((world.step .closed).after (arounds.map .worked)).runs.map (·.1) = world.handed) ∧
    (world.relay.flush next.relay = true →
      ∀ ticket < world.handed.length, next.relay.queue.isFinished ticket = true) := by
  intro world next
  have inOrder : world.InOrder := after_inOrder (start_inOrder rfl) events
  have nextInOrder : next.InOrder := after_inOrder inOrder later
  have same : world.relay.settings = settings := after_settings _ events
  obtain ⟨handed, helped, deliveries⟩ := after_extends world later
  have queue := inOrder.queue
  rw [same] at queue
  refine ⟨?_, queue.finished, ?_, ?_, ⟨handed, runs_extend inOrder handed helped,
    deliveries⟩, ?_, ⟨rfl, closed_pending inOrder⟩, flush_finishes inOrder nextInOrder⟩
  · rw [runs_handed inOrder, queue.pending, List.map_drop, WorkQueue.numbered_items,
      List.length_map, runs_length inOrder]
    exact List.take_append_drop _ _
  · intro run member
    have mine : run.1 ∈ world.handed := (List.of_mem_zip member).1
    exact run_not_idle (inOrder.changes run.1 mine)
  · rw [← same]
    exact inOrder.deliveries
  · intro around delta idle
    have nothing := idle_notification idle
    rcases notify_queue world.relay around delta with ⟨-, queue⟩ | ⟨changes, -, -, handsIn, -⟩
    · exact ⟨queue, by simp [step, nothing]⟩
    · rw [nothing] at handsIn
      cases handsIn

end World
end ChangeRelay.Relay
