import ChangeRelay.Proofs.SubProjectCopies
import ChangeRelay.Sending

/-!
Snapshots in groups, one group for every scope. Adding snapshots one by one comes to the scopes in
the order in which they were first met, each with the project that was met first and with all of
its snapshots in their order.
-/
namespace ChangeRelay

theorem mem_of_mem_eraseDupsBy {α : Type} {same : α → α → Bool} {items : List α} {item : α}
    (member : item ∈ items.eraseDupsBy same) : item ∈ items := by
  induction count : items.length using Nat.strongRecOn generalizing items with
  | ind length ih =>
    cases items with
    | nil => simp [List.eraseDupsBy, List.eraseDupsBy.loop] at member
    | cons first rest =>
      rw [List.eraseDupsBy_cons] at member
      rcases List.mem_cons.mp member with here | later
      · exact here ▸ List.mem_cons_self
      · have shorter := List.length_filter_le (fun other => decide (same other first = false)) rest
        rw [List.length_cons] at count
        have kept := ih _ (by omega) later rfl
        exact List.mem_cons_of_mem _ (List.mem_filter.mp kept).1

namespace Sending

def ofScope (scope : Value) (pairs : List (Project × Snapshot)) : List Snapshot :=
  (pairs.filter fun pair => pair.1.scope == scope).map (·.2)

def elsewhere (scope : Value) (pairs : List (Project × Snapshot)) : List (Project × Snapshot) :=
  pairs.filter fun pair => !(pair.1.scope == scope)

/-- The projects of some snapshots, the first of every scope. -/
def owners (pairs : List (Project × Snapshot)) : List Project :=
  (pairs.map (·.1)).eraseDupsBy Project.sharesScope

def groupsOf (pairs : List (Project × Snapshot)) : List Group :=
  (owners pairs).map fun owner => (owner, ofScope owner.scope pairs)

def addAll (groups : List Group) (pairs : List (Project × Snapshot)) : List Group :=
  pairs.foldl (fun groups pair => addToGroup groups pair.1 pair.2) groups

theorem addAll_cons (owner : Project) (snapshots : List Snapshot) (groups : List Group)
    (pairs : List (Project × Snapshot)) :
    addAll ((owner, snapshots) :: groups) pairs =
      (owner, snapshots ++ ofScope owner.scope pairs) ::
        addAll groups (elsewhere owner.scope pairs) := by
  induction pairs generalizing snapshots groups with
  | nil => simp [addAll, ofScope, elsewhere]
  | cons pair rest ih =>
    have step : addAll ((owner, snapshots) :: groups) (pair :: rest) =
        addAll (addToGroup ((owner, snapshots) :: groups) pair.1 pair.2) rest := rfl
    rw [step, addToGroup]
    by_cases here : owner.scope = pair.1.scope
    · rw [if_pos here, ih]
      simp [ofScope, elsewhere, here]
    · have apart : pair.1.scope ≠ owner.scope := fun same => here same.symm
      rw [if_neg here, ih]
      simp [ofScope, elsewhere, addAll, apart]

theorem owners_cons (pair : Project × Snapshot) (rest : List (Project × Snapshot)) :
    owners (pair :: rest) = pair.1 :: owners (elsewhere pair.1.scope rest) := by
  simp only [owners, List.map_cons, List.eraseDupsBy_cons, List.filter_map, elsewhere]
  congr 3
  apply List.filter_congr
  intro other _
  simp only [Function.comp_apply, Project.sharesScope]
  by_cases same : other.1.scope = pair.1.scope <;> simp [same]

theorem ofScope_elsewhere {scope other : Value} (apart : other ≠ scope) (snapshot : Snapshot)
    {project : Project} (mine : project.scope = scope) (pairs : List (Project × Snapshot)) :
    ofScope other ((project, snapshot) :: pairs) = ofScope other (elsewhere scope pairs) := by
  have skipped : ¬project.scope = other := fun same => apart (same.symm.trans mine)
  simp only [ofScope, elsewhere, List.filter_cons, skipped, beq_iff_eq, if_false,
    List.filter_filter]
  congr 1
  apply List.filter_congr
  intro pair _
  by_cases found : pair.1.scope = other
  · simp [found, apart]
  · simp [found]

theorem owner_elsewhere {scope : Value} {pairs : List (Project × Snapshot)} {owner : Project}
    (member : owner ∈ owners (elsewhere scope pairs)) : owner.scope ≠ scope := by
  obtain ⟨pair, kept, rfl⟩ := List.mem_map.mp (mem_of_mem_eraseDupsBy member)
  have outside := (List.mem_filter.mp kept).2
  simpa using outside

/-- Going through snapshots scope by scope: the first one's scope, then what is elsewhere. -/
@[elab_as_elim]
theorem scopewise {motive : List (Project × Snapshot) → Prop} (nil : motive [])
    (cons : ∀ pair rest, motive (elsewhere pair.1.scope rest) → motive (pair :: rest))
    (pairs : List (Project × Snapshot)) : motive pairs := by
  induction count : pairs.length using Nat.strongRecOn generalizing pairs with
  | ind length ih =>
    cases pairs with
    | nil => exact nil
    | cons pair rest =>
      have shorter : (elsewhere pair.1.scope rest).length ≤ rest.length :=
        List.length_filter_le _ rest
      rw [List.length_cons] at count
      exact cons pair rest (ih _ (by omega) _ rfl)

theorem addAll_nil (pairs : List (Project × Snapshot)) : addAll [] pairs = groupsOf pairs := by
  induction pairs using scopewise with
  | nil => rfl
  | cons pair rest ih =>
    have start : addAll [] (pair :: rest) = addAll [(pair.1, [pair.2])] rest := rfl
    rw [start, addAll_cons, ih, groupsOf, groupsOf, owners_cons, List.map_cons]
    congr 1
    · simp [ofScope]
    · apply List.map_congr_left
      intro owner member
      rw [ofScope_elsewhere (owner_elsewhere member) pair.2 rfl]

end Sending
end ChangeRelay
