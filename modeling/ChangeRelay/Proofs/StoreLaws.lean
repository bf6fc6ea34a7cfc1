import ChangeRelay.ScopeStore

/-!
What each operation of a store does to the entries, the generations and the known scopes, scope by
scope.
-/
namespace ChangeRelay.ScopeStore

variable {κ ν α : Type} [DecidableEq κ]

theorem getAt_setAt (entries : List (κ × α)) (scope other : κ) (value : α) :
    getAt (setAt entries scope value) other =
      if scope = other then some value else getAt entries other := by
  induction entries with
  | nil => rfl
  | cons entry rest ih =>
    obtain ⟨first, held⟩ := entry
    simp only [setAt]
    by_cases here : first = scope
    · subst here
      simp only [if_true, getAt]
      split <;> rfl
    · simp only [here, if_false, getAt, ih]
      by_cases found : first = other
      · have apart : scope ≠ other := by
          intro same
          exact here (found.trans same.symm)
        simp [found, apart]
      · simp [found]

theorem getAt_eraseAt (entries : List (κ × α)) (scope other : κ) :
    getAt (eraseAt entries scope) other = if scope = other then none else getAt entries other := by
  induction entries with
  | nil => simp [eraseAt, getAt]
  | cons entry rest ih =>
    obtain ⟨first, held⟩ := entry
    simp only [eraseAt] at ih
    by_cases here : first = scope
    · subst here
      simp only [eraseAt, List.filter_cons, ne_eq, not_true_eq_false, decide_false,
        Bool.false_eq_true, if_false, ih, getAt]
      split <;> rfl
    · simp only [eraseAt, List.filter_cons, ne_eq, here, not_false_eq_true, decide_true, if_true,
        getAt, ih]
      by_cases found : first = other
      · have apart : scope ≠ other := by
          intro same
          exact here (found.trans same.symm)
        simp [found, apart]
      · simp [found]

theorem getAt_isSome_iff (entries : List (κ × α)) (scope : κ) :
    (getAt entries scope).isSome = true ↔ scope ∈ entries.map (·.1) := by
  induction entries with
  | nil => simp [getAt]
  | cons entry rest ih =>
    obtain ⟨first, held⟩ := entry
    simp only [getAt, List.map_cons, List.mem_cons]
    by_cases found : first = scope
    · simp [found]
    · simp [found, ih, Ne.symm found]

theorem entries_put (store : ScopeStore κ ν) (scope other : κ) (value : Option ν) :
    getAt (store.put scope value).entries other =
      if scope = other then some value else getAt store.entries other :=
  getAt_setAt store.entries scope other value

theorem entries_invalidate (store : ScopeStore κ ν) (scope other : κ) :
    getAt (store.invalidate scope).entries other =
      if scope = other then none else getAt store.entries other :=
  getAt_eraseAt store.entries scope other

theorem entries_clear (store : ScopeStore κ ν) (scope : κ) :
    getAt store.clear.entries scope = none := rfl

theorem entries_register (store : ScopeStore κ ν) (scope : κ) :
    (store.register scope).entries = store.entries := by
  unfold register
  split <;> rfl

theorem generations_register (store : ScopeStore κ ν) (scope : κ) :
    (store.register scope).generations = store.generations := by
  unfold register
  split <;> rfl

theorem generation_register (store : ScopeStore κ ν) (scope other : κ) :
    (store.register scope).generation other = store.generation other := by
  rw [generation, generations_register, generation]

theorem next_generation (generations : List (κ × Nat)) (scope other : κ) :
    (getAt (nextGeneration generations scope) other).getD 0 =
      (getAt generations other).getD 0 + if scope = other then 1 else 0 := by
  rw [nextGeneration, getAt_setAt]
  by_cases same : scope = other
  · subst same
    simp
  · simp [same]

theorem generation_invalidate (store : ScopeStore κ ν) (scope other : κ) :
    (store.invalidate scope).generation other =
      store.generation other + if scope = other then 1 else 0 :=
  next_generation store.generations scope other

theorem next_generations (scopes : List κ) (generations : List (κ × Nat)) (scope : κ) :
    (getAt (scopes.foldl nextGeneration generations) scope).getD 0 =
      (getAt generations scope).getD 0 + scopes.count scope := by
  induction scopes generalizing generations with
  | nil => simp
  | cons first rest ih =>
    rw [List.foldl_cons, ih, next_generation, List.count_cons]
    simp only [beq_iff_eq]
    omega

theorem generation_clear (store : ScopeStore κ ν) (scope : κ) :
    store.clear.generation scope = store.generation scope + store.known.count scope :=
  next_generations store.known store.generations scope

theorem mem_unseen (scopes seen : List κ) (scope : κ) :
    scope ∈ scopes.foldl (fun seen scope => if scope ∈ seen then seen else seen ++ [scope]) seen ↔
      scope ∈ seen ∨ scope ∈ scopes := by
  induction scopes generalizing seen with
  | nil => simp
  | cons first rest ih =>
    rw [List.foldl_cons, ih, List.mem_cons]
    by_cases member : first ∈ seen
    · simp only [member, if_true]
      constructor
      · rintro (old | later)
        · exact Or.inl old
        · exact Or.inr (Or.inr later)
      · rintro (old | same | later)
        · exact Or.inl old
        · exact Or.inl (same ▸ member)
        · exact Or.inr later
    · simp only [member, if_false, List.mem_append, List.mem_singleton, or_assoc]

theorem known_iff (store : ScopeStore κ ν) (scope : κ) :
    scope ∈ store.known ↔ (getAt store.entries scope).isSome = true ∨ scope ∈ store.registered := by
  rw [known, mem_unseen, List.mem_append, getAt_isSome_iff]
  simp

theorem register_registers (store : ScopeStore κ ν) (scope : κ) :
    scope ∈ (store.register scope).registered := by
  unfold register
  split
  · assumption
  · simp

theorem registered_register {store : ScopeStore κ ν} {scope : κ} (other : κ)
    (member : scope ∈ store.registered) : scope ∈ (store.register other).registered := by
  unfold register
  split
  · exact member
  · simp [member]

theorem look_found {store : ScopeStore κ ν} {scope : κ} {value : ν}
    (found : store.look scope = .inl value) : getAt store.entries scope = some (some value) := by
  unfold look at found
  split at found
  · rename_i held entry
    cases found
    simpa [get?, Option.join_eq_some_iff] using entry
  · cases found

theorem look_missed {store : ScopeStore κ ν} {scope : κ} {generation : Nat}
    (missed : store.look scope = .inr generation) : generation = store.generation scope := by
  unfold look at missed
  split at missed
  · cases missed
  · cases missed
    rfl

theorem keep_same {store : ScopeStore κ ν} {scope : κ} {started : Nat}
    (same : store.generation scope = started) (value : Option ν) :
    store.keep scope started value = store.put scope value := by
  simp [keep, same]

theorem keep_moved {store : ScopeStore κ ν} {scope : κ} {started : Nat}
    (moved : store.generation scope ≠ started) (value : Option ν) :
    store.keep scope started value = store := by
  simp [keep, moved]

theorem get?_register (store : ScopeStore κ ν) (scope other : κ) :
    (store.register scope).get? other = store.get? other := by
  rw [get?, entries_register, get?]

theorem get?_put (store : ScopeStore κ ν) (scope other : κ) (value : Option ν) :
    (store.put scope value).get? other = if scope = other then value else store.get? other := by
  rw [get?, entries_put, get?]
  split <;> rfl

theorem get?_invalidate (store : ScopeStore κ ν) (scope other : κ) :
    (store.invalidate scope).get? other = if scope = other then none else store.get? other := by
  rw [get?, entries_invalidate, get?]
  split <;> rfl

section
variable {ω : Type} {store : ScopeStore κ ν} {scope : κ} {left : ω}
  {compute : ScopeStore κ ν → Except Failure (Option ν) × ω × ScopeStore κ ν}

theorem lookUp_found {value : ν} (held : store.get? scope = some value) :
    store.lookUp scope compute = (⟨.ok (some value), none⟩, store.register scope) := by
  have looked : (store.register scope).look scope = .inl value := by
    simp only [look, get?_register, held]
  simp only [lookUp, looked]

theorem lookUp_failed {failure : Failure} (nothing : store.get? scope = none)
    (ran : compute (store.register scope) = (.error failure, left, store.register scope)) :
    store.lookUp scope compute = (⟨.error failure, some left⟩, store.register scope) := by
  have looked : (store.register scope).look scope =
      .inr ((store.register scope).generation scope) := by
    simp only [look, get?_register, nothing]
  simp only [lookUp, looked, ran]

theorem lookUp_computed {value : Option ν} (nothing : store.get? scope = none)
    (ran : compute (store.register scope) = (.ok value, left, store.register scope)) :
    store.lookUp scope compute =
      (⟨.ok value, some left⟩, (store.register scope).put scope value) := by
  have looked : (store.register scope).look scope =
      .inr ((store.register scope).generation scope) := by
    simp only [look, get?_register, nothing]
  simp only [lookUp, looked, ran, keep_same]

end

end ChangeRelay.ScopeStore
