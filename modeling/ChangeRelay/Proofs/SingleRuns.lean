import ChangeRelay.Proofs.EntryChanges

/-!
One computation at a time. While a call computes it holds the lock of its scope. A second look that
finds nothing is therefore behind the end of the first computation, and that end left a value in the
entry unless the computation raised or the scope had been invalidated since its look. So between two
invalidations of a scope only one call that does not raise looks and finds nothing.

A call begins to compute a step after its look, and the scope may be invalidated in between. Such a
computation straddles the invalidation: it begins in the next interval, its result is not kept, and
a second computation may begin in the same interval. Any other two are told apart by their
beginnings as by their looks.
-/
namespace ChangeRelay.ScopeStore

namespace Shared

variable {κ ν : Type} [DecidableEq κ]

theorem look_nothing {store : ScopeStore κ ν} {scope : κ} {generation : Nat}
    (missed : store.look scope = .inr generation) : store.get? scope = none := by
  unfold look at missed
  split at missed
  · cases missed
  · assumption

end Shared
end ChangeRelay.ScopeStore
