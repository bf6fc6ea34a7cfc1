import ChangeRelay.Proofs.DueCopies
import ChangeRelay.Proofs.OwnExclusions
import ChangeRelay.Proofs.ReportedFiles
import ChangeRelay.Proofs.WaysBetweenPaths

/-!
What a batch says of one configuration file of a workspace: its own snapshot and one copy for every
project strictly within the file's project, each with a way that leads from that project to the file
and goes up no further than it has to.
-/
namespace ChangeRelay

namespace Workspace

def Nested (workspace : Workspace) (owner member : Member) : Prop :=
  member ∈ workspace.members ∧ member.folder.isWithin owner.folder = true ∧
    member.folder ≠ owner.folder

section
variable {workspace : Workspace} {means : Sending.Means File} (look : means.look = workspace.view)
  {files : List File} {own : List Snapshot} (made : List.Forall₂ (Sending.Made means) files own)
include look made

end

end Workspace
end ChangeRelay
