import ChangeRelay.Advisors
import ChangeRelay.Workspace

/-!
The hierarchy that a workspace has by itself: projects within a project are its sub-projects.
-/
namespace ChangeRelay.Workspace

def hierarchy (workspace : Workspace) : Hierarchy where
  isPart project := .ok !(workspace.subProjects project.scope).isEmpty
  subProjects project := .ok ((workspace.subProjects project.scope).map Member.project)

end ChangeRelay.Workspace
