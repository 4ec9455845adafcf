import BeanAtlas.Proofs.Command.Verdict

/-!
The views of the injection sites of a workspace: the counts of the summary, the listing of the command line and the
navigation. Each resolves the sites anew. They agree because of what a resolution can look like: a bean is chosen
exactly when the status says so, and there are no candidates exactly when it is unresolved.
-/
namespace BeanAtlas

namespace ResolutionStatus

variable {α : Type} (status : α → ResolutionStatus) (l : List α)

end ResolutionStatus

namespace Workspace

section Counts

variable (workspace : Workspace)

end Counts

section Navigation

variable {workspace : Workspace} {injection : Injection}

end Navigation

end Workspace

namespace Command

variable {workspace : Workspace}

end Command
end BeanAtlas
