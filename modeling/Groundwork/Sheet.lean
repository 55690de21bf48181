import Groundwork.Notice
import Groundwork.Sheet.Controller
import Groundwork.Sheet.Model
import Groundwork.Sheet.Project
import Groundwork.Sheet.Repository
import Groundwork.Sheet.Security
import Groundwork.Sheet.Service

/-!
# The sheet of a blueprint

One sheet for each kind of artifact. A blueprint without a name has none.
-/

namespace Groundwork

inductive Sheet where
  | model (s : ModelSheet)
  | controller (s : ControllerSheet)
  | service (s : ServiceSheet)
  | repository (s : RepositorySheet)
  | security (s : SecuritySheet)
  | project (s : ProjectSheet)

namespace Sheet

def ofBlueprint (b : Blueprint) : Except Failure Sheet := do
  b.requireName
  match b.kind with
  | .model => return model (.ofBlueprint b)
  | .controller => return controller (← ControllerSheet.ofBlueprint b)
  | .service => return service (← ServiceSheet.ofBlueprint b)
  | .repository => return repository (← RepositorySheet.ofBlueprint b)
  | .security => return security (← SecuritySheet.ofBlueprint b)
  | .project => return project (← ProjectSheet.ofBlueprint b)

/-- What the templates are filled with. -/
def bindings : Sheet → Bindings
  | model s => s.bindings
  | controller s => s.bindings
  | service s => s.bindings
  | repository s => s.bindings
  | security s => s.bindings
  | project s => s.bindings

/-- What there is to tell about working the sheet out. -/
def notices : Sheet → List Notice
  | project s => s.resolution.unknown.map .unknownDependency
  | model _ | controller _ | service _ | repository _ | security _ => []

end Sheet

end Groundwork
