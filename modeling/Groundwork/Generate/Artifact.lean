import Groundwork.Sheet
import Groundwork.Source
import Groundwork.Template.Store

/-!
# Generating single artifacts

Models, controllers, services and repositories. Each file is rendered and then written before the
next one is rendered.
-/

namespace Groundwork

namespace Run

/-- Renders a template with the tree as it is now. -/
def render (store : Template.Store) (name : String) (bindings : Bindings) : Run String := do
  ofExcept (store.render (← tree) name bindings)

/-- The sheet of a blueprint, with what there is to tell about it. -/
def sheet (b : Blueprint) : Run Sheet := do
  let s ← ofExcept (Sheet.ofBlueprint b)
  notifyAll s.notices
  return s

end Run

namespace Generate

/-- Renders and writes the class of a template. -/
def emit (store : Template.Store) (project : Project) (bindings : Bindings)
    (package template className : String) : Run Written := do
  let content ← Run.render store template bindings
  Run.writeSource project package className content

def model (store : Template.Store) (project : Project) (s : ModelSheet) : Run (List Written) := do
  Run.notify (.modelPlanned s.className s.fields.length)
  return [← emit store project s.bindings s.package "model.java.j2" s.className]

def controller (store : Template.Store) (project : Project) (s : ControllerSheet) :
    Run (List Written) := do
  return [← emit store project s.bindings s.package "controller.java.j2" s.name]

def repository (store : Template.Store) (project : Project) (s : RepositorySheet) :
    Run (List Written) := do
  Run.notify (.repositoryPlanned s.name s.kind.baseType)
  return [← emit store project s.bindings s.package "repository.java.j2" s.name]

/-- A service is one class, or an interface and its implementation. -/
def service (store : Template.Store) (project : Project) (s : ServiceSheet) :
    Run (List Written) := do
  if s.ownInterface then
    let interface ← emit store project s.bindings s.package "service_interface.java.j2" s.name
    let implementation ←
      emit store project s.bindings s.package "service_impl.java.j2" s.implementation
    return [interface, implementation]
  else
    return [← emit store project s.bindings s.package "service.java.j2" s.name]

/-- Generates the files of a blueprint. Bundles and projects are not single artifacts. -/
def artifact (store : Template.Store) (project : Project) (b : Blueprint) :
    Run (List Written) := do
  if b.kind = .security || b.kind = .project then throw (.input (.notSingle b.kind))
  match ← Run.sheet b with
  | .model s => model store project s
  | .controller s => controller store project s
  | .service s => service store project s
  | .repository s => repository store project s
  | .security _ | .project _ => throw (.input (.notSingle b.kind))

end Generate

end Groundwork
