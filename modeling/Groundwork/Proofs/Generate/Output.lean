import Groundwork.Generate.Project
import Groundwork.Generate.Security

/-!
# What a generator writes

The files of a sheet as a list: which template each is rendered from, and the path it is written
to. Every generator makes the directories of its sheet, then takes the files one after the other;
what else it does is to tell about itself and, for the security classes, to patch.
-/

namespace Groundwork

/-- A file that a generator writes. -/
structure Output where
  template : String
  path : Path

/-- The report on an output that is there already. -/
def Output.left (o : Output) : Written :=
  ⟨o.path, .alreadyExists⟩

namespace Generate

/-- Renders an output and writes it. -/
def produce (store : Template.Store) (bindings : Bindings) (o : Output) : Run Written := do
  let content ← Run.render store o.template bindings
  Run.writeFile o.path content

/-- The directories that a sheet asks for before any file. -/
def directories (project : Project) : Sheet → List Path
  | .project s => skeleton project s
  | _ => []

/-- The files of a sheet, in the order in which they are written. -/
def outputs (project : Project) : Sheet → List Output
  | .model s => [⟨"model.java.j2", project.sourcePath s.package s.className⟩]
  | .controller s => [⟨"controller.java.j2", project.sourcePath s.package s.name⟩]
  | .repository s => [⟨"repository.java.j2", project.sourcePath s.package s.name⟩]
  | .service s =>
    if s.ownInterface then
      [⟨"service_interface.java.j2", project.sourcePath s.package s.name⟩,
        ⟨"service_impl.java.j2", project.sourcePath s.package s.implementation⟩]
    else [⟨"service.java.j2", project.sourcePath s.package s.name⟩]
  | .security s =>
    (securityClasses.map fun (className, template) =>
        ⟨template, project.sourcePath s.package className⟩)
      ++ [⟨"security/auth_controller.java.j2",
        project.sourcePath s.controllerPackage "AuthController"⟩]
  | .project s =>
    [⟨"project/pom.xml.j2", project.root.child "pom.xml"⟩,
      ⟨"project/main.java.j2", project.sourcePath s.basePackage s.mainClass⟩,
      ⟨"project/application.properties.j2",
        (project.root.child resources).child "application.properties"⟩,
      ⟨"project/test.java.j2",
        project.sourcePath s.basePackage (s.mainClass ++ "Tests")
          project.settings.testSourceRoot⟩]
      ++ (optionalFiles.filter fun (asked, _) => asked s).map fun (_, template, name) =>
        ⟨template, project.root.child name⟩

/-- Makes the directories of a sheet and writes its files. -/
def write (store : Template.Store) (project : Project) (s : Sheet) : Run (List Written) := do
  (directories project s).forM Run.ensureDirectory
  (outputs project s).mapM (produce store s.bindings)

/-- What a generator tells before it writes the files of a sheet. -/
def plans : Sheet → List Notice
  | .model s => [.modelPlanned s.className s.fields.length]
  | .repository s => [.repositoryPlanned s.name s.kind.baseType]
  | .project s => [.projectPlanned s.name s.artifact s.mainClass s.database.name]
  | _ => []

variable (store : Template.Store) (project : Project)

theorem model_eq (s : ModelSheet) :
    model store project s
      = (do Run.notifyAll (plans (.model s)); write store project (.model s)) := by
  simp [write, outputs, directories, plans, model, emit, produce, Run.writeSource, Sheet.bindings]
  rfl

theorem controller_eq (s : ControllerSheet) :
    controller store project s = write store project (.controller s) := by
  simp [write, outputs, directories, controller, emit, produce, Run.writeSource, Sheet.bindings]

theorem repository_eq (s : RepositorySheet) :
    repository store project s
      = (do Run.notifyAll (plans (.repository s)); write store project (.repository s)) := by
  simp [write, outputs, directories, plans, repository, emit, produce, Run.writeSource,
    Sheet.bindings]
  rfl

theorem service_eq (s : ServiceSheet) :
    service store project s = write store project (.service s) := by
  simp only [write, outputs, directories, service, emit, Run.writeSource, Sheet.bindings]
  split <;> simp [produce]

theorem securityBundle_eq (s : SecuritySheet) :
    securityBundle store project s = (do
      let written ← write store project (.security s)
      let libraries ← addBuildDependencies project
      let package ← packageText s.userRepositoryPackage
      let methods ← addRepositoryMethods project package s.userRepository s.userEntity
      return ⟨written, libraries ++ methods⟩) := by
  simp [write, outputs, directories, securityBundle, emit, produce, Run.writeSource,
    Sheet.bindings, List.mapM_append, List.mapM_map]
  rfl

theorem projectAt_eq (s : ProjectSheet) :
    projectAt store project s = (do
      Run.notifyAll (plans (.project s))
      let written ← write store project (.project s)
      return ⟨project.root, written⟩) := by
  simp [write, outputs, directories, projectAt, projectFiles, produce,
    Run.writeSource, Sheet.bindings, List.mapM_map]
  rfl

end Generate

end Groundwork
