import Groundwork.Generate.Artifact

/-!
# Generating projects

A new project is a directory named after the project, with a build file, the entry point and its
test, the settings, and the optional files. The directories are made before anything is rendered.
-/

namespace Groundwork.Generate

def resources : String := "src/main/resources"

/-- The optional files: whether a sheet asks for one, its template, and its name. -/
def optionalFiles : List ((ProjectSheet → Bool) × String × String) :=
  [(ProjectSheet.docker, "project/Dockerfile.j2", "Dockerfile"),
    (ProjectSheet.ignoredFiles, "project/gitignore.j2", ".gitignore"),
    (ProjectSheet.readme, "project/README.md.j2", "README.md")]

structure ProjectResult where
  root : Path
  written : List Written

/-- The directories of a project before it has any file. -/
def skeleton (project : Project) (s : ProjectSheet) : List Path :=
  [project.packageDirectory s.basePackage,
    project.root.child resources,
    project.packageDirectory s.basePackage project.settings.testSourceRoot]

def projectFiles (store : Template.Store) (project : Project) (s : ProjectSheet) :
    Run (List Written) := do
  let render (template : String) := Run.render store template s.bindings
  let buildFile ←
    Run.writeFile (project.root.child "pom.xml") (← render "project/pom.xml.j2")
  let mainClass ←
    Run.writeSource project s.basePackage s.mainClass (← render "project/main.java.j2")
  let properties ←
    Run.writeFile ((project.root.child resources).child "application.properties")
      (← render "project/application.properties.j2")
  let test ←
    Run.writeSource project s.basePackage (s.mainClass ++ "Tests")
      (← render "project/test.java.j2") project.settings.testSourceRoot
  let optional ← (optionalFiles.filter fun (asked, _) => asked s).mapM
    fun (_, template, name) => do
      Run.writeFile (project.root.child name) (← render template)
  return [buildFile, mainClass, properties, test] ++ optional

def projectAt (store : Template.Store) (project : Project) (s : ProjectSheet) :
    Run ProjectResult := do
  Run.notify (.projectPlanned s.name s.artifact s.mainClass s.database.name)
  (skeleton project s).forM Run.ensureDirectory
  return ⟨project.root, ← projectFiles store project s⟩

/-- Generates the project of a blueprint in a directory below `output`. -/
def project (store : Template.Store) (settings : Settings) (output : Path) (b : Blueprint) :
    Run ProjectResult := do
  if b.kind ≠ .project then throw (.input (.notProject b.kind))
  match ← Run.sheet b with
  | .project s => projectAt store ⟨output.child s.artifact, settings⟩ s
  | _ => throw (.input (.notProject b.kind))

end Groundwork.Generate
