import Groundwork.Package.Basic
import Groundwork.Run
import Groundwork.Settings

/-!
# Source files

Where the file of a class lies in a project, and how files are written. Writing never replaces a
file: what is already there is reported and left alone.
-/

namespace Groundwork

/-- A project: where it is, and how its sources are laid out. -/
structure Project where
  root : Path
  settings : Settings := {}

namespace Project

/-- The directory of a package below a source root, or below the usual one if that is empty. -/
def packageDirectory (p : Project) (package : String) (sourceRoot : String := "") : Path :=
  let root := p.root.child (if sourceRoot = "" then p.settings.sourceRoot else sourceRoot)
  (Package.segments package).foldl Path.child root

/-- The name of the file that holds a class. -/
def fileName (p : Project) (className : String) : String :=
  if Text.endsWith className p.settings.sourceExtension then className
  else className ++ p.settings.sourceExtension

def sourcePath (p : Project) (package className : String) (sourceRoot : String := "") : Path :=
  (p.packageDirectory package sourceRoot).child (p.fileName className)

end Project

inductive WriteStatus where
  | created
  | alreadyExists
  deriving Repr, DecidableEq

def WriteStatus.name : WriteStatus → String
  | created => "created"
  | alreadyExists => "already_exists"

structure Written where
  path : Path
  status : WriteStatus

def Written.isCreated (w : Written) : Bool :=
  w.status = .created

namespace Run

/-- Creates a directory and the directories above it. -/
def ensureDirectory (path : Path) : Run Unit := do
  let (t, outcome) := (← tree).ensureDirectory path
  setTree t
  match outcome with
  | .ok () => pure ()
  | .error fault => throw (.ofDeed .createDirectory path fault)

/-- Creates a file where nothing is yet. -/
def writeFile (path : Path) (content : String) : Run Written := do
  if ← ask path ((← tree).exists? path) then
    notify (.fileExists path)
    return ⟨path, .alreadyExists⟩
  ensureDirectory path.parent
  match (← tree).create path (.file (Text.Utf8.encode content.toList)) with
  | .ok t =>
    setTree t
    notify (.fileCreated path)
    return ⟨path, .created⟩
  | .error .present =>
    notify (.fileExists path)
    return ⟨path, .alreadyExists⟩
  | .error fault => throw (.ofDeed .writeFile path fault)

/-- Writes the file of a class. -/
def writeSource (project : Project) (package className content : String)
    (sourceRoot : String := "") : Run Written :=
  writeFile (project.sourcePath package className sourceRoot) content

end Run

end Groundwork
