import Groundwork.Notice
import Groundwork.Package.Basic
import Groundwork.Settings
import Groundwork.Tree.Listing

/-!
# The base package of a project

The base package is read off the source tree: the package of the first entry point, else the
package of the first directory that is named like a domain package, else the fallback. First means
first in a walk from the top down that takes names in order. The source root itself is no package,
so what lies directly in it does not count. Detection never fails.
-/

namespace Groundwork.Package

/-- The package of a directory, given by its path from the source root. -/
def ofLocation (place : Location) : String :=
  ".".intercalate place

/-- The package of the first directory below `root` for which `wanted` holds. -/
def first? (t : Tree) (root : Location) (wanted : Location → Bool) : Option String :=
  (t.walk? (fun place => place != root && wanted place) root).map fun place =>
    ofLocation (place.drop root.length)

/-- The package of the first directory that holds an entry point. -/
def entryPoint? (settings : Settings) (t : Tree) (root : Location) : Option String :=
  first? t root fun place => (t.fileNames place).any (Text.endsWith · settings.entryPointEnding)

/-- The package of the first directory with the given name. -/
def named? (t : Tree) (root : Location) (name : String) : Option String :=
  first? t root fun place => place.getLast? == some name

/-- The package of a domain directory; each name is looked for everywhere before the next. -/
def domain? (settings : Settings) (t : Tree) (root : Location) : Option String :=
  settings.modelDirectories.findSome? (named? t root)

structure Detection where
  base : String
  notice : Notice

/-- Detects the base package below the location of the source root. -/
def detectBelow (settings : Settings) (t : Tree) (root : Location) : Detection :=
  match entryPoint? settings t root with
  | some package => ⟨package, .baseOfEntryPoint package⟩
  | none =>
    match domain? settings t root with
    | some package =>
      let base := (Text.dropEnding? package ".model").getD package
      ⟨base, .baseOfDomain base⟩
    | none => ⟨settings.fallbackPackage, .baseUnknown settings.fallbackPackage⟩

/-- Detects the base package of the project at `project`. -/
def detect (settings : Settings) (t : Tree) (project : Path) : Detection :=
  let root := project.child settings.sourceRoot
  let fallback := settings.fallbackPackage
  match t.isDirectory? root, t.locate root with
  | .ok true, .ok place => detectBelow settings t place
  | .error fault, _ => ⟨fallback, .baseUnreachable root fault⟩
  | _, _ => ⟨fallback, .noSourceRoot root fallback⟩

end Groundwork.Package
