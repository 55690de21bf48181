import Groundwork.Text.Blank
import Groundwork.Text.Cut

/-!
# Packages

A package is a text of segments between points. A package may be given in part: without a point it
is a segment below the base package of the project, and blank it is the usual segment there.
-/

namespace Groundwork.Package

/-- The segments of a package; empty ones do not count. -/
def segments (package : String) : List String :=
  (Text.pieces '.' package).filter (· != "")

/-- `package` with the ending `.old` replaced by `.new`, if it has it. -/
def swapLast (old new package : String) : String :=
  match Text.dropEnding? package ("." ++ old) with
  | some stem => stem ++ "." ++ new
  | none => package

/-- The package of the controller that goes with a security package. -/
def controllerFor (package : String) : String :=
  swapLast "security" "controller" package

/-- The package of the repositories that go with a model package. -/
def repositoryFor (package : String) : String :=
  swapLast "model" "repository" package

/-- A package as it was given: in full, or as a segment below a base that is still to be found. -/
inductive Fragment where
  | full (package : String)
  | segment (name : String)
  deriving Repr, DecidableEq

def Fragment.ofInput (input : Option String) (usual : String) : Fragment :=
  let given := Text.trim (input.getD "")
  if given = "" then .segment usual
  else if given.toList.contains '.' then .full given
  else .segment given

/-- The package that a fragment stands for, with a way to find the base if it is needed. -/
def Fragment.complete {m : Type → Type} [Monad m] (base : m String) : Fragment → m String
  | full package => pure package
  | segment name => do return (← base) ++ "." ++ name

/-- The base package, found when it is first needed and then kept. -/
def base {m : Type → Type} [Monad m] (find : m String) : StateT (Option String) m String := do
  match ← get with
  | some base => return base
  | none =>
    let base ← StateT.lift find
    set (some base)
    return base

/-- The package that an input stands for, below the one base of a run. -/
def resolve {m : Type → Type} [Monad m] (find : m String) (input : Option String)
    (usual : String) : StateT (Option String) m String :=
  (Fragment.ofInput input usual).complete (base find)

end Groundwork.Package
