import Groundwork.Failure
import Groundwork.Notice

/-!
# Runs

A run works on a site: the file tree and the notices so far. It ends with a result or a failure,
and in both cases leaves a site behind; what was written before a failure stays written.
-/

namespace Groundwork

structure Site where
  tree : Tree
  notices : List Notice := []
  deriving Inhabited

abbrev Run := ExceptT Failure (StateM Site)

namespace Run

def notify (notice : Notice) : Run Unit :=
  modify fun site => { site with notices := site.notices ++ [notice] }

def notifyAll (notices : List Notice) : Run Unit :=
  modify fun site => { site with notices := site.notices ++ notices }

def tree : Run Tree := do
  return (← get).tree

def setTree (t : Tree) : Run Unit :=
  modify fun site => { site with tree := t }

/-- The answer of a question about a path, which fails if the path cannot be asked about. -/
def ask (path : Path) (answer : Except FileFault α) : Run α :=
  match answer with
  | .ok a => pure a
  | .error fault => throw (.unreachable path fault)

/-- A result worked out without a site. -/
def ofExcept (result : Except Failure α) : Run α :=
  match result with
  | .ok a => pure a
  | .error failure => throw failure

/-- Runs to the end: the result or failure, and the site it leaves. -/
def on (site : Site) (run : Run α) : Except Failure α × Site :=
  (ExceptT.run run).run site

end Run

end Groundwork
