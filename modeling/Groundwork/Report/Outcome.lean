import Groundwork.Generate.Project
import Groundwork.Generate.Security
import Groundwork.Intake.Basic
import Groundwork.Report.Table
import Groundwork.Value.Written

/-!
# What a command tells

One line for each file that was written or left alone, and a table with the figures at the end.
-/

namespace Groundwork.Report

open Console

/-- The lines of a message. Tags in it are text, and the whole of it has a style. -/
def messageLines (style message : String) : Except MarkupFault (List String) := do
  return shownLines
    (← Markup.shown ("[" ++ style ++ "]" ++ Markup.escape message ++ "[/" ++ style ++ "]"))

def successLines : String → Except MarkupFault (List String) :=
  messageLines "bold green"

def warningLines : String → Except MarkupFault (List String) :=
  messageLines "bold yellow"

def errorLines (message : String) : Except MarkupFault (List String) := do
  return shownLines (← Markup.shown ("[bold red]Error:[/bold red] " ++ Markup.escape message))

def writtenLines (w : Written) : Except MarkupFault (List String) :=
  match w.status with
  | .created => successLines ("Created " ++ w.path.text)
  | .alreadyExists => warningLines ("Already exists, skipped: " ++ w.path.text)

/-- A patch that the file does not need is not worth a line. -/
def patchedLines (p : Patched) : Except MarkupFault (List String) :=
  match p.status with
  | .patched => successLines ("Updated " ++ p.path.text)
  | .missingTarget => warningLines ("Not found, update skipped: " ++ p.path.text)
  | .missingAnchor =>
    warningLines ("Could not locate insertion point, update skipped: " ++ p.path.text)
  | .unreadable => warningLines ("Not UTF-8 text, update skipped: " ++ p.path.text)
  | .alreadyPresent => .ok []

def createdCount (ws : List Written) : String :=
  (ws.filter Written.isCreated).length.repr

def updatedCount (ps : List Patched) : String :=
  (ps.filter Patched.isPatched).length.repr

/-- The lines about all files, and the table after them. -/
def lines (ws : List Written) (ps : List Patched) (table : Table) :
    Except MarkupFault (List String) := do
  return (← ws.mapM writtenLines).flatten ++ (← ps.mapM patchedLines).flatten ++ (← table.lines)

def artifact (b : Blueprint) (ws : List Written) : Except MarkupFault (List String) :=
  lines ws []
    { title := "Scaffold"
      rows :=
        [("Kind", b.kind.name), ("Name", b.name), ("Package", b.package),
          ("Created", createdCount ws)] }

def security (b : Blueprint) (r : Generate.SecurityResult) : Except MarkupFault (List String) :=
  lines r.written r.patches
    { title := "Security"
      rows :=
        [("Package", b.package),
          ("User entity", (b.option "user_entity" (.text SecuritySheet.usualUser)).written),
          ("Created", createdCount r.written), ("Updated", updatedCount r.patches)] }

def project (b : Blueprint) (r : Generate.ProjectResult) : Except MarkupFault (List String) :=
  lines r.written []
    { title := "Project"
      rows :=
        [("Project", b.name), ("Base package", b.package), ("Location", r.root.text),
          ("Created", createdCount r.written)] }

/-- The longest text of a refused value that is shown in full, and what is kept of a longer one on
both sides of the dots. -/
def longestValue : Nat := 50

def shortened (s : String) : String :=
  if s.length ≤ longestValue then s
  else
    .ofList (s.toList.take (longestValue / 2)) ++ "..."
      ++ .ofList (s.toList.drop (s.length - (longestValue / 2 - 1)))

/-- The value that an issue is about, among the entries that were taken in. -/
def refusedValue (entries : Bindings) (i : Intake.Issue) : String :=
  match i.place with
  | .key name :: _ => ((entries.find? name).map Value.quoted).getD ""
  | _ => ""

def placeText (i : Intake.Issue) : String :=
  ".".intercalate (i.place.map fun
    | .key name => name
    | .index n => n.repr)

/-- The message about settings that an environment cannot give. -/
def configurationMessage (entries : Bindings) (issues : List Intake.Issue) : String :=
  let count := issues.length.repr
    ++ (if issues.length = 1 then " validation error" else " validation errors")
  let details := issues.map fun i =>
    "\n" ++ placeText i ++ "\n  " ++ i.cause.message ++ " [type=" ++ i.cause.code
      ++ ", input_value=" ++ shortened (refusedValue entries i) ++ ", input_type=str]"
  "Invalid configuration: " ++ count ++ " for ScaffoldConfig" ++ String.join details

end Groundwork.Report
