import Groundwork.Intake.Record
import Groundwork.Package.Detection
import Groundwork.Report.Outcome
import Groundwork.Request.Blueprint
import Groundwork.Request.Grammar

/-!
# The program

One run of the program on a command line and an environment. A failure that a user can mend is
reported and gives exit code 1; a command line that cannot be read gives 2 and does nothing.
-/

namespace Groundwork.Program

/-- What a run leaves on the console. -/
structure Reply where
  code : Nat
  lines : List String := []
  /-- What is wrong with the command line. -/
  complaint : Option String := none

/-- Finds the base package of the project at `output` and tells how. -/
def findBase (settings : Settings) (output : Path) : Run String := do
  let found := Package.detect settings (← Run.tree) output
  Run.notify found.notice
  return found.base

/-- Lines for the console, which fail if their markup is at fault. -/
def told (lines : Except Console.MarkupFault (List String)) : Run (List String) :=
  Run.ofExcept (lines.mapError .markup)

def replyToError (message : String) : Run Reply := do
  return { code := 1, lines := ← told (Report.errorLines message) }

/-- Generates what a request asks for, and tells what was done. -/
def perform (settings : Settings) (request : Request) : Run (List String) := do
  let store := Template.Store.ofDirectory? settings.templateDirectory
  let output := Path.ofText request.output
  Run.notifyAll request.notices
  let b ← (request.blueprint (findBase settings output)).run' none
  match request with
  | .project _ => told (Report.project b (← Generate.project store settings output b))
  | .security _ => told (Report.security b (← Generate.security store ⟨output, settings⟩ b))
  | .model _ | .controller _ | .service _ | .repository _ =>
    told (Report.artifact b (← Generate.artifact store ⟨output, settings⟩ b))

/-- A project that asks for no dependencies gets the usual ones. -/
def complete : Request → Request
  | .project r => .project r.withDependencies
  | request => request

def replyToEnding : CommandLine.Ending → Reply
  | .stop usage .help => { code := 0, lines := [usage] }
  | .stop _ .version => { code := 0, lines := [programName ++ " " ++ programVersion] }
  | .misuse program fault =>
    { code := 2, complaint := some (program ++ ": error: " ++ fault.message) }

def execute (environment : List (String × String)) (request : Request) : Run Reply :=
  match Settings.ofEnvironment environment with
  | .error issues =>
    let entries := Settings.environmentEntries environment
    replyToError (Report.configurationMessage entries issues)
  | .ok settings =>
    tryCatch
      (do return { code := 0, lines := ← perform settings (complete request) })
      fun failure => do
        if failure.isReported then
          Run.notify (.commandFailed request.kind.name)
          replyToError failure.message
        else throw failure

/-- Runs the program on the words of a command line. -/
def run (environment : List (String × String)) (words : List String) : Run Reply :=
  match Invocation.read words with
  | .error ending => return replyToEnding ending
  | .ok invocation => execute environment invocation.request

end Groundwork.Program
