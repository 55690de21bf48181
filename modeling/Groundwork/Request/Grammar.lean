import Groundwork.CommandLine.Reading
import Groundwork.Notice
import Groundwork.Request.Basic

/-!
# The command line

The options before the command belong to the program, those after it to the command. Words that a
command does not take are refused only after all of it has been read.
-/

namespace Groundwork

open CommandLine

def programName : String := "spring-scaffold"

def programVersion : String := "1.0.0"

/-- A value that has to be the name of a member of a list, written in any case. -/
def oneOf {α σ : Type} (name : α → String) (all : List α) (change : α → σ → σ) : Reader σ :=
  fun word =>
    match chosen? name all (.text word) with
    | some a => .ok (change a)
    | none => .error (.notOffered (Text.upper (Text.trim word)) (all.map name))

def readExpiration : Reader SecurityRequest := fun word =>
  match Text.readInteger? word with
  | some n => .ok fun r => { r with expiration := n }
  | none => .error (.notInteger word)

def commandProgram (a : Artifact) : String :=
  programName ++ " " ++ a.name

def ModelRequest.grammar : Grammar ModelRequest where
  program := commandProgram .model
  start := {}
  operands :=
    [.one "name" fun s r => { r with name := s },
      .many "FIELD" fun ss r => { r with tokens := ss }]
  options :=
    [.help,
      .text ["--package", "-p"] fun s r => { r with package := some s },
      .text ["--fields", "-f"] fun s r => { r with moreTokens := r.moreTokens ++ [s] },
      .text ["--table", "-t"] fun s r => { r with table := some s },
      .toggle "jpa" fun b r => { r with persistence := b },
      .toggle "lombok" fun b r => { r with lombok := b },
      .toggle "validation" fun b r => { r with validation := b },
      .text ["--required"] fun s r => { r with required := r.required ++ [s] },
      .text ["--unique"] fun s r => { r with unique := r.unique ++ [s] },
      .text ["--output", "-o"] fun s r => { r with output := s }]

def ControllerRequest.grammar : Grammar ControllerRequest where
  program := commandProgram .controller
  start := {}
  operands := [.one "name" fun s r => { r with name := s }]
  options :=
    [.help,
      .text ["--package", "-p"] fun s r => { r with package := some s },
      .text ["--model", "-m"] fun s r => { r with model := some s },
      .text ["--model-package"] fun s r => { r with modelPackage := some s },
      .text ["--service-package"] fun s r => { r with servicePackage := some s },
      .text ["--path"] fun s r => { r with basePath := s },
      .flag ["--crud"] fun r => { r with crud := true },
      .flag ["--swagger"] fun r => { r with apiDocs := true },
      .toggle "validation" fun b r => { r with validation := b },
      .text ["--output", "-o"] fun s r => { r with output := s }]

def ServiceRequest.grammar : Grammar ServiceRequest where
  program := commandProgram .service
  start := {}
  operands := [.one "name" fun s r => { r with name := s }]
  options :=
    [.help,
      .text ["--package", "-p"] fun s r => { r with package := some s },
      .text ["--model", "-m"] fun s r => { r with model := some s },
      .text ["--model-package"] fun s r => { r with modelPackage := some s },
      .text ["--repository-package"] fun s r => { r with repositoryPackage := some s },
      .toggle "interface" fun b r => { r with ownInterface := b },
      .flag ["--crud"] fun r => { r with crud := true },
      .flag ["--transactional"] fun r => { r with transactional := true },
      .flag ["--validation"] fun r => { r with validation := true },
      .text ["--output", "-o"] fun s r => { r with output := s }]

def RepositoryRequest.grammar : Grammar RepositoryRequest where
  program := commandProgram .repository
  start := {}
  operands := [.one "name" fun s r => { r with name := s }]
  options :=
    [.help,
      .text ["--package", "-p"] fun s r => { r with package := some s },
      .text ["--model", "-m"] fun s r => { r with model := some s },
      .text ["--model-package"] fun s r => { r with modelPackage := some s },
      .read ["--type", "-t"]
        (oneOf RepositoryKind.name RepositoryKind.all fun k r => { r with kind := k }),
      .text ["--id-type"] fun s r => { r with idType := s },
      .toggle "custom-queries" fun b r => { r with customQueries := b },
      .toggle "pagination" fun b r => { r with pagination := b },
      .text ["--output", "-o"] fun s r => { r with output := s }]

def SecurityRequest.grammar : Grammar SecurityRequest where
  program := commandProgram .security
  start := {}
  operands := []
  options :=
    [.help,
      .text ["--package", "-p"] fun s r => { r with package := some s },
      .text ["--jwt-secret"] fun s r => { r with secret := s },
      .read ["--jwt-expiration"] readExpiration,
      .text ["--user-entity"] fun s r => { r with userEntity := s },
      .text ["--user-package"] fun s r => { r with userPackage := some s },
      .toggle "cors" fun b r => { r with cors := b },
      .text ["--output", "-o"] fun s r => { r with output := s }]

def ProjectRequest.grammar : Grammar ProjectRequest where
  program := commandProgram .project
  start := {}
  operands := [.one "name" fun s r => { r with name := s }]
  options :=
    [.help,
      .text ["--package", "-p"] fun s r => { r with package := s },
      .text ["--group-id", "-g"] fun s r => { r with group := some s },
      .text ["--spring-boot-version", "-s"] fun s r => { r with bootVersion := s },
      .text ["--java-version", "-j"] fun s r => { r with javaVersion := s },
      .text ["--dependencies", "-d"] fun s r => { r with dependencies := r.dependencies ++ [s] },
      .read ["--database"]
        (oneOf Database.name Database.all fun d r => { r with database := d }),
      .read ["--packaging"]
        (oneOf Packaging.name Packaging.all fun p r => { r with packaging := p }),
      .toggle "docker" fun b r => { r with docker := b },
      .toggle "gitignore" fun b r => { r with ignoredFiles := b },
      .toggle "readme" fun b r => { r with readme := b },
      .text ["--output", "-o"] fun s r => { r with output := s }]

/-- Reads the words after a command, with the grammar of that command. -/
def Request.read (a : Artifact) (words : List String) : Except Ending (Request × List String) := do
  match a with
  | .model => return (← ModelRequest.grammar.read words).map .model id
  | .controller => return (← ControllerRequest.grammar.read words).map .controller id
  | .service => return (← ServiceRequest.grammar.read words).map .service id
  | .repository => return (← RepositoryRequest.grammar.read words).map .repository id
  | .security => return (← SecurityRequest.grammar.read words).map .security id
  | .project => return (← ProjectRequest.grammar.read words).map .project id

/-- What is said before the command, and the command with its words. -/
structure Opening where
  verbose : Bool := false
  quiet : Bool := false
  command : Option (Artifact × List String) := none

def Opening.readCommand (word : String) (rest : List String) :
    Except ValueFault (Opening → Opening) :=
  match Artifact.ofName? word with
  | some a => .ok fun o => { o with command := some (a, rest) }
  | none => .error (.notOffered word (Artifact.all.map Artifact.name))

def Opening.grammar : Grammar Opening where
  program := programName
  start := {}
  operands := [.command "COMMAND" Opening.readCommand]
  options :=
    [.help,
      .version,
      .flag ["--verbose", "-v"] fun o => { o with verbose := true },
      .flag ["--quiet", "-q"] fun o => { o with quiet := true }]

/-- A command line that was read to the end. -/
structure Invocation where
  verbose : Bool
  quiet : Bool
  request : Request

namespace Invocation

/-- The lowest level that is told. Telling much wins over telling little. -/
def level (i : Invocation) : Level :=
  if i.verbose then .debug else if i.quiet then .error else .warning

def read (words : List String) : Except Ending Invocation := do
  let (opening, before) ← Opening.grammar.read words
  match opening.command with
  | none => throw (.misuse programName (.missing ["COMMAND"]))
  | some (a, rest) =>
    let (request, after) ← Request.read a rest
    if (before ++ after).isEmpty then return ⟨opening.verbose, opening.quiet, request⟩
    else throw (.misuse programName (.unrecognized (before ++ after)))

end Invocation

end Groundwork
