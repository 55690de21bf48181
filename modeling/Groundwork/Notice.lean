import Groundwork.Tree.Access

/-!
# Notices

What a run tells besides its result. A notice is kept as its cause; its level and its wording are
functions of the cause.
-/

namespace Groundwork

inductive Level where
  | debug
  | info
  | warning
  | error
  deriving Repr, DecidableEq

namespace Level

def rank : Level → Nat
  | debug => 10
  | info => 20
  | warning => 30
  | error => 40

def name : Level → String
  | debug => "DEBUG"
  | info => "INFO"
  | warning => "WARNING"
  | error => "ERROR"

end Level

inductive Notice where
  | invalidField (token : String)
  | unknownConstraint (field : String)
  | noFields
  | unknownDependency (name : String)
  | noSourceRoot (root : Path) (base : String)
  | baseOfEntryPoint (base : String)
  | baseOfDomain (base : String)
  | baseUnknown (base : String)
  | baseUnreachable (root : Path) (fault : FileFault)
  | fileExists (file : Path)
  | fileCreated (file : Path)
  | patchTargetMissing (file : Path)
  | patchTargetUnreadable (file : Path)
  | nothingToPatch (file : Path)
  | anchorMissing (anchor : String) (file : Path)
  | filePatched (file : Path)
  | modelPlanned (name : String) (fields : Nat)
  | repositoryPlanned (name base : String)
  | projectPlanned (name artifact mainClass database : String)
  | commandFailed (name : String)

namespace Notice

def level : Notice → Level
  | invalidField _ | unknownConstraint _ | unknownDependency _ | baseUnreachable .. => .warning
  | fileExists _ | patchTargetMissing _ | patchTargetUnreadable _ | anchorMissing .. => .warning
  | noFields | fileCreated _ | nothingToPatch _ | filePatched _ | projectPlanned .. => .info
  | noSourceRoot .. | baseOfEntryPoint _ | baseOfDomain _ | baseUnknown _ => .debug
  | modelPlanned .. | repositoryPlanned .. | commandFailed _ => .debug

def text : Notice → String
  | invalidField token =>
    "Invalid field ignored: " ++ Text.quoted token ++ " (expected format name:type)"
  | unknownConstraint field =>
    "Constraint given for unknown field " ++ Text.quoted field ++ ", ignored"
  | noFields => "No fields specified, only the id will be generated"
  | unknownDependency name => "Unknown dependency ignored: " ++ name
  | noSourceRoot root base => "No source root at " ++ root.text ++ ", using " ++ base
  | baseOfEntryPoint base => "Detected base package " ++ base ++ " from entry point"
  | baseOfDomain base => "Detected base package " ++ base ++ " from domain package"
  | baseUnknown base => "Could not detect base package, using " ++ base
  | baseUnreachable root fault =>
    "Error detecting base package under " ++ root.text ++ ": " ++ fault.message root
  | fileExists file => "File already exists: " ++ file.text
  | fileCreated file => "File created: " ++ file.text
  | patchTargetMissing file => "File to update not found: " ++ file.text
  | patchTargetUnreadable file => "File is not valid UTF-8, update skipped: " ++ file.text
  | nothingToPatch file => "Nothing to update in " ++ file.text
  | anchorMissing anchor file =>
    "Marker " ++ Text.quoted anchor ++ " not found in " ++ file.text
  | filePatched file => "File updated: " ++ file.text
  | modelPlanned name fields => "Model " ++ name ++ " with " ++ fields.repr ++ " field(s)"
  | repositoryPlanned name base => "Repository " ++ name ++ " extends " ++ base
  | projectPlanned name artifact mainClass database =>
    "Creating project " ++ name ++ " (artifact " ++ artifact ++ ", main class " ++ mainClass
      ++ ", database " ++ database ++ ")"
  | commandFailed name => "Command " ++ name ++ " failed"

end Notice

end Groundwork
