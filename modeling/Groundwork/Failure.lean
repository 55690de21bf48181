import Groundwork.Blueprint
import Groundwork.Console.Markup
import Groundwork.Template.Fault
import Groundwork.Text.Utf8
import Groundwork.Tree.Access

/-!
# Failures

How a run can end without a result. The first three are failures that a command reports; the
others show that the surroundings, the values of a blueprint or a text to be shown were not what a
rule expects, and are not reported by commands.
-/

namespace Groundwork

inductive InputFault where
  | blankName (kind : Artifact)
  | noWordInName (name : String)
  | notSingle (kind : Artifact)
  | notSecurity (kind : Artifact)
  | notProject (kind : Artifact)
  deriving Repr, DecidableEq

def InputFault.message : InputFault → String
  | blankName kind => "A name is required to generate a " ++ kind.name
  | noWordInName name =>
    "Project name " ++ Text.quoted name ++ " must contain at least one letter or digit"
  | notSingle kind => "Cannot generate a " ++ kind.name ++ " as a single artifact"
  | notSecurity kind => "Expected a security bundle, got " ++ kind.name
  | notProject kind => "Expected a project skeleton, got " ++ kind.name

/-- What was being done to a path when it was refused. -/
inductive Deed where
  | createDirectory
  | writeFile
  deriving Repr, DecidableEq

def Deed.name : Deed → String
  | createDirectory => "create directory"
  | writeFile => "write file"

inductive Failure where
  | input (fault : InputFault)
  | template (name : String) (fault : Template.Fault)
  | files (deed : Deed) (path : Path) (fault : FileFault)
  | unreachable (path : Path) (fault : FileFault)
  | undecodable (fault : Text.Utf8.Fault)
  | misuse (m : Value.Misuse)
  | markup (fault : Console.MarkupFault)

namespace Failure

def message : Failure → String
  | input fault => fault.message
  | template name fault => "Failed to render template " ++ name ++ ": " ++ fault.message
  | files deed path fault => "Cannot " ++ deed.name ++ " (" ++ fault.text ++ "): " ++ path.text
  | unreachable path fault => fault.message path
  | undecodable fault => fault.message
  | misuse m => m.message
  | markup fault => fault.message

/-- Whether a command reports the failure and ends with exit code 1. -/
def isReported : Failure → Bool
  | input _ | template .. | files .. => true
  | unreachable .. | undecodable _ | misuse _ | markup _ => false

/-- A fault of one template. A key that is looked up in vain is not a fault of the template. -/
def ofTemplate (name : String) : Template.Fault → Failure
  | .misuse .noKeyZero => .misuse .noKeyZero
  | fault => .template name fault

/-- A fault of a path during a deed; an impossible character is not a fault of the file system. -/
def ofDeed (deed : Deed) (path : Path) : FileFault → Failure
  | .nullCharacter => .unreachable path .nullCharacter
  | fault => .files deed path fault

end Failure

end Groundwork
