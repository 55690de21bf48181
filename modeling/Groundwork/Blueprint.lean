import Groundwork.Field.Basic
import Groundwork.Text.Blank
import Groundwork.Value.Basic

/-!
# Blueprints

A blueprint says what to generate: the kind of artifact, its name and package, the fields of a
model, and options whose meaning depends on the kind.
-/

namespace Groundwork

inductive Artifact where
  | model
  | controller
  | service
  | repository
  | security
  | project
  deriving Repr, DecidableEq

namespace Artifact

def all : List Artifact := [model, controller, service, repository, security, project]

def name : Artifact → String
  | model => "model"
  | controller => "controller"
  | service => "service"
  | repository => "repository"
  | security => "security"
  | project => "project"

def ofName? (s : String) : Option Artifact :=
  all.find? (·.name == s)

end Artifact

structure Blueprint where
  kind : Artifact
  name : String
  package : String := ""
  fields : List Field := []
  options : Bindings := []

namespace Blueprint

/-- The value of an option, unless it is unset: not given, `null`, or a blank text. -/
def option? (b : Blueprint) (key : String) : Option Value :=
  match b.options.find? key with
  | none | some .null => none
  | some (.text s) => if Text.allBlank s then none else some (.text s)
  | some v => some v

def option (b : Blueprint) (key : String) (default : Value) : Value :=
  (b.option? key).getD default

/-- Whether an option is switched on. -/
def switched (b : Blueprint) (key : String) (default : Bool) : Bool :=
  (b.option key (.bool default)).holds

/-- The name as it is used, without the blanks around it. -/
def title (b : Blueprint) : String :=
  Text.trim b.name

end Blueprint

end Groundwork
