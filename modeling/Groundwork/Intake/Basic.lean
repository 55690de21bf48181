import Groundwork.Value.Basic

/-!
# Taking in data

Records are taken in from objects of dynamic values. All issues of a record are collected, in the
order of its fields, each with the place where it was found. Keys that a record does not know are
passed over.
-/

namespace Groundwork.Intake

/-- A step from a value to a part of it. -/
inductive Step where
  | key (name : String)
  | index (n : Nat)
  deriving Repr, DecidableEq

inductive Cause where
  | missing
  | notText
  | blank
  | badExtension
  | notBool
  | unreadableBool
  | notInteger
  | unreadableInteger
  | fractionalInteger
  | infiniteInteger
  | tooSmall
  | notArtifact
  | notList
  | notObject
  | notTuple
  | notField
  | notPath
  deriving Repr, DecidableEq

namespace Cause

/-- The name of the kind of issue. -/
def code : Cause → String
  | missing => "missing"
  | notText => "string_type"
  | blank | badExtension => "value_error"
  | notBool => "bool_type"
  | unreadableBool => "bool_parsing"
  | notInteger => "int_type"
  | unreadableInteger => "int_parsing"
  | fractionalInteger => "int_from_float"
  | infiniteInteger => "finite_number"
  | tooSmall => "greater_than_equal"
  | notArtifact => "enum"
  | notList => "list_type"
  | notObject => "dict_type"
  | notTuple => "tuple_type"
  | notField => "model_type"
  | notPath => "path_type"

def message : Cause → String
  | missing => "Field required"
  | notText => "Input should be a valid string"
  | blank => "Value error, must not be blank"
  | badExtension => "Value error, source_extension must look like '.java'"
  | notBool => "Input should be a valid boolean"
  | unreadableBool => "Input should be a valid boolean, unable to interpret input"
  | notInteger => "Input should be a valid integer"
  | unreadableInteger =>
    "Input should be a valid integer, unable to parse string as an integer"
  | fractionalInteger =>
    "Input should be a valid integer, got a number with a fractional part"
  | infiniteInteger => "Input should be a finite number"
  | tooSmall => "Input should be greater than or equal to 1"
  | notArtifact =>
    "Input should be 'model', 'controller', 'service', 'repository', 'security' or 'project'"
  | notList => "Input should be a valid list"
  | notObject => "Input should be a valid dictionary"
  | notTuple => "Input should be a valid tuple"
  | notField => "Input should be a valid dictionary or instance of FieldDescriptor"
  | notPath => "Input is not a valid path for <class 'pathlib.Path'>"

end Cause

structure Issue where
  place : List Step
  cause : Cause
  deriving Repr, DecidableEq

/-- A value taken in, or the issues that keep it out. -/
abbrev Checked (α : Type) := Except (List Issue) α

def reject {α : Type} (cause : Cause) : Checked α :=
  .error [⟨[], cause⟩]

/-- Places the issues of a part. -/
def within {α : Type} (step : Step) (part : Checked α) : Checked α :=
  part.mapError fun issues => issues.map fun i => { i with place := step :: i.place }

/-- Hands one more part to a record under construction; issues of both sides are kept in order. -/
def supply {α β : Type} (record : Checked (α → β)) (part : Checked α) : Checked β :=
  match record, part with
  | .ok f, .ok a => .ok (f a)
  | .ok _, .error issues => .error issues
  | .error issues, .ok _ => .error issues
  | .error issues, .error more => .error (issues ++ more)

/-- A part that has to be given. -/
def given {α : Type} (read : Value → Checked α) (key : String) (entries : Bindings) :
    Checked α :=
  within (.key key)
    (match entries.find? key with
      | some v => read v
      | none => reject .missing)

/-- A part with a value for when it is not given. -/
def defaulted {α : Type} (read : Value → Checked α) (default : α) (key : String)
    (entries : Bindings) : Checked α :=
  within (.key key)
    (match entries.find? key with
      | some v => read v
      | none => .ok default)

/-- `null` stands for no value. -/
def maybe {α : Type} (read : Value → Checked α) : Value → Checked (Option α)
  | .null => .ok none
  | v => (read v).map some

/-- The items of a list from position `n` on; issues of all items are collected. -/
def itemsFrom {α : Type} (read : Value → Checked α) (n : Nat) : List Value → Checked (List α)
  | [] => .ok []
  | v :: rest =>
    supply (supply (.ok List.cons) (within (.index n) (read v))) (itemsFrom read (n + 1) rest)

def items {α : Type} (read : Value → Checked α) (vs : List Value) : Checked (List α) :=
  itemsFrom read 0 vs

end Groundwork.Intake
