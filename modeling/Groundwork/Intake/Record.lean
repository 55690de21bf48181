import Groundwork.Blueprint
import Groundwork.Intake.Scalar
import Groundwork.Settings

/-!
# Taking in fields, blueprints and settings

The keys of the records, with the values that stand in for keys that are not given, and the records
as objects that they can be taken in from again. There every key is written, also where the value is
the usual one.
-/

namespace Groundwork

open Intake

def Field.ofEntries (entries : Bindings) : Checked Field :=
  supply (supply (supply (supply (supply (supply (supply (supply (supply (supply (.ok Field.mk)
    (given nonBlank "name" entries))
    (given nonBlank "type" entries))
    (defaulted bool false "required" entries))
    (defaulted (maybe positive) none "max_length" entries))
    (defaulted (maybe Intake.text) none "min_value" entries))
    (defaulted (maybe Intake.text) none "max_value" entries))
    (defaulted (maybe Intake.text) none "pattern" entries))
    (defaulted (maybe Intake.text) none "comment" entries))
    (defaulted bool false "unique" entries))
    (defaulted bool true "nullable" entries)

def Field.ofValue : Value → Checked Field
  | .object entries => ofEntries entries
  | _ => reject .notField

def Artifact.ofValue : Value → Checked Artifact
  | .text s =>
    match ofName? s with
    | some a => .ok a
    | none => reject .notArtifact
  | _ => reject .notArtifact

def Field.listOfValue : Value → Checked (List Field)
  | .list vs => items Field.ofValue vs
  | _ => reject .notList

def optionsOfValue : Value → Checked Bindings
  | .object entries => .ok entries
  | _ => reject .notObject

def Blueprint.ofEntries (entries : Bindings) : Checked Blueprint :=
  supply (supply (supply (supply (supply
    (.ok fun name package kind fields options => Blueprint.mk kind name package fields options)
    (given Intake.text "primary_name" entries))
    (defaulted Intake.text "" "namespace" entries))
    (given Artifact.ofValue "kind" entries))
    (defaulted Field.listOfValue [] "fields" entries))
    (defaulted optionsOfValue [] "options" entries)

/-- An extension starts with a point and goes on. -/
def extensionOfValue (v : Value) : Checked String :=
  match Intake.text v with
  | .ok s => if s.toList.head? = some '.' && 2 ≤ s.length then .ok s else reject .badExtension
  | .error issues => .error issues

def namesOfValue : Value → Checked (List String)
  | .list vs => items Intake.text vs
  | _ => reject .notTuple

def Settings.ofEntries (entries : Bindings) : Checked Settings :=
  supply (supply (supply (supply (supply (supply (supply (.ok Settings.mk)
    (defaulted nonBlank ({} : Settings).sourceRoot "source_root" entries))
    (defaulted nonBlank ({} : Settings).testSourceRoot "test_source_root" entries))
    (defaulted extensionOfValue ({} : Settings).sourceExtension "source_extension" entries))
    (defaulted nonBlank ({} : Settings).fallbackPackage "fallback_namespace" entries))
    (defaulted Intake.text ({} : Settings).entryPointSuffix "entry_point_suffix" entries))
    (defaulted namesOfValue ({} : Settings).modelDirectories "model_directory_names" entries))
    (defaulted (maybe path) none "template_dir" entries)

/-- Which setting an environment variable gives. -/
def Settings.variables : List (String × String) :=
  [("SCAFFOLD_SOURCE_ROOT", "source_root"),
    ("SCAFFOLD_TEST_SOURCE_ROOT", "test_source_root"),
    ("SCAFFOLD_FALLBACK_NAMESPACE", "fallback_namespace"),
    ("SCAFFOLD_TEMPLATE_DIR", "template_dir")]

/-- The settings that an environment gives. An empty variable counts as not set. -/
def Settings.environmentEntries (environment : List (String × String)) : Bindings :=
  variables.filterMap fun (name, key) =>
    match environment.lookup name with
    | some value => if value = "" then none else some (key, .text value)
    | none => none

def Settings.ofEnvironment (environment : List (String × String)) : Checked Settings :=
  ofEntries (environmentEntries environment)

/-- A text, or `null` where there is none. -/
def Value.ofText? : Option String → Value
  | some s => .text s
  | none => .null

/-- An integer, or `null` where there is none. -/
def Value.ofInt? : Option Int → Value
  | some n => .int n
  | none => .null

def Field.entries (f : Field) : Bindings :=
  [("name", .text f.name),
    ("type", .text f.type),
    ("required", .bool f.required),
    ("max_length", .ofInt? f.maxLength),
    ("min_value", .ofText? f.minValue),
    ("max_value", .ofText? f.maxValue),
    ("pattern", .ofText? f.pattern),
    ("comment", .ofText? f.comment),
    ("unique", .bool f.unique),
    ("nullable", .bool f.nullable)]

def Blueprint.entries (b : Blueprint) : Bindings :=
  [("primary_name", .text b.name),
    ("namespace", .text b.package),
    ("kind", .text b.kind.name),
    ("fields", .list (b.fields.map fun f => .object f.entries)),
    ("options", .object b.options)]

def Settings.entries (s : Settings) : Bindings :=
  [("source_root", .text s.sourceRoot),
    ("test_source_root", .text s.testSourceRoot),
    ("source_extension", .text s.sourceExtension),
    ("fallback_namespace", .text s.fallbackPackage),
    ("entry_point_suffix", .text s.entryPointSuffix),
    ("model_directory_names", .list (s.modelDirectories.map .text)),
    ("template_dir", .ofText? (s.templateDirectory.map Path.text))]

end Groundwork
