import Groundwork.Sheet.Basic

/-!
# The sheet of a controller
-/

namespace Groundwork

structure ControllerSheet where
  name : String
  package : String
  model : String
  modelPackage : Value
  servicePackage : Value
  basePath : String
  crud : Bool
  swagger : Bool
  validation : Bool

namespace ControllerSheet

/-- A base path in normal form: one slash in front and none behind, or nothing at all. -/
def normalPath (path : String) : String :=
  let inside := Text.trimBy (· = '/') (Text.trim path)
  if inside = "" then "" else "/" ++ inside

/-- The base path that an option stands for. -/
def basePathOf (v : Value) : Except Value.Misuse String :=
  match v with
  | .text s => .ok (normalPath s)
  | v => .error (.noAttribute v.kind "strip")

def usualBasePath : String := "/api/v1"

def ofBlueprint (b : Blueprint) : Except Failure ControllerSheet := do
  let model := b.modelName "Controller"
  let _ ← Value.needed (model.append "Service")
  let basePath ← Value.needed (basePathOf (b.option "base_path" (.text usualBasePath)))
  return {
    name := b.title
    package := b.package
    model := model.written
    modelPackage := b.option "model_package" (.text "")
    servicePackage := b.option "service_package" (.text "")
    basePath := basePath
    crud := b.switched "include_crud" false
    swagger := b.switched "include_swagger" false
    validation := b.switched "include_validation" true }

def service (s : ControllerSheet) : String :=
  s.model ++ "Service"

def bindings (s : ControllerSheet) : Bindings :=
  [("package_name", .text s.package),
    ("controller_name", .text s.name),
    ("model_name", .text s.model),
    ("model_package", s.modelPackage),
    ("service_package", s.servicePackage),
    ("service_name", .text s.service),
    ("service_instance_name", .text (Name.lowerFirst s.service)),
    ("model_instance_name", .text (Name.lowerFirst s.model)),
    ("resource_path", .text (Name.collection s.model)),
    ("base_path", .text s.basePath),
    ("include_crud", .bool s.crud),
    ("include_swagger", .bool s.swagger),
    ("include_validation", .bool s.validation)]

end ControllerSheet

end Groundwork
