import Groundwork.Sheet.Basic

/-!
# The sheet of a service
-/

namespace Groundwork

structure ServiceSheet where
  name : String
  package : String
  model : String
  modelPackage : Value
  repositoryPackage : Value
  ownInterface : Bool
  crud : Bool
  transactional : Bool
  validation : Bool

namespace ServiceSheet

def ofBlueprint (b : Blueprint) : Except Failure ServiceSheet := do
  let model := b.modelName "Service"
  let _ ← Value.needed (model.append "Repository")
  return {
    name := b.title
    package := b.package
    model := model.written
    modelPackage := b.option "model_package" (.text "")
    repositoryPackage := b.option "repository_package" (.text "")
    ownInterface := b.switched "generate_interface" true
    crud := b.switched "include_crud" false
    transactional := b.switched "include_transactional" false
    validation := b.switched "include_validation" false }

def repository (s : ServiceSheet) : String :=
  s.model ++ "Repository"

/-- The class that implements the service, where it has an interface of its own. -/
def implementation (s : ServiceSheet) : String :=
  Name.implementation s.name

def bindings (s : ServiceSheet) : Bindings :=
  [("package_name", .text s.package),
    ("service_name", .text s.name),
    ("model_name", .text s.model),
    ("model_package", s.modelPackage),
    ("repository_package", s.repositoryPackage),
    ("repository_name", .text s.repository),
    ("repository_instance_name", .text (Name.lowerFirst s.repository)),
    ("model_instance_name", .text (Name.lowerFirst s.model)),
    ("interface_name", .text s.name),
    ("implementation_name", .text s.implementation),
    ("generate_interface", .bool s.ownInterface),
    ("include_crud", .bool s.crud),
    ("include_transactional", .bool s.transactional),
    ("include_validation", .bool s.validation)]

end ServiceSheet

end Groundwork
