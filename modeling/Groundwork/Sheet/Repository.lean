import Groundwork.Sheet.Basic
import Groundwork.Stack

/-!
# The sheet of a repository
-/

namespace Groundwork

structure RepositorySheet where
  name : String
  package : String
  model : String
  modelPackage : Value
  kind : RepositoryKind
  idType : Value
  customQueries : Bool
  pagination : Bool

namespace RepositorySheet

def usualIdType : String := "Long"

def ofBlueprint (b : Blueprint) : Except Failure RepositorySheet := do
  let model := b.modelName "Repository"
  let _ ← Value.needed model.lowerFirst
  return {
    name := b.title
    package := b.package
    model := model.written
    modelPackage := b.option "model_package" (.text "")
    kind := .ofValue (b.option "repository_type" .null)
    idType := b.option "id_type" (.text usualIdType)
    customQueries := b.switched "include_custom_queries" true
    pagination := b.switched "include_pagination" true }

def bindings (s : RepositorySheet) : Bindings :=
  [("package_name", .text s.package),
    ("repository_name", .text s.name),
    ("model_name", .text s.model),
    ("model_package", s.modelPackage),
    ("model_instance_name", .text (Name.lowerFirst s.model)),
    ("repository_type", .text s.kind.name),
    ("base_type", .text s.kind.baseType),
    ("reactive", .bool s.kind.isReactive),
    ("id_type", s.idType),
    ("include_custom_queries", .bool s.customQueries),
    ("include_pagination", .bool s.pagination)]

end RepositorySheet

end Groundwork
