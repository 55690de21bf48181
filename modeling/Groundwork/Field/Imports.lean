import Groundwork.Field.Annotation
import Groundwork.Field.Token
import Groundwork.Name
import Groundwork.Value.Basic

/-!
# What a model class needs from its fields

The imports of the class, by name and each once, and the fields as templates see them.
-/

namespace Groundwork.Field

/-- The imports of a class with the given fields and features. -/
def imports (fields : List Field) (persistence validation lombok : Bool) : List String :=
  sortedSet
    (fields.filterMap (fun f => JavaType.import? f.type)
      ++ (if persistence then [JavaType.persistenceImport] else [])
      ++ (if validation then [JavaType.validationImport] else [])
      ++ (if lombok then JavaType.lombokImports else [JavaType.objectsImport]))

/-- A field as templates see it. What a field does not have is left out. -/
def entry (f : Field) : Value :=
  let annotations := f.validationAnnotations
  .object
    ([("name", .text f.name),
        ("type", .text f.type),
        ("capitalized_name", .text (Name.upperFirst f.name)),
        ("required", .bool f.required)]
      ++ (f.columnAnnotation?.toList.map fun a => ("column_annotation", .text a))
      ++ (if annotations.isEmpty then []
          else [("validation_annotations", .list (annotations.map .text))])
      ++ ((f.comment.filter (· != "")).toList.map fun c => ("comment", .text c)))

end Groundwork.Field
