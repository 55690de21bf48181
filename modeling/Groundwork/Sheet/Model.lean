import Groundwork.Field.Imports
import Groundwork.Sheet.Basic

/-!
# The sheet of a model
-/

namespace Groundwork

structure ModelSheet where
  className : String
  package : String
  tableName : Value
  persistence : Bool
  lombok : Bool
  validation : Bool
  fields : List Field

namespace ModelSheet

def ofBlueprint (b : Blueprint) : ModelSheet where
  className := b.title
  package := b.package
  tableName :=
    let table := b.option "table_name" .null
    if table.holds then table else .text (Name.table b.title)
  persistence := b.switched "include_jpa" true
  lombok := b.switched "use_lombok" true
  validation := b.switched "include_validation" false
  fields := b.fields

def bindings (s : ModelSheet) : Bindings :=
  [("class_name", .text s.className),
    ("package_name", .text s.package),
    ("table_name", s.tableName),
    ("include_jpa", .bool s.persistence),
    ("use_lombok", .bool s.lombok),
    ("include_validation", .bool s.validation),
    ("fields", .list (s.fields.map Field.entry)),
    ("imports", .list ((Field.imports s.fields s.persistence s.validation s.lombok).map .text))]

end ModelSheet

end Groundwork
