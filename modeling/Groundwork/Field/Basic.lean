/-!
# Fields of a model class

A field has a type as it is written. The generator knows some Java types: their families, and the
classes that have to be imported. A type that is not listed belongs to no family and needs no import.
-/

namespace Groundwork

/-- One attribute of a model class. The bounds are kept as written; they are checked by the code
that is generated. -/
structure Field where
  name : String
  type : String
  required : Bool := false
  maxLength : Option Int := none
  minValue : Option String := none
  maxValue : Option String := none
  pattern : Option String := none
  comment : Option String := none
  unique : Bool := false
  nullable : Bool := true
  deriving Repr, DecidableEq, Inhabited

namespace JavaType

/-- The qualified names of the types outside `java.lang`. -/
def imports : List (String × String) :=
  [("BigDecimal", "java.math.BigDecimal"),
    ("BigInteger", "java.math.BigInteger"),
    ("LocalDate", "java.time.LocalDate"),
    ("LocalDateTime", "java.time.LocalDateTime"),
    ("LocalTime", "java.time.LocalTime"),
    ("Instant", "java.time.Instant"),
    ("Date", "java.util.Date"),
    ("Timestamp", "java.sql.Timestamp"),
    ("List", "java.util.List"),
    ("Set", "java.util.Set"),
    ("Map", "java.util.Map")]

def import? (type : String) : Option String :=
  imports.lookup type

def isText (type : String) : Bool :=
  type == "String"

def isNumeric (type : String) : Bool :=
  ["Integer", "Long", "Double", "Float", "BigDecimal", "BigInteger",
    "int", "long", "double", "float"].contains type

def isDate (type : String) : Bool :=
  ["LocalDate", "LocalDateTime", "LocalTime", "Instant", "Date", "Timestamp"].contains type

def isBoolean (type : String) : Bool :=
  ["Boolean", "boolean"].contains type

def persistenceImport : String := "jakarta.persistence.*"

def validationImport : String := "jakarta.validation.constraints.*"

def lombokImports : List String :=
  ["lombok.AllArgsConstructor", "lombok.Data", "lombok.NoArgsConstructor"]

def objectsImport : String := "java.util.Objects"

end JavaType

end Groundwork
