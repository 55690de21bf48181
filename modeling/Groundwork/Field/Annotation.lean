import Groundwork.Field.Basic

/-!
# Annotations of a field

The column annotation and the validation annotations that a field asks for, in the order in which
they are written.
-/

namespace Groundwork.Field

/-- The annotation of the column, unless everything about it is as usual. -/
def columnAnnotation? (f : Field) : Option String :=
  let length :=
    match f.maxLength with
    | some n => if JavaType.isText f.type then ["length = " ++ n.repr] else []
    | none => []
  let attributes :=
    (if f.nullable then [] else ["nullable = false"])
      ++ (if f.unique then ["unique = true"] else []) ++ length
  if attributes.isEmpty then none else some ("@Column(" ++ ", ".intercalate attributes ++ ")")

/-- Puts a backslash before every character equal to `mark`. -/
def escapeMark (mark : Char) (cs : List Char) : List Char :=
  cs.flatMap fun c => if c = mark then ['\\', c] else [c]

/-- A text as the inside of a Java string literal: backslashes are doubled first, then quotes get
theirs. -/
def escapedPattern (pattern : String) : String :=
  .ofList (escapeMark '\x22' (escapeMark '\\' pattern.toList))

def textAnnotations (f : Field) : List String :=
  (if f.required then ["@NotBlank"] else [])
    ++ (f.maxLength.toList.map fun n => "@Size(max = " ++ n.repr ++ ")")
    ++ (f.pattern.toList.map fun p => "@Pattern(regexp = \"" ++ escapedPattern p ++ "\")")

def numericAnnotations (f : Field) : List String :=
  (f.minValue.toList.map fun low => "@Min(" ++ low ++ ")")
    ++ (f.maxValue.toList.map fun high => "@Max(" ++ high ++ ")")

def validationAnnotations (f : Field) : List String :=
  (if f.required then ["@NotNull"] else [])
    ++ (if JavaType.isText f.type then textAnnotations f else [])
    ++ (if JavaType.isNumeric f.type then numericAnnotations f else [])

end Groundwork.Field
