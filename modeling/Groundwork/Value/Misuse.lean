import Groundwork.Text.Quoted
import Groundwork.Value.Basic

/-!
# Misused values

What goes wrong when a dynamic value does not have the shape that a rule needs, and how messages
put it.
-/

namespace Groundwork.Value

inductive Misuse where
  | noAttribute (kind : Kind) (name : String)
  | notIndexed (kind : Kind)
  | notIterable (kind : Kind)
  | notContainer (kind : Kind)
  | textNeeded (kind : String)
  | unhashable (kind : Kind)
  | noKeyZero
  | appendToText (kind : Kind)
  | appendTextToList
  | noSum (kind : Kind)
  | notNumeric (kind : Kind)
  | notInteger (s : String)
  | notFinite (word : String)
  | notDatabase (s : String)
  deriving Repr, DecidableEq

/-- The families of misuse that callers tell apart. -/
inductive Misuse.Family where
  | attribute
  | type
  | value
  | key
  | overflow
  deriving Repr, DecidableEq

def Misuse.family : Misuse → Misuse.Family
  | noAttribute .. => .attribute
  | noKeyZero => .key
  | notInteger _ => .value
  | notFinite word => if word = "infinity" then .overflow else .value
  | notDatabase _ => .value
  | _ => .type

def Misuse.message : Misuse → String
  | noAttribute kind name =>
    "'" ++ kind.name ++ "' object has no attribute " ++ Text.quoted name
  | notIndexed kind => "'" ++ kind.name ++ "' object is not subscriptable"
  | notIterable kind => "'" ++ kind.name ++ "' object is not iterable"
  | notContainer kind => "argument of type '" ++ kind.name ++ "' is not iterable"
  | textNeeded kind => "'in <string>' requires string as left operand, not " ++ kind
  | unhashable kind => "unhashable type: '" ++ kind.name ++ "'"
  | noKeyZero => "0"
  | appendToText kind => "can only concatenate str (not \"" ++ kind.name ++ "\") to str"
  | appendTextToList => "can only concatenate list (not \"str\") to list"
  | noSum kind => "unsupported operand type(s) for +: '" ++ kind.name ++ "' and 'str'"
  | notNumeric kind =>
    "int() argument must be a string, a bytes-like object or a real number, not '"
      ++ kind.name ++ "'"
  | notInteger s => "invalid literal for int() with base 10: " ++ Text.quoted s
  | notFinite word => "cannot convert float " ++ word ++ " to integer"
  | notDatabase s => Text.quoted s ++ " is not a valid DatabaseType"

end Groundwork.Value
