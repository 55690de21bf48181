/-!
# Dynamic values

Options of a blueprint and bindings of a template hold values of any shape that a data file can
give them. Objects keep the order of their entries.
-/

namespace Groundwork

inductive Value where
  | null
  | bool (b : Bool)
  | int (n : Int)
  | float (x : Float)
  | text (s : String)
  | list (items : List Value)
  | object (entries : List (String × Value))
  deriving Inhabited

namespace Value

inductive Kind where
  | null
  | bool
  | int
  | float
  | text
  | list
  | object
  deriving Repr, DecidableEq

def kind : Value → Kind
  | null => .null
  | bool _ => .bool
  | int _ => .int
  | float _ => .float
  | text _ => .text
  | list _ => .list
  | object _ => .object

/-- The name of a kind in messages. -/
def Kind.name : Kind → String
  | null => "NoneType"
  | bool => "bool"
  | int => "int"
  | float => "float"
  | text => "str"
  | list => "list"
  | object => "dict"

/-- Zero, the empty text, list and object, `null` and `false` do not hold. -/
def holds : Value → Bool
  | null => false
  | bool b => b
  | int n => n != 0
  | float x => x != 0
  | text s => s != ""
  | list items => !items.isEmpty
  | object entries => !entries.isEmpty

/-- The number that a value stands for in comparisons; truth values count as one and zero. -/
def integer? : Value → Option Int
  | bool b => some (if b then 1 else 0)
  | int n => some n
  | _ => none

end Value

/-- Named values in order. The first value of a name counts. -/
abbrev Bindings := List (String × Value)

def Bindings.find? (b : Bindings) (name : String) : Option Value :=
  b.lookup name

end Groundwork
