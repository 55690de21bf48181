import Groundwork.Decimal.Shortest
import Groundwork.Text.Quoted
import Groundwork.Value.Basic

/-!
# Values as text

A text prints as it stands; inside a list or an object it is quoted. Other values print the same
way in both places.
-/

namespace Groundwork.Value

mutual

/-- A value inside a list or an object. -/
def quoted : Value → String
  | null => "None"
  | bool b => if b then "True" else "False"
  | int n => n.repr
  | float x => Decimal.text x
  | text s => Text.quoted s
  | list items => "[" ++ ", ".intercalate (quotedItems items) ++ "]"
  | object entries => "\x7b" ++ ", ".intercalate (quotedEntries entries) ++ "\x7d"
termination_by structural v => v

def quotedItems : List Value → List String
  | [] => []
  | v :: rest => quoted v :: quotedItems rest
termination_by structural vs => vs

def quotedEntries : List (String × Value) → List String
  | [] => []
  | (key, v) :: rest => (Text.quoted key ++ ": " ++ quoted v) :: quotedEntries rest
termination_by structural es => es

end

def written : Value → String
  | text s => s
  | v => v.quoted

@[simp] theorem written_text (s : String) : (text s).written = s := rfl

end Groundwork.Value
