import Groundwork.Name
import Groundwork.Value.Misuse

/-!
# Names that are values

Options and template values may stand where a name is needed. A text is a name; every other value
is refused, and the refusal says at which step its shape first mattered.
-/

namespace Groundwork.Value

/-- Changing the first character of a value. `verb` is the change, as messages name it. A value
that does not hold is passed on unchanged. -/
def onFirst (change : String → String) (verb : String) (v : Value) : Except Misuse Value :=
  match v with
  | text s => .ok (text (change s))
  | list (text _ :: _) => .error (.appendToText .list)
  | list (item :: _) => .error (.noAttribute item.kind verb)
  | object (_ :: _) => .error .noKeyZero
  | v => if v.holds then .error (.notIndexed v.kind) else .ok v

def lowerFirst (v : Value) : Except Misuse Value :=
  v.onFirst Name.lowerFirst "lower"

def upperFirst (v : Value) : Except Misuse Value :=
  v.onFirst Name.upperFirst "upper"

def slug (v : Value) : Except Misuse Value :=
  match v with
  | text s => .ok (text (Name.slug s))
  | v => .error (.noAttribute v.kind "lower")

/-- A value with a text appended. -/
def append (v : Value) (suffix : String) : Except Misuse String :=
  match v with
  | text s => .ok (s ++ suffix)
  | list _ => .error .appendTextToList
  | v => .error (.noSum v.kind)

/-- The items that a value is made of: the characters of a text, the keys of an object. -/
def items (v : Value) : Except Misuse (List Value) :=
  match v with
  | text s => .ok (s.toList.map fun c => text (.singleton c))
  | list xs => .ok xs
  | object entries => .ok (entries.map fun e => text e.1)
  | v => .error (.notIterable v.kind)

end Groundwork.Value
