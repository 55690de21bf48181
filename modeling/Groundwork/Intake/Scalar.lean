import Groundwork.Decimal.Shortest
import Groundwork.Intake.Basic
import Groundwork.Path
import Groundwork.Text.Blank
import Groundwork.Text.Integer

/-!
# Taking in single values

Only texts are texts. Truth values and integers may also be given as numbers or written out.
-/

namespace Groundwork.Intake

def text : Value → Checked String
  | .text s => .ok s
  | _ => reject .notText

/-- A text without the blanks around it, of which something has to be left. -/
def nonBlank (v : Value) : Checked String :=
  match text v with
  | .ok s => if Text.trim s = "" then reject .blank else .ok (Text.trim s)
  | .error issues => .error issues

def yesWords : List String := ["1", "on", "t", "true", "y", "yes"]

def noWords : List String := ["0", "off", "f", "false", "n", "no"]

/-- A truth value in words, in small or capital letters. -/
def readBool? (s : String) : Option Bool :=
  let word := s.map Char.toLower
  if yesWords.contains word then some true
  else if noWords.contains word then some false
  else none

def boolOfInteger (n : Int) : Checked Bool :=
  if n = 0 then .ok false else if n = 1 then .ok true else reject .unreadableBool

def bool : Value → Checked Bool
  | .bool b => .ok b
  | .int n => boolOfInteger n
  | .float x =>
    match Decimal.integral? x with
    | some n => boolOfInteger n
    | none => reject .notBool
  | .text s =>
    match readBool? s with
    | some b => .ok b
    | none => reject .unreadableBool
  | _ => reject .notBool

def integer : Value → Checked Int
  | .bool b => .ok (if b then 1 else 0)
  | .int n => .ok n
  | .float x =>
    match Decimal.integral? x with
    | some n => .ok n
    | none => reject (if x.isFinite then .fractionalInteger else .infiniteInteger)
  | .text s =>
    match Text.readPlainInteger? s with
    | some n => .ok n
    | none => reject .unreadableInteger
  | _ => reject .notInteger

/-- An integer from one on. -/
def positive (v : Value) : Checked Int :=
  match integer v with
  | .ok n => if n < 1 then reject .tooSmall else .ok n
  | .error issues => .error issues

def path : Value → Checked Path
  | .text s => .ok (.ofText s)
  | _ => reject .notPath

end Groundwork.Intake
