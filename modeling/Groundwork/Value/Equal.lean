import Groundwork.Decimal.Shortest
import Groundwork.Value.Basic

/-!
# Equality of values

Numbers are equal by value whatever their kind, and truth values count as one and zero. Lists are
equal item by item. Objects are equal when they have the same keys with equal values, in any order.
-/

namespace Groundwork.Value

/-- Whether a double is exactly an integer. -/
def floatIs (x : Float) (n : Int) : Bool :=
  Decimal.integral? x == some n

mutual

def equal : Value → Value → Bool
  | null, null => true
  | text s, text t => s == t
  | float x, float y => x == y
  | list xs, list ys => equalItems xs ys
  | object xs, object ys => xs.length == ys.length && equalEntries xs ys
  | float x, w =>
    match w.integer? with
    | some n => floatIs x n
    | none => false
  | v, float y =>
    match v.integer? with
    | some n => floatIs y n
    | none => false
  | v, w =>
    match v.integer?, w.integer? with
    | some m, some n => m == n
    | _, _ => false
termination_by structural v => v

def equalItems : List Value → List Value → Bool
  | [], [] => true
  | x :: xs, y :: ys => equal x y && equalItems xs ys
  | _, _ => false
termination_by structural vs => vs

/-- Whether each entry of the first list has an equal one in the second. -/
def equalEntries : List (String × Value) → List (String × Value) → Bool
  | [], _ => true
  | (key, v) :: rest, ys =>
    (match ys.lookup key with
      | some w => equal v w
      | none => false) && equalEntries rest ys
termination_by structural es => es

end

end Groundwork.Value
