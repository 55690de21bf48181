/-!
# Sets of characters as spans of code points

A Unicode property is stored as the inclusive spans it covers.
-/

namespace Groundwork.Text

/-- Inclusive spans of code points. -/
abbrev Spans := List (Nat × Nat)

def Spans.contains (spans : Spans) (c : Char) : Bool :=
  spans.any fun (first, last) => first ≤ c.toNat && c.toNat ≤ last

end Groundwork.Text
