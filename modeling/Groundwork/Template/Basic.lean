import Groundwork.Value.Basic

/-!
# Templates

A template is text with places for values, choices and repetitions. Every construct carries what
follows it, so a template reads from the first line to the last as a chain that ends in `done`.
-/

namespace Groundwork

namespace Template

inductive Filter where
  | lower
  | lowerFirst
  | upperFirst
  | slug
  | unknown (name : String)
  deriving Repr, DecidableEq

/-- Expressions. `both` and `either` give the operand that decides, as it is. -/
inductive Expr where
  | literal (value : Value)
  | name (name : String)
  | member (object : Expr) (field : String)
  | equal (left right : Expr)
  | differ (left right : Expr)
  | within (item container : Expr)
  | both (left right : Expr)
  | either (left right : Expr)
  | negate (operand : Expr)
  | filter (filter : Filter) (operand : Expr)
  | joined (operand separator : Expr)
  deriving Inhabited

end Template

open Template in
inductive Template where
  | done
  | text (s : String) (next : Template)
  | value (e : Expr) (next : Template)
  | branch (test : Expr) (yes no next : Template)
  | loop (name : String) (source : Expr) (body otherwise next : Template)
  deriving Inhabited

namespace Template

/-- The place for a named value. -/
abbrev put (name : String) (next : Template) : Template :=
  .value (.name name) next

/-- The place for a member of a named value. -/
abbrev putMember (name field : String) (next : Template) : Template :=
  .value (.member (.name name) field) next

end Template

end Groundwork
