import Groundwork.Text.Quoted
import Groundwork.Value.Misuse

/-!
# What can be wrong with a template

Faults of the template text, found before anything is rendered, and faults of rendering, which
depend on the values. Each is kept as its cause; the wording is a function of the cause.
-/

namespace Groundwork.Template

/-- A block that is open, by its tag and the tags that would continue or close it. -/
structure Block where
  tag : String
  awaited : List String
  deriving Repr, DecidableEq

inductive SyntaxFault where
  | unclosedComment
  | unexpectedChar (c : Char) (position : Nat)
  | unmatched (closer : Char) (awaited : Option Char)
  | brokenEscape (form : String)
  | noExpression (found : String)
  | unexpected (found : String)
  | awaited (what : String) (found : Option String)
  | noMemberName
  | noTagName
  | unassignable
  | unknownTag (tag : String) (blocks : List Block)
  | unclosedBlock (blocks : List Block)
  deriving Repr, DecidableEq

/-- The tags that the innermost open block waits for. -/
def awaitedTags (blocks : List Block) : Option String :=
  blocks.head?.map fun block => " or ".intercalate (block.awaited.map Text.quoted)

def innermostBlock (blocks : List Block) : List String :=
  blocks.head?.toList.map fun block =>
    "The innermost block that needs to be closed is " ++ Text.quoted block.tag ++ "."

namespace SyntaxFault

def message : SyntaxFault → String
  | unclosedComment => "Missing end of comment tag"
  | unexpectedChar c position =>
    "unexpected char " ++ Text.quoted (.singleton c) ++ " at " ++ position.repr
  | unmatched closer none => "unexpected '" ++ .singleton closer ++ "'"
  | unmatched closer (some due) =>
    "unexpected '" ++ .singleton closer ++ "', expected '" ++ .singleton due ++ "'"
  | brokenEscape form => form
  | noExpression found => "Expected an expression, got " ++ Text.quoted found
  | unexpected found => "unexpected " ++ Text.quoted found
  | awaited what none =>
    "unexpected end of template, expected " ++ Text.quoted what ++ "."
  | awaited what (some found) =>
    "expected token " ++ Text.quoted what ++ ", got " ++ Text.quoted found
  | noMemberName => "expected name or number"
  | noTagName => "tag name expected"
  | unassignable => "can't assign to 'const'"
  | unknownTag tag blocks =>
    let hint :=
      match awaitedTags blocks with
      | none => []
      | some tags =>
        if blocks.any (·.awaited.contains tag) then
          ["You probably made a nesting mistake. Jinja is expecting this tag, but currently "
            ++ "looking for " ++ tags ++ "."]
        else ["Jinja was looking for the following tags: " ++ tags ++ "."]
    " ".intercalate
      (("Encountered unknown tag " ++ Text.quoted tag ++ ".") :: hint ++ innermostBlock blocks)
  | unclosedBlock blocks =>
    let hint :=
      (awaitedTags blocks).toList.map fun tags =>
        "Jinja was looking for the following tags: " ++ tags ++ "."
    " ".intercalate ("Unexpected end of template." :: hint ++ innermostBlock blocks)

end SyntaxFault

/-- Why a value is not there: no such name, or no such member of a value that is. -/
inductive Absence where
  | name (name : String)
  | member (kind : Value.Kind) (field : String)
  deriving Repr, DecidableEq

def Absence.message : Absence → String
  | name absent => Text.quoted absent ++ " is undefined"
  | member kind field =>
    let owner := if kind = .null then "None" else kind.name ++ " object"
    Text.quoted owner ++ " has no attribute " ++ Text.quoted field

inductive Fault where
  | notFound (directory : String)
  | badSyntax (fault : SyntaxFault)
  | noFilter (name : String)
  | noFilterNow (name : String)
  | absent (absence : Absence)
  | misuse (misuse : Value.Misuse)
  deriving Repr, DecidableEq

def Fault.message : Fault → String
  | notFound directory => "template not found in " ++ directory
  | badSyntax fault => fault.message
  | noFilter name => "No filter named " ++ Text.quoted name ++ "."
  | noFilterNow name => "No filter named " ++ Text.quoted name ++ " found."
  | absent absence => absence.message
  | misuse m => m.message

end Groundwork.Template
