import Groundwork.Field.Basic
import Groundwork.Notice
import Groundwork.Text.Blank

/-!
# Field tokens

Fields are given as `name:type`, one to an argument or several joined by commas. A piece that does
not have this form is reported and left out, so that one slip does not lose the others; a blank
piece is left out in silence.
-/

namespace Groundwork.Field

/-- The two sides of the only colon, when neither is blank. -/
def ofToken? (token : String) : Option Field :=
  match Text.pieces ':' token with
  | [left, right] =>
    if Text.allBlank left || Text.allBlank right then none
    else some { name := Text.trim left, type := Text.trim right }
  | _ => none

/-- The field of a token, or what there is to tell about it. -/
def readToken (token : String) : Except Notice Field :=
  match ofToken? token with
  | some f => .ok f
  | none => .error (.invalidField token)

/-- The fields that were read, and what there is to tell about the rest. -/
structure Reading where
  fields : List Field
  notices : List Notice

/-- Sets the constraints whose lists name the field. -/
def constrained (required unique : List String) (f : Field) : Field :=
  { f with
    required := f.required || required.contains f.name
    unique := f.unique || unique.contains f.name }

/-- Reads one piece; a blank one is nothing at all. -/
def readPiece (required unique : List String) (piece : String) : Reading :=
  if Text.allBlank piece then ⟨[], []⟩
  else
    match readToken piece with
    | .ok f => ⟨[f.constrained required unique], []⟩
    | .error notice => ⟨[], [notice]⟩

/-- Texts by code point, each once. -/
def sortedSet (texts : List String) : List String :=
  texts.eraseDups.mergeSort fun s t => decide (s ≤ t)

/-- Reads all tokens in order. Constraints on fields that are not there are reported after the
pieces, by name. -/
def readTokens (tokens required unique : List String) : Reading :=
  let readings := (tokens.flatMap (Text.pieces ',')).map (readPiece required unique)
  let fields := readings.flatMap (·.fields)
  let unknown := (sortedSet (required ++ unique)).filter fun name => !fields.any (·.name == name)
  { fields := fields
    notices := readings.flatMap (·.notices) ++ unknown.map .unknownConstraint
      ++ (if fields.isEmpty then [.noFields] else []) }

/-- The names in a list of comma-separated texts, trimmed, without blanks. -/
def splitNames (texts : List String) : List String :=
  ((texts.flatMap (Text.pieces ',')).map Text.trim).filter (· != "")

end Groundwork.Field
