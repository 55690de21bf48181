import Groundwork.Text.CaseMap
import Groundwork.Text.Cut

/-!
# Derived names

Names that follow from the name of a class or a project. Every rule is total: the empty name has
derived names too. Plurals follow a deliberately small set of English endings.
-/

namespace Groundwork.Name

def isLowerLetter (c : Char) : Bool := 'a' ≤ c && c ≤ 'z'

def isUpperLetter (c : Char) : Bool := 'A' ≤ c && c ≤ 'Z'

def isDigit (c : Char) : Bool := '0' ≤ c && c ≤ '9'

/-- Changes the first character and keeps the rest. -/
def onFirst (change : Char → List Char) : List Char → List Char
  | [] => []
  | c :: rest => change c ++ rest

/-- The name of a variable that holds an object of a class. -/
def lowerFirst (name : String) : String :=
  .ofList (onFirst Text.CaseMap.lowerChar name.toList)

def upperFirst (name : String) : String :=
  .ofList (onFirst Text.CaseMap.upperChar name.toList)

/-- The path segment under which the objects of a class are served. -/
def collection (name : String) : String :=
  lowerFirst name ++ "s"

/-- Puts an underscore between a small and a capital letter that stand side by side. -/
def separateWords : List Char → List Char
  | [] => []
  | [c] => [c]
  | c :: d :: rest =>
    if isLowerLetter c && isUpperLetter d then c :: '_' :: d :: separateWords rest
    else c :: separateWords (d :: rest)

/-- The plural of a word in small letters, by its ending. -/
def plural (word : String) : String :=
  match Text.dropEnding? word "y" with
  | some stem => stem ++ "ies"
  | none =>
    if ["s", "sh", "ch", "x", "z"].any (Text.endsWith word) then word ++ "es" else word ++ "s"

/-- The table that holds the objects of a class. -/
def table (name : String) : String :=
  plural (.ofList (Text.CaseMap.lowerChars (separateWords name.toList)))

/-- The class that an artifact serves: its name without `suffix`, or with `Model` appended. -/
def served (name suffix : String) : String :=
  if suffix = "" then name ++ "Model"
  else (Text.dropEnding? name suffix).getD (name ++ "Model")

/-- The class that implements a service interface. -/
def implementation (service : String) : String :=
  service ++ "Impl"

def isWordChar (c : Char) : Bool :=
  isLowerLetter c || isUpperLetter c || isDigit c

def isSlugChar (c : Char) : Bool :=
  isLowerLetter c || isDigit c

/-- A word with a capital first letter and small other letters. -/
def titleWord (word : List Char) : List Char :=
  match word with
  | [] => []
  | c :: rest => c.toUpper :: rest.map Char.toLower

/-- The words of a text, each with a capital first letter, without what separates them. -/
def pascal (text : String) : String :=
  .ofList ((Text.runs isWordChar text.toList).flatMap titleWord)

/-- The words of a text in small letters, joined by hyphens. -/
def slug (text : String) : String :=
  .ofList (['-'].intercalate (Text.runs isSlugChar (Text.CaseMap.lowerChars text.toList)))

end Groundwork.Name
