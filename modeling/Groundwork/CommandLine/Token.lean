import Groundwork.CommandLine.Grammar
import Groundwork.Text.Integer

/-!
# Words of a command line

Each word is first told apart: the separator `--`, after which every word is plain; an option; a
word that looks like an option but is none; or a plain word. Long options may be cut short as long
as only one fits. A word with a dash in front is still plain if it is a negative number or has a
space in it, unless it is an option.
-/

namespace Groundwork.CommandLine

inductive Sense (σ : Type) where
  | separator
  | plain
  /-- Short options, written together after one dash. -/
  | bundle (letters : List Char)
  /-- A long option with the value after its equals sign. -/
  | long (title : String) (role : Role σ) (value : Option String)
  | unknown

structure Token (σ : Type) where
  word : String
  sense : Sense σ

namespace Token

variable {σ : Type}

def isOption (t : Token σ) : Bool :=
  match t.sense with
  | .separator | .plain => false
  | .bundle _ | .long .. | .unknown => true

def isPlain (t : Token σ) : Bool :=
  match t.sense with
  | .plain => true
  | _ => false

def isSeparator (t : Token σ) : Bool :=
  match t.sense with
  | .separator => true
  | _ => false

end Token

/-- Digits only. -/
def allDigits (cs : List Char) : Bool :=
  cs.all fun c => (Text.digitValue? c).isSome

/-- What follows the dash of a negative number: digits, or a point with digits behind it. One line
break may follow. -/
def isNumberText (cs : List Char) : Bool :=
  let cs := if cs.getLast? = some '\n' then cs.dropLast else cs
  match cs.span (· != '.') with
  | (whole, []) => whole != [] && allDigits whole
  | (whole, _ :: fraction) => allDigits whole && fraction != [] && allDigits fraction

/-- The sense of a word that has a dash in front and is no option. -/
def senseOfDashed {σ : Type} (afterDash : List Char) : Sense σ :=
  if isNumberText afterDash || afterDash.contains ' ' then .plain else .unknown

/-- A word cut at its first equals sign. -/
def cutValue (cs : List Char) : List Char × Option String :=
  match cs.span (· != '=') with
  | (name, _ :: value) => (name, some (.ofList value))
  | (name, []) => (name, none)

namespace Grammar

variable {σ : Type}

/-- The spellings that a long option cut short can stand for. -/
def candidates (g : Grammar σ) (start : List Char) : List (String × String × Role σ) :=
  g.spellings.filter fun (spelling, _) => start.isPrefixOf spelling.toList

def senseOfLong (g : Grammar σ) (word : String) : Except Fault (Sense σ) :=
  let (name, value) := cutValue word.toList
  match g.find? (.ofList name) with
  | some (title, role) => .ok (.long title role value)
  | none =>
    match g.candidates name with
    | [] => .ok (senseOfDashed (word.toList.drop 1))
    | [(_, title, role)] => .ok (.long title role value)
    | several => .error (.ambiguous word (several.map Prod.fst))

def sense (g : Grammar σ) (word : String) : Except Fault (Sense σ) :=
  match word.toList with
  | '-' :: '-' :: _ => g.senseOfLong word
  | '-' :: letter :: rest =>
    if (g.find? (.ofList ['-', letter])).isSome then .ok (.bundle (letter :: rest))
    else .ok (senseOfDashed (letter :: rest))
  | _ => .ok .plain

/-- Tells the words apart. -/
def tokens (g : Grammar σ) : List String → Except Fault (List (Token σ))
  | [] => .ok []
  | word :: rest =>
    if word = "--" then
      .ok (⟨word, .separator⟩ :: rest.map fun word => ⟨word, .plain⟩)
    else do
      let sense ← g.sense word
      return ⟨word, sense⟩ :: (← g.tokens rest)

end Grammar

end Groundwork.CommandLine
