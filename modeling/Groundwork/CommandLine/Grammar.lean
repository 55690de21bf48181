import Groundwork.Text.Cut
import Groundwork.Text.Quoted

/-!
# Grammars of command lines

A grammar lists the options and operands of a program, and says what each does to the record that
reading builds up. Options come first in what they do; operands take their words from the left.
-/

namespace Groundwork.CommandLine

/-- Why a word is no value of an argument. -/
inductive ValueFault where
  | notInteger (word : String)
  | notOffered (word : String) (offered : List String)
  deriving Repr, DecidableEq

def ValueFault.message : ValueFault → String
  | notInteger word => "invalid int value: " ++ Text.quoted word
  | notOffered word offered =>
    "invalid choice: " ++ Text.quoted word
      ++ " (choose from " ++ ", ".intercalate (offered.map Text.quoted) ++ ")"

/-- What a command line can ask for in place of a run. -/
inductive Stop where
  | help
  | version
  deriving Repr, DecidableEq

/-- An effect that needs no value. -/
inductive Effect (σ : Type) where
  | stop (s : Stop)
  | set (change : σ → σ)

/-- What reads the value of an argument. -/
abbrev Reader (σ : Type) := String → Except ValueFault (σ → σ)

/-- What a spelling of an option does. -/
inductive Role (σ : Type) where
  | flag (effect : Effect σ)
  | value (read : Reader σ)

/-- An option with all its spellings. -/
structure Switch (σ : Type) where
  spellings : List (String × Role σ)

namespace Switch

variable {σ : Type}

/-- The name of an option in messages. -/
def title (s : Switch σ) : String :=
  "/".intercalate (s.spellings.map Prod.fst)

def takesValue (s : Switch σ) : Bool :=
  s.spellings.any fun (_, role) =>
    match role with
    | .value _ => true
    | .flag _ => false

def alike (spellings : List String) (role : Role σ) : Switch σ :=
  ⟨spellings.map fun spelling => (spelling, role)⟩

def help : Switch σ :=
  alike ["-h", "--help"] (.flag (.stop .help))

def version : Switch σ :=
  alike ["--version"] (.flag (.stop .version))

def flag (spellings : List String) (change : σ → σ) : Switch σ :=
  alike spellings (.flag (.set change))

/-- An option with a second spelling that says no. -/
def toggle (name : String) (change : Bool → σ → σ) : Switch σ :=
  ⟨[("--" ++ name, .flag (.set (change true))), ("--no-" ++ name, .flag (.set (change false)))]⟩

/-- An option with a value that can be any word. -/
def text (spellings : List String) (change : String → σ → σ) : Switch σ :=
  alike spellings (.value fun word => .ok (change word))

def read (spellings : List String) (read : Reader σ) : Switch σ :=
  alike spellings (.value read)

end Switch

inductive Operand (σ : Type) where
  /-- Takes one word. -/
  | one (title : String) (change : String → σ → σ)
  /-- Takes all words up to the next option, which may be none. -/
  | many (title : String) (change : List String → σ → σ)
  /-- Takes one word and everything after it, options too. -/
  | command (title : String) (read : String → List String → Except ValueFault (σ → σ))

def Operand.title {σ : Type} : Operand σ → String
  | one title _ | many title _ | command title _ => title

structure Grammar (σ : Type) where
  program : String
  options : List (Switch σ)
  operands : List (Operand σ)
  /-- The record before anything is read. -/
  start : σ

namespace Grammar

variable {σ : Type}

/-- All spellings in order, each with the name of its option and its role. -/
def spellings (g : Grammar σ) : List (String × String × Role σ) :=
  g.options.flatMap fun s => s.spellings.map fun (spelling, role) => (spelling, s.title, role)

def find? (g : Grammar σ) (spelling : String) : Option (String × Role σ) :=
  g.spellings.lookup spelling

/-- One line on what can be written. -/
def usage (g : Grammar σ) : String :=
  let options := g.options.map fun s =>
    if s.takesValue then "[" ++ s.title ++ " VALUE]" else "[" ++ s.title ++ "]"
  "usage: " ++ " ".intercalate (g.program :: options ++ g.operands.map Operand.title)

end Grammar

inductive Fault where
  | ambiguous (word : String) (candidates : List String)
  | noValue (title : String)
  | unwantedValue (title value : String)
  | badValue (title : String) (fault : ValueFault)
  | missing (titles : List String)
  | unrecognized (words : List String)
  deriving Repr, DecidableEq

def Fault.message : Fault → String
  | ambiguous word candidates =>
    "ambiguous option: " ++ word ++ " could match " ++ ", ".intercalate candidates
  | noValue title => "argument " ++ title ++ ": expected one argument"
  | unwantedValue title value =>
    "argument " ++ title ++ ": ignored explicit argument " ++ Text.quoted value
  | badValue title fault => "argument " ++ title ++ ": " ++ fault.message
  | missing titles => "the following arguments are required: " ++ ", ".intercalate titles
  | unrecognized words => "unrecognized arguments: " ++ " ".intercalate words

/-- How reading can end without a record. -/
inductive Ending where
  | stop (usage : String) (s : Stop)
  | misuse (program : String) (fault : Fault)
  deriving Repr, DecidableEq

end Groundwork.CommandLine
