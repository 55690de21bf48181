import Groundwork.Text.CaseMap.Table

/-!
# Lower and upper case

Full Unicode case mapping: a character may become several, and a capital sigma at the end of a
word becomes the final small sigma. No language-specific rule is applied.
-/

namespace Groundwork.Text.CaseMap

/-- The characters that `c` becomes under a table of runs and a list of expansions. -/
def image (runs : List Run) (expansions : List (Nat × List Nat)) (c : Char) : List Char :=
  match runs.findSome? (·.image? c.toNat) with
  | some target => [Char.ofNat target]
  | none =>
    match expansions.lookup c.toNat with
    | some targets => targets.map Char.ofNat
    | none => [c]

def lowerChar (c : Char) : List Char :=
  image lowerRuns lowerExpansions c

def upperChar (c : Char) : List Char :=
  image upperRuns upperExpansions c

/-- Whether the nearest character that is not skipped has a case. -/
def meetsCased (cs : List Char) : Bool :=
  match cs.dropWhile skippedSpans.contains with
  | [] => false
  | c :: _ => casedSpans.contains c

/-- `before` holds the characters already passed, nearest first. -/
def lowerFrom (before : List Char) : List Char → List Char
  | [] => []
  | c :: rest =>
    (if c = 'Σ' then [if meetsCased before && !meetsCased rest then 'ς' else 'σ']
      else lowerChar c) ++ lowerFrom (c :: before) rest

def lowerChars (cs : List Char) : List Char :=
  lowerFrom [] cs

def upperChars (cs : List Char) : List Char :=
  cs.flatMap upperChar

end Groundwork.Text.CaseMap

namespace Groundwork.Text

def lower (s : String) : String :=
  .ofList (CaseMap.lowerChars s.toList)

def upper (s : String) : String :=
  .ofList (CaseMap.upperChars s.toList)

end Groundwork.Text
