import Groundwork.Text.Blank
import Groundwork.Text.Cut
import Groundwork.Text.Width

/-!
# Lines on a console

A text is cut into lines at its line feeds. Characters that would move the cursor are left out, and
a tab reaches to the next multiple of eight columns. A line that is too wide is cut between words,
and a word that is too wide for any line is shortened.
-/

namespace Groundwork.Console

/-- Bell, backspace, vertical tab, form feed and carriage return. -/
def movesCursor (c : Char) : Bool :=
  [7, 8, 11, 12, 13].contains c.toNat

def withoutMoves (s : String) : String :=
  .ofList (s.toList.filter (!movesCursor ·))

def tabStop : Nat := 8

/-- Replaces tabs in a line that starts at the given column. -/
def expandTabs (column : Nat) : List Char → List Char
  | [] => []
  | c :: rest =>
    if c = '\t' then
      let fill := tabStop - column % tabStop
      List.replicate fill ' ' ++ expandTabs (column + fill) rest
    else c :: expandTabs (column + Text.columns c) rest

/-- The lines of a text, as wide as they are. -/
def rawLines (s : String) : List (List Char) :=
  (Text.pieceChars '\n' (withoutMoves s).toList).map (expandTabs 0)

/-- The lines of a text on a console that is wide enough. -/
def shownLines (s : String) : List String :=
  (rawLines s).map .ofList

def columnsOf (cs : List Char) : Nat :=
  Text.width (.ofList cs)

/-- The words of a line, each with the blanks after it, and the first with those before it. -/
def words : List Char → List (List Char)
  | [] => []
  | c :: rest =>
    match words rest with
    | [] => [[c]]
    | word :: others =>
      let (blanks, later) := word.span Text.isBlank
      if Text.isBlank c || blanks.isEmpty || later.isEmpty then (c :: word) :: others
      else (c :: blanks) :: later :: others

/-- A line without the blanks at its end. -/
def dropBlankEnd (line : List Char) : List Char :=
  (line.reverse.dropWhile Text.isBlank).reverse

/-- The lines that are full, the line being filled, and the column that it has reached. -/
structure Filling where
  full : List (List Char) := []
  line : List Char := []
  column : Nat := 0

namespace Filling

/-- Whether nothing has been put on any line. -/
def isStart (f : Filling) : Bool :=
  f.full.isEmpty && f.line.isEmpty

/-- Puts a word on a new line, unless it is the first of all. -/
def startWith (f : Filling) (word : List Char) : Filling where
  full := if f.isStart then [] else f.full ++ [f.line]
  line := word
  column := columnsOf word

def put (limit : Nat) (f : Filling) (word : List Char) : Filling :=
  if f.column + columnsOf (dropBlankEnd word) ≤ limit then
    { f with line := f.line ++ word, column := f.column + columnsOf word }
  else f.startWith word

def lines (f : Filling) : List (List Char) :=
  f.full ++ [f.line]

end Filling

/-- Leaves out as many blanks at the end of a line as it has characters beyond the limit. -/
def cropBlanks (limit : Nat) (line : List Char) : List Char :=
  let blanks := line.length - (dropBlankEnd line).length
  line.take (line.length - min blanks (line.length - limit))

/-- The part of a line that fits into a number of columns. -/
def fitting (limit : Nat) : List Char → List Char
  | [] => []
  | c :: rest =>
    if Text.columns c ≤ limit then c :: fitting (limit - Text.columns c) rest else []

/-- A line that is too wide ends in dots in the last column. -/
def shorten (limit : Nat) (line : List Char) : List Char :=
  if columnsOf line ≤ limit then line
  else
    let kept := fitting (limit - 1) line
    kept ++ List.replicate (limit - 1 - columnsOf kept) ' ' ++ ['…']

/-- The lines of a text, none of them wider than the limit. -/
def wrappedLines (limit : Nat) (s : String) : List String :=
  (rawLines s).flatMap fun line =>
    ((words line).foldl (Filling.put limit) {}).lines.map fun part =>
      .ofList (shorten limit (cropBlanks limit part))

/-- Line feed, the controls between records, next line, and the two separators of paragraphs. -/
def endsLine (c : Char) : Bool :=
  [0x0A, 0x1C, 0x1D, 0x1E, 0x85, 0x2028, 0x2029].contains c.toNat

/-- The columns of the widest line of a text before its tabs are replaced. More characters end a
line here than are shown as line ends. -/
def widest (s : String) : Nat :=
  ((Text.runs (!endsLine ·) (withoutMoves s).toList).map columnsOf).foldl max 0

end Groundwork.Console
