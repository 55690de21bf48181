import Groundwork.Console.Line
import Groundwork.Console.Markup

/-!
# Tables on a console

A table has two columns, as wide as their widest cells. The texts of its cells are marked up, so a
cell can be at fault; of several faults the topmost counts.
-/

namespace Groundwork.Report

open Console

/-- A line with blanks after it, as wide as asked. -/
def padded (width : Nat) (line : String) : String :=
  line ++ .ofList (List.replicate (width - Text.width line) ' ')

/-- A line in the middle of a width; of an odd number of blanks the last is on the right. -/
def centred (width : Nat) (line : String) : String :=
  padded width (.ofList (List.replicate ((width - Text.width line) / 2) ' ') ++ line)

/-- The same lines, and empty ones up to a height. -/
def filled (height : Nat) (lines : List String) : List String :=
  lines ++ List.replicate (height - lines.length) ""

/-- A row: what it is about, and a text for it. -/
abbrev Row := String × String

structure Table where
  title : String
  rows : List Row

namespace Table

/-- The widths of the two columns. -/
structure Widths where
  left : Nat
  right : Nat

def header : Row := ("Item", "Value")

def widths (rows : List Row) : Widths where
  left := (rows.map fun row => widest row.1).foldl max 0
  right := (rows.map fun row => widest row.2).foldl max 0

/-- A rule between rows: its left end, its line, its middle and its right end. -/
def rule (w : Widths) (left : String) (line : Char) (middle right : String) : String :=
  left ++ .ofList (List.replicate (w.left + 2) line) ++ middle
    ++ .ofList (List.replicate (w.right + 2) line) ++ right

/-- A row on as many lines as its highest cell has. -/
def rowLines (w : Widths) (bar : String) (row : Row) : List String :=
  let left := wrappedLines w.left row.1
  let right := wrappedLines w.right row.2
  let height := max left.length right.length
  ((filled height left).zip (filled height right)).map fun (l, r) =>
    bar ++ " " ++ padded w.left l ++ " " ++ bar ++ " " ++ padded w.right r ++ " " ++ bar

/-- The lines of a table whose rows are already plain text. -/
def plainLines (t : Table) : List String :=
  let w := widths (header :: t.rows)
  [centred (w.left + w.right + 7) t.title, rule w "┏" '━' "┳" "┓"]
    ++ rowLines w "┃" header
    ++ [rule w "┡" '━' "╇" "┩"]
    ++ t.rows.flatMap (rowLines w "│")
    ++ [rule w "└" '─' "┴" "┘"]

def lines (t : Table) : Except MarkupFault (List String) := do
  let rows ← t.rows.mapM fun (item, text) => do return (item, ← Markup.shown text)
  return { t with rows }.plainLines

end Table

end Groundwork.Report
