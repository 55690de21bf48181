import Groundwork.Console.Emoji

/-!
# Console markup

Text for the console may hold tags in square brackets. `[bold]` opens a style, `[/bold]` closes the
innermost style of that name, and `[/]` the innermost style. A backslash in front makes a tag plain
text, and two backslashes in front of a tag stand for one. Styles have no look of their own here,
so tags leave nothing behind; but a tag that closes what is not open is a fault.
-/

namespace Groundwork.Console

structure Tag where
  name : String
  parameters : Option String

namespace Tag

def ofInside (inside : List Char) : Tag :=
  match inside.span (· != '=') with
  | (name, _ :: parameters) => ⟨.ofList name, some (.ofList parameters)⟩
  | (name, []) => ⟨.ofList name, none⟩

def text (t : Tag) : String :=
  match t.parameters with
  | some parameters => "[" ++ t.name ++ "=" ++ parameters ++ "]"
  | none => "[" ++ t.name ++ "]"

end Tag

inductive MarkupFault where
  | notOpen (tag : Tag) (position : Nat)
  | nothingOpen (position : Nat)

def MarkupFault.message : MarkupFault → String
  | notOpen tag position =>
    "closing tag '" ++ tag.text ++ "' at position " ++ position.repr
      ++ " doesn't match any open tag"
  | nothingOpen position =>
    "closing tag '[/]' at position " ++ position.repr ++ " has nothing to close"

namespace Markup

def startsTag (c : Char) : Bool :=
  ('a' ≤ c && c ≤ 'z') || c = '#' || c = '/' || c = '@'

/-- The inside of a tag, given the text after its opening bracket: what stands before the first
closing bracket, with no opening bracket in it. -/
def inside? : List Char → Option (List Char)
  | c :: rest =>
    let others := rest.takeWhile fun d => d != '[' && d != ']'
    if startsTag c && rest[others.length]? = some ']' then some (c :: others) else none
  | [] => none

/-- A tag at the start of a text, behind the backslashes before it. -/
structure Found where
  backslashes : Nat
  inside : List Char

def Found.isPlain (f : Found) : Bool :=
  f.backslashes % 2 = 1

/-- How many characters the tag and its backslashes fill. -/
def Found.length (f : Found) : Nat :=
  f.backslashes + f.inside.length + 2

def found? (cs : List Char) : Option Found :=
  let backslashes := cs.takeWhile (· = '\\')
  match cs.drop backslashes.length with
  | '[' :: after => (inside? after).map fun inside => ⟨backslashes.length, inside⟩
  | _ => none

/-- The text with a backslash more before every tag that it holds, and twice as many as there
were. -/
def escapeFrom (skip : Nat) : List Char → List Char
  | [] => []
  | c :: rest =>
    match skip with
    | skip + 1 => c :: escapeFrom skip rest
    | 0 =>
      match found? (c :: rest) with
      | some f =>
        List.replicate (f.backslashes + 1) '\\' ++ c :: escapeFrom (f.length - 1) rest
      | none => c :: escapeFrom 0 rest

/-- Makes the tags of a text plain, and keeps a backslash at its end from reaching what follows. -/
def escape (s : String) : String :=
  let escaped := String.ofList (escapeFrom 0 s.toList)
  if Text.endsWith escaped "\\" && !Text.endsWith escaped "\\\\" then escaped ++ "\\" else escaped

inductive Piece where
  /-- Text between tags. -/
  | text (cs : List Char)
  /-- Backslashes before a tag, or a tag that is plain text. -/
  | fixed (cs : List Char)
  | tag (t : Tag) (position : Nat)

/-- Puts a character in front of the text that the pieces start with. -/
def Piece.extend (c : Char) : List Piece → List Piece
  | .text cs :: rest => .text (c :: cs) :: rest
  | pieces => .text [c] :: pieces

def Found.pieces (f : Found) (position : Nat) : List Piece :=
  (if f.backslashes < 2 then [] else [.fixed (List.replicate (f.backslashes / 2) '\\')])
    ++ (if f.isPlain then [.fixed ('[' :: f.inside ++ [']'])]
      else [.tag (.ofInside f.inside) (position + f.backslashes)])

def piecesFrom (skip position : Nat) : List Char → List Piece
  | [] => []
  | c :: rest =>
    match skip with
    | skip + 1 => piecesFrom skip (position + 1) rest
    | 0 =>
      match found? (c :: rest) with
      | some f => f.pieces position ++ piecesFrom (f.length - 1) (position + 1) rest
      | none => Piece.extend c (piecesFrom 0 (position + 1) rest)

/-- A backslash before a bracket that begins no tag is left out. -/
def dropBackslashes : List Char → List Char
  | '\\' :: '[' :: rest => '[' :: dropBackslashes rest
  | c :: rest => c :: dropBackslashes rest
  | [] => []

def style (name : String) : String :=
  Text.lower (Text.trim name)

/-- The text that the pieces show, with the names of the open styles, innermost first. -/
def shownPieces (opened : List String) : List Piece → Except MarkupFault (List Char)
  | [] => .ok []
  | .text cs :: rest => do
    return Emoji.replace (dropBackslashes cs) ++ (← shownPieces opened rest)
  | .fixed cs :: rest => do return Emoji.replace cs ++ (← shownPieces opened rest)
  | .tag t position :: rest =>
    match t.name.toList with
    | '/' :: name =>
      let closed := style (.ofList name)
      if closed = "" then
        match opened with
        | _ :: others => shownPieces others rest
        | [] => .error (.nothingOpen position)
      else if opened.contains closed then shownPieces (opened.erase closed) rest
      else .error (.notOpen t position)
    | _ => shownPieces (style t.name :: opened) rest

/-- The text that marked-up text shows. -/
def shown (s : String) : Except MarkupFault String :=
  (shownPieces [] (piecesFrom 0 0 s.toList)).map .ofList

end Markup

end Groundwork.Console
