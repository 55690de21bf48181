import Groundwork.Template.Fault
import Groundwork.Text.Blank
import Groundwork.Text.Cut
import Groundwork.Text.Integer

/-!
# Template tokens

The text of a template as tokens. Values stand between double braces, tags between a brace and a
percent sign, comments between a brace and a number sign. A tag or comment that starts its line
swallows the blanks before it, and one that ends its line swallows the line end. A fault of the
text is itself a token, since it only counts if reading gets that far.
-/

namespace Groundwork.Template

inductive Token where
  | text (s : String)
  | openValue
  | closeValue
  | openTag
  | closeTag
  | name (s : String)
  | string (s : String)
  | integer (n : Nat)
  | symbol (s : String)
  | fault (f : SyntaxFault)
  deriving Repr, DecidableEq

namespace Token

/-- How messages name a token. -/
def describe : Token → String
  | text _ => "template data / text"
  | openValue => "begin of print statement"
  | closeValue => "end of print statement"
  | openTag => "begin of statement block"
  | closeTag => "end of statement block"
  | name s => s
  | string _ => "string"
  | integer _ => "integer"
  | symbol s => s
  | fault _ => "fault"

end Token

def openBrace : Char := '\x7b'
def closeBrace : Char := '\x7d'

def isNameChar (c : Char) : Bool :=
  c.isAlphanum || c = '_' || (0x80 ≤ c.toNat && Text.isPrintable c && !Text.isBlank c)

/-- The text before a tag, last character first: without the blanks of its line when nothing else
is on that line. `fresh` says that the text started on a new line. -/
def dropIndent (passed : List Char) (fresh : Bool) : List Char :=
  let (line, before) := passed.span (· != '\n')
  if line.all Text.isBlank && (fresh || !before.isEmpty) then before else passed

def textTokens (passed : List Char) : List Token :=
  if passed.isEmpty then [] else [.text (.ofList passed.reverse)]

/-- A run of name characters: a number, a name, or a number with a name after it. -/
def wordTokens (word : List Char) : List Token :=
  let (digits, rest) := word.span fun c => '0' ≤ c && c ≤ '9'
  ((Text.readNatural? Text.asciiDigitValue? digits).toList.map .integer)
    ++ (if rest.isEmpty then [] else [.name (.ofList rest)])

def hexValue? (c : Char) : Option Nat :=
  if '0' ≤ c && c ≤ '9' then some (c.toNat - 48)
  else if 'a' ≤ c && c ≤ 'f' then some (c.toNat - 87)
  else if 'A' ≤ c && c ≤ 'F' then some (c.toNat - 55)
  else none

/-- What a backslash sequence inside a string is in the middle of. -/
inductive Escape where
  | none
  | started
  | hex (form : String) (owed number : Nat)
  | octal (owed number : Nat)

/-- The character that a letter after a backslash stands for. -/
def simpleEscape? (c : Char) : Option Char :=
  [('\\', '\\'), ('\x27', '\x27'), ('\x22', '\x22'), ('n', '\n'), ('t', '\t'), ('r', '\r'),
    ('a', '\x07'), ('b', '\x08'), ('f', '\x0c'), ('v', '\x0b')].lookup c

/-- The text of a string with its backslash sequences resolved. -/
def unescape : Escape → List Char → Except SyntaxFault (List Char)
  | .none, [] => .ok []
  | .started, [] => .ok ['\\']
  | .hex form _ _, [] => .error (.brokenEscape form)
  | .octal _ number, [] => .ok [Char.ofNat number]
  | .none, '\\' :: rest => unescape .started rest
  | .none, c :: rest => (unescape .none rest).map (c :: ·)
  | .started, c :: rest =>
    match simpleEscape? c with
    | some d => (unescape .none rest).map (d :: ·)
    | Option.none =>
      if c = '\n' then unescape .none rest
      else if c = 'x' then unescape (.hex "truncated \\xXX escape" 2 0) rest
      else if c = 'u' then unescape (.hex "truncated \\uXXXX escape" 4 0) rest
      else if c = 'U' then unescape (.hex "truncated \\UXXXXXXXX escape" 8 0) rest
      else if c = 'N' then .error (.brokenEscape "malformed \\N character escape")
      else if '0' ≤ c && c ≤ '7' then unescape (.octal 2 (c.toNat - 48)) rest
      else (unescape .none rest).map fun cs => '\\' :: c :: cs
  | .hex form owed number, c :: rest =>
    match hexValue? c with
    | some d =>
      if owed ≤ 1 then (unescape .none rest).map (Char.ofNat (16 * number + d) :: ·)
      else unescape (.hex form (owed - 1) (16 * number + d)) rest
    | Option.none => .error (.brokenEscape form)
  | .octal owed number, c :: rest =>
    if '0' ≤ c && c ≤ '7' then
      if owed ≤ 1 then (unescape .none rest).map (Char.ofNat (8 * number + (c.toNat - 48)) :: ·)
      else unescape (.octal (owed - 1) (8 * number + (c.toNat - 48))) rest
    else if c = '\\' then (unescape .started rest).map (Char.ofNat number :: ·)
    else (unescape .none rest).map fun cs => Char.ofNat number :: c :: cs

def stringToken (inside : List Char) : Token :=
  match unescape .none inside with
  | .ok cs => .string (.ofList cs)
  | .error f => .fault f

/-- Code stands in a value or in a tag. `owed` holds the brackets that are still to be closed,
innermost first. -/
structure Code where
  inTag : Bool
  owed : List Char

def twoCharSymbols : List (Char × Char) :=
  [('=', '='), ('!', '='), ('<', '='), ('>', '='), ('*', '*'), ('/', '/')]

def oneCharSymbols : List Char :=
  "+-/*%~=<>|.,:;".toList

/-- What the reading is in the middle of. Characters already passed are kept last first; `skip`
passes over a character that was taken into account one character early. -/
inductive Mode where
  | text (passed : List Char) (fresh : Bool)
  | comment (started : Bool)
  | code (code : Code)
  | word (code : Code) (passed : List Char)
  | quote (code : Code) (mark : Char) (start : Nat) (passed : List Char)
  | skip (next : Mode)
  | stopped

/-- The code after a one-character symbol; brackets have to match. -/
def Code.symbol (code : Code) (c : Char) (position : Nat) : Except SyntaxFault Code :=
  if c = openBrace then .ok { code with owed := closeBrace :: code.owed }
  else if c = '(' then .ok { code with owed := ')' :: code.owed }
  else if c = '[' then .ok { code with owed := ']' :: code.owed }
  else if c = closeBrace || c = ')' || c = ']' then
    match code.owed with
    | [] => .error (.unmatched c none)
    | due :: others =>
      if due = c then .ok { code with owed := others } else .error (.unmatched c (some due))
  else if oneCharSymbols.contains c then .ok code
  else .error (.unexpectedChar c position)

/-- The mode after a tag or comment whose last character comes next; a line end right after it is
dropped. -/
def Mode.afterTag (ahead : List Char) : Mode :=
  if ahead[1]? = some '\n' then .skip (.skip (.text [] true)) else .skip (.text [] false)

/-- One character of template text. -/
def stepText (passed : List Char) (fresh : Bool) (c : Char) (ahead : List Char) :
    List Token × Mode :=
  if c = openBrace then
    if ahead.head? = some openBrace then
      (textTokens passed ++ [.openValue], .skip (.code ⟨false, []⟩))
    else if ahead.head? = some '%' then
      (textTokens (dropIndent passed fresh) ++ [.openTag], .skip (.code ⟨true, []⟩))
    else if ahead.head? = some '#' then
      (textTokens (dropIndent passed fresh), .skip (.comment false))
    else ([], .text (c :: passed) fresh)
  else ([], .text (c :: passed) fresh)

def startsWord (ahead : List Char) : Bool :=
  (ahead.head?.map isNameChar).getD false

/-- One character of code that does not belong to a word or a string. -/
def stepSymbol (code : Code) (position : Nat) (c : Char) (ahead : List Char) :
    List Token × Mode :=
  let closes := code.owed.isEmpty && ahead.head? == some closeBrace
  if closes && code.inTag && c = '%' then ([.closeTag], .afterTag ahead)
  else if closes && !code.inTag && c = closeBrace then ([.closeValue], .skip (.text [] false))
  else if (ahead.head?.map fun d => twoCharSymbols.contains (c, d)).getD false then
    ([.symbol (.ofList (c :: ahead.take 1))], .skip (.code code))
  else
    match code.symbol c position with
    | .ok code' => ([.symbol (.singleton c)], .code code')
    | .error f => ([.fault f], .stopped)

/-- The tokens that one character completes, and the mode after it. -/
def Mode.step (mode : Mode) (position : Nat) (c : Char) (ahead : List Char) : List Token × Mode :=
  match mode with
  | text passed fresh => stepText passed fresh c ahead
  | comment _ =>
    if c = '#' && ahead.head? = some closeBrace then ([], .afterTag ahead)
    else ([], .comment true)
  | code frame =>
    if isNameChar c then
      if startsWord ahead then ([], .word frame [c]) else (wordTokens [c], .code frame)
    else if Text.isBlank c then ([], .code frame)
    else if c = '\x27' || c = '\x22' then ([], .quote frame c position [])
    else stepSymbol frame position c ahead
  | word frame passed =>
    if startsWord ahead then ([], .word frame (c :: passed))
    else (wordTokens (c :: passed).reverse, .code frame)
  | quote frame mark start passed =>
    if c = mark then ([stringToken passed.reverse], .code frame)
    else if c = '\\' then
      match ahead with
      | d :: _ => ([], .skip (.quote frame mark start (d :: c :: passed)))
      | [] => ([], .quote frame mark start (c :: passed))
    else ([], .quote frame mark start (c :: passed))
  | skip next => ([], next)
  | stopped => ([], .stopped)

/-- The tokens that the end of the template completes. -/
def Mode.finish : Mode → List Token
  | text passed _ => textTokens passed
  | comment started => if started then [.fault .unclosedComment] else []
  | word _ passed => wordTokens passed.reverse
  | quote _ mark start _ => [.fault (.unexpectedChar mark start)]
  | code _ | skip _ | stopped => []

/-- The tokens of the characters from `position` on. -/
def tokensFrom (mode : Mode) (position : Nat) : List Char → List Token
  | [] => mode.finish
  | c :: ahead =>
    let (found, next) := mode.step position c ahead
    found ++ tokensFrom next (position + 1) ahead

/-- The tokens of a template text, with its line ends unified first. -/
def tokens (source : String) : List Token :=
  tokensFrom (.text [] true) 0 (Text.unifyLineEnds source.toList)

end Groundwork.Template
