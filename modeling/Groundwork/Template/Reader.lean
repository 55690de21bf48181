import Groundwork.Template.Basic
import Groundwork.Template.Token

/-!
# Reading a template

From tokens to a template. The recursion runs on a depth that the token count bounds: every level
of the grammar costs one step, and every repetition takes a token.
-/

namespace Groundwork.Template

/-- The fault at hand: a fault of the text, if reading has come to one, else `otherwise`. -/
def faultAt (ts : List Token) (otherwise : SyntaxFault) : SyntaxFault :=
  match ts with
  | .fault f :: _ => f
  | _ => otherwise

/-- How messages name the next token; at the end of the template there is none. -/
def ahead? (ts : List Token) : Option String :=
  ts.head?.map Token.describe

def aheadOrEnd (ts : List Token) : String :=
  (ahead? ts).getD "end of template"

/-- Takes the given token. -/
def expectToken (token : Token) (ts : List Token) : Except SyntaxFault (List Token) :=
  match ts with
  | t :: rest =>
    if t = token then .ok rest else .error (faultAt ts (.awaited token.describe (ahead? ts)))
  | [] => .error (.awaited token.describe none)

/-- Takes a name, whichever it is. -/
def expectName (ts : List Token) : Except SyntaxFault (String × List Token) :=
  match ts with
  | .name s :: rest => .ok (s, rest)
  | _ => .error (faultAt ts (.awaited "name" (ahead? ts)))

/-- The words that stand for values instead of naming one. -/
def constant? (name : String) : Option Value :=
  [("true", Value.bool true), ("True", .bool true), ("false", .bool false),
    ("False", .bool false), ("none", .null), ("None", .null)].lookup name

/-- Strings side by side are one string. -/
def adjacentStrings : List Token → String × List Token
  | .string s :: rest =>
    let (more, rest') := adjacentStrings rest
    (s ++ more, rest')
  | ts => ("", ts)

def Filter.ofName (name : String) : Filter :=
  match [("lower", Filter.lower), ("lower_first", .lowerFirst), ("upper_first", .upperFirst),
      ("kebab_case", .slug)].lookup name with
  | some f => f
  | none => .unknown name

/-- Whether an expression list ends here with nothing in it. -/
def endsExpression : List Token → Bool
  | .closeValue :: _ | .closeTag :: _ => true
  | .symbol ")" :: _ => true
  | _ => false

/-- One more comparison that has to hold. -/
def holding (held : Option Expr) (comparison : Expr) : Option Expr :=
  some (match held with
    | some earlier => .both earlier comparison
    | none => comparison)

mutual

/-- Operands joined by `or`. -/
def readEither : Nat → List Token → Except SyntaxFault (Expr × List Token)
  | 0, ts => .error (faultAt ts (.unexpected (aheadOrEnd ts)))
  | depth + 1, ts => do
    let (left, rest) ← readBoth depth ts
    readEitherMore depth left rest

def readEitherMore : Nat → Expr → List Token → Except SyntaxFault (Expr × List Token)
  | depth + 1, left, .name "or" :: rest => do
    let (right, rest) ← readBoth depth rest
    readEitherMore depth (.either left right) rest
  | _, left, ts => .ok (left, ts)

/-- Operands joined by `and`. -/
def readBoth : Nat → List Token → Except SyntaxFault (Expr × List Token)
  | 0, ts => .error (faultAt ts (.unexpected (aheadOrEnd ts)))
  | depth + 1, ts => do
    let (left, rest) ← readNegation depth ts
    readBothMore depth left rest

def readBothMore : Nat → Expr → List Token → Except SyntaxFault (Expr × List Token)
  | depth + 1, left, .name "and" :: rest => do
    let (right, rest) ← readNegation depth rest
    readBothMore depth (.both left right) rest
  | _, left, ts => .ok (left, ts)

def readNegation : Nat → List Token → Except SyntaxFault (Expr × List Token)
  | 0, ts => .error (faultAt ts (.unexpected (aheadOrEnd ts)))
  | depth + 1, .name "not" :: rest => do
    let (e, rest) ← readNegation depth rest
    .ok (.negate e, rest)
  | depth + 1, ts => do
    let (left, rest) ← readOperand depth ts
    readComparisons depth left none rest

/-- Comparisons in a row: each compares neighbours, and all have to hold. -/
def readComparisons : Nat → Expr → Option Expr → List Token → Except SyntaxFault (Expr × List Token)
  | depth + 1, left, held, .symbol "==" :: rest => do
    let (right, rest) ← readOperand depth rest
    readComparisons depth right (holding held (.equal left right)) rest
  | depth + 1, left, held, .symbol "!=" :: rest => do
    let (right, rest) ← readOperand depth rest
    readComparisons depth right (holding held (.differ left right)) rest
  | depth + 1, left, held, .name "in" :: rest => do
    let (right, rest) ← readOperand depth rest
    readComparisons depth right (holding held (.within left right)) rest
  | depth + 1, left, held, .name "not" :: .name "in" :: rest => do
    let (right, rest) ← readOperand depth rest
    readComparisons depth right (holding held (.negate (.within left right))) rest
  | _, left, held, ts => .ok (held.getD left, ts)

def readOperand : Nat → List Token → Except SyntaxFault (Expr × List Token)
  | 0, ts => .error (faultAt ts (.unexpected (aheadOrEnd ts)))
  | depth + 1, ts =>
    match ts with
    | .name s :: rest =>
      readSuffixes depth (match constant? s with | some v => .literal v | none => .name s) rest
    | .string _ :: _ =>
      let (s, rest) := adjacentStrings ts
      readSuffixes depth (.literal (.text s)) rest
    | .integer n :: rest => readSuffixes depth (.literal (.int n)) rest
    | .symbol "(" :: rest => do
      let (e, rest) ← readEither depth rest
      let rest ← expectToken (.symbol ")") rest
      readSuffixes depth e rest
    | _ => .error (faultAt ts (.unexpected (aheadOrEnd ts)))

/-- Members and filters of an operand. -/
def readSuffixes : Nat → Expr → List Token → Except SyntaxFault (Expr × List Token)
  | depth + 1, e, .symbol "." :: rest =>
    match rest with
    | .name field :: rest => readSuffixes depth (.member e field) rest
    | _ => .error (faultAt rest .noMemberName)
  | depth + 1, e, .symbol "|" :: rest => do
    let (name, rest) ← expectName rest
    if name = "join" then
      match rest with
      | .symbol "(" :: .symbol ")" :: rest => readSuffixes depth (.joined e (.literal (.text ""))) rest
      | .symbol "(" :: rest => do
        let (separator, rest) ← readEither depth rest
        let rest ← expectToken (.symbol ")") rest
        readSuffixes depth (.joined e separator) rest
      | _ => readSuffixes depth (.joined e (.literal (.text ""))) rest
    else readSuffixes depth (.filter (.ofName name) e) rest
  | _, e, ts => .ok (e, ts)

end

/-- A whole expression, of which there has to be one. -/
def readExpression (ts : List Token) : Except SyntaxFault (Expr × List Token) :=
  if endsExpression ts then .error (.noExpression (aheadOrEnd ts))
  else readEither (8 * ts.length + 8) ts

/-- The variable of a repetition. -/
def readVariable (ts : List Token) : Except SyntaxFault (String × List Token) :=
  match ts with
  | .name s :: rest =>
    if (constant? s).isSome then .error .unassignable else .ok (s, rest)
  | .string _ :: _ | .integer _ :: _ => .error .unassignable
  | _ =>
    if endsExpression ts then .error (.noExpression (aheadOrEnd ts))
    else .error (faultAt ts (.unexpected (aheadOrEnd ts)))

def choiceTags : List String := ["elif", "else", "endif"]

def loopTags : List String := ["endfor", "else"]

mutual

/-- Template text up to the tag that ends the innermost of the open blocks, or to the end. The
ending tag's name is the first of the tokens left. -/
def readBody : Nat → List Block → List Token → Except SyntaxFault (Template × List Token)
  | 0, _, ts => .error (faultAt ts (.unexpected (aheadOrEnd ts)))
  | _, [], [] => .ok (.done, [])
  | _, blocks, [] => .error (.unclosedBlock blocks)
  | depth + 1, blocks, .text s :: rest => do
    let (next, rest) ← readBody depth blocks rest
    .ok (.text s next, rest)
  | depth + 1, blocks, .openValue :: rest => do
    let (e, rest) ← readExpression rest
    let rest ← expectToken .closeValue rest
    let (next, rest) ← readBody depth blocks rest
    .ok (.value e next, rest)
  | depth + 1, blocks, .openTag :: rest =>
    match rest with
    | .name tag :: after =>
      if (blocks.head?.map fun block => block.awaited.contains tag).getD false then
        .ok (.done, rest)
      else if tag = "if" then do
        let (test, yes, no, rest) ← readChoice depth blocks after
        let rest ← expectToken .closeTag rest
        let (next, rest) ← readBody depth blocks rest
        .ok (.branch test yes no next, rest)
      else if tag = "for" then do
        let (name, rest) ← readVariable after
        let rest ← expectToken (.name "in") rest
        let (source, rest) ← readExpression rest
        let rest ← expectToken .closeTag rest
        let (body, rest) ← readBody depth (⟨"for", loopTags⟩ :: blocks) rest
        let (otherwise, rest) ← readLoopEnd depth blocks rest
        let rest ← expectToken .closeTag rest
        let (next, rest) ← readBody depth blocks rest
        .ok (.loop name source body otherwise next, rest)
      else .error (.unknownTag tag blocks)
    | _ => .error (faultAt rest .noTagName)
  | _, _, ts => .error (faultAt ts (.unexpected (aheadOrEnd ts)))

/-- A choice after its `if` or `elif`: the test and the two templates to choose from. -/
def readChoice : Nat → List Block → List Token →
    Except SyntaxFault (Expr × Template × Template × List Token)
  | 0, _, ts => .error (faultAt ts (.unexpected (aheadOrEnd ts)))
  | depth + 1, blocks, ts => do
    let (test, rest) ← readExpression ts
    let rest ← expectToken .closeTag rest
    let (yes, rest) ← readBody depth (⟨"if", choiceTags⟩ :: blocks) rest
    match rest with
    | .name "elif" :: rest => do
      let (test', yes', no', rest) ← readChoice depth blocks rest
      .ok (test, yes, .branch test' yes' no' .done, rest)
    | .name "else" :: rest => do
      let rest ← expectToken .closeTag rest
      let (no, rest) ← readBody depth (⟨"if", ["endif"]⟩ :: blocks) rest
      .ok (test, yes, no, rest.drop 1)
    | _ => .ok (test, yes, .done, rest.drop 1)

/-- A repetition after its body: what to render when nothing was repeated. -/
def readLoopEnd : Nat → List Block → List Token → Except SyntaxFault (Template × List Token)
  | 0, _, ts => .error (faultAt ts (.unexpected (aheadOrEnd ts)))
  | depth + 1, blocks, ts =>
    match ts with
    | .name "else" :: rest => do
      let rest ← expectToken .closeTag rest
      let (otherwise, rest) ← readBody depth (⟨"for", ["endfor"]⟩ :: blocks) rest
      .ok (otherwise, rest.drop 1)
    | _ => .ok (.done, ts.drop 1)

end

/-- The template that a text stands for. -/
def ofText (source : String) : Except SyntaxFault Template := do
  let ts := tokens source
  let (template, _) ← readBody (4 * ts.length + 4) [] ts
  .ok template

end Groundwork.Template
