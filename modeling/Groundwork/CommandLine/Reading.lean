import Groundwork.CommandLine.Token

/-!
# Reading a command line

Options and operands are read from the left. Operands take what they can whenever plain words are
reached; an operand that takes many words takes them once, so words behind a later option are left
over. What nothing takes is handed back, so that the caller can refuse it.
-/

namespace Groundwork.CommandLine

variable {σ : Type}

/-- What is left to do for an option after the effects that need no value. -/
inductive Remainder (σ : Type) where
  | done
  | stray (word : String)
  | given (title : String) (read : Reader σ) (value : String)
  | awaited (title : String) (read : Reader σ)

structure Use (σ : Type) where
  effects : List (Effect σ)
  remainder : Remainder σ

/-- Short options written together. The first one with a value takes the rest of the word. -/
def Grammar.useOfBundle (g : Grammar σ) : List Char → Except Fault (Use σ)
  | [] => .ok ⟨[], .done⟩
  | letter :: rest =>
    match g.find? (.ofList ['-', letter]), rest with
    | none, _ => .ok ⟨[], .stray (.ofList ('-' :: letter :: rest))⟩
    | some (title, .value read), [] => .ok ⟨[], .awaited title read⟩
    | some (title, .value read), '=' :: value => .ok ⟨[], .given title read (.ofList value)⟩
    | some (title, .value read), _ => .ok ⟨[], .given title read (.ofList rest)⟩
    | some (_, .flag effect), [] => .ok ⟨[effect], .done⟩
    | some (title, .flag _), '=' :: value => .error (.unwantedValue title (.ofList value))
    | some (title, .flag _), '-' :: _ => .error (.unwantedValue title (.ofList rest))
    | some (_, .flag effect), _ => do
      let u ← g.useOfBundle rest
      return { u with effects := effect :: u.effects }

def useOfLong (title : String) : Role σ → Option String → Except Fault (Use σ)
  | .value read, some value => .ok ⟨[], .given title read value⟩
  | .value read, none => .ok ⟨[], .awaited title read⟩
  | .flag _, some value => .error (.unwantedValue title value)
  | .flag effect, none => .ok ⟨[effect], .done⟩

def Grammar.useOf (g : Grammar σ) (t : Token σ) : Except Fault (Use σ) :=
  match t.sense with
  | .bundle letters => g.useOfBundle letters
  | .long title role value => useOfLong title role value
  | .separator | .plain | .unknown => .ok ⟨[], .stray t.word⟩

structure Progress (σ : Type) where
  record : σ
  pending : List (Operand σ)
  leftOver : List String

namespace Progress

def change (p : Progress σ) (f : σ → σ) : Progress σ :=
  { p with record := f p.record }

def leave (p : Progress σ) (words : List String) : Progress σ :=
  { p with leftOver := p.leftOver ++ words }

/-- Applies effects in order; the first one that stops ends the reading. -/
def apply (g : Grammar σ) (p : Progress σ) : List (Effect σ) → Except Ending (Progress σ)
  | [] => .ok p
  | .stop s :: _ => .error (.stop g.usage s)
  | .set f :: rest => (p.change f).apply g rest

/-- Hands a value to its reader. -/
def supply (g : Grammar σ) (p : Progress σ) (title : String) (read : Except ValueFault (σ → σ)) :
    Except Ending (Progress σ) :=
  match read with
  | .ok f => .ok (p.change f)
  | .error fault => .error (.misuse g.program (.badValue title fault))

/-- Lets the pending operands take words from the left, one after the other, until one cannot. -/
def takeOperands (g : Grammar σ) (p : Progress σ) :
    List (Operand σ) → List (Token σ) → Except Ending (Progress σ × List (Token σ))
  | [], ts => .ok ({ p with pending := [] }, ts)
  | .one title f :: operands, ts =>
    match ts.dropWhile Token.isSeparator with
    | t :: rest =>
      if t.isPlain then
        (p.change (f t.word)).takeOperands g operands (rest.dropWhile Token.isSeparator)
      else .ok ({ p with pending := .one title f :: operands }, ts)
    | [] => .ok ({ p with pending := .one title f :: operands }, ts)
  | .many _ f :: operands, ts =>
    let words := (ts.takeWhile (!·.isOption)).map Token.word
    (p.change (f (words.erase "--"))).takeOperands g operands (ts.dropWhile (!·.isOption))
  | .command title read :: operands, ts =>
    match ts.dropWhile Token.isSeparator with
    | t :: _ =>
      if t.isPlain then
        match ts.map Token.word with
        | word :: words => do
          let p ← p.supply g title (read word words)
          p.takeOperands g operands []
        | [] => .ok ({ p with pending := .command title read :: operands }, ts)
      else .ok ({ p with pending := .command title read :: operands }, ts)
    | [] => .ok ({ p with pending := .command title read :: operands }, ts)

/-- Follows the use of an option, which may need the word behind it; tells the words that are then
left. -/
def follow (g : Grammar σ) (p : Progress σ) (u : Use σ) (rest : List (Token σ)) :
    Except Ending (Progress σ × List (Token σ)) :=
  match u.remainder, rest with
  | .done, _ => do return (← p.apply g u.effects, rest)
  | .stray word, _ => do return (← (p.leave [word]).apply g u.effects, rest)
  | .given title read value, _ => do
    return (← (← p.apply g u.effects).supply g title (read value), rest)
  | .awaited title read, t :: rest =>
    if t.isPlain then do
      return (← (← p.apply g u.effects).supply g title (read t.word), rest)
    else .error (.misuse g.program (.noValue title))
  | .awaited title _, [] => .error (.misuse g.program (.noValue title))

/-- Reads tokens in as many rounds as there are tokens: every round uses up at least one. -/
def readRounds (g : Grammar σ) : Nat → Progress σ → List (Token σ) → Except Ending (Progress σ)
  | 0, p, _ => .ok p
  | rounds + 1, p, ts =>
    if ts.any Token.isOption then
      match ts with
      | [] => .ok p
      | t :: rest =>
        if t.isOption then
          match g.useOf t with
          | .error fault => .error (.misuse g.program fault)
          | .ok u => do
            let (p, rest) ← p.follow g u rest
            readRounds g rounds p rest
        else do
          let (p, left) ← p.takeOperands g p.pending ts
          if left.length < ts.length then readRounds g rounds p left
          else
            readRounds g rounds (p.leave ((ts.takeWhile (!·.isOption)).map Token.word))
              (ts.dropWhile (!·.isOption))
    else do
      let (p, left) ← p.takeOperands g p.pending ts
      return p.leave (left.map Token.word)

end Progress

/-- Reads all words: the record, and the words that nothing took. -/
def Grammar.read (g : Grammar σ) (words : List String) : Except Ending (σ × List String) :=
  match g.tokens words with
  | .error fault => .error (.misuse g.program fault)
  | .ok ts => do
    let p ← Progress.readRounds g (ts.length + 1) ⟨g.start, g.operands, []⟩ ts
    if p.pending.isEmpty then return (p.record, p.leftOver)
    else throw (.misuse g.program (.missing (p.pending.map Operand.title)))

end Groundwork.CommandLine
