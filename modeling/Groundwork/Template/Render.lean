import Groundwork.Template.Basic
import Groundwork.Template.Fault
import Groundwork.Value.Equal
import Groundwork.Value.Naming
import Groundwork.Value.Written

/-!
# Rendering

A template and its bindings give a text. A name without a binding and a member that a value does
not have are absent: they print as nothing, do not hold, and have nothing to repeat, but a member
of something absent is a fault. Whether values are escaped is the caller's choice; template text
never is.
-/

namespace Groundwork.Template

/-- What an expression comes to. -/
inductive Operand where
  | value (v : Value)
  | absent (absence : Absence)

namespace Operand

def holds : Operand → Bool
  | value v => v.holds
  | absent _ => false

def written : Operand → String
  | value v => v.written
  | absent _ => ""

/-- The name of the operand's kind in messages. -/
def kindName : Operand → String
  | value v => v.kind.name
  | absent _ => "Undefined"

/-- Absent operands are equal to each other and to nothing else. -/
def equal : Operand → Operand → Bool
  | value v, value w => v.equal w
  | absent _, absent _ => true
  | _, _ => false

def member (o : Operand) (field : String) : Except Fault Operand :=
  match o with
  | absent absence => .error (.absent absence)
  | value (.object entries) =>
    match entries.lookup field with
    | some v => .ok (value v)
    | none => .ok (absent (.member .object field))
  | value v => .ok (absent (.member v.kind field))

def items : Operand → Except Fault (List Value)
  | absent _ => .ok []
  | value v => v.items.mapError .misuse

/-- Whether `item` is in `container`: part of a text, item of a list, key of an object. -/
def within (item container : Operand) : Except Fault Bool :=
  match container with
  | absent _ => .ok false
  | value (.text whole) =>
    match item with
    | value (.text part) => .ok (Text.occursIn part whole)
    | _ => .error (.misuse (.textNeeded item.kindName))
  | value (.list items) => .ok (items.any fun v => item.equal (value v))
  | value (.object entries) =>
    match item with
    | value (.text key) => .ok (entries.any (·.1 == key))
    | value (.list _) => .error (.misuse (.unhashable .list))
    | value (.object _) => .error (.misuse (.unhashable .object))
    | _ => .ok false
  | value v => .error (.misuse (.notContainer v.kind))

end Operand

def Filter.apply (filter : Filter) (o : Operand) : Except Fault Operand :=
  match filter, o with
  | lower, o => .ok (.value (.text (Text.lower o.written)))
  | lowerFirst, .value v => (v.lowerFirst.mapError Fault.misuse).map .value
  | upperFirst, .value v => (v.upperFirst.mapError Fault.misuse).map .value
  | lowerFirst, o => .ok o
  | upperFirst, o => .ok o
  | slug, .value v => (v.slug.mapError Fault.misuse).map .value
  | slug, .absent absence => .error (.absent absence)
  | unknown name, _ => .error (.noFilterNow name)

namespace Expr

def eval (bindings : Bindings) : Expr → Except Fault Operand
  | literal v => .ok (.value v)
  | name n =>
    match bindings.find? n with
    | some v => .ok (.value v)
    | none => .ok (.absent (.name n))
  | member object field => do (← object.eval bindings).member field
  | equal left right => do
    let l ← left.eval bindings
    let r ← right.eval bindings
    .ok (.value (.bool (l.equal r)))
  | differ left right => do
    let l ← left.eval bindings
    let r ← right.eval bindings
    .ok (.value (.bool (!l.equal r)))
  | within item container => do
    let i ← item.eval bindings
    let c ← container.eval bindings
    .ok (.value (.bool (← i.within c)))
  | both left right => do
    let l ← left.eval bindings
    if l.holds then right.eval bindings else .ok l
  | either left right => do
    let l ← left.eval bindings
    if l.holds then .ok l else right.eval bindings
  | negate operand => do
    .ok (.value (.bool (!(← operand.eval bindings).holds)))
  | filter f operand => do f.apply (← operand.eval bindings)
  | joined operand separator => do
    let o ← operand.eval bindings
    let s ← separator.eval bindings
    .ok (.value (.text (s.written.intercalate ((← o.items).map Value.written))))

/-- The first filter in an expression that does not exist. -/
def unknownFilter? : Expr → Option String
  | literal _ | name _ => none
  | member object _ => object.unknownFilter?
  | equal l r | differ l r | within l r | both l r | either l r | joined l r =>
    l.unknownFilter?.or r.unknownFilter?
  | negate operand => operand.unknownFilter?
  | filter (.unknown missing) operand => operand.unknownFilter?.or (some missing)
  | filter _ operand => operand.unknownFilter?

end Expr

/-- Escaping for markup: the five characters that mean something there. -/
def escapeChar (c : Char) : List Char :=
  if c = '&' then "&amp;".toList
  else if c = '<' then "&lt;".toList
  else if c = '>' then "&gt;".toList
  else if c = '\x27' then "&#39;".toList
  else if c = '\x22' then "&#34;".toList
  else [c]

def escape (s : String) : String :=
  .ofList (s.toList.flatMap escapeChar)

inductive Escaping where
  | markup
  | off
  deriving Repr, DecidableEq

def Escaping.apply : Escaping → String → String
  | markup, s => escape s
  | off, s => s

/-- The first filter that does not exist, in a place where this is found before rendering. Inside a
choice it is found only when the place is reached. -/
def unknownFilter? (late : Bool) : Template → Option String
  | done => none
  | text _ next => unknownFilter? late next
  | value e next => (if late then none else e.unknownFilter?).or (unknownFilter? late next)
  | branch _ yes no next =>
    ((unknownFilter? true yes).or (unknownFilter? true no)).or (unknownFilter? late next)
  | loop _ source body otherwise next =>
    ((if late then none else source.unknownFilter?).or
      ((unknownFilter? false body).or (unknownFilter? false otherwise))).or
      (unknownFilter? late next)

/-- The text of a template. Inside a repetition the variable hides a binding of the same name. -/
def fill (escaping : Escaping) (bindings : Bindings) : Template → Except Fault String
  | done => .ok ""
  | text s next => do
    let rest ← fill escaping bindings next
    .ok (s ++ rest)
  | value e next => do
    let o ← e.eval bindings
    let rest ← fill escaping bindings next
    .ok (escaping.apply o.written ++ rest)
  | branch test yes no next => do
    let o ← test.eval bindings
    let chosen ← if o.holds then fill escaping bindings yes else fill escaping bindings no
    let rest ← fill escaping bindings next
    .ok (chosen ++ rest)
  | loop name source body otherwise next => do
    let items ← (← source.eval bindings).items
    let parts ← items.mapM fun v => fill escaping ((name, v) :: bindings) body
    let instead ← if items.isEmpty then fill escaping bindings otherwise else .ok ""
    let rest ← fill escaping bindings next
    .ok (String.join parts ++ instead ++ rest)

/-- Renders a template. A filter that does not exist is reported before anything else. -/
def render (t : Template) (escaping : Escaping) (bindings : Bindings) : Except Fault String :=
  match t.unknownFilter? false with
  | some name => .error (.noFilter name)
  | none => t.fill escaping bindings

end Groundwork.Template
