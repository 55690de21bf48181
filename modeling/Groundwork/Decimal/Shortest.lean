/-!
# Shortest decimal text of a binary fraction

A finite double is `m · 2 ^ q`. Its text has the fewest digits among the decimals that round to
it, and of those the nearest. All arithmetic is on exact naturals: the value, and the interval of
reals that round to it, are scaled to a common denominator.
-/

namespace Groundwork.Decimal

def twoTo (n : Nat) : Nat := Nat.pow 2 n

def tenTo (n : Nat) : Nat := Nat.pow 10 n

/-- A finite non-negative double, `mantissa · 2 ^ exponent`. -/
structure Binary where
  mantissa : Nat
  exponent : Int
  deriving Repr, DecidableEq

/-- Digits `d` and a place `e` that stand for `0.d · 10 ^ e`. -/
structure Digits where
  digits : Nat
  count : Nat
  point : Int
  deriving Repr, DecidableEq

/-- The double with the given bits, if it is finite, without its sign. -/
def Binary.ofBits? (bits : UInt64) : Option Binary :=
  let fraction : Nat := bits.toNat % twoTo 52
  let exponent : Nat := bits.toNat / twoTo 52 % twoTo 11
  if exponent = twoTo 11 - 1 then none
  else if exponent = 0 then some ⟨fraction, -1074⟩
  else some ⟨twoTo 52 + fraction, (exponent : Int) - 1075⟩

/-- Four times the value and the bounds of the interval that rounds to it, as numerators over one
denominator. Below a power of two the lower bound is twice as close. -/
structure Interval where
  low : Nat
  value : Nat
  high : Nat
  denominator : Nat
  closed : Bool

def Binary.interval (b : Binary) : Interval :=
  let up := b.exponent.toNat
  let down := (-b.exponent).toNat
  let boundary := b.mantissa = twoTo 52 ∧ -1074 < b.exponent
  { low := (4 * b.mantissa - if boundary then 1 else 2) * twoTo up
    value := 4 * b.mantissa * twoTo up
    high := (4 * b.mantissa + 2) * twoTo up
    denominator := 4 * twoTo down
    closed := b.mantissa % 2 = 0 }

/-- Whether `n / d` lies in the interval. -/
def Interval.contains (i : Interval) (n d : Nat) : Bool :=
  let x := n * i.denominator
  if i.closed then i.low * d ≤ x && x ≤ i.high * d else i.low * d < x && x < i.high * d

/-- The nearest decimal in the interval with unit `10 ^ unit`, if there is one; of two equally
near the even one. -/
def Interval.onGrid? (i : Interval) (unit : Int) : Option Nat :=
  let up := tenTo unit.toNat
  let down := tenTo (-unit).toNat
  let scaled := i.value * down
  let step := i.denominator * up
  let below := scaled / step
  let rest := scaled % step
  let lowFits := i.contains (below * up) down
  let highFits := i.contains ((below + 1) * up) down
  if lowFits && highFits then
    some (if 2 * rest < step || (2 * rest = step && below % 2 = 0) then below else below + 1)
  else if lowFits then some below
  else if highFits then some (below + 1)
  else none

/-- The number of decimal digits of `n`. -/
def digitCount (n : Nat) : Nat :=
  (Nat.toDigits 10 n).length

/-- The place of the first digit: the least `e` with `n / d < 10 ^ e`, searched upwards from
`least`. -/
def firstPlace (n d : Nat) : (fuel : Nat) → (least : Int) → Int
  | 0, least => least
  | fuel + 1, least =>
    if n * tenTo (-least).toNat < d * tenTo least.toNat then least
    else firstPlace n d fuel (least + 1)

/-- Tries one, two, three digits and so on; seventeen always suffice. -/
def shortestFrom (i : Interval) (place : Int) : (tries count : Nat) → Digits
  | 0, count => ⟨i.value / i.denominator, count, place⟩
  | tries + 1, count =>
    match i.onGrid? (place - count) with
    | some digits =>
      if digits = tenTo count then ⟨1, 1, place + 1⟩ else ⟨digits, count, place⟩
    | none => shortestFrom i place tries (count + 1)

/-- The shortest digits of a positive double. -/
def Binary.shortest (b : Binary) : Digits :=
  let i := b.interval
  let bits := (b.mantissa.log2 : Int) + b.exponent
  shortestFrom i (firstPlace i.value i.denominator 4 (bits * 30103 / 100000 - 1)) 17 1

/-- Where numbers are written with an exponent, and how. -/
structure Style where
  least : Int
  greatest : Int
  deriving Repr

/-- Positional from 0.0001 to below 10 ^ 16, always with a point; otherwise an exponent with a
sign and at least two digits. -/
def plainStyle : Style := ⟨-3, 16⟩

def zeros (n : Nat) : List Char := List.replicate n '0'

def Style.write (style : Style) (d : Digits) : List Char :=
  let ds := Nat.toDigits 10 d.digits
  if style.least ≤ d.point && d.point ≤ style.greatest then
    if d.point ≤ 0 then '0' :: '.' :: zeros (-d.point).toNat ++ ds
    else
      let whole := d.point.toNat
      if ds.length ≤ whole then ds ++ zeros (whole - ds.length) ++ ['.', '0']
      else ds.take whole ++ '.' :: ds.drop whole
  else
    let exponent := d.point - 1
    let size := Nat.toDigits 10 exponent.natAbs
    ds.take 1 ++ (if ds.length ≤ 1 then [] else '.' :: ds.drop 1)
      ++ 'e' :: (if exponent < 0 then '-' else '+') :: zeros (2 - size.length) ++ size

/-- The text of a double: the shortest that reads back, with the sign of zero kept. -/
def text (x : Float) : String :=
  let bits := x.toBits
  let negative := twoTo 63 ≤ bits.toNat
  match Binary.ofBits? bits with
  | none => if x.isNaN then "nan" else if negative then "-inf" else "inf"
  | some b =>
    let body := if b.mantissa = 0 then ['0', '.', '0'] else plainStyle.write b.shortest
    .ofList (if negative then '-' :: body else body)

/-- The integer that is left when the fraction of a finite double is dropped. -/
def truncated? (x : Float) : Option Int :=
  (Binary.ofBits? x.toBits).map fun b =>
    let size : Nat := b.mantissa * twoTo b.exponent.toNat / twoTo (-b.exponent).toNat
    if twoTo 63 ≤ x.toBits.toNat then -(size : Int) else size

/-- The integer that a finite double equals, if it has no fraction. -/
def integral? (x : Float) : Option Int :=
  (Binary.ofBits? x.toBits).bind fun b =>
    if b.mantissa * twoTo b.exponent.toNat % twoTo (-b.exponent).toNat = 0 then truncated? x else none

end Groundwork.Decimal
