import Groundwork.Text.Quoted

/-!
# UTF-8

Files hold octets. Decoding stops at the first octet that rules the text out and says where the
broken sequence starts, where it ends, and what is wrong with it.
-/

namespace Groundwork.Text.Utf8

inductive Reason where
  | invalidStart
  | invalidContinuation
  | unexpectedEnd
  deriving Repr, DecidableEq

def Reason.message : Reason → String
  | invalidStart => "invalid start byte"
  | invalidContinuation => "invalid continuation byte"
  | unexpectedEnd => "unexpected end of data"

/-- The broken sequence runs from octet `first`, whose value is `octet`, to octet `last`. -/
structure Fault where
  first : Nat
  last : Nat
  octet : UInt8
  reason : Reason
  deriving Repr, DecidableEq

def Fault.message (f : Fault) : String :=
  let place :=
    if f.first = f.last then
      "byte 0x" ++ .ofList (hexDigits 2 f.octet.toNat) ++ " in position " ++ f.first.repr
    else "bytes in position " ++ f.first.repr ++ "-" ++ f.last.repr
  "'utf-8' codec can't decode " ++ place ++ ": " ++ f.reason.message

/-- A sequence under way: where and with which octet it started, the continuation octets still
owed, the bounds of the next one, and the bits read so far. -/
structure Pending where
  first : Nat
  octet : UInt8
  owed : Nat
  low : Nat
  high : Nat
  bits : Nat

/-- The sequence that an octet above 0x7F starts. -/
def Pending.start? (position : Nat) (b : UInt8) : Option Pending :=
  let n := b.toNat
  if 0xC2 ≤ n ∧ n ≤ 0xDF then some ⟨position, b, 1, 0x80, 0xBF, n - 0xC0⟩
  else if n = 0xE0 then some ⟨position, b, 2, 0xA0, 0xBF, 0⟩
  else if n = 0xED then some ⟨position, b, 2, 0x80, 0x9F, 0xD⟩
  else if 0xE1 ≤ n ∧ n ≤ 0xEF then some ⟨position, b, 2, 0x80, 0xBF, n - 0xE0⟩
  else if n = 0xF0 then some ⟨position, b, 3, 0x90, 0xBF, 0⟩
  else if 0xF1 ≤ n ∧ n ≤ 0xF3 then some ⟨position, b, 3, 0x80, 0xBF, n - 0xF0⟩
  else if n = 0xF4 then some ⟨position, b, 3, 0x80, 0x8F, 4⟩
  else none

def Pending.fault (p : Pending) (position : Nat) (reason : Reason) : Fault :=
  ⟨p.first, position - 1, p.octet, reason⟩

/-- Decodes the octets from `position` on. -/
def decodeFrom (position : Nat) : Option Pending → List UInt8 → Except Fault (List Char)
  | none, [] => .ok []
  | some p, [] => .error (p.fault position .unexpectedEnd)
  | none, b :: rest =>
    if b.toNat < 0x80 then
      (decodeFrom (position + 1) none rest).map (Char.ofNat b.toNat :: ·)
    else
      match Pending.start? position b with
      | some p => decodeFrom (position + 1) (some p) rest
      | none => .error ⟨position, position, b, .invalidStart⟩
  | some p, b :: rest =>
    if p.low ≤ b.toNat ∧ b.toNat ≤ p.high then
      let bits := 64 * p.bits + (b.toNat - 0x80)
      if p.owed ≤ 1 then (decodeFrom (position + 1) none rest).map (Char.ofNat bits :: ·)
      else
        decodeFrom (position + 1)
          (some { p with owed := p.owed - 1, low := 0x80, high := 0xBF, bits := bits }) rest
    else .error (p.fault position .invalidContinuation)

def decode (octets : List UInt8) : Except Fault (List Char) :=
  decodeFrom 0 none octets

def encode (cs : List Char) : List UInt8 :=
  cs.flatMap String.utf8EncodeChar

end Groundwork.Text.Utf8
