import Groundwork.Text.Blank

/-!
# Integers in text

Two readings of an integer. `readInteger?` takes the decimal digits of every script, blanks around
the number, a sign, and single underscores between digits. `readPlainInteger?` takes ASCII digits
only and allows a fraction of zeros; it reads the numbers of input data.
-/

namespace Groundwork.Text

/-- The code points of the digits zero; the digits one to nine of a script follow its zero. -/
def digitZeros : List Nat :=
  [0x30, 0x660, 0x6F0, 0x7C0, 0x966, 0x9E6, 0xA66, 0xAE6, 0xB66, 0xBE6, 0xC66, 0xCE6, 0xD66,
    0xDE6, 0xE50, 0xED0, 0xF20, 0x1040, 0x1090, 0x17E0, 0x1810, 0x1946, 0x19D0, 0x1A80, 0x1A90,
    0x1B50, 0x1BB0, 0x1C40, 0x1C50, 0xA620, 0xA8D0, 0xA900, 0xA9D0, 0xA9F0, 0xAA50, 0xABF0,
    0xFF10, 0x104A0, 0x10D30, 0x11066, 0x110F0, 0x11136, 0x111D0, 0x112F0, 0x11450, 0x114D0,
    0x11650, 0x116C0, 0x11730, 0x118E0, 0x11950, 0x11C50, 0x11D50, 0x11DA0, 0x16A60, 0x16AC0,
    0x16B50, 0x1D7CE, 0x1D7D8, 0x1D7E2, 0x1D7EC, 0x1D7F6, 0x1E140, 0x1E2F0, 0x1E950, 0x1FBF0]

/-- The value of a decimal digit of any script. -/
def digitValue? (c : Char) : Option Nat :=
  (digitZeros.find? fun start => start ≤ c.toNat && c.toNat < start + 10).map (c.toNat - ·)

def asciiDigitValue? (c : Char) : Option Nat :=
  if '0' ≤ c && c ≤ '9' then some (c.toNat - 48) else none

/-- Reads digits with single underscores between them, after the digits that make up `value`. -/
def readDigits (digit? : Char → Option Nat) (value : Nat) : List Char → Option Nat
  | [] => some value
  | '_' :: c :: rest => (digit? c).bind fun d => readDigits digit? (10 * value + d) rest
  | c :: rest => (digit? c).bind fun d => readDigits digit? (10 * value + d) rest

/-- Reads a number that starts with a digit. -/
def readNatural? (digit? : Char → Option Nat) : List Char → Option Nat
  | [] => none
  | c :: rest => (digit? c).bind fun d => readDigits digit? d rest

def readSigned? (digit? : Char → Option Nat) : List Char → Option Int
  | '-' :: rest => (readNatural? digit? rest).map fun n => -(n : Int)
  | '+' :: rest => (readNatural? digit? rest).map fun n => (n : Int)
  | cs => (readNatural? digit? cs).map fun n => (n : Int)

def readInteger? (s : String) : Option Int :=
  readSigned? digitValue? (trimChars isBlank s.toList)

/-- The part before a point that only zeros follow. -/
def dropZeroFraction (cs : List Char) : List Char :=
  match cs.span (· != '.') with
  | (whole, '.' :: fraction) => if fraction.all (· = '0') then whole else cs
  | _ => cs

def readPlainInteger? (s : String) : Option Int :=
  readSigned? asciiDigitValue? (dropZeroFraction (trimChars isWhiteSpace s.toList))

end Groundwork.Text
