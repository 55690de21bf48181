import Groundwork.Console.Emoji.Table
import Groundwork.Text.Blank
import Groundwork.Text.CaseMap
import Groundwork.Text.Cut

/-!
# Pictographs in console text

A name between two colons, such as `:rocket:`, is shown as the pictograph of that name. Letter case
does not matter, and a name may ask for a plain or a coloured form. What is no name stays as it is.
-/

namespace Groundwork.Console.Emoji

/-- The pictograph in a row of names and pictographs. -/
def inRow? (name : String) : List String → Option String
  | candidate :: pictograph :: rest =>
    if candidate = name then some pictograph else inRow? name rest
  | _ => none

/-- The flag of a part of a country: a black flag, its letters as tags, and the end of the tags. -/
def flag (letters : String) : String :=
  .ofList
    (Char.ofNat 0x1F3F4 :: letters.toList.map (fun c => Char.ofNat (0xE0000 + c.toNat))
      ++ [Char.ofNat 0xE007F])

def named? (name : String) : Option String :=
  match parts.lookup name with
  | some letters => some (flag letters)
  | none => rows.findSome? fun row => inRow? name (Text.pieces ' ' row)

/-- How the name after a colon can end, with the sign that the ending adds to the pictograph. -/
def endings : List (List Char × List Char) :=
  [("-emoji:".toList, ['\ufe0f']), ("-text:".toList, ['\ufe0e']), ([':'], [])]

structure Code where
  name : List Char
  sign : List Char
  /-- The length of the name and its ending. -/
  length : Nat

/-- The code that the text after a colon starts with; it has no blanks in it. -/
def code? : List Char → Option Code
  | [] => none
  | c :: rest =>
    match endings.find? fun e => e.1.isPrefixOf (c :: rest) with
    | some (ending, sign) => some ⟨[], sign, ending.length⟩
    | none =>
      if Text.isBlank c then none
      else (code? rest).map fun code => { code with name := c :: code.name, length := code.length + 1 }

/-- Replaces the codes of a text, from the place where `skip` more characters are passed over. -/
def replaceFrom (skip : Nat) : List Char → List Char
  | [] => []
  | c :: rest =>
    match skip with
    | skip + 1 => replaceFrom skip rest
    | 0 =>
      if c = ':' then
        match code? rest with
        | some code =>
          match named? (Text.lower (.ofList code.name)) with
          | some pictograph => pictograph.toList ++ code.sign ++ replaceFrom code.length rest
          | none => c :: rest.take code.length ++ replaceFrom code.length rest
        | none => c :: replaceFrom 0 rest
      else c :: replaceFrom 0 rest

def replace (cs : List Char) : List Char :=
  replaceFrom 0 cs

end Groundwork.Console.Emoji
