import Groundwork.Text.Cut

/-!
# Paths

A path is an anchor and a list of parts in normal form: no part is empty, `.`, or holds a slash.
Parts `..` stay, since what they mean depends on the tree. Reading a text and joining keep the
normal form, so two texts that differ only in doubled slashes or `.` parts give one path.
-/

namespace Groundwork

/-- Where a path starts. Exactly two leading slashes are told apart from one. -/
inductive Path.Anchor where
  | relative
  | root
  | doubleRoot
  deriving Repr, DecidableEq

structure Path.Plain (part : String) : Prop where
  ne_empty : part ≠ ""
  ne_dot : part ≠ "."
  no_slash : '/' ∉ part.toList

structure Path where
  anchor : Path.Anchor
  parts : List String
  plain : ∀ part ∈ parts, Path.Plain part

namespace Path

def Anchor.text : Anchor → String
  | relative => ""
  | root => "/"
  | doubleRoot => "//"

/-- The anchor that a number of leading slashes stands for. -/
def Anchor.ofSlashes : Nat → Anchor
  | 0 => relative
  | 2 => doubleRoot
  | _ => root

/-- The working directory. -/
def here : Path := ⟨.relative, [], by simp⟩

def ofText (s : String) : Path where
  anchor := .ofSlashes (s.toList.takeWhile (· = '/')).length
  parts := (Text.pieces '/' s).filter fun part => part ≠ "" && part ≠ "."
  plain := by
    intro part h
    simp only [List.mem_filter, Text.pieces, List.mem_map, decide_not, Bool.and_eq_true,
      Bool.not_eq_true', decide_eq_false_iff_not] at h
    obtain ⟨⟨cs, hcs, rfl⟩, hempty, hdot⟩ := h
    exact ⟨hempty, hdot, by simpa using Text.not_mem_of_mem_pieceChars hcs⟩

def text (p : Path) : String :=
  if p.anchor = .relative && p.parts.isEmpty then "."
  else p.anchor.text ++ "/".intercalate p.parts

/-- The path `q` seen from `p`; an anchored `q` stands for itself. -/
def join (p q : Path) : Path :=
  match q.anchor with
  | .relative =>
    { anchor := p.anchor
      parts := p.parts ++ q.parts
      plain := fun part h => (List.mem_append.1 h).elim (p.plain part) (q.plain part) }
  | _ => q

/-- The path that the text `s` names, seen from `p`. -/
def child (p : Path) (s : String) : Path :=
  p.join (ofText s)

def parent (p : Path) : Path :=
  { p with
    parts := p.parts.dropLast
    plain := fun part h => p.plain part (List.dropLast_subset p.parts h) }

/-- The path from `base` to `p`, when `p` continues `base`. -/
def below? (p base : Path) : Option Path :=
  if p.anchor = base.anchor && base.parts.isPrefixOf p.parts then
    some {
      anchor := .relative
      parts := p.parts.drop base.parts.length
      plain := fun part h => p.plain part (List.drop_subset _ _ h) }
  else none

end Path

end Groundwork
