import Groundwork.Text.Spans

/-!
# Blanks and trimming

`isBlank` is the white space of names, tokens and options: the Unicode white space together with
the four separator controls U+001C to U+001F. Numbers written in input data use `isWhiteSpace`,
which leaves those four out. Neither holds of the zero-width space or of the byte order mark.
-/

namespace Groundwork.Text

def blankSpans : Spans :=
  [(0x09, 0x0D), (0x1C, 0x20), (0x85, 0x85), (0xA0, 0xA0), (0x1680, 0x1680), (0x2000, 0x200A),
    (0x2028, 0x2029), (0x202F, 0x202F), (0x205F, 0x205F), (0x3000, 0x3000)]

def isBlank (c : Char) : Bool :=
  blankSpans.contains c

def isWhiteSpace (c : Char) : Bool :=
  isBlank c && !(0x1C ≤ c.toNat && c.toNat ≤ 0x1F)

/-- Drops the characters of a class from both ends. -/
def trimChars (p : Char → Bool) (cs : List Char) : List Char :=
  ((cs.dropWhile p).reverse.dropWhile p).reverse

def trimBy (p : Char → Bool) (s : String) : String :=
  .ofList (trimChars p s.toList)

def trim (s : String) : String :=
  trimBy isBlank s

/-- Nothing but blanks, or nothing at all. -/
def allBlank (s : String) : Bool :=
  s.toList.all isBlank

theorem allBlank_iff_trim (s : String) : allBlank s = true ↔ trim s = "" := by
  have drop_nil : ∀ cs : List Char, cs.dropWhile isBlank = [] ↔ cs.all isBlank = true := by
    intro cs
    induction cs with
    | nil => simp
    | cons c r ih => by_cases h : isBlank c = true <;> simp_all
  unfold allBlank trim trimBy trimChars
  rw [← drop_nil, ← String.toList_inj]
  simp only [String.toList_ofList, String.toList_empty, List.reverse_eq_nil_iff]
  constructor
  · intro h
    simp [h]
  · intro h
    rw [drop_nil, List.all_reverse] at h
    cases hd : s.toList.dropWhile isBlank with
    | nil => rfl
    | cons c r =>
      have hc : isBlank c = false := by
        have := List.head?_dropWhile_not isBlank s.toList
        rw [hd] at this
        simpa using this
      rw [hd] at h
      simp [hc] at h

end Groundwork.Text
