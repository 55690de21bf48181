import Groundwork.Proofs.Name.Slug
import Groundwork.Proofs.Text.Standing

/-!
# Names of classes and variables

Which characters a name may have, and which of them it may begin with, is laid down in tables that
go far beyond ASCII. All that is relied on is what they say of ASCII, so what is proved holds with
any tables that agree there. Some words of small letters are no names, although they are spelled
like one.
-/

namespace Groundwork.Name

/-- The characters that identifiers begin with, beside those that they are made of. Of the printable
characters of ASCII these are letters, underscores and dollar signs. -/
structure Lettering where
  part : Char → Bool
  first : Char → Bool
  alphabet : Name.Alphabet part
  part_of_first : ∀ {c}, first c → part c
  ascii : ∀ c, 32 ≤ c.toNat → c.toNat < 127 → first c = (c.isAlpha || c == '_' || c == '$')

/-- The words that are no names although they are spelled like one. -/
def reserved : List String :=
  ["abstract", "assert", "boolean", "break", "byte", "case", "catch", "char", "class", "const",
    "continue", "default", "do", "double", "else", "enum", "extends", "final", "finally", "float",
    "for", "goto", "if", "implements", "import", "instanceof", "int", "interface", "long", "native",
    "new", "package", "private", "protected", "public", "return", "short", "static", "strictfp",
    "super", "switch", "synchronized", "this", "throw", "throws", "transient", "try", "void",
    "volatile", "while", "_", "true", "false", "null"]

/-- No reserved word has a capital letter. -/
theorem small_of_reserved {w : String} {c : Char} (hw : w ∈ reserved) (hc : c ∈ w.toList) :
    ¬ c.isUpper := by
  have hsmall : reserved.all fun w => !w.toList.any Char.isUpper := by decide
  have hnone := List.all_eq_true.1 hsmall w hw
  rw [Bool.not_eq_true', List.any_eq_false] at hnone
  exact hnone c hc

namespace Lettering

/-- The characters of ASCII, and no others. -/
def plain : Lettering where
  part c := isWordChar c || c == '_' || c == '$'
  first c := c.isAlpha || c == '_' || c == '$'
  alphabet := by
    refine ⟨fun _ _ _ => rfl, fun c hc => ?_⟩
    rw [List.mem_cons, List.mem_singleton] at hc
    rcases hc with rfl | rfl <;> rfl
  part_of_first {c} h := by
    have hletter (h : c.isAlpha) : isWordChar c := isWordChar_iff.2 (by simp [Char.isAlphanum, h])
    rw [Bool.or_eq_true, Bool.or_eq_true] at h
    rw [Bool.or_eq_true, Bool.or_eq_true]
    exact h.imp_left (Or.imp_left hletter)
  ascii _ _ _ := rfl

variable (letters : Lettering)

/-- A text of the characters that names have, which begins like a name. -/
structure Spells (s : String) : Prop where
  first : s.toList.head?.any letters.first
  parts : ∀ c ∈ s.toList, letters.part c

/-- A text that may be the name of a class or a variable. -/
structure Names (s : String) : Prop extends letters.Spells s where
  free : s ∉ reserved

/-- The identifiers in a text: the runs of its characters that begin like a name. -/
def tokens (s : String) : List String :=
  ((Text.runs letters.part s.toList).map .ofList).filter fun w => w.toList.head?.any letters.first

variable {letters} {s stem ending : String} {c : Char}

theorem printable_of_isWordChar (h : isWordChar c) : 32 ≤ c.toNat ∧ c.toNat < 127 :=
  of_ascii (P := fun c => 32 ≤ c.toNat ∧ c.toNat < 127) (by decide) h

theorem part_of_isWordChar (h : isWordChar c) : letters.part c := by
  obtain ⟨hlow, hhigh⟩ := printable_of_isWordChar h
  rw [letters.alphabet.ascii c hlow hhigh, h]
  rfl

/-- Of letters and digits the letters are those that a name may begin with. -/
theorem first_iff_isAlpha (h : isWordChar c) : letters.first c ↔ c.isAlpha := by
  obtain ⟨hlow, hhigh⟩ := printable_of_isWordChar h
  have hmark : ¬ (c = '_' ∨ c = '$') := by
    rintro (rfl | rfl) <;> exact absurd h (by decide)
  simp only [letters.ascii c hlow hhigh, Bool.or_eq_true, beq_iff_eq, or_assoc, hmark, or_false]

theorem Spells.ne_empty (h : letters.Spells s) : s ≠ "" := by
  rintro rfl
  exact Bool.false_ne_true h.first

/-- What is spelled like a name is one identifier. -/
theorem Spells.tokens (h : letters.Spells s) : letters.tokens s = [s] := by
  have hword : Text.Word letters.part s.toList :=
    ⟨mt String.toList_eq_nil_iff.1 h.ne_empty, h.parts⟩
  have hruns := Text.runs_append hword (by simp : ¬ ([] : List Char).head?.any letters.part)
  rw [List.append_nil] at hruns
  have hnone : Text.runs letters.part [] = [] := rfl
  rw [Lettering.tokens, hruns, hnone, List.map_singleton, String.ofList_toList]
  exact List.filter_cons_of_pos h.first

theorem Spells.append (h : letters.Spells s) (hending : ∀ c ∈ ending.toList, isWordChar c) :
    letters.Spells (s ++ ending) := by
  obtain ⟨c, hc, hfirst⟩ := (Option.any_eq_true _ _).1 h.first
  constructor
  · rw [String.toList_append, List.head?_append, hc]
    exact hfirst
  · intro d hd
    rw [String.toList_append, List.mem_append] at hd
    exact hd.elim (h.parts d) fun hd => part_of_isWordChar (hending d hd)

/-- What is left of a name without its ending is spelled like a name, if anything is left. -/
theorem Spells.of_append (h : letters.Spells (stem ++ ending)) (hne : stem ≠ "") :
    letters.Spells stem := by
  obtain ⟨c, rest, hstem⟩ := List.exists_cons_of_ne_nil (mt String.toList_eq_nil_iff.1 hne)
  constructor
  · have hfirst := h.first
    rw [String.toList_append, hstem] at hfirst
    rw [hstem]
    exact hfirst
  · intro d hd
    refine h.parts d ?_
    rw [String.toList_append]
    exact List.mem_append_left _ hd

end Lettering

end Groundwork.Name
