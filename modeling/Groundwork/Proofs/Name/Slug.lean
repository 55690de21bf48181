import Groundwork.Proofs.Name
import Groundwork.Proofs.Text.Lowering

/-!
# Slugs and their words

A slug is words of small letters and digits, joined by single hyphens. Every such text is the slug of
itself, and there are no others. The letters and digits of a text are those of its slug, unless a
letter from elsewhere has a small form among them; only two have.
-/

namespace Groundwork

namespace Text.CaseMap

variable {c d : Char} {before rest : List Char} {r : Run} {n m : Nat}

theorem Run.low_le_of_image? (h : r.image? n = some m) :
    r.first ≤ n ∧ n ≤ r.last ∧ r.low ≤ m := by
  unfold image? at h
  split at h
  · rename_i hin
    cases h
    exact ⟨hin.1, hin.2.1, by unfold low; omega⟩
  · cases h

end Text.CaseMap

namespace Name

open Text Text.CaseMap

variable {c d : Char} {before rest cs : List Char} {text : String}

theorem isSlugChar_iff : isSlugChar c ↔ c.isLower ∨ c.isDigit := by
  have hsame : isSlugChar c = (c.isLower || c.isDigit) := rfl
  rw [hsame, Bool.or_eq_true]

theorem isWordChar_iff : isWordChar c ↔ c.isAlphanum := by
  have hupper : isUpperLetter c = c.isUpper := (Bool.decide_and _ _).symm
  have hword : isWordChar c = ((c.isLower || isUpperLetter c) || c.isDigit) := rfl
  have hsame : c.isAlphanum = ((c.isUpper || c.isLower) || c.isDigit) := rfl
  rw [hword, hsame, hupper, Bool.or_comm c.isLower]

theorem isWordChar_of_isSlugChar (h : isSlugChar c) : isWordChar c := by
  simp only [isSlugChar, isWordChar, Bool.or_eq_true] at h ⊢
  exact h.imp_left .inl

/-- What lower case makes of letters and digits, and what it makes letters and digits of. -/
theorem lowerChar_ascii (h : c.toNat < 128) :
    (isWordChar c → lowerChar c = [c.toLower] ∧ isSlugChar c.toLower) ∧
      (¬ isWordChar c → (lowerChar c).any isSlugChar = false) := by
  have htable : ∀ n < 128, (isWordChar (Char.ofNat n) →
      lowerChar (Char.ofNat n) = [(Char.ofNat n).toLower] ∧ isSlugChar (Char.ofNat n).toLower) ∧
        (¬ isWordChar (Char.ofNat n) → (lowerChar (Char.ofNat n)).any isSlugChar = false) := by
    decide +kernel
  have hc := htable c.toNat h
  rwa [Char.ofNat_toNat] at hc

theorem lowerOne_of_isWordChar (h : isWordChar c) (before rest : List Char) :
    lowerOne before c rest = [c.toLower] := by
  have hsigma : c ≠ 'Σ' := by
    rintro rfl
    exact absurd h (by decide)
  rw [lowerOne, if_neg hsigma]
  exact ((lowerChar_ascii (toNat_lt_of_isWordChar h)).1 h).1

-- the Kelvin sign is no letter of a class, but its small form is one of a slug
example : pascal (slug "\u212Aelvin") = "Kelvin" ∧ pascal "\u212Aelvin" = "Elvin" := by
  decide +kernel

/-- Words of small letters and digits, joined by single hyphens; or nothing at all. -/
def Hyphenated (s : String) : Prop :=
  ∃ words : List String, (∀ w ∈ words, w ≠ "" ∧ ∀ c ∈ w.toList, c.isLower ∨ c.isDigit) ∧
    s = "-".intercalate words

theorem hyphenated_iff {s : String} : Hyphenated s ↔
    ∃ words, (∀ word ∈ words, Word isSlugChar word) ∧
      s.toList = List.intercalate ['-'] words := by
  constructor
  · rintro ⟨words, hwords, rfl⟩
    refine ⟨words.map String.toList, fun word hword => ?_, String.toList_intercalate⟩
    obtain ⟨w, hw, rfl⟩ := List.mem_map.1 hword
    obtain ⟨hne, hall⟩ := hwords w hw
    exact ⟨mt String.toList_eq_nil_iff.1 hne, fun c hc => isSlugChar_iff.2 (hall c hc)⟩
  · rintro ⟨words, hwords, hs⟩
    refine ⟨words.map .ofList, fun w hw => ?_, ?_⟩
    · obtain ⟨word, hword, rfl⟩ := List.mem_map.1 hw
      obtain ⟨hne, hall⟩ := hwords word hword
      rw [String.toList_ofList]
      exact ⟨mt String.ofList_eq_empty_iff.1 hne, fun c hc => isSlugChar_iff.1 (hall c hc)⟩
    · have hsame : (words.map String.ofList).map String.toList = words := by simp
      rw [← String.toList_inj, String.toList_intercalate, hsame, hs]
      rfl

theorem hyphenated_slug (text : String) : Hyphenated (slug text) :=
  hyphenated_iff.2 ⟨_, fun _ => word_of_mem_runs, String.toList_ofList⟩

theorem small_of_hyphenated {s : String} (h : Hyphenated s) : ∀ c ∈ s.toList, Small c := by
  obtain ⟨words, hwords, hs⟩ := hyphenated_iff.1 h
  intro c hc
  rw [hs] at hc
  rcases mem_intercalate hc with rfl | ⟨word, hword, hc⟩
  · decide +kernel
  · have hslug := (hwords word hword).all c hc
    exact of_ascii (P := fun c => isSlugChar c → Small c) (by decide +kernel)
      (isWordChar_of_isSlugChar hslug) hslug

/-- Hyphenated words are the slug of themselves, and no other text is. -/
theorem slug_eq_self_iff {s : String} : slug s = s ↔ Hyphenated s := by
  constructor
  · intro h
    rw [← h]
    exact hyphenated_slug s
  · intro h
    obtain ⟨words, hwords, hs⟩ := hyphenated_iff.1 h
    rw [slug, lowerChars, lowerFrom_of_small (small_of_hyphenated h), hs,
      runs_intercalate (by decide) hwords, ← hs, String.ofList_toList]

/-- Hyphens stand between words only, and singly. -/
theorem Hyphenated.hyphens {s : String} (h : Hyphenated s) : s.toList.head? ≠ some '-' ∧
    s.toList.getLast? ≠ some '-' ∧ ¬ ['-', '-'] <:+: s.toList := by
  obtain ⟨words, hwords, hs⟩ := hyphenated_iff.1 h
  rw [hs]
  refine ⟨fun hhead => ?_, fun hlast => ?_, ?_⟩
  · exact absurd (head?_intercalate hwords '-' hhead) (by decide)
  · exact absurd (getLast?_intercalate hwords '-' hlast) (by decide)
  · exact not_infix_of_isChain (isChain_intercalate (by decide) hwords)

/-- The slug is what is left of the text in small letters when a hyphen takes the place of every run
of other characters and the hyphens at both ends are dropped. -/
theorem slug_eq_trimBy (text : String) : slug text
    = trimBy (· = '-') (.ofList (collapse isSlugChar '-' (lower text).toList)) := by
  rw [slug, trimBy, lower, String.toList_ofList, String.toList_ofList,
    trimChars_collapse (by decide)]

theorem pascal_eq_empty_iff : pascal text = "" ↔ ∀ c ∈ text.toList, ¬ isWordChar c := by
  rw [← runs_eq_nil_iff, pascal, String.ofList_eq_empty_iff, List.flatMap_eq_nil_iff]
  constructor
  · intro h
    refine List.eq_nil_iff_forall_not_mem.2 fun word hword => ?_
    obtain ⟨c, rest, rfl⟩ := List.exists_cons_of_ne_nil (word_of_mem_runs hword).ne_nil
    exact absurd (h _ hword) (List.cons_ne_nil _ _)
  · intro h
    rw [h]
    exact List.forall_mem_nil _

theorem mem_lowerFrom_of_isWordChar (h : c ∈ cs) (hc : isWordChar c) (before : List Char) :
    c.toLower ∈ lowerFrom before cs := by
  induction cs generalizing before with
  | nil => cases h
  | cons d rest ih =>
    rw [lowerFrom_cons, List.mem_append]
    rcases List.mem_cons.1 h with rfl | h
    · rw [lowerOne_of_isWordChar hc]
      exact .inl List.mem_cons_self
    · exact .inr (ih h _)

/-- A text with a letter or digit has a slug. -/
theorem slug_ne_empty (h : c ∈ text.toList) (hc : isWordChar c) : slug text ≠ "" := by
  intro hempty
  rw [slug, String.ofList_eq_empty_iff,
    intercalate_eq_nil_iff fun word hword => (word_of_mem_runs hword).ne_nil,
    runs_eq_nil_iff] at hempty
  have hslug := ((lowerChar_ascii (toNat_lt_of_isWordChar hc)).1 hc).2
  exact hempty c.toLower (mem_lowerFrom_of_isWordChar h hc []) hslug

end Name

end Groundwork
