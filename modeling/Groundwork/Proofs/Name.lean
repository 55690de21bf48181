import Groundwork.Name
import Groundwork.Path
import Groundwork.Proofs.Text.Words
import Groundwork.Sheet.Project

/-!
# Names that name files

What is left of the name of a project is words of letters and digits, joined or separated by
hyphens, so the names of its directory and of its main class are plain parts of a path.
-/

namespace Groundwork

namespace Name

variable {c : Char} {text : String}

theorem toNat_lt_of_isWordChar (h : isWordChar c) : c.toNat < 128 := by
  simp only [isWordChar, isLowerLetter, isUpperLetter, isDigit, Bool.or_eq_true,
    Bool.and_eq_true, decide_eq_true_eq, Char.le_def, UInt32.le_iff_toNat_le] at h
  have hz : 'z'.val.toNat = 122 := rfl
  have hZ : 'Z'.val.toNat = 90 := rfl
  have h9 : '9'.val.toNat = 57 := rfl
  show c.val.toNat < 128
  omega

/-- What holds of the letters and digits in the table of ASCII characters holds of all there are. -/
theorem of_ascii {P : Char → Prop} (h : ∀ n < 128, isWordChar (Char.ofNat n) → P (Char.ofNat n))
    (hc : isWordChar c) : P c := by
  have hrow := h c.toNat (toNat_lt_of_isWordChar hc)
  rw [Char.ofNat_toNat] at hrow
  exact hrow hc

/-- The letters of a word stay letters when they are made capital or small. -/
theorem isWordChar_change (h : isWordChar c) : isWordChar c.toUpper ∧ isWordChar c.toLower :=
  of_ascii (P := fun c => isWordChar c.toUpper ∧ isWordChar c.toLower) (by decide) h

theorem isWordChar_of_mem_pascal (h : c ∈ (pascal text).toList) : isWordChar c := by
  rw [pascal, String.toList_ofList, List.mem_flatMap] at h
  obtain ⟨run, hrun, hc⟩ := h
  have hword := (Text.word_of_mem_runs hrun).all
  cases run with
  | nil => cases hc
  | cons first rest =>
    rcases List.mem_cons.1 hc with rfl | hc
    · exact (isWordChar_change (hword first List.mem_cons_self)).1
    · obtain ⟨d, hd, rfl⟩ := List.mem_map.1 hc
      exact (isWordChar_change (hword d (List.mem_cons_of_mem _ hd))).2

theorem isSlugChar_of_mem_slug (h : c ∈ (slug text).toList) : c = '-' ∨ isSlugChar c := by
  rw [slug, String.toList_ofList] at h
  rcases Text.mem_intercalate h with h | ⟨run, hrun, hc⟩
  · exact .inl h
  · exact .inr ((Text.word_of_mem_runs hrun).all c hc)

theorem plain_of_mem {s : String} (hne : s ≠ "") (hpoint : '.' ∉ s.toList)
    (hslash : '/' ∉ s.toList) : Path.Plain s ∧ s ≠ ".." := by
  refine ⟨⟨hne, ?_, hslash⟩, ?_⟩
  · rintro rfl
    exact hpoint (by decide)
  · rintro rfl
    exact hpoint (by decide)

/-- A slug that is not empty names a directory. -/
theorem plain_slug (h : slug text ≠ "") : Path.Plain (slug text) ∧ slug text ≠ ".." := by
  refine plain_of_mem h (fun hc => ?_) fun hc => ?_
  · rcases isSlugChar_of_mem_slug hc with hc | hc
    · exact absurd hc (by decide)
    · exact absurd hc (by decide)
  · rcases isSlugChar_of_mem_slug hc with hc | hc
    · exact absurd hc (by decide)
    · exact absurd hc (by decide)

end Name

namespace ProjectSheet

variable {b : Blueprint} {s : ProjectSheet}

/-- What the sheet of a project takes from its name and package. -/
structure Drawn (b : Blueprint) (s : ProjectSheet) : Prop where
  name : s.name = b.title
  artifact : s.artifact = Name.slug b.title
  artifact_ne : s.artifact ≠ ""
  classPrefix : s.classPrefix = Name.pascal b.title
  classPrefix_ne : s.classPrefix ≠ ""
  basePackage : s.basePackage = if b.package = "" then usualPackage else b.package

theorem drawn (h : ofBlueprint b = .ok s) : Drawn b s := by
  unfold ofBlueprint at h
  dsimp only at h
  split at h
  · cases h
  · rename_i hne
    simp only [Bool.or_eq_true, decide_eq_true_eq, not_or] at hne
    split at h
    · cases hn : Value.needed (Dependency.normalizeValue (b.option "dependencies" .null)) with
      | error f =>
        rw [hn] at h
        cases h
      | ok names =>
        rw [hn] at h
        cases h
        exact ⟨rfl, rfl, hne.1, rfl, hne.2, rfl⟩
    · cases h
      exact ⟨rfl, rfl, hne.1, rfl, hne.2, rfl⟩

theorem mainClass_chars (hs : Drawn b s) {c : Char} (h : c ∈ s.mainClass.toList) :
    Name.isWordChar c := by
  rw [mainClass, String.toList_append, List.mem_append, hs.classPrefix] at h
  rcases h with h | h
  · exact Name.isWordChar_of_mem_pascal h
  · have happlication : "Application".toList.all Name.isWordChar = true := by decide
    exact List.all_eq_true.1 happlication c h

end ProjectSheet

end Groundwork
