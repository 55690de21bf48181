import Groundwork.Proofs.Result
import Groundwork.Proofs.Text.Trimming
import Groundwork.Text.CaseMap

/-!
# Trimmed texts in lower case

Small letters have no smaller ones: no code point that a case mapping leads to is one that it starts
from, and none of them is a blank. So a text that was trimmed and put in lower case once stays as it
is.
-/

namespace Groundwork

namespace Text

namespace CaseMap

namespace Run

variable {r r' : Run} {n m : Nat}

/-- The first and the last code point that a run leads to. -/
def low (r : Run) : Nat := (r.first + r.shift).toNat

def high (r : Run) : Nat := (r.last + r.shift).toNat

/-- No code point that the first run leads to is covered by the second. Runs with the same steps
may lie between each other. -/
def misses (r r' : Run) : Bool :=
  Nat.blt r.high r'.first || Nat.blt r'.last r.low ||
    (Nat.beq r'.step 2 && (Nat.beq r.step 2 || Nat.beq r.first r.last) &&
      Nat.beq ((r.low + r'.first) % 2) 1)

theorem image?_of_misses (hlow : 0 ≤ r.first + r.shift) (h : r.misses r')
    (himage : r.image? n = some m) : r'.image? m = none := by
  unfold image? at himage ⊢
  split at himage
  case isFalse => cases himage
  case isTrue hin =>
    obtain ⟨hfirst, hlast, hstep⟩ := hin
    cases himage
    refine if_neg ?_
    rintro ⟨hfirst', hlast', hstep'⟩
    simp only [misses, low, high, Bool.or_eq_true, Bool.and_eq_true, Nat.blt_eq, Nat.beq_eq] at h
    rcases h with (h | h) | ⟨⟨htwo', htwo | hone⟩, hodd⟩
    · omega
    · omega
    · rw [htwo] at hstep
      rw [htwo'] at hstep'
      omega
    · rw [htwo'] at hstep'
      omega

end Run

/-- What no small letter is: a letter with two small ones, no character at all, or a blank. -/
def foreignRuns : List Run :=
  ⟨0x130, 0x130, 1, 0⟩ :: ⟨0xD800, 0xDFFF, 1, 0⟩ ::
    blankSpans.map fun (first, last) => ⟨first, last, 1, 0⟩

theorem lowerRuns_final : lowerRuns.all fun r =>
    decide (0 ≤ r.first + r.shift) && decide (r.last + r.shift < 0x110000) &&
      (foreignRuns ++ lowerRuns).all r.misses := by
  decide +kernel

variable {c d : Char} {cs before : List Char} {r r' : Run} {n m : Nat}

/-- Where a run of small letters leads to, no other run goes on. -/
theorem image?_of_lowerRun (hr : r ∈ lowerRuns) (hr' : r' ∈ foreignRuns ++ lowerRuns)
    (h : r.image? n = some m) : r'.image? m = none := by
  have hall := List.all_eq_true.1 lowerRuns_final r hr
  simp only [Bool.and_eq_true, decide_eq_true_eq] at hall
  exact Run.image?_of_misses hall.1.1 (List.all_eq_true.1 hall.2 r' hr') h

theorem toNat_target (hr : r ∈ lowerRuns) (h : r.image? n = some m) :
    (Char.ofNat m).toNat = m := by
  have hall := List.all_eq_true.1 lowerRuns_final r hr
  simp only [Bool.and_eq_true, decide_eq_true_eq] at hall
  obtain ⟨⟨hlow, hbound⟩, -⟩ := hall
  have hmem : (⟨0xD800, 0xDFFF, 1, 0⟩ : Run) ∈ foreignRuns ++ lowerRuns :=
    List.mem_append_left _ (List.mem_cons_of_mem _ List.mem_cons_self)
  have hsurrogates := image?_of_lowerRun hr hmem h
  have hvalid : m.isValidChar := by
    unfold Run.image? at h hsurrogates
    split at h
    · cases h
      split at hsurrogates
      · cases hsurrogates
      · simp only [Nat.mod_one, and_true, not_and, Nat.not_le] at *
        unfold Nat.isValidChar
        omega
    · cases h
  exact congrArg Char.toNat (dif_pos hvalid : Char.ofNat m = Char.ofNatAux m hvalid)

/-- A character that lower case leaves alone, wherever it stands. -/
def Small (c : Char) : Prop :=
  c ≠ 'Σ' ∧ lowerChar c = [c]

instance (c : Char) : Decidable (Small c) :=
  inferInstanceAs (Decidable (_ ∧ _))

theorem small_of_uncovered (h : ∀ r ∈ lowerRuns, r.image? c.toNat = none)
    (hno : c.toNat ≠ 0x130) : Small c := by
  have hnone : lowerRuns.findSome? (·.image? c.toNat) = none := List.findSome?_eq_none_iff.2 h
  constructor
  · rintro rfl
    have hsigma : (lowerRuns.findSome? (·.image? 'Σ'.toNat)).isSome := by decide +kernel
    rw [hnone] at hsigma
    cases hsigma
  · have hlookup : lowerExpansions.lookup c.toNat = none := by
      rw [lowerExpansions, List.lookup_cons, beq_eq_false_iff_ne.2 hno]
      rfl
    rw [lowerChar, image, hnone]
    dsimp only
    rw [hlookup]

/-- Where a character of the lower case comes from. -/
theorem lowerChar_cases (h : d ∈ lowerChar c) :
    (∃ r ∈ lowerRuns, r.image? c.toNat = some d.toNat) ∨
      (c.toNat = 0x130 ∧ d ∈ ['i', '\u0307']) ∨ (d = c ∧ lowerChar c = [c]) := by
  rw [lowerChar, image] at h
  cases hrun : lowerRuns.findSome? (·.image? c.toNat) with
  | some target =>
    rw [hrun] at h
    obtain ⟨r, hr, himage⟩ := List.exists_of_findSome?_eq_some hrun
    rw [List.mem_singleton.1 h, toNat_target hr himage]
    exact .inl ⟨r, hr, himage⟩
  | none =>
    rw [hrun] at h
    dsimp only at h
    cases hlookup : lowerExpansions.lookup c.toNat with
    | some targets =>
      have hmem := mem_of_lookup hlookup
      rw [lowerExpansions, List.mem_singleton, Prod.mk.injEq] at hmem
      rw [hlookup, hmem.2] at h
      exact .inr (.inl ⟨hmem.1, h⟩)
    | none =>
      rw [hlookup] at h
      refine .inr (.inr ⟨List.mem_singleton.1 h, ?_⟩)
      rw [lowerChar, image, hrun]
      dsimp only
      rw [hlookup]

theorem small_of_mem_lowerChar (hc : c ≠ 'Σ') (h : d ∈ lowerChar c) : Small d := by
  rcases lowerChar_cases h with ⟨r, hr, himage⟩ | ⟨-, hd⟩ | ⟨rfl, hself⟩
  · refine small_of_uncovered (fun r' hr' => ?_) fun hdotted => ?_
    · exact image?_of_lowerRun hr (List.mem_append_right _ hr') himage
    · have hmem : (⟨0x130, 0x130, 1, 0⟩ : Run) ∈ foreignRuns ++ lowerRuns :=
        List.mem_append_left _ List.mem_cons_self
      have hnone := image?_of_lowerRun hr hmem himage
      rw [hdotted] at hnone
      cases hnone
  · have hsmall : Small 'i' ∧ Small '\u0307' := by decide +kernel
    simp only [List.mem_cons, List.not_mem_nil, or_false] at hd
    rcases hd with rfl | rfl
    · exact hsmall.1
    · exact hsmall.2
  · exact ⟨hc, hself⟩

theorem lowerChar_ne_nil (c : Char) : lowerChar c ≠ [] := by
  unfold lowerChar image
  split
  · exact List.cons_ne_nil _ _
  · split
    · rename_i targets hlookup
      have hmem := mem_of_lookup hlookup
      rw [lowerExpansions, List.mem_singleton, Prod.mk.injEq] at hmem
      rw [hmem.2]
      exact List.cons_ne_nil _ _
    · exact List.cons_ne_nil _ _

/-- Lower case makes no blanks. -/
theorem eq_of_blank_mem_lowerChar (h : d ∈ lowerChar c) (hblank : isBlank d) : d = c := by
  rcases lowerChar_cases h with ⟨r, hr, himage⟩ | ⟨-, hd⟩ | ⟨rfl, -⟩
  · obtain ⟨span, hspan, hin⟩ := List.any_eq_true.1 hblank
    have hmem : (⟨span.1, span.2, 1, 0⟩ : Run) ∈ foreignRuns ++ lowerRuns := by
      refine List.mem_append_left _ (List.mem_cons_of_mem _ (List.mem_cons_of_mem _ ?_))
      exact List.mem_map.2 ⟨span, hspan, rfl⟩
    have hnone := image?_of_lowerRun hr hmem himage
    rw [Bool.and_eq_true, decide_eq_true_eq, decide_eq_true_eq] at hin
    unfold Run.image? at hnone
    rw [if_pos ⟨hin.1, hin.2, Nat.mod_one _⟩] at hnone
    cases hnone
  · have hno : ¬ isBlank 'i' ∧ ¬ isBlank '\u0307' := by decide
    simp only [List.mem_cons, List.not_mem_nil, or_false] at hd
    rcases hd with rfl | rfl
    · exact absurd hblank hno.1
    · exact absurd hblank hno.2
  · rfl

/-- What one character becomes, behind others and in front of others. -/
def lowerOne (before : List Char) (c : Char) (rest : List Char) : List Char :=
  if c = 'Σ' then [if meetsCased before && !meetsCased rest then 'ς' else 'σ'] else lowerChar c

theorem lowerFrom_cons (before : List Char) (c : Char) (rest : List Char) :
    lowerFrom before (c :: rest) = lowerOne before c rest ++ lowerFrom (c :: before) rest := rfl

theorem mem_lowerOne {rest : List Char} (h : d ∈ lowerOne before c rest) :
    Small d ∧ (isBlank d → d = c) := by
  unfold lowerOne at h
  split at h
  · have hsigma : (Small 'ς' ∧ ¬ isBlank 'ς') ∧ Small 'σ' ∧ ¬ isBlank 'σ' := by decide +kernel
    rw [List.mem_singleton.1 h]
    split
    · exact ⟨hsigma.1.1, fun hblank => absurd hblank hsigma.1.2⟩
    · exact ⟨hsigma.2.1, fun hblank => absurd hblank hsigma.2.2⟩
  · exact ⟨small_of_mem_lowerChar ‹_› h, eq_of_blank_mem_lowerChar h⟩

theorem lowerOne_ne_nil (before : List Char) (c : Char) (rest : List Char) :
    lowerOne before c rest ≠ [] := by
  unfold lowerOne
  split
  · exact List.cons_ne_nil _ _
  · exact lowerChar_ne_nil c

theorem small_of_mem_lowerFrom (h : d ∈ lowerFrom before cs) : Small d := by
  induction cs generalizing before with
  | nil => cases h
  | cons c rest ih =>
    rw [lowerFrom_cons, List.mem_append] at h
    rcases h with h | h
    · exact (mem_lowerOne h).1
    · exact ih h

theorem lowerFrom_of_small (h : ∀ c ∈ cs, Small c) (before : List Char) :
    lowerFrom before cs = cs := by
  induction cs generalizing before with
  | nil => rfl
  | cons c rest ih =>
    obtain ⟨⟨hsigma, hself⟩, hrest⟩ := List.forall_mem_cons.1 h
    rw [lowerFrom_cons, lowerOne, if_neg hsigma, hself, ih hrest]
    rfl

theorem isBlank_of_lowerOne {rest : List Char} (h : d ∈ lowerOne before c rest)
    (hblank : isBlank d) : isBlank c :=
  (mem_lowerOne h).2 hblank ▸ hblank

/-- Lower case has no blank at an end where there was none. -/
theorem head?_lowerFrom (h : (lowerFrom before cs).head?.any isBlank) :
    cs.head?.any isBlank := by
  cases cs with
  | nil => exact h
  | cons c rest =>
    obtain ⟨d, later, hlowered⟩ := List.exists_cons_of_ne_nil (lowerOne_ne_nil before c rest)
    rw [lowerFrom_cons, hlowered] at h
    exact isBlank_of_lowerOne (hlowered ▸ List.mem_cons_self) h

theorem getLast?_lowerFrom (h : (lowerFrom before cs).getLast?.any isBlank) :
    cs.getLast?.any isBlank := by
  induction cs generalizing before with
  | nil => exact h
  | cons c rest ih =>
    rw [lowerFrom_cons] at h
    cases rest with
    | nil =>
      rw [lowerFrom, List.append_nil] at h
      obtain ⟨d, hd, hblank⟩ := (Option.any_eq_true _ _).1 h
      exact isBlank_of_lowerOne (List.mem_of_getLast? hd) hblank
    | cons c' rest' =>
      have hne : lowerFrom (c :: before) (c' :: rest') ≠ [] := by
        rw [lowerFrom_cons]
        exact List.append_ne_nil_of_left_ne_nil (lowerOne_ne_nil _ _ _) _
      rw [List.getLast?_append, List.getLast?_eq_some_getLast hne, Option.some_or,
        ← List.getLast?_eq_some_getLast hne] at h
      rw [List.getLast?_cons_cons]
      exact ih h

end CaseMap

variable {cs : List Char}

/-- A text without blanks at its ends. -/
structure Trimmed (cs : List Char) : Prop where
  head : ¬ cs.head?.any isBlank
  last : ¬ cs.getLast?.any isBlank

theorem Trimmed.trimChars (h : Trimmed cs) : trimChars isBlank cs = cs :=
  trimChars_of_ends h.head h.last

theorem trimmed_trimChars (cs : List Char) : Trimmed (trimChars isBlank cs) :=
  ⟨head?_trimChars isBlank cs, getLast?_trimChars isBlank cs⟩

theorem trim_trim (s : String) : trim (trim s) = trim s := by
  simp only [trim, trimBy, String.toList_ofList, (trimmed_trimChars s.toList).trimChars]

theorem trim_eq_self_iff {s : String} : trim s = s ↔ Trimmed s.toList := by
  rw [trim, trimBy, ← String.toList_inj, String.toList_ofList]
  constructor
  · intro h
    rw [← h]
    exact trimmed_trimChars s.toList
  · exact Trimmed.trimChars

theorem lower_lower (s : String) : lower (lower s) = lower s := by
  rw [lower, lower, String.toList_ofList]
  exact congrArg String.ofList
    (CaseMap.lowerFrom_of_small (fun _ h => CaseMap.small_of_mem_lowerFrom h) [])

/-- Lower case leaves nothing to trim where there was nothing. -/
theorem trim_lower_trim (s : String) : trim (lower (trim s)) = lower (trim s) := by
  have htrim : Trimmed (trim s).toList := trim_eq_self_iff.1 (trim_trim s)
  rw [trim_eq_self_iff, lower, String.toList_ofList]
  exact ⟨fun h => htrim.head (CaseMap.head?_lowerFrom h),
    fun h => htrim.last (CaseMap.getLast?_lowerFrom h)⟩

end Text

end Groundwork
