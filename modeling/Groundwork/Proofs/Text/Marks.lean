import Groundwork.Proofs.Name
import Groundwork.Proofs.Sheet

/-!
# Characters that no name brings in

Names are derived from names: in another case, without an ending, in the plural. A line end, a
brace, a quote or any other character that is neither a letter nor beyond the first 128 is only in
the result if it was there before, or is one of the few that the derivation adds.
-/

namespace Groundwork

namespace Text

/-- A character below 128 that is no letter. Code point zero does not count: it stands for what is
no character. -/
def isMark (c : Char) : Bool :=
  let n := c.toNat
  0 < n && n < 128 && !(65 ≤ n && n ≤ 90) && !(97 ≤ n && n ≤ 122)

namespace CaseMap

variable {c d m : Char} {cs before : List Char} {runs : List Run}
  {expansions : List (Nat × List Nat)} {n : Nat}

/-- Code points that are letters, or no mark for their size. -/
def unmarked (low high : Int) : Bool :=
  128 ≤ low || (65 ≤ low && high ≤ 90) || (97 ≤ low && high ≤ 122)

theorem isMark_ofNat (h : unmarked n n) : isMark (Char.ofNat n) = false := by
  by_cases hvalid : n.isValidChar
  · have hn : (Char.ofNat n).toNat = n :=
      congrArg Char.toNat (dif_pos hvalid : Char.ofNat n = Char.ofNatAux n hvalid)
    rw [← Bool.not_eq_true]
    simp only [unmarked, isMark, hn, Bool.or_eq_true, Bool.and_eq_true, Bool.not_eq_true',
      Bool.and_eq_false_iff, decide_eq_true_eq, decide_eq_false_iff_not] at h ⊢
    omega
  · have hzero : Char.ofNat n = '\x00' := dif_neg hvalid
    rw [hzero]
    decide

/-- A case mapping that leads to no mark of its own leaves marks where they were. -/
theorem eq_of_mark_mem_image (hruns : ∀ r ∈ runs, unmarked (r.first + r.shift) (r.last + r.shift))
    (hexpansions : ∀ e ∈ expansions, ∀ n ∈ e.2, unmarked n n)
    (h : m ∈ image runs expansions c) (hm : isMark m) : m = c := by
  have hno {n : Nat} (hn : unmarked n n) (he : m = Char.ofNat n) : False := by
    rw [he, isMark_ofNat hn] at hm
    cases hm
  unfold image at h
  split at h
  · rename_i target htarget
    obtain ⟨r, hr, himage⟩ := List.exists_of_findSome?_eq_some htarget
    refine (hno ?_ (List.mem_singleton.1 h)).elim
    have hrun := hruns r hr
    unfold Run.image? at himage
    split at himage
    · cases himage
      simp only [unmarked, Bool.or_eq_true, Bool.and_eq_true, decide_eq_true_eq] at hrun ⊢
      omega
    · cases himage
  · split at h
    · rename_i targets hlookup
      obtain ⟨n, hn, he⟩ := List.mem_map.1 h
      exact (hno (hexpansions _ (mem_of_lookup hlookup) n hn) he.symm).elim
    · exact List.mem_singleton.1 h

theorem eq_of_mark_mem_lowerChar (h : m ∈ lowerChar c) (hm : isMark m) : m = c :=
  eq_of_mark_mem_image (by decide +kernel) (by decide) h hm

theorem eq_of_mark_mem_upperChar (h : m ∈ upperChar c) (hm : isMark m) : m = c :=
  eq_of_mark_mem_image (by decide +kernel) (by decide +kernel) h hm

theorem mem_of_mark_mem_lowerFrom (hm : isMark m) (h : m ∈ lowerFrom before cs) : m ∈ cs := by
  induction cs generalizing before with
  | nil => cases h
  | cons c rest ih =>
    rw [lowerFrom, List.mem_append] at h
    rcases h with h | h
    · split at h
      · have hsigma : isMark 'ς' = false ∧ isMark 'σ' = false := by decide
        rw [List.mem_singleton.1 h] at hm
        split at hm
        · rw [hsigma.1] at hm
          cases hm
        · rw [hsigma.2] at hm
          cases hm
      · exact eq_of_mark_mem_lowerChar h hm ▸ List.mem_cons_self
    · exact List.mem_cons_of_mem c (ih h)

end CaseMap

end Text

namespace Name

open Text CaseMap

variable {c m : Char} {s suffix : String}

theorem mem_onFirst {change : Char → List Char} (hchange : ∀ c, m ∈ change c → m = c)
    {cs : List Char} (h : m ∈ onFirst change cs) : m ∈ cs := by
  cases cs with
  | nil => cases h
  | cons c rest =>
    rw [onFirst, List.mem_append] at h
    rcases h with h | h
    · exact hchange c h ▸ List.mem_cons_self
    · exact List.mem_cons_of_mem c h

theorem mem_lowerFirst (hm : isMark m) (h : m ∈ (lowerFirst s).toList) : m ∈ s.toList := by
  rw [lowerFirst, String.toList_ofList] at h
  exact mem_onFirst (fun c hc => eq_of_mark_mem_lowerChar hc hm) h

theorem mem_upperFirst (hm : isMark m) (h : m ∈ (upperFirst s).toList) : m ∈ s.toList := by
  rw [upperFirst, String.toList_ofList] at h
  exact mem_onFirst (fun c hc => eq_of_mark_mem_upperChar hc hm) h

/-- A text of letters has no marks. -/
theorem not_mem_of_letters {letters : String} (hletters : letters.toList.all fun c => !isMark c)
    (hm : isMark m) : m ∉ letters.toList := by
  intro h
  have hno := List.all_eq_true.1 hletters m h
  rw [hm] at hno
  cases hno

theorem mem_append_letters {letters : String} (hletters : letters.toList.all fun c => !isMark c)
    (hm : isMark m) (h : m ∈ (s ++ letters).toList) : m ∈ s.toList := by
  rw [String.toList_append, List.mem_append] at h
  exact h.resolve_right (not_mem_of_letters hletters hm)

theorem mem_collection (hm : isMark m) (h : m ∈ (collection s).toList) : m ∈ s.toList :=
  mem_lowerFirst hm (mem_append_letters (by decide) hm h)

theorem mem_separateWords {cs : List Char} (h : c ∈ separateWords cs) : c = '_' ∨ c ∈ cs := by
  fun_induction separateWords cs with
  | case1 => cases h
  | case2 d => exact .inr h
  | case3 d e rest hpair ih =>
    simp only [List.mem_cons] at h ⊢
    rcases h with h | h | h | h
    · exact .inr (.inl h)
    · exact .inl h
    · exact .inr (.inr (.inl h))
    · exact (ih h).imp_right fun h => .inr (.inr h)
  | case4 d e rest hpair ih =>
    rcases List.mem_cons.1 h with rfl | h
    · exact .inr List.mem_cons_self
    · exact (ih h).imp_right (List.mem_cons_of_mem d)

theorem mem_plural (hm : isMark m) (h : m ∈ (plural s).toList) : m ∈ s.toList := by
  unfold plural at h
  split at h
  · rename_i stem hstem
    rw [dropEnding?_eq_some.1 hstem, String.toList_append]
    exact List.mem_append_left _ (mem_append_letters (by decide) hm h)
  · split at h
    · exact mem_append_letters (by decide) hm h
    · exact mem_append_letters (by decide) hm h

theorem mem_table (hm : isMark m) (h : m ∈ (table s).toList) : m = '_' ∨ m ∈ s.toList := by
  have hsmall := mem_plural hm h
  rw [String.toList_ofList] at hsmall
  exact mem_separateWords (mem_of_mark_mem_lowerFrom hm hsmall)

theorem mem_served (hm : isMark m) (h : m ∈ (served s suffix).toList) : m ∈ s.toList := by
  have hmodel (h : m ∈ (s ++ "Model").toList) : m ∈ s.toList :=
    mem_append_letters (by decide) hm h
  unfold served at h
  split at h
  · exact hmodel h
  · cases hstem : dropEnding? s suffix with
    | none =>
      rw [hstem] at h
      exact hmodel h
    | some stem =>
      rw [hstem] at h
      rw [dropEnding?_eq_some.1 hstem, String.toList_append]
      exact List.mem_append_left _ h

end Name

theorem ControllerSheet.mem_normalPath {c : Char} {path : String}
    (h : c ∈ (normalPath path).toList) : c = '/' ∨ c ∈ path.toList := by
  unfold normalPath at h
  dsimp only at h
  split at h
  · cases h
  · rw [String.toList_append, List.mem_append] at h
    rcases h with h | h
    · exact .inl (List.mem_singleton.1 h)
    · exact .inr (Text.mem_of_mem_trim (Text.mem_of_mem_trimBy h))

end Groundwork
