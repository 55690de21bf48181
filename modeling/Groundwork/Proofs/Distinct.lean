import Groundwork.Field.Token
import Mathlib.Data.List.Sort
import Mathlib.Data.String.Basic

/-!
# Lists without repeats

Of a list without its repeats each text counts where it is first. Put in order, the list is given by
what is in it.
-/

namespace Groundwork

theorem nodup_eraseDups {α : Type} [BEq α] [LawfulBEq α] (as : List α) : as.eraseDups.Nodup := by
  cases as with
  | nil => exact List.nodup_nil
  | cons a rest =>
    rw [List.eraseDups_cons, List.nodup_cons]
    refine ⟨fun h => ?_, nodup_eraseDups (rest.filter fun b => !b == a)⟩
    have hkept := (List.mem_filter.1 (List.mem_eraseDups.1 h)).2
    simp at hkept
termination_by as.length
decreasing_by exact Nat.lt_succ_of_le (List.length_filter_le _ _)

theorem eraseDups_of_nodup {α : Type} [BEq α] [LawfulBEq α] {as : List α} (h : as.Nodup) :
    as.eraseDups = as := by
  induction as with
  | nil => rfl
  | cons a rest ih =>
    obtain ⟨hnew, hrest⟩ := List.nodup_cons.1 h
    have hkept : rest.filter (fun b => !b == a) = rest := List.filter_eq_self.2 fun b hb => by
      have hne : b ≠ a := fun hba => hnew (hba ▸ hb)
      simpa using hne
    rw [List.eraseDups_cons, hkept, ih hrest]

theorem eraseDups_append_cons_of_mem {α : Type} [BEq α] [LawfulBEq α] {as : List α} {a : α}
    (h : a ∈ as) (rest : List α) : (as ++ a :: rest).eraseDups = (as ++ rest).eraseDups := by
  rw [List.eraseDups_append, List.eraseDups_append, List.cons_removeAll, if_neg]
  simpa using h

namespace Field

variable {texts : List String} {s : String}

@[simp] theorem mem_sortedSet : s ∈ sortedSet texts ↔ s ∈ texts := by
  rw [sortedSet, List.mem_mergeSort, List.mem_eraseDups]

theorem sortedLT_sortedSet (texts : List String) : (sortedSet texts).SortedLT := by
  have hle : (sortedSet texts).Pairwise fun s t => decide (s ≤ t) = true := by
    refine List.pairwise_mergeSort (fun s t u hst htu => ?_) (fun s t => ?_) _
    · rw [decide_eq_true_eq] at hst htu ⊢
      exact hst.trans htu
    · rw [Bool.or_eq_true, decide_eq_true_eq, decide_eq_true_eq]
      exact le_total s t
  have hnodup : (sortedSet texts).Nodup :=
    (List.mergeSort_perm _ _).nodup_iff.2 (nodup_eraseDups texts)
  refine List.sortedLT_iff_nodup_and_sortedLE.2 ⟨hnodup, ?_⟩
  exact (hle.imp of_decide_eq_true).sortedLE

end Field

end Groundwork
