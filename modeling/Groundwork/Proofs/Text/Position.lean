import Groundwork.Proofs.Text.Occurrence

/-!
# Positions of occurrences

The searches cut a text. Here the place of a cut is counted in characters: the search for the first
occurrence finds the least position at which the text goes on with the anchor, the search for the
last one the greatest. Overlapping occurrences count, and an empty anchor occurs everywhere.
-/

namespace Groundwork.Text

variable {anchor cs before after : List Char} {c : Char} {i j : Nat}

/-- At a position of a text it goes on with the anchor. -/
def OccursAt (anchor cs : List Char) (i : Nat) : Prop :=
  i ≤ cs.length ∧ anchor <+: cs.drop i

instance (anchor cs : List Char) (i : Nat) : Decidable (OccursAt anchor cs i) :=
  inferInstanceAs (Decidable (_ ∧ _))

theorem occursAt_nil : OccursAt anchor [] i ↔ i = 0 ∧ anchor = [] := by
  simp [OccursAt]

theorem occursAt_zero : OccursAt anchor cs 0 ↔ anchor <+: cs := by
  simp [OccursAt]

theorem occursAt_succ : OccursAt anchor (c :: cs) (i + 1) ↔ OccursAt anchor cs i := by
  simp [OccursAt]

theorem occursAt_iff_append : OccursAt anchor cs i ↔
    ∃ before after, cs = before ++ after ∧ before.length = i ∧ anchor <+: after := by
  constructor
  · rintro ⟨hi, hanchor⟩
    exact ⟨cs.take i, cs.drop i, (List.take_append_drop i cs).symm,
      List.length_take_of_le hi, hanchor⟩
  · rintro ⟨before, after, rfl, rfl, hanchor⟩
    exact ⟨by simp, by rwa [List.drop_left]⟩

theorem exists_occursAt : (∃ i, OccursAt anchor cs i) ↔ anchor <:+: cs := by
  constructor
  · rintro ⟨i, -, hanchor⟩
    exact hanchor.isInfix.trans (List.drop_suffix i cs).isInfix
  · rintro ⟨before, rest, rfl⟩
    refine ⟨before.length, occursAt_iff_append.2 ⟨before, anchor ++ rest, ?_, rfl, ?_⟩⟩
    · rw [List.append_assoc]
    · exact List.prefix_append anchor rest

/-- The least position of an occurrence. -/
structure FirstAt (anchor cs : List Char) (i : Nat) : Prop where
  occurs : OccursAt anchor cs i
  least : ∀ j, OccursAt anchor cs j → i ≤ j

/-- The greatest position of an occurrence. -/
structure LastAt (anchor cs : List Char) (i : Nat) : Prop where
  occurs : OccursAt anchor cs i
  greatest : ∀ j, OccursAt anchor cs j → j ≤ i

theorem FirstAt.unique (h : FirstAt anchor cs i) (h' : FirstAt anchor cs j) : i = j :=
  Nat.le_antisymm (h.least j h'.occurs) (h'.least i h.occurs)

theorem LastAt.unique (h : LastAt anchor cs i) (h' : LastAt anchor cs j) : i = j :=
  Nat.le_antisymm (h'.greatest i h.occurs) (h.greatest j h'.occurs)

theorem firstAt_of_cutFirst? (h : cutFirst? anchor cs = some (before, after)) :
    FirstAt anchor cs before.length := by
  have hcs := append_of_cutFirst? h
  refine ⟨occursAt_iff_append.2 ⟨before, after, hcs.symm, rfl, prefix_of_cutFirst? h⟩, ?_⟩
  clear hcs
  induction cs generalizing before with
  | nil =>
    rw [cutFirst?] at h
    split at h <;> cases h
    exact fun j _ => Nat.zero_le j
  | cons c rest ih =>
    rw [cutFirst?] at h
    split at h
    case isTrue =>
      cases h
      exact fun j _ => Nat.zero_le j
    case isFalse hstart =>
      obtain ⟨⟨before', after'⟩, hrest, he⟩ := Option.map_eq_some_iff.1 h
      cases he
      intro j hj
      cases j with
      | zero => exact absurd (List.isPrefixOf_iff_prefix.2 (occursAt_zero.1 hj)) hstart
      | succ j => exact Nat.succ_le_succ (ih hrest j (occursAt_succ.1 hj))

theorem lastAt_of_cutLast? (h : cutLast? anchor cs = some (before, after)) :
    LastAt anchor cs before.length := by
  have hcs := append_of_cutLast? h
  refine ⟨occursAt_iff_append.2 ⟨before, after, hcs.symm, rfl, prefix_of_cutLast? h⟩, ?_⟩
  clear hcs
  induction cs generalizing before with
  | nil =>
    intro j hj
    rw [(occursAt_nil.1 hj).1]
    exact Nat.zero_le _
  | cons c rest ih =>
    rw [cutLast?] at h
    intro j hj
    split at h
    case h_1 before' after' hrest =>
      cases h
      cases j with
      | zero => exact Nat.zero_le _
      | succ j => exact Nat.succ_le_succ (ih hrest j (occursAt_succ.1 hj))
    case h_2 hrest =>
      -- nothing occurs in the rest, so the text itself begins with the anchor
      cases j with
      | zero => exact Nat.zero_le _
      | succ j =>
        have hin := exists_occursAt.1 ⟨j, occursAt_succ.1 hj⟩
        rw [← cutLast?_isSome, hrest] at hin
        cases hin

end Groundwork.Text
