import Groundwork.Proofs.Tree.Making

/-!
# Why a tree refuses a path

A path that cannot be followed is missing, or passes through a file, or is too long, or holds a
character that no name can hold. The last is decided by the path alone, whatever is in the tree.
-/

namespace Groundwork

namespace Tree

variable {t : Tree} {path : Path} {place : Location} {node : Node} {fault : FileFault}

theorem step_error {part : String} (h : t.step place part = .error fault) :
    fault = .missing ∨ fault = .notDirectory ∨
      fault = .nameTooLong ∧ nameLimit < part.utf8ByteSize := by
  unfold step at h
  split at h
  · cases h
    exact .inl rfl
  · cases h
    exact .inr (.inl rfl)
  · split at h
    · cases h
    · split at h
      · rename_i hlong
        cases h
        exact .inr (.inr ⟨rfl, hlong⟩)
      · cases h

theorem steps_error {parts : List String} (h : parts.foldlM t.step place = .error fault) :
    fault = .missing ∨ fault = .notDirectory ∨
      fault = .nameTooLong ∧ ∃ part ∈ parts, nameLimit < part.utf8ByteSize := by
  induction parts generalizing place with
  | nil => cases h
  | cons part rest ih =>
    rw [List.foldlM_cons] at h
    cases hs : t.step place part with
    | error f =>
      rw [hs] at h
      cases h
      exact (step_error hs).imp_right
        (Or.imp_right fun h => ⟨h.1, part, List.mem_cons_self, h.2⟩)
    | ok next =>
      rw [hs] at h
      refine (ih h).imp_right (Or.imp_right ?_)
      rintro ⟨hf, long, hmem, hlong⟩
      exact ⟨hf, long, List.mem_cons_of_mem part hmem, hlong⟩

/-- Whether a path holds a character that no name can hold does not depend on the tree. -/
theorem locate_null : t.locate path = .error .nullCharacter ↔
    path.parts.any (·.toList.contains '\x00') := by
  unfold locate
  constructor
  · intro h
    split at h
    · assumption
    · split at h
      · cases h
      · rcases steps_error h with h | h | h <;> simp at h
  · intro h
    rw [if_pos h]

/-- A path is too long in one of its names, or as a whole. -/
theorem locate_long (h : t.locate path = .error .nameTooLong) :
    pathLimit < path.text.utf8ByteSize ∨ ∃ part ∈ path.parts, nameLimit < part.utf8ByteSize := by
  unfold locate at h
  split at h
  · cases h
  · split at h
    · rename_i hlong
      exact .inl hlong
    · rcases steps_error h with h | h | h
      · cases h
      · cases h
      · exact .inr h.2

theorem inspect_long (h : t.inspect path = .error .nameTooLong) :
    t.locate path = .error .nameTooLong := by
  cases hl : t.locate path with
  | error f =>
    rw [inspect_unlocated hl] at h
    cases h
    rfl
  | ok place =>
    rw [inspect_located hl] at h
    cases hn : t.node? place with
    | none =>
      rw [hn] at h
      cases h
    | some node =>
      rw [hn] at h
      cases h

/-- A question about a path has an answer, unless the path is too long. -/
theorem probe_error {property : Node → Bool} (h : t.probe property path = .error fault) :
    fault = .nameTooLong ∧ t.locate path = .error .nameTooLong := by
  unfold probe at h
  split at h
  · cases h
  · rename_i hi
    cases h
    exact ⟨rfl, inspect_long hi⟩
  · cases h

theorem create_null (h : t.create path node = .error .nullCharacter) :
    t.locate path = .error .nullCharacter := by
  cases hl : t.locate path with
  | error f =>
    rw [create_unlocated hl] at h
    cases h
    rfl
  | ok place =>
    rw [create_located hl] at h
    split at h
    · cases h
    · split at h <;> cases h

theorem acceptDirectory_null (h : t.acceptDirectory path fault = .error .nullCharacter) :
    fault = .nullCharacter := by
  unfold acceptDirectory at h
  split at h
  · cases h
  · cases h
    rfl
  · rename_i hp
    cases h
    cases (probe_error hp).1

theorem ensureLast_null (h : (t.ensureLast path).2 = .error .nullCharacter) :
    path.parts.any (·.toList.contains '\x00') := by
  unfold ensureLast at h
  split at h
  · cases h
  · cases h
  · rename_i hc
    exact locate_null.1 (create_null hc)
  · rename_i hne _
    exact absurd (acceptDirectory_null h) hne

/-- Making a directory only stumbles over a character that no name can hold if its path holds it. -/
theorem ensureDirectory_null (h : (t.ensureDirectory path).2 = .error .nullCharacter) :
    path.parts.any (·.toList.contains '\x00') := by
  fun_induction ensureDirectory t path with
  | case1 path t' hc => cases h
  | case2 path hc hp => cases h
  | case3 path hc hp t' hup ih => exact ensureLast_null h
  | case4 path hc hp t' f hup ih =>
    rw [hup] at ih
    obtain ⟨part, hmem, hnull⟩ := List.any_eq_true.1 (ih h)
    exact List.any_eq_true.2 ⟨part, List.dropLast_subset path.parts hmem, hnull⟩
  | case5 path hc => exact locate_null.1 (create_null hc)
  | case6 path f hm hn hc => exact absurd (acceptDirectory_null h) hn

end Tree

end Groundwork
