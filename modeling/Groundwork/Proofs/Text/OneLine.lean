import Groundwork.Proofs.Text.Marks

/-!
# Texts in one line

A text without line ends keeps to one line in every name that is derived from it: no change of case
makes a line end out of another character.
-/

namespace Groundwork

namespace Text

variable {s s' : String}

/-- A text without line ends of any kind. -/
structure OneLine (s : String) : Prop where
  no_end : '\n' ∉ s.toList
  no_return : '\r' ∉ s.toList

instance (s : String) : Decidable (OneLine s) :=
  decidable_of_iff ('\n' ∉ s.toList ∧ '\r' ∉ s.toList)
    ⟨fun h => ⟨h.1, h.2⟩, fun h => ⟨h.no_end, h.no_return⟩⟩

theorem OneLine.append (h : OneLine s) (h' : OneLine s') : OneLine (s ++ s') := by
  constructor
  · rw [String.toList_append, List.mem_append, not_or]
    exact ⟨h.no_end, h'.no_end⟩
  · rw [String.toList_append, List.mem_append, not_or]
    exact ⟨h.no_return, h'.no_return⟩

/-- A text whose marks are those of a text in one line, or others than line ends. -/
theorem OneLine.of_marks (h : OneLine s)
    (hmarks : ∀ m, isMark m → m ∈ s'.toList → m = '_' ∨ m ∈ s.toList) : OneLine s' := by
  constructor
  · intro hin
    exact h.no_end ((hmarks '\n' (by decide) hin).resolve_left (by decide))
  · intro hin
    exact h.no_return ((hmarks '\r' (by decide) hin).resolve_left (by decide))

end Text

namespace Name

open Text

variable {s : String}

theorem oneLine_lowerFirst (h : OneLine s) : OneLine (lowerFirst s) :=
  h.of_marks fun _ hm hin => .inr (mem_lowerFirst hm hin)

theorem oneLine_collection (h : OneLine s) : OneLine (collection s) :=
  h.of_marks fun _ hm hin => .inr (mem_collection hm hin)

theorem oneLine_table (h : OneLine s) : OneLine (table s) :=
  h.of_marks fun _ hm hin => mem_table hm hin

end Name

end Groundwork
