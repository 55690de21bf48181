import Groundwork.Text.Blank
import Mathlib.Data.List.TakeWhile

/-!
# Trimming

Trimming takes the characters of a class away from both ends of a text, however many there are, and
stops at the first character outside the class.
-/

namespace Groundwork.Text

variable {p : Char → Bool} {c : Char} {front cs back : List Char}

theorem dropWhile_of_head (h : ¬ cs.head?.any p) : cs.dropWhile p = cs := by
  cases cs with
  | nil => rfl
  | cons c rest => exact List.dropWhile_cons_of_neg (by simpa using h)

theorem head?_dropWhile (p : Char → Bool) (cs : List Char) : ¬ (cs.dropWhile p).head?.any p := by
  have hnot := List.head?_dropWhile_not p cs
  cases hd : (cs.dropWhile p).head? with
  | none => simp
  | some c =>
    rw [hd] at hnot
    simpa using hnot

theorem trimChars_of_ends (hhead : ¬ cs.head?.any p) (hlast : ¬ cs.getLast?.any p) :
    trimChars p cs = cs := by
  have hback : ¬ cs.reverse.head?.any p := by
    rw [List.head?_reverse]
    exact hlast
  rw [trimChars, dropWhile_of_head hhead, dropWhile_of_head hback, List.reverse_reverse]

theorem getLast?_trimChars (p : Char → Bool) (cs : List Char) :
    ¬ (trimChars p cs).getLast?.any p := by
  rw [trimChars, List.getLast?_reverse]
  exact head?_dropWhile p _

/-- Trimming takes characters of the class away, and nothing else. -/
theorem trimChars_split (p : Char → Bool) (cs : List Char) :
    ∃ front back, cs = front ++ trimChars p cs ++ back ∧ (∀ c ∈ front, p c) ∧ ∀ c ∈ back, p c := by
  refine ⟨cs.takeWhile p, ((cs.dropWhile p).reverse.takeWhile p).reverse, ?_,
    fun c hc => List.mem_takeWhile_imp hc,
    fun c hc => List.mem_takeWhile_imp (List.mem_reverse.1 hc)⟩
  rw [trimChars, List.append_assoc, ← List.reverse_append, List.takeWhile_append_dropWhile,
    List.reverse_reverse, List.takeWhile_append_dropWhile]

/-- Trimming at the end does not bring back what was trimmed at the start. -/
theorem head?_trimChars (p : Char → Bool) (cs : List Char) : ¬ (trimChars p cs).head?.any p := by
  intro h
  rw [trimChars, List.head?_reverse] at h
  obtain ⟨c, hc, hclass⟩ := (Option.any_eq_true _ _).1 h
  obtain ⟨front, hfront⟩ := List.dropWhile_suffix p (l := (cs.dropWhile p).reverse)
  have hlast : (cs.dropWhile p).reverse.getLast? = some c := by
    rw [← hfront, List.getLast?_append, hc]
    rfl
  rw [List.getLast?_reverse] at hlast
  refine head?_dropWhile p cs ?_
  rw [hlast]
  exact hclass

/-- What is trimmed does not depend on what of the class stands around it. -/
theorem trimChars_surround (hfront : ∀ c ∈ front, p c) (hback : ∀ c ∈ back, p c) :
    trimChars p (front ++ cs ++ back) = trimChars p cs := by
  have hbehind : back.dropWhile p = [] := List.dropWhile_eq_nil_iff.2 hback
  have hreverse : ∀ c ∈ back.reverse, p c := fun c hc => hback c (List.mem_reverse.1 hc)
  rw [trimChars, trimChars, List.append_assoc, List.dropWhile_append_of_pos hfront,
    List.dropWhile_append]
  split
  · rename_i hempty
    rw [List.isEmpty_iff.1 hempty, hbehind]
  · rw [List.reverse_append, List.dropWhile_append_of_pos hreverse]

theorem dropWhile_concat (hc : ¬ p c) : (cs ++ [c]).dropWhile p = cs.dropWhile p ++ [c] := by
  rw [List.dropWhile_append, List.dropWhile_cons_of_neg hc]
  split
  · rename_i hempty
    rw [List.isEmpty_iff.1 hempty, List.nil_append]
  · rfl

/-- A character outside the class that stands last stays there. -/
theorem trimChars_concat (hc : ¬ p c) : trimChars p (cs ++ [c]) = cs.dropWhile p ++ [c] := by
  rw [trimChars, dropWhile_concat hc, List.reverse_append, List.reverse_singleton,
    List.singleton_append, List.dropWhile_cons_of_neg hc, List.reverse_cons, List.reverse_reverse]

/-- A character outside the class that stands first stays there. -/
theorem trimChars_cons (hc : ¬ p c) :
    trimChars p (c :: cs) = c :: (cs.reverse.dropWhile p).reverse := by
  rw [trimChars, List.dropWhile_cons_of_neg hc, List.reverse_cons, dropWhile_concat hc,
    List.reverse_append, List.reverse_singleton, List.singleton_append]

theorem length_trimChars_le (p : Char → Bool) (cs : List Char) :
    (trimChars p cs).length ≤ cs.length := by
  obtain ⟨front, back, hcs, -, -⟩ := trimChars_split p cs
  have hlength := congrArg List.length hcs
  rw [List.length_append, List.length_append] at hlength
  omega

theorem mem_of_mem_trimChars (h : c ∈ trimChars p cs) : c ∈ cs := by
  rw [trimChars, List.mem_reverse] at h
  have hstart := (List.dropWhile_suffix p).subset h
  exact (List.dropWhile_suffix p).subset (List.mem_reverse.1 hstart)

theorem mem_dropWhile_of_not (hc : ¬ p c) (h : c ∈ cs) : c ∈ cs.dropWhile p := by
  rw [← List.takeWhile_append_dropWhile (p := p) (l := cs), List.mem_append] at h
  exact h.resolve_left fun hfront => hc (List.mem_takeWhile_imp hfront)

/-- No character outside the class is lost. -/
theorem mem_trimChars_iff (hc : ¬ p c) : c ∈ trimChars p cs ↔ c ∈ cs := by
  refine ⟨mem_of_mem_trimChars, fun h => ?_⟩
  rw [trimChars, List.mem_reverse]
  exact mem_dropWhile_of_not hc (List.mem_reverse.2 (mem_dropWhile_of_not hc h))

theorem mem_of_mem_trimBy {s : String} (h : c ∈ (trimBy p s).toList) : c ∈ s.toList := by
  rw [trimBy, String.toList_ofList] at h
  exact mem_of_mem_trimChars h

theorem mem_of_mem_trim {s : String} (h : c ∈ (trim s).toList) : c ∈ s.toList :=
  mem_of_mem_trimBy h

theorem mem_trim_iff {s : String} (hc : ¬ isBlank c) : c ∈ (trim s).toList ↔ c ∈ s.toList := by
  rw [trim, trimBy, String.toList_ofList]
  exact mem_trimChars_iff hc

/-- Blanks around a text make no difference to what it is trimmed to. -/
theorem trim_pad {before after : String} (hbefore : allBlank before) (hafter : allBlank after)
    (s : String) : trim (before ++ s ++ after) = trim s := by
  rw [trim, trim, trimBy, trimBy, String.toList_append, String.toList_append,
    trimChars_surround (List.all_eq_true.1 hbefore) (List.all_eq_true.1 hafter)]

end Groundwork.Text
