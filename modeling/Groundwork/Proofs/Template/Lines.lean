import Groundwork.Proofs.Template.Settle

/-!
# Reading the lines of a settled template

A line of a shape that begins with text of its own tells by it how every text of that line begins.
So lines that are picked by their beginnings can be picked in the shape, before any value is known.
-/

namespace Groundwork.Template.Shape

open Text

variable {b : Bindings} {shape : Shape} {ls : List Shape} {w : List Char}

/-- Whether a line begins with a word, where the first piece of the line tells. -/
def begins? (w : List Char) : Shape → Option Bool
  | [] => some (w = [])
  | .named _ :: _ => none
  | .own cs :: _ => if w <+: cs then some true else if cs <+: w then none else some false

theorem begins_chars {v : Bool} (h : begins? w shape = some v) :
    w <+: chars b shape ↔ v = true := by
  unfold begins? at h
  split at h
  · cases h
    simp
  · cases h
  · rename_i cs rest
    rw [chars_own]
    split at h
    · rename_i hin
      cases h
      exact iff_of_true (hin.trans (List.prefix_append _ _)) rfl
    · rename_i hout
      split at h
      · cases h
      · rename_i hlonger
        cases h
        refine iff_of_false (fun hin => ?_) Bool.false_ne_true
        rcases List.prefix_or_prefix_of_prefix hin (List.prefix_append cs _) with hw | hcs
        · exact hout hw
        · exact hlonger hcs

theorem isPrefixOf_line (h : (begins? w shape).isSome) :
    w.isPrefixOf (line b shape).toList = decide (begins? w shape = some true) := by
  obtain ⟨v, hv⟩ := Option.isSome_iff_exists.1 h
  rw [line, String.toList_ofList, hv, Bool.eq_iff_iff, List.isPrefixOf_iff_prefix, begins_chars hv,
    decide_eq_true_eq, Option.some_inj]

/-- The lines that begin with a word are picked in the shape. -/
theorem filter_begins (h : ∀ line ∈ ls, (begins? w line).isSome) :
    (ls.map (line b)).filter (w.isPrefixOf ·.toList)
      = (ls.filter (begins? w · = some true)).map (line b) := by
  rw [List.filter_map]
  refine congrArg (List.map (line b)) (List.filter_congr fun l hl => ?_)
  exact isPrefixOf_line (h l hl)

/-- Where only lines are read that begin with a word, they are picked in the shape. -/
theorem filterMap_begins {α : Type} {f : String → Option α}
    (hf : ∀ line, (f line).isSome → w <+: line.toList)
    (h : ∀ line ∈ ls, (begins? w line).isSome) :
    (ls.map (line b)).filterMap f
      = ((ls.filter (begins? w · = some true)).map (line b)).filterMap f := by
  have hread : f = fun line => if w.isPrefixOf line.toList then f line else none := by
    funext line
    split
    · rfl
    · rename_i hno
      rw [← Option.not_isSome_iff_eq_none]
      exact fun hsome => hno (List.isPrefixOf_iff_prefix.2 (hf line hsome))
  rw [← filter_begins h, List.filterMap_filter, ← hread]

theorem map_line_concat (b : Bindings) (ls : List Shape) :
    (ls ++ [[]]).map (line b) = ls.map (line b) ++ [""] := by
  simp

/-- The lines of a text are those of the shape, if no value ends a line. -/
theorem pieces_chars {x : String} (hx : x.toList = chars b shape)
    (hended : shape.lines.getLast? = some []) (h : ∀ l ∈ shape.lines, '\n' ∉ chars b l) :
    pieces '\n' x = shape.lines.map (line b) := by
  have htext : (fun l => (line b l).toList) = chars b := funext fun l => String.toList_ofList
  have hlines : shape.lines = shape.lines.dropLast ++ [[]] :=
    (List.dropLast_append_getLast? _ hended).symm
  have hchars : x.toList = linesText (shape.lines.dropLast.map (line b)) := by
    rw [hx, chars_of_lines hlines, linesText, List.map_map]
    exact congrArg (fun f => unlines (shape.lines.dropLast.map f)) htext.symm
  have hclosed : ∀ l ∈ shape.lines.dropLast.map (line b), '\n' ∉ l.toList := by
    intro l hl
    obtain ⟨l', hl', rfl⟩ := List.mem_map.1 hl
    rw [line, String.toList_ofList]
    exact h l' (List.mem_of_mem_dropLast hl')
  rw [pieces_linesText hchars hclosed, hlines, List.map_append, List.dropLast_concat]
  rfl

end Groundwork.Template.Shape
