import Groundwork.Proofs.Text.Occurrence

/-!
# Elements between tags

A text is read for its elements by looking for the first opening tag and then for the first closing
one, and again in what follows. Where no part of a text has a tag by chance, these are the elements
that were put there.
-/

namespace Groundwork.Text

variable {anchor l r cs inner rest : List Char} {tag : String}

/-- The text before the first occurrence of `anchor`, and the text after it. -/
def cutAround? (anchor cs : List Char) : Option (List Char × List Char) :=
  (cutFirst? anchor cs).map fun (before, after) => (before, after.drop anchor.length)

theorem cutAround?_append (hne : anchor ≠ []) (hl : ¬ anchor <:+: l) (hblunt : Blunt anchor l)
    (r : List Char) : cutAround? anchor (l ++ (anchor ++ r)) = some (l, r) := by
  rw [cutAround?, cutFirst?_append hne hl (hblunt.uncut _)]
  simp

theorem length_of_cutAround? (h : cutAround? anchor cs = some (l, r)) :
    l.length + r.length ≤ cs.length := by
  obtain ⟨⟨before, after⟩, hcut, he⟩ := Option.map_eq_some_iff.1 h
  cases he
  rw [← append_of_cutFirst? hcut, List.length_append, List.length_drop]
  omega

def openTag (tag : String) : List Char :=
  ("<" ++ tag ++ ">").toList

def closeTag (tag : String) : List Char :=
  ("</" ++ tag ++ ">").toList

theorem openTag_eq (tag : String) : openTag tag = '<' :: (tag.toList ++ ['>']) := by
  simp [openTag]

/-- What is in the first element, and what follows it. -/
def firstElement? (tag : String) (cs : List Char) : Option (List Char × List Char) :=
  (cutFirst? (openTag tag) cs).bind fun (_, after) =>
    cutAround? (closeTag tag) (after.drop (openTag tag).length)

theorem length_of_firstElement? (h : firstElement? tag cs = some (inner, rest)) :
    rest.length < cs.length := by
  obtain ⟨⟨before, after⟩, hcut, hclose⟩ := Option.bind_eq_some_iff.1 h
  have hopen := (prefix_of_cutFirst? hcut).length_le
  have hlength := congrArg List.length (append_of_cutFirst? hcut)
  have hle := length_of_cutAround? hclose
  rw [openTag_eq, List.length_cons] at hopen
  rw [List.length_append] at hlength
  rw [List.length_drop, openTag_eq, List.length_cons] at hle
  omega

/-- What is in the elements of a text, one after the other. -/
def elements (tag : String) (cs : List Char) : List (List Char) :=
  match _h : firstElement? tag cs with
  | none => []
  | some (inner, rest) => inner :: elements tag rest
termination_by cs.length
decreasing_by exact length_of_firstElement? _h

theorem elements_of_some (h : firstElement? tag cs = some (inner, rest)) :
    elements tag cs = inner :: elements tag rest := by
  rw [elements]
  split
  · rename_i hnone
    rw [hnone] at h
    cases h
  · rename_i inner' rest' hsome
    rw [hsome] at h
    cases h
    rfl

theorem elements_of_none (h : firstElement? tag cs = none) : elements tag cs = [] := by
  rw [elements]
  split
  · rfl
  · rename_i inner' rest' hsome
    rw [hsome] at h
    cases h

/-- The text in the first element, if it is closed. -/
def inner? (tag : String) (cs : List Char) : Option String :=
  (firstElement? tag cs).map fun (inner, _) => .ofList inner

/-- A text that a tag is not in, and does not begin in. -/
structure Untagged (tag l : List Char) : Prop where
  absent : ¬ tag <:+: l
  blunt : Blunt tag l

/-- What is in front of the first occurrence is passed over. -/
theorem cutFirst?_skip (hl : ¬ anchor <:+: l) (huncut : Uncut anchor l cs) :
    cutFirst? anchor (l ++ cs)
      = (cutFirst? anchor cs).map fun (before, after) => (l ++ before, after) := by
  induction l with
  | nil =>
    rw [List.nil_append]
    cases cutFirst? anchor cs <;> rfl
  | cons c l ih =>
    have hstart : ¬ anchor <+: c :: (l ++ cs) := by
      rintro ⟨t, ht⟩
      have hin : [] ++ anchor ++ t = (c :: l) ++ cs := ht
      rcases occurrence_cases huncut hin with ⟨rest, hrest⟩ | ⟨front, hfront, -⟩
      · exact hl ⟨[], rest, hrest.symm⟩
      · cases hfront
    rw [List.infix_cons_iff, not_or] at hl
    have hnext : Uncut anchor l cs := fun a b hab ha hb hal =>
      huncut a b hab ha hb (hal.trans (List.suffix_cons c l))
    rw [List.cons_append, cutFirst?, if_neg (by simpa using hstart), ih hl.2 hnext, Option.map_map]
    rfl

theorem firstElement?_skip (hfront : Untagged (openTag tag) l) (cs : List Char) :
    firstElement? tag (l ++ cs) = firstElement? tag cs := by
  rw [firstElement?, firstElement?, cutFirst?_skip hfront.absent (hfront.blunt.uncut cs)]
  cases cutFirst? (openTag tag) cs <;> rfl

theorem firstElement?_append (hfront : Untagged (openTag tag) l)
    (hinner : Untagged (closeTag tag) inner) (rest : List Char) :
    firstElement? tag (l ++ (openTag tag ++ (inner ++ (closeTag tag ++ rest))))
      = some (inner, rest) := by
  have hopen : openTag tag ≠ [] := by
    rw [openTag_eq]
    exact List.cons_ne_nil _ _
  have hclose : closeTag tag ≠ [] := by
    simp [closeTag]
  rw [firstElement?, cutFirst?_append hopen hfront.absent (hfront.blunt.uncut _)]
  simp only [Option.bind_some, List.drop_left]
  exact cutAround?_append hclose hinner.absent hinner.blunt rest

/-- An element with the text in front of it. -/
structure Element where
  gap : List Char
  inner : List Char

namespace Element

def texts (tag : String) (e : Element) : List (List Char) :=
  [e.gap, openTag tag, e.inner, closeTag tag]

/-- Both parts of the element are without its tags. -/
structure Plain (tag : String) (e : Element) : Prop where
  gap : Untagged (openTag tag) e.gap
  inner : Untagged (closeTag tag) e.inner

end Element

/-- The elements are found again. -/
theorem elements_flatten {es : List Element} (h : ∀ e ∈ es, e.Plain tag)
    (hrest : ¬ openTag tag <:+: rest) :
    elements tag ((es.flatMap (Element.texts tag)).flatten ++ rest) = es.map Element.inner := by
  induction es with
  | nil =>
    refine elements_of_none ?_
    have hnone : cutFirst? (openTag tag) rest = none := by
      rw [← Option.not_isSome_iff_eq_none, cutFirst?_isSome]
      exact hrest
    rw [List.flatMap_nil, List.flatten_nil, List.nil_append, firstElement?, hnone]
    rfl
  | cons e es ih =>
    have hplain := h e List.mem_cons_self
    have hsplit : ((e :: es).flatMap (Element.texts tag)).flatten ++ rest
        = e.gap ++ (openTag tag ++ (e.inner ++ (closeTag tag
          ++ ((es.flatMap (Element.texts tag)).flatten ++ rest)))) := by
      simp [Element.texts]
    rw [hsplit, elements_of_some (firstElement?_append hplain.gap hplain.inner _),
      ih fun e' he' => h e' (List.mem_cons_of_mem e he')]
    rfl

end Groundwork.Text
