import Groundwork.Tree.Access

/-!
# How paths end

The last name of a path is the last name of the place it leads to, unless it leads upwards. Paths
whose last names end differently therefore lead to different places.
-/

namespace Groundwork

namespace Text

/-- A text cut at a character that its ending does not have: the last piece has the ending. -/
theorem pieceChars_append {sep : Char} {ending : List Char} (h : sep ∉ ending) (cs : List Char) :
    ∃ init last, pieceChars sep (cs ++ ending) = init ++ [last ++ ending] := by
  induction cs with
  | nil =>
    refine ⟨[], [], ?_⟩
    induction ending with
    | nil => rfl
    | cons c rest ih =>
      rw [List.mem_cons, not_or] at h
      have hrest := ih h.2
      simp only [List.nil_append] at hrest ⊢
      rw [pieceChars, hrest]
      simp [Ne.symm h.1]
  | cons c rest ih =>
    obtain ⟨init, last, ih⟩ := ih
    rw [List.cons_append, pieceChars, ih]
    cases init with
    | nil =>
      by_cases hc : c = sep
      · exact ⟨[[]], last, by simp [hc]⟩
      · exact ⟨[], c :: last, by simp [hc]⟩
    | cons part parts =>
      by_cases hc : c = sep
      · exact ⟨[] :: part :: parts, last, by simp [hc]⟩
      · exact ⟨(c :: part) :: parts, last, by simp [hc]⟩

theorem endsWith_iff {s ending : String} : endsWith s ending ↔ ending.toList <:+ s.toList :=
  List.isSuffixOf_iff_suffix

/-- The last piece of a text has the ending of the text. -/
theorem pieces_ending {sep : Char} {s ending : String} (h : endsWith s ending)
    (hsep : sep ∉ ending.toList) :
    ∃ init last, pieces sep s = init ++ [last] ∧ endsWith last ending := by
  obtain ⟨cs, hs⟩ := endsWith_iff.1 h
  obtain ⟨init, last, hp⟩ := pieceChars_append hsep cs
  refine ⟨init.map .ofList, .ofList (last ++ ending.toList), ?_, ?_⟩
  · rw [pieces, ← hs, hp, List.map_append, List.map_singleton]
  · rw [endsWith_iff, String.toList_ofList]
    exact List.suffix_append last ending.toList

theorem endsWith_append {s ending : String} (h : endsWith s ending) (before : String) :
    endsWith (before ++ s) ending := by
  rw [endsWith_iff] at h ⊢
  rw [String.toList_append]
  exact h.trans (List.suffix_append _ _)

theorem endsWith_intercalate {s ending sep : String} (h : endsWith s ending)
    (init : List String) : endsWith (sep.intercalate (init ++ [s])) ending := by
  cases init with
  | nil => exact h
  | cons first rest =>
    rw [String.intercalate_append_of_ne_nil (by simp) (by simp), String.intercalate_singleton]
    exact endsWith_append h _

/-- An ending that neither spans names nor belongs to one of the special names. -/
def Telling (ending : String) : Prop :=
  '/' ∉ ending.toList ∧ ¬ endsWith ".." ending

instance (ending : String) : Decidable (Telling ending) :=
  inferInstanceAs (Decidable (_ ∧ _))

theorem Telling.ne_special {s ending : String} (h : Telling ending) (hs : endsWith s ending) :
    s ≠ "" ∧ s ≠ "." ∧ s ≠ ".." := by
  rw [endsWith_iff] at hs
  have hup : ¬ ending.toList <:+ "..".toList := fun he => h.2 (endsWith_iff.2 he)
  refine ⟨?_, ?_, ?_⟩
  · rintro rfl
    exact hup (hs.trans List.nil_suffix)
  · rintro rfl
    exact hup (hs.trans (List.suffix_cons '.' ['.']))
  · rintro rfl
    exact hup hs

/-- No text ends in both ways. -/
def Unlike (ending ending' : String) : Prop :=
  ¬ endsWith ending ending' ∧ ¬ endsWith ending' ending

instance (ending ending' : String) : Decidable (Unlike ending ending') :=
  inferInstanceAs (Decidable (_ ∧ _))

theorem Unlike.not_both {s ending ending' : String} (h : Unlike ending ending')
    (hs : endsWith s ending) : ¬ endsWith s ending' := by
  intro hs'
  obtain ⟨hl, hr⟩ := h
  rw [endsWith_iff] at hl hr hs hs'
  rcases List.suffix_or_suffix_of_suffix hs hs' with h | h
  · exact hr h
  · exact hl h

end Text

namespace Path

variable {path other : Path} {s ending ending' : String}

/-- The last name of the path has the ending. -/
def EndsIn (path : Path) (ending : String) : Prop :=
  ∃ part, path.parts.getLast? = some part ∧ Text.endsWith part ending

theorem endsIn_ofText (h : Text.endsWith s ending) (ht : Text.Telling ending) :
    (ofText s).EndsIn ending := by
  obtain ⟨init, last, hp, hend⟩ := Text.pieces_ending h ht.1
  obtain ⟨hempty, hdot, -⟩ := ht.ne_special hend
  refine ⟨last, ?_, hend⟩
  show ((Text.pieces '/' s).filter fun part => part ≠ "" && part ≠ ".").getLast? = _
  rw [hp, List.filter_append, List.filter_cons_of_pos, List.filter_nil, List.getLast?_concat]
  exact Bool.and_eq_true_iff.2 ⟨decide_eq_true hempty, decide_eq_true hdot⟩

theorem endsIn_child (h : Text.endsWith s ending) (ht : Text.Telling ending) (path : Path) :
    (path.child s).EndsIn ending := by
  obtain ⟨part, hp, hend⟩ := endsIn_ofText h ht
  refine ⟨part, ?_, hend⟩
  unfold child join
  split
  · show (path.parts ++ (ofText s).parts).getLast? = _
    rw [List.getLast?_append, hp]
    rfl
  · exact hp

theorem endsIn_child_self (ht : Text.Telling s) (path : Path) : (path.child s).EndsIn s :=
  endsIn_child (Text.endsWith_iff.2 (List.suffix_refl s.toList)) ht path

/-- Paths that end differently differ. -/
theorem ne_of_unlike (hp : path.EndsIn ending) (hq : other.EndsIn ending')
    (hu : Text.Unlike ending ending') : path ≠ other := by
  rintro rfl
  obtain ⟨part, hl, hend⟩ := hp
  obtain ⟨part', hl', hend'⟩ := hq
  obtain rfl := Option.some.inj (hl.symm.trans hl')
  exact hu.not_both hend hend'

end Path

namespace Tree

variable {t : Tree} {path other : Path} {place : Location} {part ending ending' : String}

theorem getLast?_of_locate (h : t.locate path = .ok place) (hl : path.parts.getLast? = some part)
    (hup : part ≠ "..") : place.getLast? = some part := by
  obtain ⟨init, hinit⟩ := List.getLast?_eq_some_iff.1 hl
  unfold locate at h
  split at h
  · cases h
  · split at h
    · cases h
    · rw [hinit, List.foldlM_append] at h
      cases hd : init.foldlM t.step (if path.anchor = .relative then t.home else []) with
      | error f => rw [hd] at h; cases h
      | ok dir =>
        rw [hd] at h
        change ([part].foldlM t.step dir) = .ok place at h
        rw [List.foldlM_cons] at h
        cases hs : t.step dir part with
        | error f => rw [hs] at h; cases h
        | ok q =>
          rw [hs] at h
          cases h
          unfold step at hs
          split at hs
          · cases hs
          · cases hs
          · rw [if_neg hup] at hs
            split at hs
            · cases hs
            · cases hs
              exact List.getLast?_concat

/-- Paths that end differently lead to different places. -/
theorem locate_ne_of_unlike (hp : path.EndsIn ending) (hq : other.EndsIn ending')
    (hu : Text.Unlike ending ending') (ht : Text.Telling ending)
    (ht' : Text.Telling ending') (h : t.locate path = .ok place) :
    t.locate other ≠ .ok place := by
  intro h'
  obtain ⟨part, hl, hend⟩ := hp
  obtain ⟨part', hl', hend'⟩ := hq
  have hsame := getLast?_of_locate h hl (ht.ne_special hend).2.2
  rw [getLast?_of_locate h' hl' (ht'.ne_special hend').2.2] at hsame
  cases hsame
  exact hu.not_both hend hend'

end Tree

end Groundwork
