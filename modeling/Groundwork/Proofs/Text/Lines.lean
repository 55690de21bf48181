import Groundwork.Proofs.Text.Imports
import Groundwork.Proofs.Text.Position
import Mathlib.Data.List.Infix

/-!
# Texts of whole lines

A text all of whose lines are ended is the same as the list of its lines, and any text is that of
its ended lines with what comes behind the last line end. Where a word first occurs the text is cut
in a line, and no line before that one has the word.
-/

namespace Groundwork.Text

variable {sep : Char} {cs l r u w first last line : List Char} {ls rest before : List (List Char)}
  {x y : String}

/-- The text of some lines, each of them ended. -/
def unlines (ls : List (List Char)) : List Char :=
  ls.flatMap (· ++ ['\n'])

theorem unlines_cons (line : List Char) (ls : List (List Char)) :
    unlines (line :: ls) = line ++ ['\n'] ++ unlines ls := by
  rw [unlines, List.flatMap_cons]
  rfl

theorem unlines_append (ls ls' : List (List Char)) :
    unlines (ls ++ ls') = unlines ls ++ unlines ls' :=
  List.flatMap_append

theorem whole_unlines (ls : List (List Char)) : Whole (unlines ls) := by
  induction ls with
  | nil => exact .inl rfl
  | cons line ls ih =>
    rw [unlines_cons]
    exact Whole.append (.inr ⟨line, rfl⟩) ih

/-- Ended lines are found again in front of any text. -/
theorem pieceChars_unlines_append (h : ∀ line ∈ ls, '\n' ∉ line) (r : List Char) :
    pieceChars '\n' (unlines ls ++ r) = ls ++ pieceChars '\n' r := by
  induction ls with
  | nil => rfl
  | cons line ls ih =>
    have hline : '\n' ∉ line := h line List.mem_cons_self
    rw [unlines_cons, List.append_assoc, List.append_assoc, List.singleton_append,
      pieceChars_append_sep hline, ih fun l hl => h l (List.mem_cons_of_mem line hl)]
    rfl

/-- Lines are found again, and after the last of them there is nothing. -/
theorem pieceChars_unlines {ls : List (List Char)} (h : ∀ line ∈ ls, '\n' ∉ line) :
    pieceChars '\n' (unlines ls) = ls ++ [[]] := by
  rw [← List.append_nil (unlines ls), pieceChars_unlines_append h]
  rfl

/-- A text is its ended lines with what comes behind them. -/
theorem eq_unlines_append (h : pieceChars '\n' cs = ls ++ [last]) : cs = unlines ls ++ last := by
  rw [← intercalate_pieceChars '\n' cs, h]
  clear h
  induction ls with
  | nil => simp [unlines]
  | cons line ls ih =>
    obtain ⟨next, later, hnext⟩ : ∃ next later, ls ++ [last] = next :: later :=
      List.exists_cons_of_ne_nil (by simp)
    rw [List.cons_append, hnext, List.intercalate_cons_cons, ← hnext, ih, unlines_cons]
    simp only [List.append_assoc]

/-- A word that does not go beyond a line occurs in one of the lines. -/
theorem infix_unlines {w : List Char} (hw : w ≠ []) (hend : '\n' ∉ w) {ls : List (List Char)} :
    w <:+: unlines ls ↔ ∃ line ∈ ls, w <:+: line := by
  induction ls with
  | nil =>
    constructor
    · intro h
      exact absurd (List.infix_nil.1 h) hw
    · rintro ⟨line, hline, -⟩
      cases hline
  | cons line ls ih =>
    have hclear : Clear w ['\n'] := (foreign_of_not_mem hend []).clear
    have hnone : ¬ w <:+: ['\n'] := by
      rw [List.infix_singleton_iff]
      rintro (rfl | rfl)
      · exact hw rfl
      · exact hend List.mem_cons_self
    rw [unlines_cons, infix_append_iff (uncut_of_not_mem hend line _),
      infix_append_iff (hclear.uncut List.prefix_rfl line), ih]
    simp only [hnone, or_false, List.mem_cons, exists_eq_or_imp]

/-- The text of some lines, each of them ended. -/
def linesText (ls : List String) : List Char :=
  unlines (ls.map String.toList)

@[simp] theorem linesText_nil : linesText [] = [] := rfl

@[simp] theorem linesText_cons (line : String) (ls : List String) :
    linesText (line :: ls) = line.toList ++ '\n' :: linesText ls := by
  simp [linesText, unlines]

theorem linesText_append (ls ls' : List String) :
    linesText (ls ++ ls') = linesText ls ++ linesText ls' := by
  rw [linesText, List.map_append, unlines_append]
  rfl

theorem linesText_flatMap {α : Type} (as : List α) (f : α → List String) :
    linesText (as.flatMap f) = as.flatMap fun a => linesText (f a) := by
  induction as with
  | nil => rfl
  | cons a rest ih => rw [List.flatMap_cons, linesText_append, ih, List.flatMap_cons]

theorem pieces_linesText {x : String} {ls : List String} (hx : x.toList = linesText ls)
    (h : ∀ line ∈ ls, '\n' ∉ line.toList) : pieces '\n' x = ls ++ [""] := by
  have hchars : ∀ line ∈ ls.map String.toList, '\n' ∉ line := by
    intro line hline
    obtain ⟨line', hline', rfl⟩ := List.mem_map.1 hline
    exact h line' hline'
  rw [pieces, hx, linesText, pieceChars_unlines hchars, List.map_append, List.map_map]
  have hid : String.ofList ∘ String.toList = id := funext fun _ => String.ofList_toList
  rw [hid, List.map_id]
  rfl

theorem occursIn_linesText {w x : String} (hw : w ≠ "") (hend : '\n' ∉ w.toList)
    {ls : List String} (hx : x.toList = linesText ls) :
    occursIn w x ↔ ∃ line ∈ ls, occursIn w line := by
  have hne : w.toList ≠ [] := by
    intro h
    exact hw (String.toList_inj.1 h)
  rw [occursIn_iff, hx, linesText, infix_unlines hne hend]
  simp [occursIn_iff]

/-- Text without a separator goes to the first piece of what follows it. -/
theorem pieceChars_append_left (hu : sep ∉ u) (h : pieceChars sep r = first :: rest) :
    pieceChars sep (u ++ r) = (u ++ first) :: rest := by
  induction u with
  | nil => exact h
  | cons c u ih =>
    rw [List.mem_cons, not_or] at hu
    rw [List.cons_append, pieceChars, ih hu.2]
    simp [Ne.symm hu.1]

theorem prefix_of_pieceChars (h : pieceChars sep cs = first :: rest) : first <+: cs := by
  rw [← intercalate_pieceChars sep cs, h]
  cases rest with
  | nil => simp
  | cons next later =>
    rw [List.intercalate_cons_cons, List.append_assoc]
    exact List.prefix_append _ _

/-- A word without separators that begins a text begins its first piece. -/
theorem prefix_first_of_prefix (hw : sep ∉ w) (hr : pieceChars sep r = first :: rest)
    (h : w <+: r) : w <+: first := by
  obtain ⟨t, rfl⟩ := h
  obtain ⟨head, more, ht⟩ := List.exists_cons_of_ne_nil (pieceChars_ne_nil sep t)
  rw [pieceChars_append_left hw ht] at hr
  obtain ⟨rfl, -⟩ := List.cons_eq_cons.1 hr
  exact List.prefix_append w head

/-- Every line of a text occurs in it. -/
theorem infix_of_mem_pieceChars (h : line ∈ pieceChars '\n' cs) : line <:+: cs := by
  obtain ⟨ls, last, hcut⟩ := (List.eq_nil_or_concat' _).resolve_left (pieceChars_ne_nil '\n' cs)
  have hcs := eq_unlines_append hcut
  rw [hcut, List.mem_append, List.mem_singleton] at h
  rcases h with h | rfl
  · have hin : line <:+: unlines ls := by
      obtain ⟨front, back, rfl⟩ := List.append_of_mem h
      refine ⟨unlines front, '\n' :: unlines back, ?_⟩
      simp [unlines_append, unlines_cons]
    rw [hcs]
    exact hin.trans (List.prefix_append _ _).isInfix
  · rw [hcs]
    exact (List.suffix_append _ _).isInfix

/-- A text cut where a word first occurs, told by its lines: those before the word, and the line
with the word in its two parts. -/
structure CutLine (w l r : List Char) (before : List (List Char)) (u first : List Char)
    (rest : List (List Char)) : Prop where
  left : l = unlines before ++ u
  right : pieceChars '\n' r = first :: rest
  ended : ∀ line ∈ before, '\n' ∉ line
  within : '\n' ∉ u
  word : w <+: first
  none_before : ∀ line ∈ before, ¬ w <:+: line
  /-- The word begins the line only where it was found. -/
  begins : w <+: u ++ first → u = []

theorem exists_cutLine (hw : w ≠ []) (hend : '\n' ∉ w) (h : cutFirst? w cs = some (l, r)) :
    ∃ before u first rest, CutLine w l r before u first rest := by
  have hcs := append_of_cutFirst? h
  obtain ⟨-, hleast⟩ := firstAt_of_cutFirst? h
  obtain ⟨before, u, hl⟩ := (List.eq_nil_or_concat' _).resolve_left (pieceChars_ne_nil '\n' l)
  obtain ⟨first, rest, hr⟩ := List.exists_cons_of_ne_nil (pieceChars_ne_nil '\n' r)
  have hleft := eq_unlines_append hl
  have hmem : ∀ line ∈ before ++ [u], '\n' ∉ line := by
    intro line hline
    rw [← hl] at hline
    exact not_mem_of_mem_pieceChars hline
  refine ⟨before, u, first, rest, hleft, hr, fun line hline => hmem line (by simp [hline]),
    hmem u (by simp), ?_, ?_, ?_⟩
  · exact prefix_first_of_prefix hend hr (prefix_of_cutFirst? h)
  · intro line hline hin
    -- the word would be found earlier in this line
    obtain ⟨front, back, hsplit⟩ :=
      hin.trans (infix_of_mem_pieceChars (hl ▸ List.mem_append_left [u] hline))
    have hat : OccursAt w cs front.length := by
      refine occursAt_iff_append.2 ⟨front, w ++ (back ++ r), ?_, rfl, List.prefix_append w _⟩
      simp [← hcs, ← hsplit]
    have hle := hleast _ hat
    have hpos := List.length_pos_iff.2 hw
    rw [← hsplit] at hle
    simp only [List.length_append] at hle
    omega
  · intro hbegins
    have hat : OccursAt w cs (unlines before).length := by
      refine occursAt_iff_append.2 ⟨unlines before, u ++ r, ?_, rfl, ?_⟩
      · rw [← hcs, hleft, List.append_assoc]
      · exact hbegins.trans ((List.prefix_append_right_inj u).2 (prefix_of_pieceChars hr))
    have hle := hleast _ hat
    rw [hleft, List.length_append] at hle
    exact List.length_eq_zero_iff.1 (by omega)

theorem CutLine.pieces_eq (h : CutLine w l r before u first rest) (hx : x.toList = l ++ r) :
    pieces '\n' x = before.map .ofList ++ .ofList (u ++ first) :: rest.map .ofList := by
  rw [pieces, hx, h.left, List.append_assoc, pieceChars_unlines_append h.ended,
    pieceChars_append_left h.within h.right, List.map_append, List.map_cons]

/-- The first line of a text in which a word occurs, with those in front of it. -/
structure FirstWith (word x : String) (front : List String) (line : String) : Prop where
  stands : ∃ back, pieces '\n' x = front ++ line :: back
  none_before : ∀ l ∈ front, ¬ occursIn word l
  occurs : occursIn word line

theorem FirstWith.unique {word line line' : String} {front front' : List String}
    (h : FirstWith word x front line) (h' : FirstWith word x front' line') :
    front = front' ∧ line = line' := by
  obtain ⟨back, hlines⟩ := h.stands
  obtain ⟨back', hlines'⟩ := h'.stands
  rw [hlines] at hlines'
  rcases List.append_eq_append_iff.1 hlines' with ⟨more, hfront, hmore⟩ | ⟨more, hfront, hmore⟩
  · cases more with
    | nil => simp_all
    | cons l more =>
      obtain ⟨rfl, -⟩ := List.cons_eq_cons.1 hmore
      exact absurd h.occurs (h'.none_before line (by simp [hfront]))
  · cases more with
    | nil => simp_all
    | cons l more =>
      obtain ⟨rfl, -⟩ := List.cons_eq_cons.1 hmore
      exact absurd h'.occurs (h.none_before line' (by simp [hfront]))

theorem CutLine.firstWith {word : String} (h : CutLine word.toList l r before u first rest)
    (hx : x.toList = l ++ r) : FirstWith word x (before.map .ofList) (.ofList (u ++ first)) where
  stands := ⟨rest.map .ofList, h.pieces_eq hx⟩
  none_before line hline := by
    obtain ⟨cs, hcs, rfl⟩ := List.mem_map.1 hline
    rw [occursIn_iff, String.toList_ofList]
    exact h.none_before cs hcs
  occurs := by
    rw [occursIn_iff, String.toList_ofList]
    exact h.word.isInfix.trans (List.suffix_append u first).isInfix

/-- The word begins its line if nothing of the line comes before it. -/
theorem CutLine.prefix_iff {word : String} (h : CutLine word.toList l r before u first rest) :
    word.toList <+: (String.ofList (u ++ first)).toList ↔ u = [] := by
  rw [String.toList_ofList]
  constructor
  · exact h.begins
  · rintro rfl
    exact h.word

/-- A word that a line of a text has occurs in the text. -/
theorem occursIn_of_mem_pieces {word line : String} (hline : line ∈ pieces '\n' x)
    (hin : occursIn word line) : occursIn word x := by
  obtain ⟨cs, hcs, rfl⟩ := List.mem_map.1 hline
  rw [occursIn_iff, String.toList_ofList] at hin
  exact occursIn_iff.2 (hin.trans (infix_of_mem_pieceChars hcs))

end Groundwork.Text
