import Groundwork.Proofs.Path
import Groundwork.Proofs.Text.Occurrence
import Mathlib.Data.List.Basic

/-!
# The imports of a text

The imports of a text are its lines that begin with the word. Whole lines that are put in between
whole lines bring their own imports and touch no others. Joined texts are cut into the pieces of
each of them, so what passes over an empty piece sees no difference between several texts and all of
them in one.
-/

namespace Groundwork.Text

variable {sep c : Char} {cs l m r line before after : List Char}

/-- The lines that begin with the word. -/
def importLines (cs : List Char) : List (List Char) :=
  (pieceChars '\n' cs).filter ("import ".toList.isPrefixOf ·)

def imports (s : String) : List String :=
  (importLines s.toList).map .ofList

/-- The parts before a separator and those after it. -/
theorem pieceChars_append_cons (cs rest : List Char) :
    pieceChars sep (cs ++ sep :: rest) = pieceChars sep cs ++ pieceChars sep rest := by
  induction cs with
  | nil => exact pieceChars_append_sep List.not_mem_nil rest
  | cons c cs ih =>
    by_cases hc : c = sep
    · subst hc
      have h (more : List Char) : pieceChars c (c :: more) = [] :: pieceChars c more :=
        pieceChars_append_sep (List.not_mem_nil (a := c)) more
      rw [List.cons_append, h, ih, h]
      rfl
    · rw [List.cons_append, pieceChars, pieceChars, ih]
      cases hp : pieceChars sep cs with
      | nil => exact absurd hp (pieceChars_ne_nil sep cs)
      | cons part parts => simp [hc]

/-- Nothing, or lines that are all ended. -/
def Whole (cs : List Char) : Prop :=
  cs = [] ∨ ∃ l, cs = l ++ ['\n']

theorem Whole.append (hl : Whole l) (hm : Whole m) : Whole (l ++ m) := by
  rcases hm with rfl | ⟨m', rfl⟩
  · rwa [List.append_nil]
  · exact .inr ⟨l ++ m', by simp⟩

theorem importLines_append (h : Whole l) (r : List Char) :
    importLines (l ++ r) = importLines l ++ importLines r := by
  have hnil : importLines [] = [] := by decide
  rcases h with rfl | ⟨l', rfl⟩
  · rw [hnil]
    rfl
  · have hcut (more : List Char) :
        importLines (l' ++ '\n' :: more) = importLines l' ++ importLines more := by
      rw [importLines, pieceChars_append_cons, List.filter_append]
      rfl
    rw [List.append_assoc, List.singleton_append, hcut, hcut [], hnil, List.append_nil]

/-- One line of a text. -/
theorem importLines_line (h : '\n' ∉ line) :
    importLines (line ++ ['\n'])
      = if "import ".toList.isPrefixOf line then [line] else [] := by
  have hnil : pieceChars '\n' [] = [[]] := rfl
  rw [importLines, pieceChars_append_sep h, hnil, List.filter_cons]
  have hempty : [[]].filter ("import ".toList.isPrefixOf ·) = [] := by decide
  rw [hempty]

theorem Whole.right (h : Whole (l ++ r)) : Whole r := by
  rcases List.eq_nil_or_concat r with rfl | ⟨front, c, rfl⟩
  · exact .inl rfl
  · rcases h with h | ⟨l', h⟩
    · simp at h
    · rw [List.concat_eq_append, ← List.append_assoc] at h
      obtain ⟨-, hc⟩ := List.append_inj' h rfl
      rw [List.concat_eq_append, hc]
      exact .inr ⟨front, rfl⟩

theorem Whole.flatten {parts : List (List Char)} (h : ∀ part ∈ parts, Whole part) :
    Whole parts.flatten := by
  induction parts with
  | nil => exact .inl rfl
  | cons part rest ih =>
    exact (h part List.mem_cons_self).append (ih fun p hp => h p (List.mem_cons_of_mem part hp))

theorem mem_importLines_flatten {parts : List (List Char)} (h : ∀ part ∈ parts, Whole part)
    (hline : line ∈ importLines parts.flatten) : ∃ part ∈ parts, line ∈ importLines part := by
  induction parts with
  | nil => cases hline
  | cons part rest ih =>
    rw [List.flatten_cons, importLines_append (h part List.mem_cons_self), List.mem_append] at hline
    rcases hline with hline | hline
    · exact ⟨part, List.mem_cons_self, hline⟩
    · obtain ⟨p, hp, hline⟩ := ih (fun p hp => h p (List.mem_cons_of_mem part hp)) hline
      exact ⟨p, List.mem_cons_of_mem part hp, hline⟩

/-- What comes before the imports of a source. -/
def packageLines (package : String) : String :=
  "package " ++ package ++ ";\n\n"

theorem packageLines_toList (package : String) :
    (packageLines package).toList
      = ("package " ++ package ++ ";").toList ++ ['\n'] ++ ['\n'] := by
  have hend : ";\n\n" = ";" ++ "\n" ++ "\n" := rfl
  have hline : "\n".toList = ['\n'] := rfl
  unfold packageLines
  rw [hend, ← String.append_assoc, ← String.append_assoc, String.toList_append,
    String.toList_append, hline]

theorem whole_packageLines (package : String) : Whole (packageLines package).toList :=
  .inr ⟨_, packageLines_toList package⟩

theorem importLines_packageLines {package : String} (h : '\n' ∉ package.toList) :
    importLines (packageLines package).toList = [] := by
  have hline : '\n' ∉ ("package " ++ package ++ ";").toList := by
    simp only [String.toList_append, List.mem_append, not_or]
    exact ⟨⟨by decide, h⟩, by decide⟩
  have hword : "import ".toList.isPrefixOf ("package " ++ package ++ ";").toList = false := by
    have himport : "import ".toList = 'i' :: "mport ".toList := rfl
    have hpackage : "package ".toList = 'p' :: "ackage ".toList := rfl
    rw [String.toList_append, String.toList_append, himport, hpackage, List.cons_append,
      List.cons_append, List.isPrefixOf]
    rfl
  have hempty : importLines ['\n'] = [] := by decide
  rw [packageLines_toList, importLines_append (.inr ⟨_, rfl⟩), importLines_line hline, hword,
    hempty]
  rfl

theorem mem_imports {s text : String} : s ∈ imports text ↔ s.toList ∈ importLines text.toList := by
  constructor
  · intro h
    obtain ⟨cs, hcs, rfl⟩ := List.mem_map.1 h
    rwa [String.toList_ofList]
  · intro h
    exact List.mem_map.2 ⟨_, h, String.ofList_toList⟩

section

variable {α : Type} {mark : Char} {sep : String}

/-- The pieces in front of a mark, and those behind it. -/
theorem pieces_append (hsep : sep.toList = [mark]) (s t : String) :
    pieces mark (s ++ sep ++ t) = pieces mark s ++ pieces mark t := by
  rw [pieces, String.toList_append, String.toList_append, hsep, List.append_assoc,
    List.singleton_append, pieceChars_append_cons, List.map_append]
  rfl

/-- What is nothing for an empty piece is the same for texts and for the text that joins them. Only
where there is no text at all does joining bring a piece of its own. -/
theorem flatMap_pieces_intercalate (hsep : sep.toList = [mark]) {f : String → List α}
    (hempty : f "" = []) (texts : List String) :
    (pieces mark (sep.intercalate texts)).flatMap f = (texts.flatMap (pieces mark)).flatMap f := by
  induction texts with
  | nil =>
    rw [String.intercalate_nil, pieces_of_not_mem List.not_mem_nil, List.flatMap_singleton, hempty]
    rfl
  | cons text rest ih =>
    cases rest with
    | nil => rw [String.intercalate_singleton, List.flatMap_singleton]
    | cons next later =>
      have hrest : (text :: next :: later).flatMap (pieces mark)
          = pieces mark text ++ (next :: later).flatMap (pieces mark) := List.flatMap_cons
      rw [String.intercalate_cons_cons, pieces_append hsep, List.flatMap_append, ih, hrest,
        List.flatMap_append]

/-- Texts without marks are found again in the texts that join them in groups. -/
theorem flatMap_pieces_groups (hsep : sep.toList = [mark]) {f : String → List α}
    (hempty : f "" = []) {groups : List (List String)}
    (h : ∀ piece ∈ groups.flatten, mark ∉ piece.toList) :
    ((groups.map sep.intercalate).flatMap (pieces mark)).flatMap f = groups.flatten.flatMap f := by
  induction groups with
  | nil => rfl
  | cons group rest ih =>
    rw [List.flatten_cons, List.forall_mem_append] at h
    have hgroup : group.flatMap (pieces mark) = group := by
      rw [List.flatMap_congr fun piece hpiece => pieces_of_not_mem (h.1 piece hpiece),
        List.flatMap_singleton']
    rw [List.map_cons, List.flatMap_cons, List.flatMap_append, flatMap_pieces_intercalate hsep hempty,
      hgroup, ih h.2, List.flatten_cons, List.flatMap_append]

end

end Groundwork.Text
